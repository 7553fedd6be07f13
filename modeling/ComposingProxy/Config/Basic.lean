import ComposingProxy.Decimal.Binary64
import ComposingProxy.Table

/-!
# Configuration

What an operator can set: where the proxy listens, the site behind it, the routing
protocol, the apps that are mounted into pages, and what the transformers put into
them. The defaults are those of a configuration that says nothing.
-/

namespace ComposingProxy

/-- Where the proxy listens. -/
structure ListenerSettings where
  bindAddress : String := "0.0.0.0:8080"
  deriving DecidableEq, Repr

/-- How long things may take. -/
structure TimeoutSettings where
  /-- Seconds that a request may take as a whole. -/
  requestSecs : Nat := 30
  deriving DecidableEq, Repr

/-- The form of log lines. -/
inductive LogFormat where
  | pretty
  | json
  deriving DecidableEq, Repr

/-- What the proxy tells about itself. -/
structure ObservabilitySettings where
  logLevel : String := "info"
  logFormat : LogFormat := .pretty
  metricsEnabled : Bool := false
  metricsAddress : String := "0.0.0.0:9090"
  deriving DecidableEq, Repr

/-- The log filter of a level: it holds for the proxy and for its HTTP layer. -/
def ObservabilitySettings.filter (level : String) : String :=
  "kdex_gateway=" ++ level ++ ",tower_http=" ++ level

/-- A page path that stands for a template of the site, and its entry in the
navigation. -/
structure TemplatePath where
  href : String
  label : String
  template : String
  weight : Binary64 := .zero
  deriving DecidableEq, Repr

/-- The site behind the proxy and the routing protocol. -/
structure SiteSettings where
  /-- The address of the site. Its path precedes every path, its query every query. -/
  address : String := "http://127.0.0.1:8000"
  /-- What separates a page from the app it addresses. -/
  pathSeparator : String := "/_/"
  /-- Whether the page of a path with a token ends in a slash. -/
  alwaysAppendSlash : Bool := false
  /-- Whether directories are completed with the index file. -/
  appendIndex : Bool := false
  index : String := "index.html"
  /-- Aliases in the order they are tried. -/
  templatePaths : List TemplatePath := []
  deriving DecidableEq, Repr

/-- A page that an app is mounted on. -/
structure AppTarget where
  path : String
  /-- The id of the element that holds the app; empty for the default. -/
  container : String := ""
  deriving DecidableEq, Repr

/-- The id of the element that holds an app unless its target names one. -/
def defaultContainer : String := "main"

/-- The id of the element to look up. -/
def AppTarget.containerId (target : AppTarget) : String :=
  if target.container = "" then defaultContainer else target.container

/-- Whether the main element of the page will do as container. -/
def AppTarget.usesDefaultContainer (target : AppTarget) : Bool :=
  target.container == "" || target.container == defaultContainer

/-- An app that is mounted into pages. -/
structure App where
  /-- The name of the app in routed paths; empty until one is assigned. -/
  appAlias : String := ""
  /-- Host and port number that serve the bundle of the app. -/
  address : String
  /-- The name of its element. -/
  element : String
  /-- The path of its bundle. -/
  path : String
  targets : List AppTarget
  deriving DecidableEq, Repr

/-- Which modules the pages import. -/
structure ImportMapSettings where
  /-- Module names and the addresses they stand for. -/
  moduleImports : Table String := .empty
  /-- The text of a module that every page runs; empty for none. -/
  moduleBody : String := ""
  deriving DecidableEq, Repr

/-- What the pages are told about sessions. -/
structure MetaSettings where
  loginPath : String := ""
  loginLabel : String := ""
  loginCssQuery : String := ""
  logoutPath : String := ""
  logoutLabel : String := ""
  logoutCssQuery : String := ""
  stateEndpoint : String := ""
  checkBatchEndpoint : String := ""
  checkSingleEndpoint : String := ""
  deriving DecidableEq, Repr

/-- How a field of a navigation item is read from its element. -/
structure FieldQuery where
  /-- A selector below the item; empty for the item itself. -/
  query : String := ""
  /-- The attribute to read; empty for the text. -/
  attrName : String := ""
  deriving DecidableEq, Repr

/-- Which items of a page are its navigation and how they are written anew. -/
structure NavigationSettings where
  /-- The selector of navigation items; empty for no navigation. -/
  query : String := ""
  fields : Table FieldQuery := .empty
  /-- The markup of an item. -/
  template : String := ""
  /-- Beginnings of paths that are shown only to those who are logged in. -/
  protectedPaths : List String := []
  deriving DecidableEq, Repr

/-- The kinds of transformers. -/
inductive TransformerKind where
  | importmap
  | apps
  | metadata
  | navigation
  deriving DecidableEq, Repr

/-- The name of a kind. -/
def TransformerKind.name : TransformerKind → String
  | .importmap => "importmap"
  | .apps => "apps"
  | .metadata => "meta"
  | .navigation => "navigation"

/-- All kinds, in the default order of the chain. -/
def TransformerKind.all : List TransformerKind := [.importmap, .apps, .metadata, .navigation]

/-- Which transformers run, and on pages of what size. -/
structure TransformSettings where
  /-- The transformers in the order they run. -/
  chain : List TransformerKind := TransformerKind.all
  /-- The most bytes of a page that is composed. -/
  maxDocumentBytes : Nat := 8 * 1024 * 1024
  deriving DecidableEq, Repr

/-- A whole configuration. -/
structure Config where
  listener : ListenerSettings := {}
  timeouts : TimeoutSettings := {}
  observability : ObservabilitySettings := {}
  site : SiteSettings := {}
  apps : List App := []
  importMap : ImportMapSettings := {}
  metadata : MetaSettings := {}
  navigation : NavigationSettings := {}
  transform : TransformSettings := {}
  deriving DecidableEq, Repr

end ComposingProxy
