import ComposingProxy.Address.Uri
import ComposingProxy.Address.WebAddress
import ComposingProxy.Config.Basic
import ComposingProxy.Routing.Path
import ComposingProxy.Routing.Template
import ComposingProxy.Routing.Token
import ComposingProxy.Text.Percent

/-!
# The site behind the proxy

Every request is answered from one site. `Site.target` says where on the site a request
goes: the page of its path, resolved by the template aliases, follows the path of the
site. This is done twice, once for the path as it reads and once for the path with its
escapes; where the two do not say the same (an escaped separator is one only in the path
as it reads), the path with escapes is made from the other one.
-/

namespace ComposingProxy

/-! ## The site -/

/-- Why an address is not that of a site. -/
inductive SiteError where
  | malformed (address : String) (cause : AddressError)
  | hostless (address : String)
  deriving DecidableEq, Repr

/-- The wording of an error. -/
def SiteError.message : SiteError → String
  | .malformed address cause =>
    "invalid upstream address \x60" ++ address ++ "\x60: " ++ cause.message
  | .hostless address => "invalid upstream address \x60" ++ address ++ "\x60: missing host"

/-- A site and how paths are routed to it. -/
structure Site where
  scheme : String
  /-- The host, and the port number if it is not the usual one. -/
  authority : String
  /-- The path that all paths follow, as it reads. -/
  path : String
  /-- The same path with its escapes. -/
  rawPath : String
  /-- The query that all queries follow. -/
  query : String
  separator : String
  appendSlash : Bool
  /-- The name that completes a directory. -/
  index : Option String
  aliases : List Routing.TemplateAlias
  deriving DecidableEq, Repr

namespace Site

/-- The aliases of template paths. -/
def aliasesOf (paths : List TemplatePath) : List Routing.TemplateAlias :=
  paths.map fun path => ⟨path.href, path.template⟩

/-- The site that the settings describe. -/
def ofSettings (settings : SiteSettings) : Except SiteError Site :=
  match WebAddress.parse settings.address with
  | .error cause => .error (.malformed settings.address cause)
  | .ok address =>
    match address.host with
    | none => .error (.hostless settings.address)
    | some host =>
      .ok
        { scheme := address.scheme
          authority :=
            match address.portNumber with
            | some number => host ++ ":" ++ Text.decimal number
            | none => host
          path := Text.Percent.decodeText address.path
          rawPath := address.path
          query := address.query.getD ""
          separator := settings.pathSeparator
          appendSlash := settings.alwaysAppendSlash
          index :=
            if settings.appendIndex && settings.index != "" then some settings.index else none
          aliases := aliasesOf settings.templatePaths }

end Site

/-! ## Targets -/

/-- Where a request goes. -/
structure Target where
  uri : Uri
  /-- The path as it reads. -/
  path : String
  /-- The path with its escapes. -/
  rawPath : String
  query : String
  routing : RoutingContext
  deriving DecidableEq, Repr

/-- The text of a target that is no URI. -/
structure TargetError where
  uri : String
  cause : UriError
  deriving DecidableEq, Repr

/-- The wording of an error. -/
def TargetError.message (error : TargetError) : String :=
  "invalid upstream uri \x60" ++ error.uri ++ "\x60: " ++ error.cause.message

namespace Site

/-- The characters of a path that are written as escapes. -/
def isEscaped (c : Char) : Bool :=
  Text.Percent.isControl c || [' ', '"', '#', '%', '<', '>', '?', '\x60', '\x7b', '\x7d'].elem c

/-- The path on the site of a path of the proxy, after the path `base` of the site. -/
def locate (site : Site) (base path : String) : String :=
  let page := (RoutingToken.cut site.separator site.appendSlash path).page
  let joined := Routing.joinPaths base ((Routing.resolveFirst? site.aliases page).getD page)
  match site.index with
  | some index => Routing.appendIndex joined index
  | none => joined

/-- The text of a URI on the site. -/
def uriText (site : Site) (rawPath query : String) : String :=
  site.scheme ++ "://" ++ site.authority ++ rawPath ++ (if query = "" then "" else "?" ++ query)

/-- The target of a request. -/
def target (site : Site) (inbound : Uri) : Except TargetError Target :=
  let readable := Text.Percent.decodeText inbound.path
  let path := site.locate site.path readable
  let kept := site.locate site.rawPath inbound.path
  let rawPath :=
    if Text.Percent.decodeText kept = path then kept else Text.Percent.encodeText isEscaped path
  let query := Routing.mergeQuery site.query (inbound.query.getD "")
  let text := site.uriText rawPath query
  match Uri.parse text with
  | .error cause => .error { uri := text, cause }
  | .ok uri =>
    .ok
      { uri, path, rawPath, query
        routing := .decode site.separator site.appendSlash readable }

end Site

end ComposingProxy
