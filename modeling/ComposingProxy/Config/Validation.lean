import ComposingProxy.Address.WebAddress
import ComposingProxy.Config.Basic
import ComposingProxy.Markup.Selector.Parser
import ComposingProxy.Page.ItemTemplate

/-!
# Checking configurations

What a configuration must satisfy beyond its form. All faults are found, in the order of
the sections, and no section hides the faults of another one.
-/

namespace ComposingProxy

/-! ## Faults -/

/-- What is wrong with the address of the site. -/
inductive AddressFault where
  | unsupportedScheme (scheme : String)
  | missingHost
  | malformed (cause : AddressError)
  deriving DecidableEq, Repr

/-- What is wrong with an app. -/
inductive AppFault where
  | noAddress
  | noElement
  | noPath
  | noTarget
  | targetWithoutPath
  deriving DecidableEq, Repr

/-- What is wrong with the navigation. -/
inductive NavigationFault where
  | query (cause : Markup.SelectorError)
  | field (name : String) (cause : Markup.SelectorError)
  | template (cause : TemplateError)
  deriving DecidableEq, Repr

/-- What is wrong with a configuration. -/
inductive ConfigFault where
  | siteAddress (address : String) (fault : AddressFault)
  | pathSeparator (separator : String)
  | app (index : Nat) (fault : AppFault)
  | repeatedAlias (name : String)
  | templatePath (href : String)
  | navigation (fault : NavigationFault)
  | repeatedTransformer (kind : TransformerKind)
  deriving DecidableEq, Repr

/-! ## Wording -/

/-- The wording of a fault of the address of the site. -/
def AddressFault.message : AddressFault → String
  | .unsupportedScheme scheme => "unsupported scheme \x60" ++ scheme ++ "\x60"
  | .missingHost => "missing host"
  | .malformed cause => cause.message

/-- The wording of a fault of an app. -/
def AppFault.message : AppFault → String
  | .noAddress => "address is required"
  | .noElement => "element is required"
  | .noPath => "path is required"
  | .noTarget => "at least one target is required"
  | .targetWithoutPath => "every target needs a path"

/-- The wording of a fault of the navigation. -/
def NavigationFault.message : NavigationFault → String
  | .query cause => "query: " ++ cause.message
  | .field name cause => "field \x60" ++ name ++ "\x60: " ++ cause.message
  | .template cause => "template: " ++ cause.message

/-- The wording of a fault. -/
def ConfigFault.message : ConfigFault → String
  | .siteAddress address fault =>
    "upstream address \x60" ++ address ++ "\x60 is invalid: " ++ fault.message
  | .pathSeparator separator =>
    "path separator \x60" ++ separator ++ "\x60 must be non-empty and start and end with \x60/\x60"
  | .app index fault => "app #" ++ Text.decimal index ++ ": " ++ fault.message
  | .repeatedAlias name => "app alias \x60" ++ name ++ "\x60 is used more than once"
  | .templatePath href =>
    "template path \x60" ++ href ++ "\x60: href and template must begin with \x60/\x60"
  | .navigation fault => "navigation: " ++ fault.message
  | .repeatedTransformer kind =>
    "transformer \x60" ++ kind.name ++ "\x60 appears more than once in the chain"

/-- The wording of several faults. -/
def ConfigFault.messages (faults : List ConfigFault) : String :=
  String.intercalate ", " (faults.map message)

/-! ## The sections -/

/-- One fault if a condition holds. -/
def faultIf {α : Type} (condition : Bool) (fault : α) : List α :=
  if condition then [fault] else []

namespace SiteSettings

/-- The fault of the address: it must be one of the web, with a host. -/
def addressFault? (settings : SiteSettings) : Option AddressFault :=
  match WebAddress.parse settings.address with
  | .error cause => some (.malformed cause)
  | .ok address =>
    if address.scheme ≠ "http" ∧ address.scheme ≠ "https" then
      some (.unsupportedScheme address.scheme)
    else if address.host.isNone then some .missingHost
    else none

/-- Whether a separator begins and ends with a slash and is more than one. -/
def isSeparator (text : String) : Bool :=
  Text.beginsWith '/' text && Text.endsIn '/' text && text != "/"

/-- Whether both paths of a template path are absolute. -/
def isAbsolute (path : TemplatePath) : Bool :=
  Text.beginsWith '/' path.href && Text.beginsWith '/' path.template

/-- The faults of the section. -/
def faults (settings : SiteSettings) : List ConfigFault :=
  settings.addressFault?.toList.map (.siteAddress settings.address ·) ++
    faultIf (!isSeparator settings.pathSeparator) (.pathSeparator settings.pathSeparator) ++
    (settings.templatePaths.filter (!isAbsolute ·)).map fun path => .templatePath path.href

end SiteSettings

namespace App

/-- The faults of an app on its own. -/
def faults (app : App) : List AppFault :=
  faultIf (app.address == "") .noAddress ++ faultIf (app.element == "") .noElement ++
    faultIf (app.path == "") .noPath ++ faultIf app.targets.isEmpty .noTarget ++
    faultIf (app.targets.any (·.path == "")) .targetWithoutPath

/-- The faults of apps from an index on, after apps with the aliases `earlier`. -/
def faultsFrom (earlier : List String) (index : Nat) : List App → List ConfigFault
  | [] => []
  | app :: rest =>
    app.faults.map (.app index ·) ++
      faultIf (app.appAlias != "" && earlier.elem app.appAlias) (.repeatedAlias app.appAlias) ++
      faultsFrom (app.appAlias :: earlier) (index + 1) rest

end App

namespace NavigationSettings

/-- The fault of a reading that failed. -/
def faultOf {ε α β : Type} (fault : ε → β) : Except ε α → List β
  | .error cause => [fault cause]
  | .ok _ => []

/-- The fault of a field query, unless it is empty. -/
def fieldFaults (entry : String × FieldQuery) : List NavigationFault :=
  if entry.2.query = "" then []
  else faultOf (.field entry.1) (Markup.Selector.parse entry.2.query)

/-- The faults of the section; without query there is no navigation, and nothing is read. -/
def faults (settings : NavigationSettings) : List NavigationFault :=
  if settings.query = "" then []
  else
    faultOf .query (Markup.Selector.parse settings.query) ++
      settings.fields.entries.flatMap fieldFaults ++
      faultOf .template (ItemTemplate.parse settings.template)

end NavigationSettings

/-- The kinds that occur in a chain after an earlier occurrence. -/
def TransformerKind.repeated (earlier : List TransformerKind) :
    List TransformerKind → List TransformerKind
  | [] => []
  | kind :: rest =>
    (if earlier.elem kind then [kind] else []) ++ repeated (kind :: earlier) rest

/-- All faults of a configuration. -/
def Config.faults (config : Config) : List ConfigFault :=
  config.site.faults ++ App.faultsFrom [] 0 config.apps ++
    config.navigation.faults.map .navigation ++
    (TransformerKind.repeated [] config.transform.chain).map .repeatedTransformer

end ComposingProxy
