import ComposingProxy.Config.Basic
import ComposingProxy.Json.Value

/-!
# Configurations as data

A configuration comes as data of one of two formats. `Setting` is what both have in
common, and `Config.ofSetting?` gives the data its meaning: a section is a table of
named fields, or a list of them in the order of their declaration; a field that is not
there has its default, if it has one; and fields that mean nothing are passed over.
-/

namespace ComposingProxy

/-- The format that data comes from. -/
inductive DataFormat where
  | json
  | toml
  deriving DecidableEq, Repr

/-- A piece of configuration data. -/
inductive Setting where
  | null
  | bool (value : Bool)
  | integer (value : Int)
  | real (value : Binary64)
  | text (value : String)
  | list (items : List Setting)
  | table (fields : List (String × Setting))
  deriving Repr, Inhabited

namespace Setting

/-! ## From JSON -/

/-- The setting of a JSON number: a whole number if it is written as one and has at most 64
bits. -/
def ofNumber (n : JsonNumber) : Setting :=
  let limit := if n.negative then 0x8000000000000000 else 0xFFFFFFFFFFFFFFFF
  if n.whole ∧ n.digits ≤ limit ∧ ¬ (n.negative ∧ n.digits = 0) then
    .integer (if n.negative then -(n.digits : Int) else n.digits)
  else .real (Binary64.ofDecimal n.negative n.digits n.exponent)

mutual

/-- The setting that a JSON value is. -/
def ofJson : Json → Setting
  | .null | .broken => .null
  | .bool value => .bool value
  | .number n => ofNumber n
  | .string value => .text value
  | .array items => .list (ofItems items)
  | .object fields => .table (ofFields fields)

/-- The settings of the items of an array, in their order. -/
def ofItems : List Json → List Setting
  | [] => []
  | item :: items => ofJson item :: ofItems items

/-- The settings of the fields of an object, in their order and under their names. -/
def ofFields : List (String × Json) → List (String × Setting)
  | [] => []
  | (name, value) :: fields => (name, ofJson value) :: ofFields fields

end

/-! ## Values -/

/-- A text. -/
def text? : Setting → Option String
  | .text value => some value
  | _ => none

/-- A truth value. -/
def bool? : Setting → Option Bool
  | .bool value => some value
  | _ => none

/-- A whole number of 64 bits without sign. -/
def natural? : Setting → Option Nat
  | .integer value => if 0 ≤ value ∧ value < 0x10000000000000000 then some value.toNat else none
  | _ => none

/-- A number; whole numbers are numbers. -/
def real? : Setting → Option Binary64
  | .real value => some value
  | .integer value => some (Binary64.ofDecimal (value < 0) value.natAbs 0)
  | _ => none

/-- A list, each of whose items can be read. -/
def listOf? {α : Type} (read : Setting → Option α) : Setting → Option (List α)
  | .list items => items.mapM read
  | _ => none

/-- A table, each of whose fields can be read; of a repeated name the last counts. -/
def tableOf? {α : Type} (read : Setting → Option α) : Setting → Option (Table α)
  | .table fields => do
    some (Table.ofList (← fields.mapM fun (name, value) => do some (name, ← read value)))
  | _ => none

/-- Whether a setting says nothing beside the name it stands under. -/
def saysNothing (format : DataFormat) : Setting → Bool
  | .null => format == .json
  | .list items => format == .toml && items.isEmpty
  | .table fields => format == .toml && fields.isEmpty
  | _ => false

/-- One of several names, given as a text or as the only name in a table. -/
def oneOf? {α : Type} (format : DataFormat) (names : List (String × α)) : Setting → Option α
  | .text value => names.lookup value
  | .table [(name, value)] => if saysNothing format value then names.lookup name else none
  | _ => none

/-! ## Sections -/

/-- The fields of a section, by name or by place. -/
inductive Section where
  | named (fields : List (String × Setting))
  | placed (items : List Setting)

/-- The fields of a section that declares `count` of them. -/
def section? (format : DataFormat) (count : Nat) : Setting → Option Section
  | .table fields => some (.named fields)
  | .list items => if format = .json ∧ items.length > count then none else some (.placed items)
  | _ => none

/-- A field by its name and place. The last of several values of a name counts. -/
def Section.field? (fields : Section) (place : Nat) (name : String) : Option Setting :=
  match fields with
  | .named fields => (fields.reverse.find? (·.1 == name)).map (·.2)
  | .placed items => items[place]?

/-- A field that must be there. -/
def Section.required {α : Type} (fields : Section) (place : Nat) (name : String)
    (read : Setting → Option α) : Option α :=
  (fields.field? place name).bind read

/-- A field that has a default. -/
def Section.optional {α : Type} (fields : Section) (place : Nat) (name : String)
    (read : Setting → Option α) (value : α) : Option α :=
  match fields.field? place name with
  | none => some value
  | some setting => read setting

end Setting

open Setting

/-! ## The sections of a configuration -/

/-- The section on the listener. -/
def ListenerSettings.ofSetting? (format : DataFormat) (setting : Setting) :
    Option ListenerSettings := do
  let fields ← setting.section? format 1
  let d : ListenerSettings := {}
  some { bindAddress := ← fields.optional 0 "bind_address" text? d.bindAddress }

/-- The section on timeouts. -/
def TimeoutSettings.ofSetting? (format : DataFormat) (setting : Setting) :
    Option TimeoutSettings := do
  let fields ← setting.section? format 1
  let d : TimeoutSettings := {}
  some { requestSecs := ← fields.optional 0 "request_secs" natural? d.requestSecs }

/-- The names of the forms of log lines. -/
def LogFormat.names : List (String × LogFormat) := [("pretty", .pretty), ("json", .json)]

/-- The section on logs and metrics. -/
def ObservabilitySettings.ofSetting? (format : DataFormat) (setting : Setting) :
    Option ObservabilitySettings := do
  let fields ← setting.section? format 4
  let d : ObservabilitySettings := {}
  some
    { logLevel := ← fields.optional 0 "log_level" text? d.logLevel
      logFormat := ← fields.optional 1 "log_format" (oneOf? format LogFormat.names) d.logFormat
      metricsEnabled := ← fields.optional 2 "metrics_enabled" bool? d.metricsEnabled
      metricsAddress := ← fields.optional 3 "metrics_address" text? d.metricsAddress }

/-- An alias of a template. -/
def TemplatePath.ofSetting? (format : DataFormat) (setting : Setting) : Option TemplatePath := do
  let fields ← setting.section? format 4
  some
    { href := ← fields.required 0 "href" text?
      label := ← fields.required 1 "label" text?
      template := ← fields.required 2 "template" text?
      weight := ← fields.optional 3 "weight" real? .zero }

/-- The section on the site behind the proxy. -/
def SiteSettings.ofSetting? (format : DataFormat) (setting : Setting) :
    Option SiteSettings := do
  let fields ← setting.section? format 6
  let d : SiteSettings := {}
  some
    { address := ← fields.optional 0 "upstream_address" text? d.address
      pathSeparator := ← fields.optional 1 "path_separator" text? d.pathSeparator
      alwaysAppendSlash := ← fields.optional 2 "always_append_slash" bool? d.alwaysAppendSlash
      appendIndex := ← fields.optional 3 "append_index" bool? d.appendIndex
      index := ← fields.optional 4 "index" text? d.index
      templatePaths := ← fields.optional 5 "template_paths"
        (listOf? (TemplatePath.ofSetting? format)) d.templatePaths }

/-- A place where an app is mounted. -/
def AppTarget.ofSetting? (format : DataFormat) (setting : Setting) : Option AppTarget := do
  let fields ← setting.section? format 2
  some
    { path := ← fields.required 0 "path" text?
      container := ← fields.optional 1 "container" text? "" }

/-- An app. -/
def App.ofSetting? (format : DataFormat) (setting : Setting) : Option App := do
  let fields ← setting.section? format 5
  some
    { appAlias := ← fields.optional 0 "alias" text? ""
      address := ← fields.required 1 "address" text?
      element := ← fields.required 2 "element" text?
      path := ← fields.required 3 "path" text?
      targets := ← fields.required 4 "targets" (listOf? (AppTarget.ofSetting? format)) }

/-- The section on imports. -/
def ImportMapSettings.ofSetting? (format : DataFormat) (setting : Setting) :
    Option ImportMapSettings := do
  let fields ← setting.section? format 2
  some
    { moduleImports := ← fields.optional 0 "module_imports" (tableOf? text?) {}
      moduleBody := ← fields.optional 1 "module_body" text? "" }

/-- The section on sessions. -/
def MetaSettings.ofSetting? (format : DataFormat) (setting : Setting) : Option MetaSettings := do
  let fields ← setting.section? format 9
  some
    { loginPath := ← fields.optional 0 "login_path" text? ""
      loginLabel := ← fields.optional 1 "login_label" text? ""
      loginCssQuery := ← fields.optional 2 "login_css_query" text? ""
      logoutPath := ← fields.optional 3 "logout_path" text? ""
      logoutLabel := ← fields.optional 4 "logout_label" text? ""
      logoutCssQuery := ← fields.optional 5 "logout_css_query" text? ""
      stateEndpoint := ← fields.optional 6 "state_endpoint" text? ""
      checkBatchEndpoint := ← fields.optional 7 "check_batch_endpoint" text? ""
      checkSingleEndpoint := ← fields.optional 8 "check_single_endpoint" text? "" }

/-- How a field of a navigation item is read. -/
def FieldQuery.ofSetting? (format : DataFormat) (setting : Setting) : Option FieldQuery := do
  let fields ← setting.section? format 2
  some
    { query := ← fields.optional 0 "query" text? ""
      attrName := ← fields.optional 1 "attribute" text? "" }

/-- The section on navigation. -/
def NavigationSettings.ofSetting? (format : DataFormat) (setting : Setting) :
    Option NavigationSettings := do
  let fields ← setting.section? format 4
  some
    { query := ← fields.optional 0 "query" text? ""
      fields := ← fields.optional 1 "fields" (tableOf? (FieldQuery.ofSetting? format)) {}
      template := ← fields.optional 2 "template" text? ""
      protectedPaths := ← fields.optional 3 "protected_paths" (listOf? text?) [] }

/-- The names of the kinds of transformers. -/
def TransformerKind.names : List (String × TransformerKind) :=
  TransformerKind.all.map fun kind => (kind.name, kind)

/-- The section on the chain of transformers. -/
def TransformSettings.ofSetting? (format : DataFormat) (setting : Setting) :
    Option TransformSettings := do
  let fields ← setting.section? format 2
  let d : TransformSettings := {}
  some
    { chain := ← fields.optional 0 "chain" (listOf? (oneOf? format TransformerKind.names)) d.chain
      maxDocumentBytes := ← fields.optional 1 "max_document_bytes" natural? d.maxDocumentBytes }

/-- The configuration that data describes. -/
def Config.ofSetting? (format : DataFormat) (setting : Setting) : Option Config := do
  let fields ← setting.section? format 9
  some
    { listener := ← fields.optional 0 "listener" (ListenerSettings.ofSetting? format) {}
      timeouts := ← fields.optional 1 "timeouts" (TimeoutSettings.ofSetting? format) {}
      observability :=
        ← fields.optional 2 "observability" (ObservabilitySettings.ofSetting? format) {}
      site := ← fields.optional 3 "proxy" (SiteSettings.ofSetting? format) {}
      apps := ← fields.optional 4 "apps" (listOf? (App.ofSetting? format)) []
      importMap := ← fields.optional 5 "importmap" (ImportMapSettings.ofSetting? format) {}
      metadata := ← fields.optional 6 "meta" (MetaSettings.ofSetting? format) {}
      navigation := ← fields.optional 7 "navigation" (NavigationSettings.ofSetting? format) {}
      transform := ← fields.optional 8 "transform" (TransformSettings.ofSetting? format) {} }

end ComposingProxy
