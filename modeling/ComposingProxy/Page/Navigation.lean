import ComposingProxy.Config.Basic
import ComposingProxy.Decimal.Reader
import ComposingProxy.Decimal.Shortest
import ComposingProxy.Markup.Copy
import ComposingProxy.Markup.Reader
import ComposingProxy.Markup.Selector.Parser
import ComposingProxy.Page.ItemTemplate

/-!
# Navigation

The items of the navigation are read from the page, the template paths are added, what the
client may not see is left out, and the rest is put in order of weight and written
in the place of the items that were there.
-/

namespace ComposingProxy

open Markup

/-! ## Items -/

/-- An item of the navigation. -/
structure NavItem where
  href : String
  label : String
  weight : Binary64
  /-- All fields, also the three above. -/
  fields : Table String
  deriving DecidableEq, Repr

namespace NavItem

/-- The weight that a text gives, zero where it is no number. -/
def weightOf (text : Option String) : Binary64 :=
  (text.bind fun text => Binary64.parse? (Text.trimText text)).getD .zero

/-- The item of some fields. -/
def ofFields (fields : Table String) : NavItem :=
  { href := (fields.get? "href").getD ""
    label := (fields.get? "label").getD ""
    weight := weightOf (fields.get? "weight")
    fields }

/-- The item of a template path. -/
def ofTemplatePath (path : TemplatePath) : NavItem :=
  { href := path.href
    label := path.label
    weight := path.weight
    fields := .ofList [("href", path.href), ("label", path.label), ("weight", path.weight.render)] }

/-- Whether an item is only for those who are logged in. -/
def isProtected (protectedPaths : List String) (item : NavItem) : Bool :=
  protectedPaths.any fun path => path != "" && Text.hasBeginning path item.href

/-- Items in order of weight; items of one weight keep their order. -/
def inOrder (items : List NavItem) : List NavItem :=
  items.mergeSort fun a b => a.weight.le b.weight

end NavItem

/-! ## Reading fields -/

/-- How a field is read from the element of an item. -/
structure NavField where
  name : String
  /-- Where below the item it stands; nothing for the item itself. -/
  query : Option Selector
  /-- The attribute that holds it; empty for the text. -/
  attrName : String
  deriving DecidableEq, Repr

namespace NavField

/-- The field that a setting describes. -/
def compile (entry : String × FieldQuery) : Except SelectorError NavField :=
  let (name, setting) := entry
  if Text.trimText setting.query = "" then
    .ok { name, query := none, attrName := setting.attrName }
  else
    match Selector.parse setting.query with
    | .error cause => .error cause
    | .ok selector => .ok { name, query := some selector, attrName := setting.attrName }

/-- The node that holds a field of an item. -/
def node? (field : NavField) (doc : Document) (item : NodeId) : Option NodeId :=
  match field.query with
  | some query => query.selectFirst? doc item
  | none => some item

/-- The value of a field of an item. -/
def read (field : NavField) (doc : Document) (item : NodeId) : String :=
  match field.node? doc item with
  | none => ""
  | some node =>
    if field.attrName = "" then Text.trimText (doc.collectText node)
    else ((doc.element? node).bind (·.attr? field.attrName)).getD ""

end NavField

/-! ## The navigation -/

/-- Why a transformer cannot be made from the settings. -/
inductive BuildError where
  | selector (cause : SelectorError)
  | template (cause : TemplateError)
  deriving DecidableEq, Repr

/-- The wording of an error. -/
def BuildError.message : BuildError → String
  | .selector cause => "invalid selector: " ++ cause.message
  | .template cause => "invalid template: " ++ cause.message

/-- A navigation that is read and written. -/
structure Navigation where
  /-- The items of a page. -/
  query : Selector
  fields : List NavField
  template : ItemTemplate
  templatePaths : List TemplatePath
  protectedPaths : List String
  deriving DecidableEq, Repr

namespace Navigation

/-- The navigation that the settings describe; none if there is no query. -/
def compile (settings : NavigationSettings) (templatePaths : List TemplatePath) :
    Except BuildError (Option Navigation) :=
  if Text.trimText settings.query = "" then .ok none
  else do
    let query ← (Selector.parse settings.query).mapError .selector
    let fields ← (settings.fields.entries.mapM NavField.compile).mapError .selector
    let template ← (ItemTemplate.parse settings.template).mapError .template
    .ok (some
      { query, fields, template, templatePaths, protectedPaths := settings.protectedPaths })

/-- The item that an element of a page is. -/
def itemOf (navigation : Navigation) (doc : Document) (node : NodeId) : NavItem :=
  .ofFields (.ofList (navigation.fields.map fun field => (field.name, field.read doc node)))

/-- The items of a page that the client may see, in order of weight. -/
def items (navigation : Navigation) (doc : Document) (found : List NodeId) (loggedIn : Bool) :
    List NavItem :=
  let all := found.map (navigation.itemOf doc) ++
    navigation.templatePaths.map NavItem.ofTemplatePath
  NavItem.inOrder (all.filter fun item => loggedIn || !item.isProtected navigation.protectedPaths)

/-- The markup of items. -/
def markup (navigation : Navigation) (items : List NavItem) : String :=
  String.join (items.map fun item => navigation.template.render item.fields)

/-- The name of the element that holds a node. -/
def contextOf (doc : Document) (node : NodeId) : String :=
  (((doc.parent? node).bind doc.element?).map (·.tag)).getD "body"

/-- Puts copies of nodes of another document before a node. -/
def insertCopies (doc source : Document) (place : NodeId) (nodes : List NodeId) : Document :=
  nodes.foldl
    (fun doc node =>
      let (copy, doc) := doc.copyFrom source node
      doc.insertBefore place copy)
    doc

/-- Writes the navigation of a page anew. -/
def transform (navigation : Navigation) (loggedIn : Bool) (doc : Document) : Document :=
  match navigation.query.selectAll doc Document.root with
  | [] => doc
  | first :: others =>
    let items := navigation.items doc (first :: others) loggedIn
    let fragment := Document.ofFragment (navigation.markup items) (contextOf doc first)
    let doc := insertCopies doc fragment first fragment.fragmentNodes
    (first :: others).foldl Document.detach doc

end Navigation

end ComposingProxy
