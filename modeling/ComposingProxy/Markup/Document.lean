/-!
# Documents

A document owns all its nodes. A node knows its parent, its first and last child and
its two siblings by number; numbers are given out in the order of creation and never
reused. What a node is, and for an element its name and attributes, is its data.

The contents of a template element are a tree of their own, whose root the element
names.
-/

namespace ComposingProxy.Markup

/-! ## Names and attributes -/

/-- The vocabularies that names come from. -/
inductive Namespace where
  /-- No vocabulary: the usual case for attributes. -/
  | plain
  | html
  | svg
  | mathml
  | xlink
  | xml
  | xmlns
  deriving DecidableEq, Repr, Inhabited

/-- A name in a vocabulary, with the short form that stands for the vocabulary in a text. -/
structure Name where
  space : Namespace
  tag : String
  short : Option String := none
  deriving DecidableEq, Repr, Inhabited

/-- The name of an HTML element. -/
def Name.html (tag : String) : Name := { space := .html, tag }

/-- The usual name of an attribute. -/
def Name.plain (tag : String) : Name := { space := .plain, tag }

/-- An attribute. -/
structure Attr where
  name : Name
  value : String
  deriving DecidableEq, Repr, Inhabited

/-- The number of a node in its document. -/
structure NodeId where
  index : Nat
  deriving DecidableEq, Repr, Inhabited, Ord

/-! ## Elements -/

/-- An element. -/
structure Element where
  name : Name
  attrs : List Attr := []
  /-- The root of the contents, for a template. -/
  contents : Option NodeId := none
  deriving DecidableEq, Repr, Inhabited

namespace Element

/-- The name without its vocabulary. -/
def tag (element : Element) : String := element.name.tag

/-- Whether an attribute has a name without vocabulary. -/
def isNamed (name : String) (entry : Attr) : Bool :=
  entry.name.space == .plain && entry.name.tag == name

/-- The value of an attribute. -/
def attr? (element : Element) (name : String) : Option String :=
  (element.attrs.find? (isNamed name)).map (·.value)

/-- Attributes with a value in the place of the one that was there, or after all others. -/
def putAttr (name value : String) : List Attr → List Attr
  | [] => [⟨.plain name, value⟩]
  | entry :: rest =>
    if isNamed name entry then { entry with value } :: rest
    else entry :: putAttr name value rest

/-- Gives an attribute a value. -/
def setAttr (element : Element) (name value : String) : Element :=
  { element with attrs := putAttr name value element.attrs }

/-- Adds the attributes whose names are not there yet. -/
def addMissing (element : Element) (attrs : List Attr) : Element :=
  { element with
    attrs := attrs.foldl
      (fun there entry => if there.any (·.name == entry.name) then there else there ++ [entry])
      element.attrs }

/-- A character that stands between class names. -/
def isClassBlank (c : Char) : Bool :=
  c == ' ' || c == '\t' || c == '\n' || c == '\x0C' || c == '\r'

/-- The class names of a class attribute. -/
def classNames (value : String) : List String :=
  ((value.toList.splitBy fun a b => isClassBlank a == isClassBlank b).filter
    fun part => !(part.head?.all isClassBlank)).map String.ofList

/-- Whether the element has a class. -/
def hasClass (element : Element) (name : String) : Bool :=
  ((element.attr? "class").map fun value => (classNames value).elem name).getD false

end Element

/-- The HTML element of a name and attributes; of a repeated attribute the last value counts. -/
def Element.ofTag (tag : String) (attrs : List (String × String)) : Element :=
  attrs.foldl (fun element entry => element.setAttr entry.1 entry.2) { name := .html tag }

/-! ## Nodes -/

/-- What a node is, apart from its links. -/
inductive NodeData where
  /-- The root of a document or of the contents of a template. -/
  | document
  | doctype (name publicId systemId : String)
  | text (value : String)
  | comment (value : String)
  | instruction (target value : String)
  | element (element : Element)
  deriving DecidableEq, Repr, Inhabited

/-- A node with its links. -/
structure Node where
  parent : Option NodeId := none
  first : Option NodeId := none
  last : Option NodeId := none
  previous : Option NodeId := none
  next : Option NodeId := none
  data : NodeData
  deriving DecidableEq, Repr, Inhabited

/-- A document. Node zero is its root. -/
structure Document where
  nodes : Array Node := #[{ data := .document }]
  deriving DecidableEq, Repr, Inhabited

namespace Document

/-- The root. -/
def root : NodeId := ⟨0⟩

/-- The number of nodes, attached or not. -/
def size (doc : Document) : Nat := doc.nodes.size

/-- A node; for a number that was never given out, one without links. -/
def node (doc : Document) (id : NodeId) : Node := doc.nodes[id.index]?.getD { data := .document }

/-- What a node is. -/
def data (doc : Document) (id : NodeId) : NodeData := (doc.node id).data

/-- The node that holds a node. -/
def parent? (doc : Document) (id : NodeId) : Option NodeId := (doc.node id).parent

/-- The first child of a node. -/
def first? (doc : Document) (id : NodeId) : Option NodeId := (doc.node id).first

/-- The last child of a node. -/
def last? (doc : Document) (id : NodeId) : Option NodeId := (doc.node id).last

/-- The sibling in front of a node. -/
def previous? (doc : Document) (id : NodeId) : Option NodeId := (doc.node id).previous

/-- The sibling after a node. -/
def next? (doc : Document) (id : NodeId) : Option NodeId := (doc.node id).next

/-- The element that a node is. -/
def element? (doc : Document) (id : NodeId) : Option Element :=
  match doc.data id with
  | .element element => some element
  | _ => none

/-- Whether a node is an element of a name, in any vocabulary. -/
def isElement (doc : Document) (id : NodeId) (tag : String) : Bool :=
  ((doc.element? id).map (·.tag == tag)).getD false

/-- Changes one node. -/
def modify (doc : Document) (id : NodeId) (f : Node → Node) : Document :=
  ⟨doc.nodes.modify id.index f⟩

/-- Changes what a node is. -/
def modifyData (doc : Document) (id : NodeId) (f : NodeData → NodeData) : Document :=
  doc.modify id fun node => { node with data := f node.data }

/-- Changes an element; other nodes stay. -/
def modifyElement (doc : Document) (id : NodeId) (f : Element → Element) : Document :=
  doc.modifyData id fun data =>
    match data with
    | .element element => .element (f element)
    | data => data

/-- Adds a node without links. -/
def create (doc : Document) (data : NodeData) : NodeId × Document :=
  (⟨doc.nodes.size⟩, ⟨doc.nodes.push { data }⟩)

/-- Adds an HTML element without links. -/
def createElement (doc : Document) (tag : String) (attrs : List (String × String)) :
    NodeId × Document :=
  doc.create (.element (.ofTag tag attrs))

/-- Adds a text without links. -/
def createText (doc : Document) (text : String) : NodeId × Document :=
  doc.create (.text text)

end Document

end ComposingProxy.Markup
