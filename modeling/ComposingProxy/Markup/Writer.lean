import ComposingProxy.Markup.Order

/-!
# Writing documents

The text of a document. Text and attribute values are escaped, except in elements whose
text is read raw; elements that hold nothing have no end tag; and where a reader drops a
line end after a start tag, one is written for it. A tag inside an element that holds
nothing is not written, but a text or comment is.
-/

namespace ComposingProxy.Markup

namespace Writer

/-- A character as it is written in a text. -/
def escapeText (c : Char) : List Char :=
  match c with
  | '&' => "&amp;".toList
  | '\xA0' => "&nbsp;".toList
  | '<' => "&lt;".toList
  | '>' => "&gt;".toList
  | c => [c]

/-- A character as it is written in an attribute value. -/
def escapeValue (c : Char) : List Char :=
  match c with
  | '&' => "&amp;".toList
  | '\xA0' => "&nbsp;".toList
  | '"' => "&quot;".toList
  | c => [c]

/-- Elements whose text stands as it is. -/
def rawTextTags : List String :=
  ["style", "script", "xmp", "iframe", "noembed", "noframes", "plaintext", "noscript"]

/-- Elements that hold nothing. -/
def emptyTags : List String :=
  ["area", "base", "basefont", "bgsound", "br", "col", "embed", "frame", "hr", "img", "input",
    "keygen", "link", "meta", "param", "source", "track", "wbr"]

/-- Elements after whose start tag a line end is dropped when they are read. -/
def lineEndTags : List String := ["pre", "textarea", "listing"]

/-- How the name of an attribute is written. -/
def attrName (name : Name) : String :=
  match name.space with
  | .plain => name.tag
  | .xml => "xml:" ++ name.tag
  | .xmlns => if name.tag = "xmlns" then "xmlns" else "xmlns:" ++ name.tag
  | .xlink => "xlink:" ++ name.tag
  | _ => "unknown_namespace:" ++ name.tag

/-- An attribute in a start tag. -/
def attr (entry : Attr) : List Char :=
  ' ' :: (attrName entry.name).toList ++ "=\"".toList ++
    entry.value.toList.flatMap escapeValue ++ ['"']

/-- A start tag. -/
def startTag (element : Element) : List Char :=
  '<' :: element.tag.toList ++ element.attrs.flatMap attr ++ ['>']

/-- An end tag. -/
def endTag (element : Element) : List Char :=
  '<' :: '/' :: element.tag.toList ++ ['>']

/-- What is written depends on the element around it. -/
structure Surroundings where
  /-- Text stands as it is. -/
  raw : Bool := false
  /-- Tags are left out. -/
  empty : Bool := false
  deriving DecidableEq, Repr

/-- The surroundings that an element makes. -/
def Surroundings.inside (outer : Surroundings) (element : Element) : Surroundings :=
  let isHtml := element.name.space == .html
  { raw := isHtml && rawTextTags.elem element.tag
    empty := outer.empty || (isHtml && emptyTags.elem element.tag) }

/-- A text. -/
def text (around : Surroundings) (value : String) : List Char :=
  if around.raw then value.toList else value.toList.flatMap escapeText

/-- Whether a line end has to be written for the one that a reader drops. -/
def needsLineEnd (doc : Document) (element : Element) (id : NodeId) : Bool :=
  element.name.space == .html && lineEndTags.elem element.tag &&
    ((doc.first? id).map fun child => (doc.ownText child).toList.head? == some '\n').getD false

/-- The text of a node, at most `depth` levels of it. -/
def node (doc : Document) : Nat → Surroundings → NodeId → List Char
  | 0, _, _ => []
  | depth + 1, around, id =>
    match doc.data id with
    | .document => (doc.children id).flatMap (node doc depth around)
    | .doctype name _ _ => "<!DOCTYPE ".toList ++ name.toList ++ ['>']
    | .text value => text around value
    | .comment value => "<!--".toList ++ value.toList ++ "-->".toList
    | .instruction target value => "<?".toList ++ target.toList ++ ' ' :: value.toList ++ ['>']
    | .element element =>
      let within := around.inside element
      let lineEnd := if needsLineEnd doc element id then ['\n'] else []
      let inner := (doc.children (element.contents.getD id)).flatMap (node doc depth within)
      (if around.empty then [] else startTag element) ++ lineEnd ++ inner ++
        (if within.empty then [] else endTag element)

end Writer

/-- The text of the children of a node. -/
def Document.renderChildren (doc : Document) (id : NodeId) : String :=
  String.ofList ((doc.children id).flatMap (Writer.node doc doc.size {}))

/-- The text of a whole document. -/
def Document.render (doc : Document) : String := doc.renderChildren Document.root

/-- The text of a node with everything in it. -/
def Document.renderNode (doc : Document) (id : NodeId) : String :=
  String.ofList (Writer.node doc (doc.size + 1) {} id)

end ComposingProxy.Markup
