import ComposingProxy.Markup.Document

/-!
# Tokens

What the text of a page is cut into: tags, comments, document types and single characters.
-/

namespace ComposingProxy.Markup

/-- A start tag or an end tag. Its name is in small letters. -/
structure Tag where
  name : String
  attrs : List Attr := []
  selfClosing : Bool := false
  deriving DecidableEq, Repr, Inhabited

namespace Tag

/-- The value of an attribute. -/
def attr? (tag : Tag) (name : String) : Option String :=
  (tag.attrs.find? (Element.isNamed name)).map (·.value)

/-- Whether two tags have one name and the same attributes in any order. -/
def alike (first second : Tag) : Bool :=
  first.name == second.name && first.attrs.isPerm second.attrs

end Tag

/-- A document type. -/
structure Doctype where
  name : String := ""
  publicId : Option String := none
  systemId : Option String := none
  /-- Whether it is broken, which asks for legacy layout. -/
  broken : Bool := false
  deriving DecidableEq, Repr, Inhabited

/-- How the text inside an element is read when it holds no tags. -/
inductive RawKind where
  /-- Character references count. -/
  | escapable
  | verbatim
  | script
  /-- In a script, inside a comment. -/
  | scriptComment
  /-- In a script, inside a script in a comment. -/
  | scriptNested
  deriving DecidableEq, Repr, Inhabited

/-- What a text of markup is made of. -/
inductive Token where
  | doctype (doctype : Doctype)
  | startTag (tag : Tag)
  | endTag (tag : Tag)
  | comment (text : String)
  | character (c : Char)
  /-- The character with code zero. -/
  | zero
  /-- A place that breaks the grammar and stands for nothing. -/
  | fault
  /-- The end of the text. -/
  | finish
  deriving DecidableEq, Repr, Inhabited

/-- A character that only separates. -/
def isSeparator (c : Char) : Bool :=
  c == ' ' || c == '\t' || c == '\n' || c == '\x0C' || c == '\r'

end ComposingProxy.Markup
