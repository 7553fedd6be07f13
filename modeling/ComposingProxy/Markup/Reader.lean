import ComposingProxy.Markup.Construction.Steps
import ComposingProxy.Markup.Order
import ComposingProxy.Markup.Tokenizer
import ComposingProxy.Text.Utf8.Pieces

/-!
# Reading pages

Every text is a page: what breaks the grammar is mended on the way. The characters are
cut into tokens, each token is taken by the page under construction, and what the page
makes of it decides how the text after it is cut.

A text comes in pieces, and a piece may begin with a mark of the order of its bytes, which is
no text. The end of a script ends a piece too.
-/

namespace ComposingProxy.Markup

/-! ## Marks and line ends -/

/-- A text with a single character for every line end. -/
def joinLineEnds : List Char → List Char
  | [] => []
  | '\r' :: '\n' :: rest => '\n' :: joinLineEnds rest
  | '\r' :: rest => '\n' :: joinLineEnds rest
  | c :: rest => c :: joinLineEnds rest

/-- The mark of the order of bytes. -/
def byteOrderMark : Char := '\uFEFF'

/-- A piece without the mark that it may begin with. -/
def dropByteOrderMark : List Char → List Char
  | [] => []
  | c :: rest => if c = byteOrderMark then rest else c :: rest

/-- Pieces without marks at their beginnings and with a single character for every line
end, also for one that begins in one piece and ends in the next: `returned` says that the
text before ends in the first half of one. -/
def mendPieces (returned : Bool) : List (List Char) → List (List Char)
  | [] => []
  | piece :: pieces =>
    match dropByteOrderMark piece with
    | [] => mendPieces returned pieces
    | c :: rest =>
      let text := if returned && c == '\n' then rest else c :: rest
      joinLineEnds text :: mendPieces ((c :: rest).getLast? == some '\r') pieces

/-- Where pieces begin: how many characters are left there. -/
def seams (pieces : List (List Char)) : List Nat :=
  pieces.foldr (fun piece left => (piece.length + left.headD 0) :: left) []

/-! ## The walk over the text -/

/-- A page under construction and the reader's place in its text. -/
structure Reading where
  page : Construction := {}
  state : TextState := .data
  /-- The name of the start tag that was read last. -/
  opened : Option String := none
  /-- Whether the text that follows begins a new piece. -/
  pausing : Bool := false
  /-- Where else pieces begin, as the number of characters left there. -/
  seams : List Nat := []

namespace Reading

/-- Whether text is in an element of another vocabulary. -/
def isForeign (reading : Reading) : Bool :=
  (reading.page.adjustedCurrent?.map reading.page.nameOf).any (·.space != .html)

/-- Takes a token. -/
def take (reading : Reading) (token : Token) : Reading :=
  let reaction := reading.page.take token
  let opened :=
    match token with
    | .startTag tag => some tag.name
    | _ => reading.opened
  let state :=
    match reaction.next with
    | .raw kind => .raw kind
    | .plain => .plain
    | .next | .again _ | .pause => reading.state
  { reading with page := reaction.page, state, opened, pausing := reaction.next == .pause }

/-- Takes tokens in order. -/
def takeAll (reading : Reading) (tokens : List Token) : Reading := tokens.foldl take reading

/-- Whether a mark stands in front of the text that is left, at the beginning of a piece
whose own mark has not been dropped before. -/
def isMarked (reading : Reading) (rest : List Char) : Bool :=
  reading.pausing && rest.head? == some byteOrderMark && !reading.seams.elem rest.length

/-- Reads a character, with `rest` after it. Gives how many characters of the rest have been
read with it. -/
def readCharacter (reading : Reading) (c : Char) (rest : List Char) : Nat × Reading :=
  let step := reading.state.step reading.opened reading.isForeign c rest
  let reading := { reading with state := step.state, pausing := false }.takeAll step.tokens
  (if reading.isMarked rest then 1 else step.taken, reading)

/-- Reads a text of which `skipped` characters have been read already. -/
def readText (reading : Reading) (skipped : Nat) : List Char → Reading
  | [] => reading.takeAll (reading.state.finish ++ [.finish])
  | c :: rest =>
    match skipped with
    | skipped + 1 => reading.readText skipped rest
    | 0 =>
      let (taken, reading) := reading.readCharacter c rest
      reading.readText taken rest

/-- The document that reading all pieces of a text gives. -/
def finish (reading : Reading) (pieces : List (List Char)) : Document :=
  let pieces := mendPieces false pieces
  ({ reading with seams := Markup.seams pieces }.readText 0 pieces.flatten).page.doc

end Reading

/-! ## Pages and fragments -/

/-- The page of bytes; malformed bytes are replaced. -/
def Document.ofBytes (bytes : List UInt8) : Document :=
  ({} : Reading).finish (Text.Utf8.pieces bytes)

/-- The page of a text. -/
def Document.ofText (text : String) : Document := .ofBytes (Text.Utf8.encode text.toList)

/-- How the text in an element is read. -/
def TextState.ofContext (tag : String) : TextState :=
  match tag with
  | "title" | "textarea" => .raw .escapable
  | "style" | "xmp" | "iframe" | "noembed" | "noframes" | "noscript" => .raw .verbatim
  | "script" => .raw .script
  | "plaintext" => .plain
  | _ => .data

/-- The construction of a fragment for an element of a name. -/
def Construction.ofContext (tag : String) : Construction :=
  let (context, page) := ({} : Construction).createElement (.html tag) []
  let page := { page with
    context := some context
    templateModes := if tag = "template" then [.inTemplate] else [] }
  (page.openRoot []).restoreMode

/-- The document of a fragment that stands in an element of a name. A fragment is one
piece. -/
def Document.ofFragment (text context : String) : Document :=
  { page := .ofContext context, state := .ofContext context : Reading }.finish [text.toList]

/-- The topmost nodes of the document of a fragment. -/
def Document.fragmentNodes (doc : Document) : List NodeId :=
  ((doc.children root).find? (doc.isElement · "html")).elim [] doc.children

end ComposingProxy.Markup
