import ComposingProxy.Markup.Edit
import ComposingProxy.Markup.Vocabulary

/-!
# Pages under construction

What reading a page keeps between two tokens: the document so far, the elements that
are open, the formatting elements that will be opened again, and where in the page the
reader is. Here are the questions about open elements and the ways to put a node
where it belongs.
-/

namespace ComposingProxy.Markup

/-- Where in a page the reader is. -/
inductive Mode where
  | initial
  | beforeHtml
  | beforeHead
  | inHead
  | afterHead
  | inBody
  | text
  | inTable
  | inTableText
  | inCaption
  | inColumnGroup
  | inTableBody
  | inRow
  | inCell
  | inSelect
  | inSelectInTable
  | inTemplate
  | afterBody
  | inFrameset
  | afterFrameset
  | afterAfterBody
  | afterAfterFrameset
  deriving DecidableEq, Repr, Inhabited

/-- An entry of the list of formatting elements. -/
inductive FormattingEntry where
  /-- Nothing before it is opened again. -/
  | marker
  | element (id : NodeId) (tag : Tag)
  deriving DecidableEq, Repr

/-- A page under construction. -/
structure Construction where
  doc : Document := {}
  mode : Mode := .initial
  /-- The mode after raw text or after text in a table. -/
  nextMode : Mode := .initial
  /-- The modes of the open templates, newest first. -/
  templateModes : List Mode := []
  /-- The open elements, newest first. -/
  openElements : List NodeId := []
  /-- The formatting elements, newest first. -/
  formatting : List FormattingEntry := []
  /-- Text in a table whose place is not known yet, last character first. -/
  tableText : List Char := []
  head : Option NodeId := none
  form : Option NodeId := none
  /-- The element that a fragment is read for. -/
  context : Option NodeId := none
  isLegacy : Bool := false
  framesetAllowed : Bool := true
  /-- Whether a line end that comes next is dropped. -/
  dropsLineEnd : Bool := false
  /-- Whether nodes move in front of the table. -/
  fostering : Bool := false

namespace Construction

/-! ## Open elements -/

/-- The name of a node; nodes that are no element have one of no vocabulary. -/
def nameOf (page : Construction) (id : NodeId) : Name :=
  ((page.doc.element? id).map (·.name)).getD default

/-- The newest open element. -/
def current? (page : Construction) : Option NodeId := page.openElements.head?

/-- The oldest open element. -/
def oldest? (page : Construction) : Option NodeId := page.openElements.getLast?

/-- Whether the newest open element has a property. -/
def currentIs (page : Construction) (test : Name → Bool) : Bool :=
  page.current?.any fun id => test (page.nameOf id)

/-- Whether the newest open element is an HTML element of a name. -/
def currentIsHtml (page : Construction) (tag : String) : Bool := page.currentIs (·.isHtml tag)

/-- The newest open element or, where only the root of a fragment is open, the element that the
fragment is read for. -/
def adjustedCurrent? (page : Construction) : Option NodeId :=
  match page.openElements, page.context with
  | [_], some context => some context
  | elements, _ => elements.head?

/-- Whether an HTML element of a name is open. -/
def hasOpen (page : Construction) (tag : String) : Bool :=
  page.openElements.any fun id => (page.nameOf id).isHtml tag

/-- Whether an element that satisfies a test is open within a scope. -/
def inScope (page : Construction) (scope : Scope) (test : NodeId → Bool) : Bool :=
  go page.openElements
where
  go : List NodeId → Bool
    | [] => false
    | id :: older => test id || (!scope (page.nameOf id) && go older)

/-- Whether an HTML element of a name is open within a scope. -/
def hasInScope (page : Construction) (scope : Scope) (tag : String) : Bool :=
  page.inScope scope fun id => (page.nameOf id).isHtml tag

/-- The body, if it is open. -/
def body? (page : Construction) : Option NodeId :=
  (page.openElements.reverse[1]?).filter fun id => (page.nameOf id).isHtml "body"

/-- Opens an element. -/
def push (page : Construction) (id : NodeId) : Construction :=
  { page with openElements := id :: page.openElements }

/-- Closes the newest open element. -/
def pop (page : Construction) : Construction :=
  { page with openElements := page.openElements.tail }

/-- Closes elements until the newest has a property. -/
def popWhileNot (page : Construction) (test : Name → Bool) : Construction :=
  { page with openElements := page.openElements.dropWhile fun id => !test (page.nameOf id) }

/-- Closes elements up to the first that has a property. -/
def popThrough (page : Construction) (test : Name → Bool) : Construction :=
  (page.popWhileNot test).pop

/-- Closes elements up to the first HTML element of a name. -/
def popThroughHtml (page : Construction) (tag : String) : Construction :=
  page.popThrough (·.isHtml tag)

/-- Closes one element wherever it is. -/
def close (page : Construction) (id : NodeId) : Construction :=
  { page with openElements := page.openElements.erase id }

/-- Closes the newest elements that close without an end tag. -/
def closeImplied (page : Construction) (tags : List String) : Construction :=
  { page with openElements := page.openElements.dropWhile fun id => (page.nameOf id).isOneOf tags }

/-- Closes the newest elements that close without an end tag, but none of a name. -/
def closeImpliedExcept (page : Construction) (tag : String) : Construction :=
  page.closeImplied (impliedEndTags.filter (· != tag))

/-- Closes the newest paragraph. -/
def closeParagraph (page : Construction) : Construction :=
  (page.closeImpliedExcept "p").popThroughHtml "p"

/-- Closes a paragraph that is open. -/
def endParagraph (page : Construction) : Construction :=
  if page.hasInScope .button "p" then page.closeParagraph else page

/-! ## Places for nodes -/

/-- Where a node is put. -/
inductive Place where
  /-- After the children of a node. -/
  | lastOf (parent : NodeId)
  /-- In front of a table or, if the table has no parent, after the children of the element that
  is open below it. -/
  | besideTable (table below : NodeId)
  deriving Repr

/-- The contents of a template, and any other node itself. -/
def inside (page : Construction) (id : NodeId) : NodeId :=
  ((page.doc.element? id).bind (·.contents)).getD id

/-- The place in front of the newest open table, or in the newest open template. -/
def fosterPlace (page : Construction) : List NodeId → Place
  | [] => .lastOf Document.root
  | [id] => .lastOf id
  | id :: below :: older =>
    if (page.nameOf id).isHtml "template" then .lastOf (page.inside id)
    else if (page.nameOf id).isHtml "table" then .besideTable id below
    else page.fosterPlace (below :: older)

/-- The place for a node in an element. -/
def placeIn (page : Construction) (target : NodeId) : Place :=
  if page.fostering && (page.nameOf target).isOneOf tableTags then
    page.fosterPlace page.openElements
  else .lastOf (page.inside target)

/-- The place for a new node. -/
def place (page : Construction) : Place := page.placeIn (page.current?.getD Document.root)

/-- Puts a node in a place. -/
def putNode (page : Construction) (place : Place) (id : NodeId) : Construction :=
  { page with doc :=
      match place with
      | .lastOf parent => page.doc.appendChild parent id
      | .besideTable table below =>
        if (page.doc.parent? table).isSome then page.doc.insertBefore table id
        else page.doc.appendChild below id }

/-- Puts text in a place. -/
def putText (page : Construction) (place : Place) (text : String) : Construction :=
  { page with doc :=
      match place with
      | .lastOf parent => page.doc.appendText parent text
      | .besideTable table below =>
        if (page.doc.parent? table).isSome then page.doc.insertTextBefore table text
        else page.doc.appendText below text }

/-- Adds a character of text. -/
def addCharacter (page : Construction) (c : Char) : Construction :=
  page.putText page.place (String.singleton c)

/-- Adds a node of some data after the children of a node. -/
def addTo (page : Construction) (parent : NodeId) (data : NodeData) : Construction :=
  let (id, doc) := page.doc.create data
  { page with doc := doc.appendChild parent id }

/-- Adds a comment. -/
def addComment (page : Construction) (text : String) : Construction :=
  let (id, doc) := page.doc.create (.comment text)
  let page := { page with doc }
  page.putNode page.place id

/-! ## New elements -/

/-- Creates an element; a template with its contents. -/
def createElement (page : Construction) (name : Name) (attrs : List Attr) :
    NodeId × Construction :=
  if name.isHtml "template" then
    let (contents, doc) := page.doc.create .document
    let (id, doc) := doc.create (.element { name, attrs, contents := some contents })
    (id, { page with doc })
  else
    let (id, doc) := page.doc.create (.element { name, attrs })
    (id, { page with doc })

/-- Adds an element where it belongs, without opening it. -/
def addElement (page : Construction) (name : Name) (attrs : List Attr) :
    NodeId × Construction :=
  let (id, page) := page.createElement name attrs
  (id, page.putNode page.place id)

/-- Adds an element and opens it. -/
def openElement (page : Construction) (name : Name) (attrs : List Attr) :
    NodeId × Construction :=
  let (id, page) := page.addElement name attrs
  (id, page.push id)

/-- Adds the element of a tag in a vocabulary, and opens it unless the tag closes itself. -/
def openUnlessClosed (page : Construction) (space : Namespace) (tag : Tag) : Construction :=
  let name : Name := { space, tag := tag.name }
  if tag.selfClosing then (page.addElement name tag.attrs).2
  else (page.openElement name tag.attrs).2

/-- Adds and opens the HTML element of a tag. -/
def openTag (page : Construction) (tag : Tag) : Construction :=
  (page.openElement (.html tag.name) tag.attrs).2

/-- Adds the HTML element of a tag without opening it. -/
def addTag (page : Construction) (tag : Tag) : Construction :=
  (page.addElement (.html tag.name) tag.attrs).2

/-- Adds and opens an HTML element without attributes. -/
def openPlain (page : Construction) (tag : String) : Construction := page.openTag { name := tag }

/-- Adds and opens the root element. -/
def openRoot (page : Construction) (attrs : List Attr) : Construction :=
  let (id, page) := page.createElement (.html "html") attrs
  (page.putNode (.lastOf Document.root) id).push id

/-- Adds attributes that are not there yet to an element. -/
def addMissing (page : Construction) (id : NodeId) (attrs : List Attr) : Construction :=
  { page with doc := page.doc.modifyElement id (·.addMissing attrs) }

/-! ## The mode after closing elements -/

/-- The mode that the open elements ask for, of which `isOldest` is the oldest. -/
def modeOf (page : Construction) : List NodeId → Mode
  | [] => .inBody
  | id :: older =>
    let isOldest := older.isEmpty
    let name := page.nameOf (if isOldest then page.context.getD id else id)
    if name.space != .html then page.modeOf older
    else
      match name.tag with
      | "select" =>
        let outer := older.find? fun id => (page.nameOf id).isOneOf ["template", "table"]
        if outer.any fun id => (page.nameOf id).isHtml "table" then .inSelectInTable
        else .inSelect
      | "td" | "th" => if isOldest then page.modeOf older else .inCell
      | "tr" => .inRow
      | "tbody" | "thead" | "tfoot" => .inTableBody
      | "caption" => .inCaption
      | "colgroup" => .inColumnGroup
      | "table" => .inTable
      | "template" => page.templateModes.head?.getD .inTemplate
      | "head" => if isOldest then page.modeOf older else .inHead
      | "body" => .inBody
      | "frameset" => .inFrameset
      | "html" => if page.head.isNone then .beforeHead else .afterHead
      | _ => page.modeOf older

/-- The mode that the open elements ask for. -/
def restoredMode (page : Construction) : Mode := page.modeOf page.openElements

/-- The same page in the mode that the open elements ask for. -/
def restoreMode (page : Construction) : Construction :=
  { page with mode := page.restoredMode }

end Construction

/-! ## What a token does -/

/-- What is to be done after a token. -/
inductive Continuation where
  | next
  /-- The token is read again, in another mode. -/
  | again (mode : Mode)
  /-- The text that follows is raw. -/
  | raw (kind : RawKind)
  /-- All text that follows is plain. -/
  | plain
  /-- A script is complete: reading pauses, and the text that follows begins a new piece. -/
  | pause
  deriving DecidableEq, Repr

/-- A page after a token. -/
structure Reaction where
  page : Construction
  next : Continuation := .next

namespace Construction

/-- The token is used up. -/
def done (page : Construction) : Reaction := { page }

/-- The token is read again in another mode. -/
def again (page : Construction) (mode : Mode) : Reaction := { page, next := .again mode }

/-- The token is used up, and reading pauses. -/
def paused (page : Construction) : Reaction := { page, next := .pause }

/-- Opens an element whose text is raw. -/
def openRaw (page : Construction) (tag : Tag) (kind : RawKind) : Reaction :=
  let page := page.openTag tag
  { page := { page with nextMode := page.mode, mode := .text }, next := .raw kind }

end Construction

end ComposingProxy.Markup
