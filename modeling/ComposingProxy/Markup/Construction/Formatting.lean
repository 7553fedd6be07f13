import ComposingProxy.Markup.Construction.Basic

/-!
# Formatting elements

Elements such as `b` and `a` take effect until they are closed, whatever other elements
are opened and closed meanwhile. The list of formatting elements remembers them:
those that are no longer open are opened again before text (`reopenFormatting`), and an
end tag that crosses other elements splits them (`closeFormatting`).
-/

namespace ComposingProxy.Markup

namespace FormattingEntry

/-- Whether an entry is a node. -/
def isNode (id : NodeId) : FormattingEntry → Bool
  | .marker => false
  | .element other _ => other == id

/-- Whether an entry is a marker. -/
def isMarker : FormattingEntry → Bool
  | .marker => true
  | .element _ _ => false

end FormattingEntry

namespace Construction

/-! ## The list -/

/-- The formatting elements after the newest marker, newest first. -/
def recentFormatting (page : Construction) : List (NodeId × Tag) :=
  (page.formatting.takeWhile (!·.isMarker)).filterMap fun entry =>
    match entry with
    | .marker => none
    | .element id tag => some (id, tag)

/-- The list without a node. -/
def forget (page : Construction) (id : NodeId) : Construction :=
  { page with formatting := page.formatting.eraseP (·.isNode id) }

/-- The list with another entry in the place of a node. -/
def swapFormatting (page : Construction) (id : NodeId) (entry : FormattingEntry) : Construction :=
  { page with formatting := page.formatting.map fun old => if old.isNode id then entry else old }

/-- Adds a marker. -/
def pushMarker (page : Construction) : Construction :=
  { page with formatting := .marker :: page.formatting }

/-- Forgets the formatting elements up to the newest marker, and the marker. -/
def forgetToMarker (page : Construction) : Construction :=
  { page with formatting := (page.formatting.dropWhile (!·.isMarker)).tail }

/-- Whether nothing has to be done for an entry: it is a marker or is open. -/
def isSettled (page : Construction) : FormattingEntry → Bool
  | .marker => true
  | .element id _ => page.openElements.elem id

/-- Opens entries again, the last one of the list first. -/
def reopenEntries (page : Construction) : List FormattingEntry → Construction
  | [] => page
  | .marker :: newer => page.reopenEntries newer
  | .element old tag :: newer =>
    let (id, page) := page.openElement (.html tag.name) tag.attrs
    (page.swapFormatting old (.element id tag)).reopenEntries newer

/-- Opens the formatting elements again that are no longer open. -/
def reopenFormatting (page : Construction) : Construction :=
  page.reopenEntries (page.formatting.takeWhile (!page.isSettled ·)).reverse

/-- Opens a formatting element. Of more than three equal ones the oldest is forgotten. -/
def openFormatting (page : Construction) (tag : Tag) : Construction :=
  let equal := page.recentFormatting.filter (·.2.alike tag)
  let page :=
    if 3 ≤ equal.length then
      match equal.getLast? with
      | some (id, _) => page.forget id
      | none => page
    else page
  let (id, page) := page.openElement (.html tag.name) tag.attrs
  { page with formatting := .element id tag :: page.formatting }

/-! ## End tags -/

/-- Closes elements up to the newest of a name, unless a special element is in between. -/
def closeOrdinary (page : Construction) (tag : String) : Construction :=
  let crossed := page.openElements.takeWhile fun id =>
    !(page.nameOf id).isHtml tag && !(page.nameOf id).isOneOf specialTags
  match page.openElements.drop crossed.length with
  | [] => page
  | id :: older =>
    if (page.nameOf id).isHtml tag then { page with openElements := older } else page

/-- What is done with the elements between a formatting element and a block in it. -/
structure Crossing where
  page : Construction
  /-- The elements that stay open, newest first. -/
  kept : List NodeId := []
  /-- The top of what is moved. -/
  moved : NodeId
  /-- The first copy; the new entry of the list is newer than it. -/
  mark : Option NodeId := none

/-- Splits one of the elements in between if it is a formatting element; those past the third
are only closed. -/
def crossElement (count : Nat) (crossing : Crossing) (id : NodeId) : Crossing :=
  let page := crossing.page
  match page.formatting.find? (·.isNode id) with
  | some (.element _ tag) =>
    if 3 < count then { crossing with page := page.forget id }
    else
      let (copy, page) := page.createElement (.html tag.name) tag.attrs
      let page := page.swapFormatting id (.element copy tag)
      let page := { page with doc := page.doc.appendChild copy crossing.moved }
      { page, kept := crossing.kept ++ [copy], moved := copy, mark := crossing.mark.or (some copy) }
  | _ => crossing

/-- Splits the elements in between, the newest first. -/
def crossElements (count : Nat) (crossing : Crossing) : List NodeId → Crossing
  | [] => crossing
  | id :: older => crossElements (count + 1) (crossElement count crossing id) older

/-- Puts the entry of a split formatting element where it belongs in the list. -/
def placeEntry (page : Construction) (old : NodeId) (mark : Option NodeId)
    (entry : FormattingEntry) : Construction :=
  match mark with
  | none => page.swapFormatting old entry
  | some mark =>
    let newer := page.formatting.takeWhile (!·.isNode mark)
    let rest := page.formatting.drop newer.length
    { page with formatting := (newer ++ entry :: rest).eraseP (·.isNode old) }

/-- The open elements newer than a formatting element, cut at the oldest special one. -/
structure Cut where
  outside : List NodeId
  block : NodeId
  between : List NodeId

/-- Cuts elements, newest first, at the oldest special one. -/
def cut? (page : Construction) (newer : List NodeId) : Option Cut :=
  match newer.reverse.dropWhile fun id => !(page.nameOf id).isOneOf specialTags with
  | [] => none
  | block :: outside =>
    some {
      outside := outside.reverse
      block
      between := newer.drop (outside.length + 1) }

/-- Splits a formatting element, which is open above `older`, around a block in it. -/
def splitFormatting (page : Construction) (id : NodeId) (tag : Tag) (cut : Cut)
    (older : List NodeId) : Construction :=
  let crossing := crossElements 1 { page, moved := cut.block } cut.between
  let page := { crossing.page with
    openElements := cut.outside ++ cut.block :: crossing.kept ++ id :: older
    doc := crossing.page.doc.detach crossing.moved }
  let page := page.putNode (page.placeIn (older.head?.getD Document.root)) crossing.moved
  let (copy, page) := page.createElement (.html tag.name) tag.attrs
  let page := { page with
    doc := (page.doc.moveChildren cut.block copy).appendChild cut.block copy
    openElements := cut.outside ++ copy :: cut.block :: crossing.kept ++ older }
  page.placeEntry id crossing.mark (.element copy tag)

/-- Closes formatting elements of a name, at most `rounds` of them. -/
def closeFormattingRounds (tag : String) : Nat → Construction → Construction
  | 0, page => page
  | rounds + 1, page =>
    match page.recentFormatting.find? (·.2.name == tag) with
    | none => page.closeOrdinary tag
    | some (id, found) =>
      if !page.openElements.elem id then page.forget id
      else if !page.inScope .default (· == id) then page
      else
        let newer := page.openElements.takeWhile (· != id)
        let older := page.openElements.drop (newer.length + 1)
        match page.cut? newer with
        | none => { page.forget id with openElements := older }
        | some cut => closeFormattingRounds tag rounds (page.splitFormatting id found cut older)

/-- The end tag of a formatting element. -/
def closeFormatting (page : Construction) (tag : String) : Construction :=
  match page.current? with
  | some id =>
    if (page.nameOf id).isHtml tag && !page.formatting.any (·.isNode id) then page.pop
    else closeFormattingRounds tag 8 page
  | none => page

end Construction

end ComposingProxy.Markup
