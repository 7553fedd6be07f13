import ComposingProxy.Markup.Construction.Body

/-!
# Tables

The modes inside a table. What does not belong into a table but stands there is put in
front of it.
-/

namespace ComposingProxy.Markup.Construction

/-- Elements that parts of a table are made of. -/
def tablePartTags : List String :=
  ["caption", "col", "colgroup", "tbody", "td", "tfoot", "th", "thead", "tr"]

/-- Groups of rows. -/
def rowGroupTags : List String := ["tbody", "tfoot", "thead"]

/-- The cells of a table. -/
def cellTags : List String := ["td", "th"]

/-- Reads a token as in the body, with nodes moving in front of the table. -/
def fosterInBody (page : Construction) (token : Token) : Reaction :=
  let reaction := { page with fostering := true }.inBody token
  { reaction with page := { reaction.page with fostering := false } }

/-- A character in a table: its place is not known before the next tag. -/
def tableCharacter (page : Construction) (token : Token) : Reaction :=
  if page.currentIs (·.isOneOf tableTags) then
    { page with nextMode := page.mode }.again .inTableText
  else page.fosterInBody token

/-- Puts the text in its place: white space into the table, other text in front of it. -/
def placeTableText (page : Construction) : Construction :=
  let text := page.tableText.reverse
  let page := { page with tableText := [] }
  if text.all isSeparator then text.foldl addCharacter page
  else text.foldl (fun page c => (page.fosterInBody (.character c)).page) page

/-- A token after text in a table: other tokens settle where the text goes. -/
def inTableText (page : Construction) (token : Token) : Reaction :=
  match token with
  | .zero => page.done
  | .character c => { page with tableText := c :: page.tableText }.done
  | _ => page.placeTableText.again page.nextMode

/-- A form in a table holds nothing. -/
def addTableForm (page : Construction) (tag : Tag) : Construction :=
  if page.hasOpen "template" || page.form.isSome then page
  else
    let (id, page) := page.addElement (.html tag.name) tag.attrs
    { page with form := some id }

/-- A token in a table, outside its parts. -/
def inTable (page : Construction) (token : Token) : Reaction :=
  match token with
  | .character _ | .zero => page.tableCharacter token
  | .comment text => (page.addComment text).done
  | .startTag tag =>
    let name := tag.name
    if name = "caption" then
      { (page.popWhileNot Scope.table).pushMarker.openTag tag with mode := .inCaption }.done
    else if name = "colgroup" then
      { (page.popWhileNot Scope.table).openTag tag with mode := .inColumnGroup }.done
    else if name = "col" then
      ((page.popWhileNot Scope.table).openPlain "colgroup").again .inColumnGroup
    else if rowGroupTags.elem name then
      { (page.popWhileNot Scope.table).openTag tag with mode := .inTableBody }.done
    else if name = "tr" || cellTags.elem name then
      ((page.popWhileNot Scope.table).openPlain "tbody").again .inTableBody
    else if name = "table" then
      if page.hasInScope .table "table" then
        let page := page.popThroughHtml "table"
        page.again page.restoredMode
      else page.done
    else if ["style", "script", "template"].elem name then page.inHead token
    else if name = "input" then
      if isHidden tag then (page.addTag tag).done else page.fosterInBody token
    else if name = "form" then (page.addTableForm tag).done
    else page.fosterInBody token
  | .endTag tag =>
    let name := tag.name
    if name = "table" then
      (if page.hasInScope .table "table" then (page.popThroughHtml "table").restoreMode
      else page).done
    else if name = "body" || name = "html" || tablePartTags.elem name then page.done
    else if name = "template" then page.closeTemplate.done
    else page.fosterInBody token
  | .finish => page.finishBody
  | .doctype _ | .fault => page.done

/-- Closes the caption. -/
def closeCaption (page : Construction) : Construction :=
  ((page.closeImplied impliedEndTags).popThroughHtml "caption").forgetToMarker

/-- A token in the caption of a table. -/
def inCaption (page : Construction) (token : Token) : Reaction :=
  match token with
  | .startTag tag =>
    if tablePartTags.elem tag.name then
      if page.hasInScope .table "caption" then page.closeCaption.again .inTable else page.done
    else page.inBody token
  | .endTag tag =>
    if tag.name = "caption" then
      (if page.hasInScope .table "caption" then { page.closeCaption with mode := .inTable }
      else page).done
    else if tag.name = "table" then
      if page.hasInScope .table "caption" then page.closeCaption.again .inTable else page.done
    else if tag.name = "body" || tag.name = "html" || tablePartTags.elem tag.name then page.done
    else page.inBody token
  | _ => page.inBody token

/-- A token in a group of columns. -/
def inColumnGroup (page : Construction) (token : Token) : Reaction :=
  let other := if page.currentIsHtml "colgroup" then page.pop.again .inTable else page.done
  match token with
  | .character c => if isSeparator c then (page.addCharacter c).done else other
  | .comment text => (page.addComment text).done
  | .startTag tag =>
    if tag.name = "html" then (page.mergeRoot tag).done
    else if tag.name = "col" then (page.addTag tag).done
    else if tag.name = "template" then page.inHead token
    else other
  | .endTag tag =>
    if tag.name = "colgroup" then
      (if page.currentIsHtml "colgroup" then { page.pop with mode := .inTable } else page).done
    else if tag.name = "col" then page.done
    else if tag.name = "template" then page.closeTemplate.done
    else other
  | .finish => page.finishBody
  | _ => other

/-- A token in a part of a table, outside its rows. -/
def inTableBody (page : Construction) (token : Token) : Reaction :=
  let leave :=
    if page.inScope .table fun id => (page.nameOf id).isOneOf ["table", "tbody", "tfoot"] then
      (page.popWhileNot Scope.tableBody).pop.again .inTable
    else page.done
  match token with
  | .startTag tag =>
    if tag.name = "tr" then
      { (page.popWhileNot Scope.tableBody).openTag tag with mode := .inRow }.done
    else if cellTags.elem tag.name then
      ((page.popWhileNot Scope.tableBody).openPlain "tr").again .inRow
    else if tablePartTags.elem tag.name then leave
    else page.inTable token
  | .endTag tag =>
    if rowGroupTags.elem tag.name then
      (if page.hasInScope .table tag.name then
        { (page.popWhileNot Scope.tableBody).pop with mode := .inTable }
      else page).done
    else if tag.name = "table" then leave
    else if tag.name = "body" || tag.name = "html" || tablePartTags.elem tag.name then page.done
    else page.inTable token
  | _ => page.inTable token

/-- Closes the row. -/
def closeRow (page : Construction) : Construction := (page.popWhileNot Scope.tableRow).pop

/-- A token in a row, outside its cells. -/
def inRow (page : Construction) (token : Token) : Reaction :=
  let leave :=
    if page.hasInScope .table "tr" then page.closeRow.again .inTableBody else page.done
  match token with
  | .startTag tag =>
    if cellTags.elem tag.name then
      { ((page.popWhileNot Scope.tableRow).openTag tag).pushMarker with mode := .inCell }.done
    else if tablePartTags.elem tag.name then leave
    else page.inTable token
  | .endTag tag =>
    if tag.name = "tr" then
      (if page.hasInScope .table "tr" then { page.closeRow with mode := .inTableBody }
      else page).done
    else if tag.name = "table" then leave
    else if rowGroupTags.elem tag.name then
      if page.hasInScope .table tag.name then leave else page.done
    else if tag.name = "body" || tag.name = "html" || tablePartTags.elem tag.name then page.done
    else page.inTable token
  | _ => page.inTable token

/-- Closes the cell. -/
def closeCell (page : Construction) : Construction :=
  ((page.closeImplied impliedEndTags).popThrough (·.isOneOf cellTags)).forgetToMarker

/-- A token in a cell. -/
def inCell (page : Construction) (token : Token) : Reaction :=
  match token with
  | .startTag tag =>
    if tablePartTags.elem tag.name then
      if page.inScope .table fun id => (page.nameOf id).isOneOf cellTags then
        page.closeCell.again .inRow
      else page.done
    else page.inBody token
  | .endTag tag =>
    if cellTags.elem tag.name then
      (if page.hasInScope .table tag.name then
        { ((page.closeImplied impliedEndTags).popThroughHtml tag.name).forgetToMarker with
          mode := .inRow }
      else page).done
    else if ["body", "caption", "col", "colgroup", "html"].elem tag.name then page.done
    else if tag.name = "table" || tablePartTags.elem tag.name then
      if page.hasInScope .table tag.name then page.closeCell.again .inRow else page.done
    else page.inBody token
  | _ => page.inBody token

end ComposingProxy.Markup.Construction
