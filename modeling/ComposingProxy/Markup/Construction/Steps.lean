import ComposingProxy.Markup.Construction.Tables

/-!
# One token

The remaining modes, content of other vocabularies, and the choice between all of them:
`Construction.take` reads one token.
-/

namespace ComposingProxy.Markup.Construction

/-! ## Selections -/

/-- Closes the newest option. -/
def closeOption (page : Construction) : Construction :=
  if page.currentIsHtml "option" then page.pop else page

/-- Closes the newest group of options. -/
def closeOptionGroup (page : Construction) : Construction :=
  if page.currentIsHtml "optgroup" then page.pop else page

/-- A token in a selection: only options, their groups and rules stand there. -/
def inSelect (page : Construction) (token : Token) : Reaction :=
  match token with
  | .character c => (page.addCharacter c).done
  | .comment text => (page.addComment text).done
  | .startTag tag =>
    let name := tag.name
    if name = "html" then (page.mergeRoot tag).done
    else if name = "option" then (page.closeOption.openTag tag).done
    else if name = "optgroup" then (page.closeOption.closeOptionGroup.openTag tag).done
    else if name = "hr" then (page.closeOption.closeOptionGroup.addTag tag).done
    else if name = "select" then
      (if page.hasInScope .select "select" then (page.popThroughHtml "select").restoreMode
      else page).done
    else if ["input", "keygen", "textarea"].elem name then
      if page.hasInScope .select "select" then
        let page := page.popThroughHtml "select"
        page.again page.restoredMode
      else page.done
    else if name = "script" || name = "template" then page.inHead token
    else page.done
  | .endTag tag =>
    let name := tag.name
    if name = "optgroup" then
      let inGroup := page.openElements[1]?.any fun id => (page.nameOf id).isHtml "optgroup"
      (if inGroup then page.closeOption else page).closeOptionGroup.done
    else if name = "option" then page.closeOption.done
    else if name = "select" then
      (if page.hasInScope .select "select" then (page.popThroughHtml "select").restoreMode
      else page).done
    else if name = "template" then page.closeTemplate.done
    else page.done
  | .finish => page.finishBody
  | .doctype _ | .zero | .fault => page.done

/-- Tags that end a selection in a table. -/
def endsTableSelect (tag : Tag) : Bool :=
  ["caption", "table", "tbody", "tfoot", "thead", "tr", "td", "th"].elem tag.name

/-- A token in a selection in a table: tags of the table close the selection. -/
def inSelectInTable (page : Construction) (token : Token) : Reaction :=
  let leave :=
    let page := page.popThroughHtml "select"
    page.again page.restoredMode
  match token with
  | .startTag tag => if endsTableSelect tag then leave else page.inSelect token
  | .endTag tag =>
    if endsTableSelect tag then
      if page.hasInScope .table tag.name then leave else page.done
    else page.inSelect token
  | _ => page.inSelect token

/-! ## Templates -/

/-- The mode that a start tag asks for in a template. -/
def templateMode (tag : Tag) : Mode :=
  match tag.name with
  | "caption" | "colgroup" | "tbody" | "tfoot" | "thead" => .inTable
  | "col" => .inColumnGroup
  | "tr" => .inTableBody
  | "td" | "th" => .inRow
  | _ => .inBody

/-- A token directly in a template: the first tag decides how the contents are read. -/
def inTemplate (page : Construction) (token : Token) : Reaction :=
  match token with
  | .character _ | .comment _ => page.inBody token
  | .startTag tag =>
    if headTags.elem tag.name then page.inHead token
    else
      let mode := templateMode tag
      { page with templateModes := mode :: page.templateModes.tail }.again mode
  | .endTag tag => if tag.name = "template" then page.closeTemplate.done else page.done
  | .finish => page.finishTemplate
  | .doctype _ | .zero | .fault => page.done

/-! ## Framesets -/

/-- A token in a set of frames. -/
def inFrameset (page : Construction) (token : Token) : Reaction :=
  match token with
  | .character c => if isSeparator c then (page.addCharacter c).done else page.done
  | .comment text => (page.addComment text).done
  | .startTag tag =>
    if tag.name = "html" then (page.mergeRoot tag).done
    else if tag.name = "frameset" then (page.openTag tag).done
    else if tag.name = "frame" then (page.addTag tag).done
    else if tag.name = "noframes" then page.inHead token
    else page.done
  | .endTag tag =>
    if tag.name = "frameset" && page.openElements.length != 1 then
      let page := page.pop
      (if page.context.isNone && !page.currentIsHtml "frameset" then
        { page with mode := .afterFrameset }
      else page).done
    else page.done
  | _ => page.done

/-- A token after a set of frames. -/
def afterFrameset (page : Construction) (token : Token) : Reaction :=
  match token with
  | .character c => if isSeparator c then (page.addCharacter c).done else page.done
  | .comment text => (page.addComment text).done
  | .startTag tag =>
    if tag.name = "html" then (page.mergeRoot tag).done
    else if tag.name = "noframes" then page.inHead token
    else page.done
  | .endTag tag =>
    (if tag.name = "html" then { page with mode := .afterAfterFrameset } else page).done
  | _ => page.done

/-- A token after the root element of a page of frames. -/
def afterAfterFrameset (page : Construction) (token : Token) : Reaction :=
  match token with
  | .character c => if isSeparator c then page.inBody token else page.done
  | .comment text => (page.addTo Document.root (.comment text)).done
  | .startTag tag =>
    if tag.name = "html" then (page.mergeRoot tag).done
    else if tag.name = "noframes" then page.inHead token
    else page.done
  | _ => page.done

/-! ## All modes -/

/-- Reads a token by the rules of the mode. -/
def inMode (page : Construction) (token : Token) : Reaction :=
  match page.mode with
  | .initial => page.initialMode token
  | .beforeHtml => page.beforeHtml token
  | .beforeHead => page.beforeHead token
  | .inHead => page.inHead token
  | .afterHead => page.afterHead token
  | .inBody => page.inBody token
  | .text => page.inText token
  | .inTable => page.inTable token
  | .inTableText => page.inTableText token
  | .inCaption => page.inCaption token
  | .inColumnGroup => page.inColumnGroup token
  | .inTableBody => page.inTableBody token
  | .inRow => page.inRow token
  | .inCell => page.inCell token
  | .inSelect => page.inSelect token
  | .inSelectInTable => page.inSelectInTable token
  | .inTemplate => page.inTemplate token
  | .afterBody => page.afterBody token
  | .inFrameset => page.inFrameset token
  | .afterFrameset => page.afterFrameset token
  | .afterAfterBody => page.afterAfterBody token
  | .afterAfterFrameset => page.afterAfterFrameset token

/-! ## Other vocabularies -/

/-- Whether a token is read by the rules for the content of other vocabularies. -/
def isForeign (page : Construction) (token : Token) : Bool :=
  match page.adjustedCurrent?.map page.nameOf with
  | none => false
  | some name =>
    if name.space == .html then false
    else
      match token with
      | .finish => false
      | .character _ | .zero => !name.holdsHtml
      | .startTag tag =>
        if name.isFormulaText then tag.name == "mglyph" || tag.name == "malignmark"
        else if name.isDrawingHtml then false
        else !(name.space == .mathml && name.tag == "annotation-xml" && tag.name == "svg")
      | _ => true

/-- Start tags that end the content of another vocabulary. -/
def endsForeign (tag : Tag) : Bool :=
  ["b", "big", "blockquote", "body", "br", "center", "code", "dd", "div", "dl", "dt", "em",
    "embed", "h1", "h2", "h3", "h4", "h5", "h6", "head", "hr", "i", "img", "li", "listing",
    "menu", "meta", "nobr", "ol", "p", "pre", "ruby", "s", "small", "span", "strong", "strike",
    "sub", "sup", "table", "tt", "u", "ul", "var"].elem tag.name ||
    (tag.name == "font" && ["color", "face", "size"].any fun name => (tag.attr? name).isSome)

/-- Closes the elements of other vocabularies and reads the token by the rules of the mode. -/
def leaveForeign (page : Construction) (token : Token) : Reaction :=
  (page.popWhileNot fun name => name.space == .html || name.holdsHtml).inMode token

/-- A start tag inside another vocabulary. -/
def foreignStartTag (page : Construction) (tag : Tag) : Construction :=
  let space := ((page.adjustedCurrent?.map page.nameOf).map (·.space)).getD .html
  page.openUnlessClosed space (tag.within space)

/-- An end tag inside another vocabulary closes the newest element of its name; it is read by
the rules of the mode where the search meets an HTML element. -/
def foreignEndTag (page : Construction) (tag : Tag) : Reaction :=
  go page.openElements true
where
  go : List NodeId → Bool → Reaction
    | [], _ | [_], _ => page.done
    | id :: older, isFirst =>
      let name := page.nameOf id
      if !isFirst && name.space == .html then page.inMode (.endTag tag)
      else if Text.eqIgnoringCase name.tag.toList tag.name.toList then
        { page with openElements := older }.done
      else go older false

/-- Reads a token inside another vocabulary. -/
def inForeign (page : Construction) (token : Token) : Reaction :=
  match token with
  | .zero => (page.addCharacter '\uFFFD').done
  | .character c => ((if isSeparator c then page else page.forbidFrameset).addCharacter c).done
  | .comment text => (page.addComment text).done
  | .startTag tag =>
    if endsForeign tag then page.leaveForeign token else (page.foreignStartTag tag).done
  | .endTag tag =>
    if tag.name = "p" || tag.name = "br" then page.leaveForeign token else page.foreignEndTag tag
  | _ => page.done

/-! ## Tokens -/

/-- Reads a token, again in another mode as often as the rules say, at most `rounds` times. -/
def takeAgain (token : Token) : Nat → Construction → Reaction
  | 0, page => page.done
  | rounds + 1, page =>
    let reaction := if page.isForeign token then page.inForeign token else page.inMode token
    match reaction.next with
    | .again mode => takeAgain token rounds { reaction.page with mode }
    | _ => reaction

/-- A document type counts at the beginning of a page only. -/
def takeDoctype (page : Construction) (doctype : Doctype) : Construction :=
  if page.mode = .initial then
    let data := NodeData.doctype doctype.name (doctype.publicId.getD "") (doctype.systemId.getD "")
    { page.addTo Document.root data with isLegacy := doctype.isLegacy, mode := .beforeHtml }
  else page

/-- Reads one token. Every time a token is read again, an element is closed or the mode is a
later one, so the rounds are enough. -/
def take (page : Construction) (token : Token) : Reaction :=
  let drops := page.dropsLineEnd && token == .character '\n'
  let page := { page with dropsLineEnd := false }
  if drops then page.done
  else
    match token with
    | .fault => page.done
    | .doctype doctype => (page.takeDoctype doctype).done
    | _ => takeAgain token (4 * page.openElements.length + 20) page

end ComposingProxy.Markup.Construction
