import ComposingProxy.Markup.Construction.Head

/-!
# The body of a page

The main mode: text and most elements. The rules are tried from the top; a start tag
without a rule of its own opens an element, and an end tag without one closes the
newest element of its name.
-/

namespace ComposingProxy.Markup.Construction

/-! ## Groups of tags -/

/-- Start tags that end a paragraph. -/
def blockStartTags : List String :=
  ["address", "article", "aside", "blockquote", "center", "details", "dialog", "dir", "div", "dl",
    "fieldset", "figcaption", "figure", "footer", "header", "hgroup", "main", "menu", "nav", "ol",
    "p", "search", "section", "summary", "ul"]

/-- End tags that close the blocks in them. -/
def blockEndTags : List String :=
  ["address", "article", "aside", "blockquote", "button", "center", "details", "dialog", "dir",
    "div", "dl", "fieldset", "figcaption", "figure", "footer", "header", "hgroup", "listing",
    "main", "menu", "nav", "ol", "pre", "search", "section", "summary", "ul"]

/-- Elements that take effect on text until they are closed. -/
def formattingTags : List String :=
  ["b", "big", "code", "em", "font", "i", "s", "small", "strike", "strong", "tt", "u"]

/-- Elements inside which formatting begins anew. -/
def objectTags : List String := ["applet", "marquee", "object"]

/-- Elements that hold nothing and count as text. -/
def emptyInlineTags : List String := ["area", "br", "embed", "img", "keygen", "wbr"]

/-- Elements that only stand in a table or a frameset. -/
def misplacedTags : List String :=
  ["caption", "col", "colgroup", "frame", "head", "tbody", "td", "tfoot", "th", "thead", "tr"]

/-! ## Start tags -/

/-- Framesets are no longer allowed. -/
def forbidFrameset (page : Construction) : Construction := { page with framesetAllowed := false }

/-- Whether a tag is an input that is not shown. -/
def isHidden (tag : Tag) : Bool :=
  (tag.attr? "type").any fun value => Text.eqIgnoringCase value.toList "hidden".toList

/-- A second start tag of the body only adds its attributes. -/
def mergeBody (page : Construction) (tag : Tag) : Construction :=
  match page.body? with
  | some body =>
    if page.hasOpen "template" then page else page.forbidFrameset.addMissing body tag.attrs
  | none => page

/-- A frameset takes the place of a body without content. -/
def startFrameset (page : Construction) (tag : Tag) : Construction :=
  match page.body? with
  | some body =>
    if page.framesetAllowed then
      let page := { page with
        doc := page.doc.detach body
        openElements := page.oldest?.toList }
      { page.openTag tag with mode := .inFrameset }
    else page
  | none => page

/-- A heading, which does not stand directly in another one. -/
def startHeading (page : Construction) (tag : Tag) : Construction :=
  let page := page.endParagraph
  let page := if page.currentIs (·.isOneOf headingTags) then page.pop else page
  page.openTag tag

/-- A form, which does not stand in another one outside templates. -/
def startForm (page : Construction) (tag : Tag) : Construction :=
  let inTemplate := page.hasOpen "template"
  if page.form.isSome && !inTemplate then page
  else
    let page := page.endParagraph.openTag tag
    if inTemplate then page else { page with form := page.current? }

/-- An item of a list closes the item before it. -/
def startItem (page : Construction) (tag : Tag) (items : List String) : Construction :=
  let page := page.forbidFrameset
  let bounds := specialTags.filter fun name => !(["address", "div", "p"].elem name)
  let found := page.openElements.find? fun id =>
    (page.nameOf id).isOneOf items || (page.nameOf id).isOneOf bounds
  let page :=
    match (found.map page.nameOf).filter (·.isOneOf items) with
    | some name => (page.closeImpliedExcept name.tag).popThroughHtml name.tag
    | none => page
  page.endParagraph.openTag tag

/-- A button closes the button that is open. -/
def startButton (page : Construction) (tag : Tag) : Construction :=
  let page :=
    if page.hasInScope .default "button" then
      (page.closeImplied impliedEndTags).popThroughHtml "button"
    else page
  page.reopenFormatting.openTag tag |>.forbidFrameset

/-- A link closes the link that is open. -/
def startLink (page : Construction) (tag : Tag) : Construction :=
  let open? := page.recentFormatting.find? fun entry => (page.nameOf entry.1).isHtml "a"
  let page :=
    match open? with
    | some (id, _) => ((page.closeFormatting "a").forget id).close id
    | none => page
  page.reopenFormatting.openFormatting tag

/-- Text that does not break closes the one that is open. -/
def startUnbroken (page : Construction) (tag : Tag) : Construction :=
  let page := page.reopenFormatting
  let page :=
    if page.hasInScope .default "nobr" then (page.closeFormatting "nobr").reopenFormatting else page
  page.openFormatting tag

/-- A selection. -/
def startSelect (page : Construction) (tag : Tag) : Construction :=
  let page := (page.reopenFormatting.openTag tag).forbidFrameset
  let inTable := [Mode.inTable, .inCaption, .inTableBody, .inRow, .inCell].elem page.mode
  { page with mode := if inTable then .inSelectInTable else .inSelect }

/-- The root of a drawing or a formula. -/
def startForeign (page : Construction) (tag : Tag) (space : Namespace) : Construction :=
  page.openUnlessClosed space (tag.opening space)

/-- An image. -/
def addInline (page : Construction) (tag : Tag) : Construction :=
  page.reopenFormatting.addTag tag |>.forbidFrameset

/-- A start tag in the body. -/
def bodyStartTag (page : Construction) (tag : Tag) : Reaction :=
  let name := tag.name
  if name = "html" then (page.mergeRoot tag).done
  else if headTags.elem name then page.inHead (.startTag tag)
  else if name = "body" then (page.mergeBody tag).done
  else if name = "frameset" then (page.startFrameset tag).done
  else if blockStartTags.elem name then (page.endParagraph.openTag tag).done
  else if headingTags.elem name then (page.startHeading tag).done
  else if name = "pre" || name = "listing" then
    { page.endParagraph.openTag tag with dropsLineEnd := true, framesetAllowed := false }.done
  else if name = "form" then (page.startForm tag).done
  else if name = "li" then (page.startItem tag ["li"]).done
  else if name = "dd" || name = "dt" then (page.startItem tag ["dd", "dt"]).done
  else if name = "plaintext" then { page := page.endParagraph.openTag tag, next := .plain }
  else if name = "button" then (page.startButton tag).done
  else if name = "a" then (page.startLink tag).done
  else if formattingTags.elem name then (page.reopenFormatting.openFormatting tag).done
  else if name = "nobr" then (page.startUnbroken tag).done
  else if objectTags.elem name then
    (page.reopenFormatting.openTag tag).pushMarker.forbidFrameset.done
  else if name = "table" then
    let page := if page.isLegacy then page else page.endParagraph
    { (page.openTag tag).forbidFrameset with mode := .inTable }.done
  else if emptyInlineTags.elem name then (page.addInline tag).done
  else if name = "input" then
    let page := page.reopenFormatting.addTag tag
    (if isHidden tag then page else page.forbidFrameset).done
  else if ["param", "source", "track"].elem name then (page.addTag tag).done
  else if name = "hr" then (page.endParagraph.addTag tag).forbidFrameset.done
  else if name = "image" then (page.addInline { tag with name := "img" }).done
  else if name = "textarea" then
    { page with dropsLineEnd := true, framesetAllowed := false }.openRaw tag .escapable
  else if name = "xmp" then page.endParagraph.reopenFormatting.forbidFrameset.openRaw tag .verbatim
  else if name = "iframe" then page.forbidFrameset.openRaw tag .verbatim
  else if name = "noembed" || name = "noscript" then page.openRaw tag .verbatim
  else if name = "select" then (page.startSelect tag).done
  else if name = "optgroup" || name = "option" then
    let page := if page.currentIsHtml "option" then page.pop else page
    (page.reopenFormatting.openTag tag).done
  else if name = "rb" || name = "rtc" then
    let page :=
      if page.hasInScope .default "ruby" then page.closeImplied impliedEndTags else page
    (page.openTag tag).done
  else if name = "rp" || name = "rt" then
    let page := if page.hasInScope .default "ruby" then page.closeImpliedExcept "rtc" else page
    (page.openTag tag).done
  else if name = "math" then (page.startForeign tag .mathml).done
  else if name = "svg" then (page.startForeign tag .svg).done
  else if misplacedTags.elem name then page.done
  else (page.reopenFormatting.openTag tag).done

/-! ## End tags -/

/-- The end tag of a form. -/
def endForm (page : Construction) : Construction :=
  if page.hasOpen "template" then
    if page.hasInScope .default "form" then
      (page.closeImplied impliedEndTags).popThroughHtml "form"
    else page
  else
    match page.form with
    | none => page
    | some form =>
      let page := { page with form := none }
      if page.inScope .default (· == form) then (page.closeImplied impliedEndTags).close form
      else page

/-- The end tag of an item. -/
def endItem (page : Construction) (tag : String) (scope : Scope) : Construction :=
  if page.hasInScope scope tag then (page.closeImpliedExcept tag).popThroughHtml tag else page

/-- The end tag of a heading closes any heading. -/
def endHeading (page : Construction) : Construction :=
  if page.inScope .default fun id => (page.nameOf id).isOneOf headingTags then
    (page.closeImplied impliedEndTags).popThrough (·.isOneOf headingTags)
  else page

/-- An end tag in the body. -/
def bodyEndTag (page : Construction) (tag : Tag) : Reaction :=
  let name := tag.name
  if name = "template" then page.closeTemplate.done
  else if name = "body" then
    (if page.hasInScope .default "body" then { page with mode := .afterBody } else page).done
  else if name = "html" then
    if page.hasInScope .default "body" then page.again .afterBody else page.done
  else if blockEndTags.elem name then
    (if page.hasInScope .default name then
      (page.closeImplied impliedEndTags).popThroughHtml name
    else page).done
  else if name = "form" then page.endForm.done
  else if name = "p" then
    let page := if page.hasInScope .button "p" then page else page.openPlain "p"
    page.closeParagraph.done
  else if name = "li" then (page.endItem name .list).done
  else if name = "dd" || name = "dt" then (page.endItem name .default).done
  else if headingTags.elem name then page.endHeading.done
  else if name = "a" || name = "nobr" || formattingTags.elem name then
    (page.closeFormatting name).done
  else if objectTags.elem name then
    (if page.hasInScope .default name then
      ((page.closeImplied impliedEndTags).popThroughHtml name).forgetToMarker
    else page).done
  else if name = "br" then (page.addInline { name := "br" }).done
  else (page.closeOrdinary name).done

/-! ## The modes -/

/-- The end of the text in a template: the templates that are open are closed. -/
def finishTemplate (page : Construction) : Reaction :=
  if page.hasOpen "template" then
    let page := (page.popThroughHtml "template").forgetToMarker
    let page := { page with templateModes := page.templateModes.tail }
    page.again page.restoredMode
  else page.done

/-- The end of the text. -/
def finishBody (page : Construction) : Reaction :=
  if page.templateModes.isEmpty then page.done else page.finishTemplate

/-- A token in the body. -/
def inBody (page : Construction) (token : Token) : Reaction :=
  match token with
  | .character c =>
    let page := page.reopenFormatting
    let page := if isSeparator c then page else page.forbidFrameset
    (page.addCharacter c).done
  | .comment text => (page.addComment text).done
  | .startTag tag => page.bodyStartTag tag
  | .endTag tag => page.bodyEndTag tag
  | .finish => page.finishBody
  | .doctype _ | .zero | .fault => page.done

/-- Raw text, up to its end tag. -/
def inText (page : Construction) (token : Token) : Reaction :=
  match token with
  | .character c => (page.addCharacter c).done
  | .endTag tag =>
    let page := { page.pop with mode := page.nextMode }
    if tag.name = "script" then page.paused else page.done
  | .finish => page.pop.again page.nextMode
  | _ => page.done

/-- A token after the body: what does not belong there goes back into the body. -/
def afterBody (page : Construction) (token : Token) : Reaction :=
  let other := page.again .inBody
  match token with
  | .character c => if isSeparator c then page.inBody token else other
  | .comment text => (page.addTo (page.oldest?.getD Document.root) (.comment text)).done
  | .startTag tag => if tag.name = "html" then (page.mergeRoot tag).done else other
  | .endTag tag =>
    if tag.name = "html" then
      (if page.context.isSome then page else { page with mode := .afterAfterBody }).done
    else other
  | .finish => page.done
  | _ => other

/-- A token after the root element. -/
def afterAfterBody (page : Construction) (token : Token) : Reaction :=
  let other := page.again .inBody
  match token with
  | .character c => if isSeparator c then page.inBody token else other
  | .comment text => (page.addTo Document.root (.comment text)).done
  | .startTag tag => if tag.name = "html" then (page.mergeRoot tag).done else other
  | .finish => page.done
  | _ => other

end ComposingProxy.Markup.Construction
