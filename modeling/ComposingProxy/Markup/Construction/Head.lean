import ComposingProxy.Markup.Construction.Formatting

/-!
# The beginning of a page

The modes up to the end of the head. Elements that belong to the head may stand
anywhere, so `inHead` is used by the later modes too.
-/

namespace ComposingProxy.Markup.Construction

/-- Elements of the head that hold nothing. -/
def emptyHeadTags : List String := ["base", "basefont", "bgsound", "link", "meta"]

/-- Elements that belong to the head wherever they stand. -/
def headTags : List String :=
  emptyHeadTags ++ ["noframes", "script", "style", "template", "title"]

/-- End tags that make a missing element appear. -/
def endsEverything (tag : Tag) : Bool := ["body", "html", "br"].elem tag.name

/-- A second start tag of the root only adds its attributes. -/
def mergeRoot (page : Construction) (tag : Tag) : Construction :=
  if page.hasOpen "template" then page
  else
    match page.oldest? with
    | some root => page.addMissing root tag.attrs
    | none => page

/-- Opens a template. -/
def openTemplate (page : Construction) (tag : Tag) : Construction :=
  let page := (page.openTag tag).pushMarker
  { page with
    framesetAllowed := false
    mode := .inTemplate
    templateModes := .inTemplate :: page.templateModes }

/-- Closes a template, if one is open. -/
def closeTemplate (page : Construction) : Construction :=
  if page.hasOpen "template" then
    let page := (page.closeImplied templateImpliedEndTags).popThroughHtml "template"
    let page := page.forgetToMarker
    { page with templateModes := page.templateModes.tail }.restoreMode
  else page

/-- A token before the document type is known; without one the page is laid out the legacy way. -/
def initialMode (page : Construction) (token : Token) : Reaction :=
  match token with
  | .character c =>
    if isSeparator c then page.done else { page with isLegacy := true }.again .beforeHtml
  | .comment text => (page.addTo Document.root (.comment text)).done
  | _ => { page with isLegacy := true }.again .beforeHtml

/-- A token before the root element, which it opens if no tag does. -/
def beforeHtml (page : Construction) (token : Token) : Reaction :=
  let other := (page.openRoot []).again .beforeHead
  match token with
  | .character c => if isSeparator c then page.done else other
  | .comment text => (page.addTo Document.root (.comment text)).done
  | .startTag tag =>
    if tag.name = "html" then { page.openRoot tag.attrs with mode := .beforeHead }.done else other
  | .endTag tag => if tag.name = "head" || endsEverything tag then other else page.done
  | _ => other

/-- Opens the head. -/
def openHead (page : Construction) (tag : Tag) : Construction :=
  let page := page.openTag tag
  { page with head := page.current? }

/-- A token before the head, which it opens if no tag does. -/
def beforeHead (page : Construction) (token : Token) : Reaction :=
  let other := (page.openHead { name := "head" }).again .inHead
  match token with
  | .character c => if isSeparator c then page.done else other
  | .comment text => (page.addComment text).done
  | .startTag tag =>
    if tag.name = "html" then (page.mergeRoot tag).done
    else if tag.name = "head" then { page.openHead tag with mode := .inHead }.done
    else other
  | .endTag tag => if tag.name = "head" || endsEverything tag then other else page.done
  | _ => other

/-- A token in the head. -/
def inHead (page : Construction) (token : Token) : Reaction :=
  let other := page.pop.again .afterHead
  match token with
  | .character c => if isSeparator c then (page.addCharacter c).done else other
  | .comment text => (page.addComment text).done
  | .startTag tag =>
    if tag.name = "html" then (page.mergeRoot tag).done
    else if emptyHeadTags.elem tag.name then (page.addTag tag).done
    else if tag.name = "title" then page.openRaw tag .escapable
    else if ["noframes", "style", "noscript"].elem tag.name then page.openRaw tag .verbatim
    else if tag.name = "script" then page.openRaw tag .script
    else if tag.name = "template" then (page.openTemplate tag).done
    else if tag.name = "head" then page.done
    else other
  | .endTag tag =>
    if tag.name = "head" then { page.pop with mode := .afterHead }.done
    else if endsEverything tag then other
    else if tag.name = "template" then page.closeTemplate.done
    else page.done
  | _ => other

/-- A token between head and body; it opens the body if no tag does. -/
def afterHead (page : Construction) (token : Token) : Reaction :=
  let other := (page.openPlain "body").again .inBody
  match token with
  | .character c => if isSeparator c then (page.addCharacter c).done else other
  | .comment text => (page.addComment text).done
  | .startTag tag =>
    if tag.name = "html" then (page.mergeRoot tag).done
    else if tag.name = "body" then
      { page.openTag tag with framesetAllowed := false, mode := .inBody }.done
    else if tag.name = "frameset" then { page.openTag tag with mode := .inFrameset }.done
    else if headTags.elem tag.name then
      match page.head with
      | some head =>
        let reaction := (page.push head).inHead token
        { reaction with page := reaction.page.close head }
      | none => page.done
    else if tag.name = "head" then page.done
    else other
  | .endTag tag =>
    if tag.name = "template" then page.closeTemplate.done
    else if endsEverything tag then other
    else page.done
  | _ => other

end ComposingProxy.Markup.Construction
