import ComposingProxy.Proofs.Markup.Splitting

/-!
# Every page that is read is well nested

Each mode of the reader has its rules, and each rule is made of the steps of a construction: it
opens and closes elements, adds nodes and changes the list of formatting elements. Every one of
those keeps the page sound, so the lemma about a mode goes through its rules in their order, and
`Sound.take` is what they come to: a token keeps a page sound. Two kinds of rules need more than
that: formatting elements are opened for tags of no table and no template only, and a tag of the
head that comes after the head opens the head again for a moment (`Sound.inHead_reopened`).

> `Document.wellNested_ofBytes`, `Document.wellNested_ofFragment`: whatever the text is, the
> document of a page or of a fragment has no cycles, and the contents of templates are their own.
-/

namespace ComposingProxy.Markup.Construction

open Document

variable {page : Construction} {tag : Tag}

namespace Sound

section

variable {c : Prop} [Decidable c] {yes no : Reaction}

/-- A rule of two cases keeps the page sound if each case does under its condition. -/
theorem choiceOf (hyes : c → yes.page.Sound) (hno : no.page.Sound) :
    (if c then yes else no).page.Sound := by
  split
  · next hc => exact hyes hc
  · exact hno

/-- A rule of two cases keeps the page sound if both cases do. -/
theorem choice (hyes : yes.page.Sound) (hno : no.page.Sound) :
    (if c then yes else no).page.Sound :=
  choiceOf (fun _ => hyes) hno

end

theorem restoreMode (h : page.Sound) : page.restoreMode.Sound := h

/-! ## The beginning of a page -/

/-- A second start tag of the root only adds attributes to an element that is there. -/
theorem mergeRoot (h : page.Sound) (tag : Tag) : (page.mergeRoot tag).Sound := by
  unfold Construction.mergeRoot
  split
  · exact h
  · split
    · exact h.addMissing _ _
    · exact h

/-- A template is opened like any element, and its marker is no formatting element. -/
theorem openTemplate (h : page.Sound) (tag : Tag) : (page.openTemplate tag).Sound :=
  (h.openTag tag).pushMarker

/-- The end of a template closes elements and forgets formatting elements. -/
theorem closeTemplate (h : page.Sound) : page.closeTemplate.Sound := by
  unfold Construction.closeTemplate
  split
  · exact ((h.closeImplied _).popThroughHtml _).forgetToMarker
  · exact h

/-- An element of raw text is opened like any other; only the mode is another. -/
theorem openRaw (h : page.Sound) (tag : Tag) (kind : RawKind) :
    (page.openRaw tag kind).page.Sound :=
  h.openTag tag

/-- A comment or a document type may be put into the document itself. -/
theorem addToRoot (h : page.Sound) (data : NodeData) (hdata : contentsOf data = none) :
    (page.addTo Document.root data).Sound :=
  h.addTo h.nested.root.1 hdata

/-- Before the document type at most a comment is added. -/
theorem initialMode (h : page.Sound) (token : Token) : (page.initialMode token).page.Sound := by
  cases token with
  | character c => exact choice h h
  | comment text => exact h.addToRoot _ rfl
  | _ => exact h

/-- Before the root element a token is dropped, is a comment, or opens the root element. -/
theorem beforeHtml (h : page.Sound) (token : Token) : (page.beforeHtml token).page.Sound := by
  have hother : (page.openRoot []).Sound := h.openRoot []
  cases token with
  | character c => exact choice h hother
  | comment text => exact h.addToRoot _ rfl
  | startTag tag => exact choice (h.openRoot tag.attrs) hother
  | endTag tag => exact choice hother h
  | _ => exact hother

/-- The head that is remembered is the element that was just opened. -/
theorem openHead (h : page.Sound) (tag : Tag) : (page.openHead tag).Sound := by
  obtain ⟨id, doc, hopen, hnew⟩ := h.exists_openElement (.html tag.name) tag.attrs
  have hopened : Sound { page with doc, openElements := id :: page.openElements } := h.opened hnew
  rw [Construction.openHead, Construction.openTag, hopen]
  exact { hopened with head := fun x hx => Option.some.inj hx ▸ hnew.isSome }

theorem beforeHead (h : page.Sound) (token : Token) : (page.beforeHead token).page.Sound := by
  have hother : (page.openHead { name := "head" }).Sound := h.openHead _
  cases token with
  | character c => exact choice h hother
  | comment text => exact h.addComment text
  | startTag tag =>
    refine choice (h.mergeRoot tag) ?_
    exact choice (h.openHead tag) hother
  | endTag tag => exact choice hother h
  | _ => exact hother

/-- In the head elements are added, opened with raw text or as templates, or the head is closed. -/
theorem inHead (h : page.Sound) (token : Token) : (page.inHead token).page.Sound := by
  cases token with
  | character c => exact choice (h.addCharacter c) h.pop
  | comment text => exact h.addComment text
  | startTag tag =>
    refine choice (h.mergeRoot tag) ?_
    refine choice (h.addTag tag) ?_
    refine choice (h.openRaw tag _) ?_
    refine choice (h.openRaw tag _) ?_
    refine choice (h.openRaw tag _) ?_
    refine choice (h.openTemplate tag) ?_
    exact choice h h.pop
  | endTag tag =>
    refine choice h.pop ?_
    refine choice h.pop ?_
    exact choice h.closeTemplate h
  | _ => exact h.pop

/-! While a tag of the head is read after the head, the head is open again on top of elements that
may be inside it. It is closed at once, and what was opened meanwhile stays. -/

section

variable {head : NodeId}

/-- An element is added while the head is open again: the head was there, so its place is one
too. -/
theorem exists_addElement_reopened (h : page.Sound) (hhead : page.doc.Has head) (tag : Tag) :
    ∃ id doc, (page.push head).addElement (.html tag.name) tag.attrs =
        (id, { page.push head with doc }) ∧ NewElement page.doc doc id (.html tag.name) := by
  have hnested : (page.push head).doc.WellNested := h.nested
  exact exists_addElement hnested
    (List.forall_mem_cons.mpr ⟨hhead, fun _ hid => h.ordered.has hid⟩) _ _

/-- The head is closed again at once, and nothing else is. -/
theorem close_push (page : Construction) (head : NodeId) :
    (page.push head).close head = page := by
  rw [Construction.close, push, List.erase_cons_head]

/-- An element without content may be added to the reopened head. -/
theorem addTag_reopened (h : page.Sound) (hhead : page.doc.Has head) (tag : Tag) :
    (((page.push head).addTag tag).close head).Sound := by
  obtain ⟨id, doc, hadd, hnew⟩ := h.exists_addElement_reopened hhead tag
  have hadded : Sound { page with doc } := h.adds hnew.adds hnew.wellNested
  rw [Construction.addTag, hadd]
  exact (close_push { page with doc } head).symm ▸ hadded

/-- An element that is opened in the reopened head stays open when the head is closed, in an order
that does not mention the head. -/
theorem openTag_reopened (h : page.Sound) (hhead : page.doc.Has head) (tag : Tag) :
    (((page.push head).openTag tag).close head).Sound := by
  obtain ⟨id, doc, hadd, hnew⟩ := h.exists_addElement_reopened hhead tag
  have hne : id ≠ head := fun heq => hnew.new (heq ▸ hhead)
  have hopened : IsSound doc (id :: page.openElements) page.head page.formatting := h.opened hnew
  have hstack : (id :: head :: page.openElements).erase head = id :: page.openElements := by
    rw [List.erase_cons_tail (by simpa using hne), List.erase_cons_head]
  rw [← hstack] at hopened
  rw [Construction.openTag, Construction.openElement, hadd]
  exact hopened

theorem mergeRoot_reopened (h : page.Sound) (head : NodeId) (tag : Tag) :
    (((page.push head).mergeRoot tag).close head).Sound := by
  have hclosed : ((page.push head).close head).Sound := (close_push page head).symm ▸ h
  unfold Construction.mergeRoot
  split
  · exact hclosed
  · split
    · exact hclosed.addMissing _ _
    · exact hclosed

/-- Every start tag of the head may be read with the head open again. -/
theorem inHead_reopened (h : page.Sound) (hhead : page.doc.Has head) (tag : Tag) :
    (((page.push head).inHead (.startTag tag)).page.close head).Sound := by
  have hclosed : ((page.push head).close head).Sound := (close_push page head).symm ▸ h
  have hopened := h.openTag_reopened hhead tag
  unfold Construction.inHead
  dsimp only
  split
  · exact h.mergeRoot_reopened head tag
  split
  · exact h.addTag_reopened hhead tag
  split
  · exact hopened
  split
  · exact hopened
  split
  · exact hopened
  split
  · exact hopened.pushMarker
  split
  · exact hclosed
  · exact h.close head

end

/-- Between head and body a token opens the body, or is read in the reopened head. -/
theorem afterHead (h : page.Sound) (token : Token) : (page.afterHead token).page.Sound := by
  have hother : (page.openPlain "body").Sound := h.openPlain "body"
  cases token with
  | character c => exact choice (h.addCharacter c) hother
  | comment text => exact h.addComment text
  | startTag tag =>
    refine choice (h.mergeRoot tag) ?_
    refine choice (h.openTag tag) ?_
    refine choice (h.openTag tag) ?_
    refine choice ?_ (choice h hother)
    -- a tag of the head is read with the head open, which is only there if one was opened before
    cases hhead : page.head with
    | none => exact h
    | some head => exact h.inHead_reopened (has_of_isSome (h.head head hhead)) tag
  | endTag tag =>
    refine choice h.closeTemplate ?_
    exact choice hother h
  | _ => exact hother

/-! ## The body of a page -/

/-- A second start tag of the body only adds attributes to an element that is there. -/
theorem mergeBody (h : page.Sound) (tag : Tag) : (page.mergeBody tag).Sound := by
  unfold Construction.mergeBody
  split
  · split
    · exact h
    · exact h.addMissing _ _
  · exact h

/-- All elements may be closed but the root. -/
theorem oldest (h : page.Sound) : Sound { page with openElements := page.oldest?.toList } := by
  refine h.shrink ?_
  unfold oldest?
  cases hstack : page.openElements.getLast? with
  | none => exact List.nil_sublist _
  | some id => exact List.singleton_sublist.mpr (List.mem_of_getLast? hstack)

/-- A node may be taken out of its place, whether it is open or not. -/
theorem detach (h : page.Sound) (id : NodeId) : Sound { page with doc := page.doc.detach id } :=
  h.adds (Adds.detach h.nested.wellFormed id) (h.nested.detach id)

/-- A frameset takes the body out of the page and closes everything in it. -/
theorem startFrameset (h : page.Sound) (tag : Tag) : (page.startFrameset tag).Sound := by
  unfold Construction.startFrameset
  split
  · next body _ =>
    split
    · exact (h.detach body).oldest.openTag tag
    · exact h
  · exact h

/-- A heading closes a paragraph and a heading in front of it, and is opened. -/
theorem startHeading (h : page.Sound) (tag : Tag) : (page.startHeading tag).Sound := by
  unfold Construction.startHeading
  dsimp only
  split
  · exact h.endParagraph.pop.openTag tag
  · exact h.endParagraph.openTag tag

/-- A form is opened unless another one is open. -/
theorem startForm (h : page.Sound) (tag : Tag) : (page.startForm tag).Sound := by
  unfold Construction.startForm
  dsimp only
  split
  · exact h
  split
  · exact h.endParagraph.openTag tag
  · exact h.endParagraph.openTag tag

/-- Whether a frameset may come is no part of the invariant. -/
theorem forbidFrameset (h : page.Sound) : page.forbidFrameset.Sound := h

/-- An item closes the item before it and what is open in that, and is opened. -/
theorem startItem (h : page.Sound) (tag : Tag) (items : List String) :
    (page.startItem tag items).Sound := by
  have hforbidden := h.forbidFrameset
  unfold Construction.startItem
  dsimp only
  generalize page.forbidFrameset = page at *
  split
  · exact ((hforbidden.closeImpliedExcept _).popThroughHtml _).endParagraph.openTag tag
  · exact hforbidden.endParagraph.openTag tag

theorem startButton (h : page.Sound) (tag : Tag) : (page.startButton tag).Sound := by
  unfold Construction.startButton
  dsimp only
  split
  · exact ((h.closeImplied _).popThroughHtml _).reopenFormatting.openTag tag
  · exact h.reopenFormatting.openTag tag

/-- A link may close the one that is open, with all the moves of an end tag, before it is opened as
a formatting element. -/
theorem startLink (h : page.Sound) (hordinary : tag.IsOrdinary) : (page.startLink tag).Sound := by
  unfold Construction.startLink
  dsimp only
  split
  · exact (((h.closeFormatting "a").forget _).close _).reopenFormatting.openFormatting hordinary
  · exact h.reopenFormatting.openFormatting hordinary

/-- Unbroken text may close the one that is open before it is opened as a formatting element. -/
theorem startUnbroken (h : page.Sound) (hordinary : tag.IsOrdinary) :
    (page.startUnbroken tag).Sound := by
  unfold Construction.startUnbroken
  dsimp only
  split
  · have hclosed := h.reopenFormatting.closeFormatting "nobr"
    exact hclosed.reopenFormatting.openFormatting hordinary
  · exact h.reopenFormatting.openFormatting hordinary

theorem startSelect (h : page.Sound) (tag : Tag) : (page.startSelect tag).Sound :=
  h.reopenFormatting.openTag tag

theorem addInline (h : page.Sound) (tag : Tag) : (page.addInline tag).Sound :=
  h.reopenFormatting.addTag tag

/-- The root of a drawing or a formula is opened unless it closes itself. -/
theorem startForeign (h : page.Sound) (tag : Tag) (space : Namespace) :
    (page.startForeign tag space).Sound :=
  h.openUnlessClosed _ _

/-- A tag is ordinary if it is in a list of ordinary names. -/
theorem isOrdinary_of_mem {tags : List String} (h : tag.name ∈ tags)
    (hordinary : ∀ name ∈ tags, name ∉ ["table", "template"]) : tag.IsOrdinary :=
  hordinary _ h

/-- Every start tag in the body keeps the page sound, by the rule that reads it. -/
theorem bodyStartTag (h : page.Sound) (tag : Tag) : (page.bodyStartTag tag).page.Sound := by
  have hforbidden := h.forbidFrameset
  have hreopened := h.reopenFormatting
  have hended := h.endParagraph
  have htextarea : Sound { page with dropsLineEnd := true, framesetAllowed := false } := h
  unfold Construction.bodyStartTag
  dsimp only
  -- the rules are tried from the top, and there is one step for each
  refine choice (h.mergeRoot tag) ?_
  refine choice (h.inHead _) ?_
  refine choice (h.mergeBody tag) ?_
  refine choice (h.startFrameset tag) ?_
  refine choice (hended.openTag tag) ?_
  refine choice (h.startHeading tag) ?_
  refine choice (hended.openTag tag) ?_
  refine choice (h.startForm tag) ?_
  refine choice (h.startItem tag _) ?_
  refine choice (h.startItem tag _) ?_
  refine choice (hended.openTag tag) ?_
  refine choice (h.startButton tag) ?_
  refine choiceOf (fun hname => h.startLink ?_) ?_
  · rw [Tag.IsOrdinary, hname]
    decide
  refine choiceOf (fun hname => hreopened.openFormatting ?_) ?_
  · exact isOrdinary_of_mem (List.elem_iff.mp hname) (by decide)
  refine choiceOf (fun hname => h.startUnbroken ?_) ?_
  · rw [Tag.IsOrdinary, hname]
    decide
  refine choice ((hreopened.openTag tag).pushMarker) ?_
  refine choice ?_ ?_
  · split
    · exact h.openTag tag
    · exact hended.openTag tag
  refine choice (h.addInline tag) ?_
  refine choice ?_ ?_
  · split
    · exact hreopened.addTag tag
    · exact hreopened.addTag tag
  refine choice (h.addTag tag) ?_
  refine choice (hended.addTag tag) ?_
  refine choice (h.addInline _) ?_
  refine choice (htextarea.openRaw tag _) ?_
  refine choice (hended.reopenFormatting.forbidFrameset.openRaw tag _) ?_
  refine choice (hforbidden.openRaw tag _) ?_
  refine choice (h.openRaw tag _) ?_
  refine choice (h.startSelect tag) ?_
  refine choice ?_ ?_
  · split
    · exact h.pop.reopenFormatting.openTag tag
    · exact hreopened.openTag tag
  refine choice ?_ ?_
  · split
    · exact (h.closeImplied _).openTag tag
    · exact h.openTag tag
  refine choice ?_ ?_
  · split
    · exact (h.closeImpliedExcept _).openTag tag
    · exact h.openTag tag
  refine choice (h.startForeign tag _) ?_
  refine choice (h.startForeign tag _) ?_
  refine choice h ?_
  exact hreopened.openTag tag

/-- Elements may be closed up to one of a name, those first that need no end tag. -/
theorem closeImpliedThrough (h : page.Sound) (tag : String) :
    ((page.closeImplied impliedEndTags).popThroughHtml tag).Sound :=
  (h.closeImplied _).popThroughHtml tag

/-- The end tag of a form closes the form wherever it is open, even below other elements. -/
theorem endForm (h : page.Sound) : page.endForm.Sound := by
  unfold Construction.endForm
  split
  · split
    · exact h.closeImpliedThrough _
    · exact h
  · split
    · exact h
    · dsimp only
      split
      · exact (Sound.closeImplied h _).close _
      · exact h

theorem endItem (h : page.Sound) (tag : String) (scope : Scope) :
    (page.endItem tag scope).Sound := by
  unfold Construction.endItem
  split
  · exact (h.closeImpliedExcept tag).popThroughHtml tag
  · exact h

theorem endHeading (h : page.Sound) : page.endHeading.Sound := by
  unfold Construction.endHeading
  split
  · exact (h.closeImplied _).popThrough _
  · exact h

/-- Every end tag in the body keeps the page sound, by the rule that reads it. -/
theorem bodyEndTag (h : page.Sound) (tag : Tag) : (page.bodyEndTag tag).page.Sound := by
  unfold Construction.bodyEndTag
  dsimp only
  refine choice h.closeTemplate ?_
  refine choice ?_ ?_
  · split
    · exact h
    · exact h
  refine choice (choice h h) ?_
  refine choice ?_ ?_
  · split
    · exact h.closeImpliedThrough tag.name
    · exact h
  refine choice h.endForm ?_
  refine choice ?_ ?_
  · split
    · exact h.closeParagraph
    · exact (h.openPlain "p").closeParagraph
  refine choice (h.endItem _ _) ?_
  refine choice (h.endItem _ _) ?_
  refine choice h.endHeading ?_
  refine choice (h.closeFormatting _) ?_
  refine choice ?_ ?_
  · split
    · exact (h.closeImpliedThrough tag.name).forgetToMarker
    · exact h
  refine choice (h.addInline _) ?_
  exact h.closeOrdinary _

/-- At the end of the text a template is closed, and its formatting elements are forgotten. -/
theorem finishTemplate (h : page.Sound) : page.finishTemplate.page.Sound := by
  unfold Construction.finishTemplate
  split
  · exact (h.popThroughHtml "template").forgetToMarker
  · exact h

theorem finishBody (h : page.Sound) : page.finishBody.page.Sound := by
  unfold Construction.finishBody
  split
  · exact h
  · exact h.finishTemplate

/-- In the body a character first opens the formatting elements again that were closed. -/
theorem inBody (h : page.Sound) (token : Token) : (page.inBody token).page.Sound := by
  unfold Construction.inBody
  cases token with
  | character c =>
    dsimp only
    split
    · exact h.reopenFormatting.addCharacter c
    · exact h.reopenFormatting.forbidFrameset.addCharacter c
  | comment text => exact h.addComment text
  | startTag tag => exact h.bodyStartTag tag
  | endTag tag => exact h.bodyEndTag tag
  | finish => exact h.finishBody
  | _ => exact h

/-- Raw text is added to its element, which its end tag or the end of the text closes. -/
theorem inText (h : page.Sound) (token : Token) : (page.inText token).page.Sound := by
  unfold Construction.inText
  cases token with
  | character c => exact h.addCharacter c
  | endTag tag => exact choice h.pop h.pop
  | finish => exact h.pop
  | _ => exact h

/-- The oldest open element, or the document where none is open, is there. -/
theorem has_oldest (h : page.Sound) : page.doc.Has (page.oldest?.getD Document.root) := by
  cases hstack : page.oldest? with
  | none => exact h.nested.root.1
  | some id => exact h.ordered.has (List.mem_of_getLast? hstack)

/-- After the body a comment goes below the root element; most tokens go back into the body. -/
theorem afterBody (h : page.Sound) (token : Token) : (page.afterBody token).page.Sound := by
  unfold Construction.afterBody
  cases token with
  | character c => exact choice (h.inBody _) h
  | comment text => exact h.addTo h.has_oldest rfl
  | startTag tag => exact choice (h.mergeRoot tag) h
  | endTag tag =>
    refine choice ?_ h
    split
    · exact h
    · exact h
  | _ => exact h

theorem afterAfterBody (h : page.Sound) (token : Token) :
    (page.afterAfterBody token).page.Sound := by
  unfold Construction.afterAfterBody
  cases token with
  | character c => exact choice (h.inBody _) h
  | comment text => exact h.addToRoot _ rfl
  | startTag tag => exact choice (h.mergeRoot tag) h
  | _ => exact h

/-! ## Tables -/

/-- Whether nodes move in front of the table is no part of the invariant, so a token is read as in
the body. -/
theorem fosterInBody (h : page.Sound) (token : Token) : (page.fosterInBody token).page.Sound := by
  have hfostering : Sound { page with fostering := true } := h
  exact hfostering.inBody token

/-- A character in a table waits for its place, or is read as in the body. -/
theorem tableCharacter (h : page.Sound) (token : Token) :
    (page.tableCharacter token).page.Sound :=
  choice h (h.fosterInBody token)

/-- A run of sound steps is sound. -/
theorem foldl {α : Type} {f : Construction → α → Construction}
    (hf : ∀ (page : Construction) (a : α), page.Sound → (f page a).Sound) :
    ∀ (steps : List α) {page : Construction}, page.Sound → (steps.foldl f page).Sound := by
  intro steps
  induction steps with
  | nil => intro page h; exact h
  | cons a rest ih => intro page h; exact ih (hf page a h)

/-- Text in a table is put in its place character by character. -/
theorem placeTableText (h : page.Sound) : page.placeTableText.Sound := by
  have hemptied : Sound { page with tableText := [] } := h
  unfold Construction.placeTableText
  dsimp only
  split
  · exact foldl (fun _ c hpage => hpage.addCharacter c) _ hemptied
  · exact foldl (fun _ c hpage => hpage.fosterInBody (.character c)) _ hemptied

/-- Characters in a table are collected, and put in their place before the next tag. -/
theorem inTableText (h : page.Sound) (token : Token) : (page.inTableText token).page.Sound := by
  unfold Construction.inTableText
  cases token with
  | zero => exact h
  | character c => exact h
  | _ => exact h.placeTableText

/-- A form in a table is added and not opened. -/
theorem addTableForm (h : page.Sound) (tag : Tag) : (page.addTableForm tag).Sound := by
  unfold Construction.addTableForm
  split
  · exact h
  · exact h.addTag tag

/-- In a table the parts of it are opened, and what does not belong there is read as in the
body. -/
theorem inTable (h : page.Sound) (token : Token) : (page.inTable token).page.Sound := by
  have hcleared := h.popWhileNot Scope.table
  have hfostered := h.fosterInBody
  cases token with
  | character c => exact h.tableCharacter _
  | zero => exact h.tableCharacter _
  | comment text => exact h.addComment text
  | startTag tag =>
    refine choice (hcleared.pushMarker.openTag tag) ?_
    refine choice (hcleared.openTag tag) ?_
    refine choice (hcleared.openPlain "colgroup") ?_
    refine choice (hcleared.openTag tag) ?_
    refine choice (hcleared.openPlain "tbody") ?_
    refine choice ?_ ?_
    · exact choice (h.popThroughHtml "table") h
    refine choice (h.inHead _) ?_
    refine choice ?_ ?_
    · exact choice (h.addTag tag) (hfostered _)
    refine choice (h.addTableForm tag) ?_
    exact hfostered _
  | endTag tag =>
    refine choice ?_ ?_
    · split
      · exact h.popThroughHtml "table"
      · exact h
    refine choice h ?_
    refine choice h.closeTemplate ?_
    exact hfostered _
  | finish => exact h.finishBody
  | _ => exact h

theorem closeCaption (h : page.Sound) : page.closeCaption.Sound :=
  (h.closeImpliedThrough "caption").forgetToMarker

/-- In a caption the tags of the table close it, and all others are read as in the body. -/
theorem inCaption (h : page.Sound) (token : Token) : (page.inCaption token).page.Sound := by
  have hleave : ∀ mode, (if page.hasInScope .table "caption" then page.closeCaption.again mode
      else page.done).page.Sound := fun _ => choice h.closeCaption h
  cases token with
  | startTag tag => exact choice (hleave _) (h.inBody _)
  | endTag tag =>
    refine choice ?_ ?_
    · split
      · exact h.closeCaption
      · exact h
    refine choice (hleave _) ?_
    exact choice h (h.inBody _)
  | _ => exact h.inBody _

/-- In a group of columns only columns are added; other tags close it. -/
theorem inColumnGroup (h : page.Sound) (token : Token) :
    (page.inColumnGroup token).page.Sound := by
  have hother : (if page.currentIsHtml "colgroup" then page.pop.again .inTable
      else page.done).page.Sound := choice h.pop h
  cases token with
  | character c => exact choice (h.addCharacter c) hother
  | comment text => exact h.addComment text
  | startTag tag =>
    refine choice (h.mergeRoot tag) ?_
    refine choice (h.addTag tag) ?_
    exact choice (h.inHead _) hother
  | endTag tag =>
    refine choice ?_ ?_
    · split
      · exact h.pop
      · exact h
    refine choice h ?_
    exact choice h.closeTemplate hother
  | finish => exact h.finishBody
  | _ => exact hother

/-- In a group of rows a row is opened, or the group is closed. -/
theorem inTableBody (h : page.Sound) (token : Token) : (page.inTableBody token).page.Sound := by
  have hcleared := h.popWhileNot Scope.tableBody
  have hleave : (if page.inScope .table fun id =>
        (page.nameOf id).isOneOf ["table", "tbody", "tfoot"] then
      (page.popWhileNot Scope.tableBody).pop.again .inTable
    else page.done).page.Sound := choice hcleared.pop h
  cases token with
  | startTag tag =>
    refine choice (hcleared.openTag tag) ?_
    refine choice (hcleared.openPlain "tr") ?_
    exact choice hleave (h.inTable _)
  | endTag tag =>
    refine choice ?_ ?_
    · split
      · exact hcleared.pop
      · exact h
    refine choice hleave ?_
    exact choice h (h.inTable _)
  | _ => exact h.inTable _

theorem closeRow (h : page.Sound) : page.closeRow.Sound := (h.popWhileNot Scope.tableRow).pop

/-- In a row a cell is opened, or the row is closed. -/
theorem inRow (h : page.Sound) (token : Token) : (page.inRow token).page.Sound := by
  have hleave : (if page.hasInScope .table "tr" then page.closeRow.again .inTableBody
      else page.done).page.Sound := choice h.closeRow h
  cases token with
  | startTag tag =>
    refine choice ?_ (choice hleave (h.inTable _))
    exact ((h.popWhileNot Scope.tableRow).openTag tag).pushMarker
  | endTag tag =>
    refine choice ?_ ?_
    · split
      · exact h.closeRow
      · exact h
    refine choice hleave ?_
    refine choice (choice hleave h) ?_
    exact choice h (h.inTable _)
  | _ => exact h.inTable _

theorem closeCell (h : page.Sound) : page.closeCell.Sound :=
  ((h.closeImplied _).popThrough _).forgetToMarker

/-- In a cell the tags of the table close it, and all others are read as in the body. -/
theorem inCell (h : page.Sound) (token : Token) : (page.inCell token).page.Sound := by
  cases token with
  | startTag tag =>
    refine choice ?_ (h.inBody _)
    exact choice h.closeCell h
  | endTag tag =>
    refine choice ?_ ?_
    · split
      · exact (h.closeImpliedThrough tag.name).forgetToMarker
      · exact h
    refine choice h ?_
    refine choice (choice h.closeCell h) ?_
    exact h.inBody _
  | _ => exact h.inBody _

/-! ## Selections, templates and framesets -/

theorem closeOption (h : page.Sound) : page.closeOption.Sound := by
  unfold Construction.closeOption
  split
  · exact h.pop
  · exact h

theorem closeOptionGroup (h : page.Sound) : page.closeOptionGroup.Sound := by
  unfold Construction.closeOptionGroup
  split
  · exact h.pop
  · exact h

/-- A selection that is in scope is closed with all that is open in it. -/
theorem closeSelect (h : page.Sound) :
    (if page.hasInScope .select "select" then (page.popThroughHtml "select").restoreMode
      else page).Sound := by
  split
  · exact h.popThroughHtml "select"
  · exact h

/-- In a selection only options, their groups and rules are added. -/
theorem inSelect (h : page.Sound) (token : Token) : (page.inSelect token).page.Sound := by
  have hclosed := h.closeOption.closeOptionGroup
  cases token with
  | character c => exact h.addCharacter c
  | comment text => exact h.addComment text
  | startTag tag =>
    refine choice (h.mergeRoot tag) ?_
    refine choice (h.closeOption.openTag tag) ?_
    refine choice (hclosed.openTag tag) ?_
    refine choice (hclosed.addTag tag) ?_
    refine choice h.closeSelect ?_
    refine choice (choice (h.popThroughHtml "select") h) ?_
    exact choice (h.inHead _) h
  | endTag tag =>
    refine choice ?_ ?_
    · split
      · exact hclosed
      · exact h.closeOptionGroup
    refine choice h.closeOption ?_
    refine choice h.closeSelect ?_
    exact choice h.closeTemplate h
  | finish => exact h.finishBody
  | _ => exact h

/-- In a selection in a table the tags of the table close it. -/
theorem inSelectInTable (h : page.Sound) (token : Token) :
    (page.inSelectInTable token).page.Sound := by
  have hleave := h.popThroughHtml "select"
  cases token with
  | startTag tag => exact choice hleave (h.inSelect _)
  | endTag tag =>
    exact choice (choice hleave h) (h.inSelect _)
  | _ => exact h.inSelect _

/-- In a template the first tag decides the mode and nothing else. -/
theorem inTemplate (h : page.Sound) (token : Token) : (page.inTemplate token).page.Sound := by
  cases token with
  | character c => exact h.inBody _
  | comment text => exact h.inBody _
  | startTag tag => exact choice (h.inHead _) h
  | endTag tag => exact choice h.closeTemplate h
  | finish => exact h.finishTemplate
  | _ => exact h

/-- In a frameset only frames and framesets are added. -/
theorem inFrameset (h : page.Sound) (token : Token) : (page.inFrameset token).page.Sound := by
  cases token with
  | character c => exact choice (h.addCharacter c) h
  | comment text => exact h.addComment text
  | startTag tag =>
    refine choice (h.mergeRoot tag) ?_
    refine choice (h.openTag tag) ?_
    refine choice (h.addTag tag) ?_
    exact choice (h.inHead _) h
  | endTag tag =>
    refine choice ?_ h
    split
    · exact h.pop
    · exact h.pop
  | _ => exact h

theorem afterFrameset (h : page.Sound) (token : Token) :
    (page.afterFrameset token).page.Sound := by
  cases token with
  | character c => exact choice (h.addCharacter c) h
  | comment text => exact h.addComment text
  | startTag tag =>
    refine choice (h.mergeRoot tag) ?_
    exact choice (h.inHead _) h
  | endTag tag =>
    unfold Construction.afterFrameset
    dsimp only
    split
    · exact h
    · exact h
  | _ => exact h

theorem afterAfterFrameset (h : page.Sound) (token : Token) :
    (page.afterAfterFrameset token).page.Sound := by
  cases token with
  | character c => exact choice (h.inBody _) h
  | comment text => exact h.addToRoot _ rfl
  | startTag tag =>
    refine choice (h.mergeRoot tag) ?_
    exact choice (h.inHead _) h
  | _ => exact h

/-! ## All tokens -/

/-- A token is read by the rules of the mode, and each of them keeps the page sound. -/
theorem inMode (h : page.Sound) (token : Token) : (page.inMode token).page.Sound := by
  unfold Construction.inMode
  cases page.mode with
  | initial => exact h.initialMode token
  | beforeHtml => exact h.beforeHtml token
  | beforeHead => exact h.beforeHead token
  | inHead => exact h.inHead token
  | afterHead => exact h.afterHead token
  | inBody => exact h.inBody token
  | text => exact h.inText token
  | inTable => exact h.inTable token
  | inTableText => exact h.inTableText token
  | inCaption => exact h.inCaption token
  | inColumnGroup => exact h.inColumnGroup token
  | inTableBody => exact h.inTableBody token
  | inRow => exact h.inRow token
  | inCell => exact h.inCell token
  | inSelect => exact h.inSelect token
  | inSelectInTable => exact h.inSelectInTable token
  | inTemplate => exact h.inTemplate token
  | afterBody => exact h.afterBody token
  | inFrameset => exact h.inFrameset token
  | afterFrameset => exact h.afterFrameset token
  | afterAfterBody => exact h.afterAfterBody token
  | afterAfterFrameset => exact h.afterAfterFrameset token

/-- Content of another vocabulary is left by closing its elements. -/
theorem leaveForeign (h : page.Sound) (token : Token) : (page.leaveForeign token).page.Sound :=
  (h.popWhileNot _).inMode token

/-- An element inside another vocabulary is of that vocabulary. -/
theorem foreignStartTag (h : page.Sound) (tag : Tag) : (page.foreignStartTag tag).Sound :=
  h.openUnlessClosed _ _

/-- The search for the element of an end tag goes down the open elements, and what it leaves open
is always a part of them. -/
theorem foreignEndTag_go (h : page.Sound) (tag : Tag) : ∀ (stack : List NodeId) (isFirst : Bool),
    stack.Sublist page.openElements → (foreignEndTag.go page tag stack isFirst).page.Sound := by
  intro stack
  induction stack with
  | nil => intro _ _; exact h
  | cons id older ih =>
    intro isFirst hsub
    have holder := (List.sublist_cons_self id older).trans hsub
    cases older with
    | nil => exact h
    | cons below oldest =>
      refine choice (h.inMode _) ?_
      exact choice (h.shrink holder) (ih false holder)

theorem foreignEndTag (h : page.Sound) (tag : Tag) : (page.foreignEndTag tag).page.Sound :=
  h.foreignEndTag_go tag _ true (.refl _)

/-- A token inside another vocabulary is added, or leaves it. -/
theorem inForeign (h : page.Sound) (token : Token) : (page.inForeign token).page.Sound := by
  cases token with
  | zero => exact h.addCharacter _
  | character c =>
    unfold Construction.inForeign
    dsimp only
    split
    · exact h.addCharacter c
    · exact h.forbidFrameset.addCharacter c
  | comment text => exact h.addComment text
  | startTag tag => exact choice (h.leaveForeign _) (h.foreignStartTag tag)
  | endTag tag => exact choice (h.leaveForeign _) (h.foreignEndTag tag)
  | _ => exact h

/-- However often a token is read again in another mode, the page stays sound. -/
theorem takeAgain (token : Token) : ∀ (rounds : Nat) {page : Construction}, page.Sound →
    (Construction.takeAgain token rounds page).page.Sound := by
  intro rounds
  induction rounds with
  | zero => intro page h; exact h
  | succ rounds ih =>
    intro page h
    have hreaction : (if page.isForeign token then page.inForeign token
        else page.inMode token).page.Sound :=
      choice (h.inForeign token) (h.inMode token)
    unfold Construction.takeAgain
    dsimp only
    split
    · exact ih hreaction
    · exact hreaction

/-- A document type is put into the document itself, or dropped. -/
theorem takeDoctype (h : page.Sound) (doctype : Doctype) : (page.takeDoctype doctype).Sound := by
  unfold Construction.takeDoctype
  split
  · have hadded := h.addToRoot
      (.doctype doctype.name (doctype.publicId.getD "") (doctype.systemId.getD "")) rfl
    dsimp only
    generalize page.addTo _ _ = added at *
    exact hadded
  · exact h

/-- Every token keeps the page sound. -/
theorem take (h : page.Sound) (token : Token) : (page.take token).page.Sound := by
  have hstart : Sound { page with dropsLineEnd := false } := h
  unfold Construction.take
  dsimp only
  refine choice h ?_
  cases token with
  | fault => exact h
  | doctype doctype => exact hstart.takeDoctype doctype
  | _ => exact takeAgain _ _ hstart

end Sound

end ComposingProxy.Markup.Construction

namespace ComposingProxy.Markup

open Construction

/-! ## Texts -/

namespace Reading

variable {reading : Reading}

/-- A list of tokens keeps the page sound. -/
theorem sound_takeAll : ∀ (tokens : List Token) {reading : Reading}, reading.page.Sound →
    (reading.takeAll tokens).page.Sound := by
  intro tokens
  induction tokens with
  | nil => intro reading h; exact h
  | cons token rest ih => intro reading h; exact ih (h.take token)

/-- Text keeps the page sound, and so do the characters that are skipped in it. -/
theorem sound_readText : ∀ (text : List Char) (skipped : Nat) {reading : Reading},
    reading.page.Sound → (reading.readText skipped text).page.Sound := by
  intro text
  induction text with
  | nil => intro skipped reading h; exact sound_takeAll _ h
  | cons c rest ih =>
    intro skipped reading h
    cases skipped with
    | succ skipped => exact ih skipped h
    | zero => exact ih _ (sound_takeAll _ h)

/-- A page that is sound is well nested when the rest of its text has been read. -/
theorem wellNested_finish (h : reading.page.Sound) (pieces : List (List Char)) :
    (reading.finish pieces).WellNested := by
  have hstart : Construction.Sound
      { reading with seams := Markup.seams (mendPieces false pieces) : Reading }.page := h
  exact (sound_readText _ 0 hstart).nested

end Reading

/-- Nothing has been read at the beginning, and the empty document is well nested. -/
theorem Construction.sound_empty : Sound {} where
  nested := .empty
  ordered := ⟨fun _ hid => absurd hid List.not_mem_nil, .nil⟩
  head _ hid := absurd hid (by simp)
  formatting _ _ hentry := absurd hentry List.not_mem_nil

/-- A fragment begins with the element it is read for, which is in no tree, and a root element. -/
theorem Construction.sound_ofContext (tag : String) : (ofContext tag).Sound := by
  have hempty : ({} : Construction).doc.WellNested := sound_empty.nested
  obtain ⟨context, doc, hcreate, hfresh, -⟩ := exists_createElement hempty (.html tag) []
  have hpage : Sound { ({} : Construction) with
      doc
      context := some context
      templateModes := if tag = "template" then [.inTemplate] else [] } :=
    IsSound.adds sound_empty hfresh.adds hfresh.wellNested
  unfold ofContext
  rw [hcreate]
  exact (hpage.openRoot []).restoreMode

/-- Whatever its bytes are, a page that is read is well nested. -/
theorem Document.wellNested_ofBytes (bytes : List UInt8) : (Document.ofBytes bytes).WellNested :=
  Reading.wellNested_finish sound_empty _

/-- Whatever its text is, a fragment that is read is well nested. -/
theorem Document.wellNested_ofFragment (text context : String) :
    (Document.ofFragment text context).WellNested := by
  have hstart : Construction.Sound
      { page := .ofContext context, state := .ofContext context : Reading }.page :=
    sound_ofContext context
  exact Reading.wellNested_finish hstart [text.toList]

end ComposingProxy.Markup
