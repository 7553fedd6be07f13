import ComposingProxy.Markup.Reader
import ComposingProxy.Proofs.Tree.Growing

/-!
# A page under construction is well nested

Reading a page adds nodes, and now and then moves one that is there. What excludes cycles is the
order of the open elements: none is inside a newer one (`Ordered`). New nodes go in an open element,
in the contents of one, or beside one (`Place.IsIn`), so they keep the order whatever place is
chosen; and only what is open or is remembered as a formatting element is touched again.

`Sound` is the invariant: the document is well nested, the open elements are in order, and the
formatting elements are elements of ordinary tags. Here are the lemmas that the steps of a
construction keep it, one for each step.

> `Sound.openElement`, `Sound.addComment`, `Sound.addCharacter`: nodes are put where they belong.
> `Sound.shrink`: elements may be closed in any order.
> `Sound.reopenFormatting`, `Sound.openFormatting`: formatting elements are opened, again or new.
-/

namespace ComposingProxy.Markup

open Document

namespace Document

variable {doc doc' : Document} {stack stack' : List NodeId} {id : NodeId}

/-! ## Stacks of open elements -/

/-- Elements, newest first, none of which is inside a newer one. -/
structure Ordered (doc : Document) (stack : List NodeId) : Prop where
  element : ∀ id ∈ stack, (doc.element? id).isSome
  order : stack.Pairwise fun newer older => ¬doc.Enclosed older newer

theorem has_of_isSome (h : (doc.element? id).isSome) : doc.Has id := by
  obtain ⟨element, helement⟩ := Option.isSome_iff_exists.mp h
  exact has_of_element? helement

namespace Ordered

/-- An open element is a node of the document. -/
theorem has (h : doc.Ordered stack) (hid : id ∈ stack) : doc.Has id :=
  has_of_isSome (h.element id hid)

/-- A part of the stack is in order. -/
theorem sublist (h : doc.Ordered stack) (hsub : stack'.Sublist stack) : doc.Ordered stack' :=
  ⟨fun id hid => h.element id (hsub.subset hid), h.order.sublist hsub⟩

/-- Where nodes are only added, the elements that were in order still are: nothing that was there
comes inside another. -/
theorem adds (h : doc.Ordered stack) (hdoc : doc.WellFormed) (hadds : Adds doc doc') :
    doc'.Ordered stack where
  element id hid := hadds.isSome_element? (h.element id hid)
  order := h.order.imp_of_mem fun _ holder hout hin =>
    hout (hadds.enclosed hdoc (h.has holder) hin)

/-- A new element may be opened: nothing that was there is inside it. -/
theorem push (h : doc.Ordered stack) (hdoc : doc.WellFormed) (hadds : Adds doc doc')
    (hnew : ¬doc.Has id) (helement : (doc'.element? id).isSome) : doc'.Ordered (id :: stack) where
  element := List.forall_mem_cons.mpr ⟨helement, (h.adds hdoc hadds).element⟩
  order := by
    refine List.pairwise_cons.mpr ⟨fun older holder hin => hnew ?_, (h.adds hdoc hadds).order⟩
    exact hdoc.has_of_enclosed (h.has holder) (hadds.enclosed hdoc (h.has holder) hin)

/-- A new element may be opened between others: nothing that was there is inside it, and it is
inside nothing yet. -/
theorem insert {newer older : List NodeId} (h : doc.Ordered (newer ++ older))
    (hdoc : doc.WellFormed) (hfresh : Fresh doc doc' id) (helement : (doc'.element? id).isSome) :
    doc'.Ordered (newer ++ id :: older) := by
  obtain ⟨hnewer, holder, hcross⟩ := List.pairwise_append.mp (h.adds hdoc hfresh.adds).order
  constructor
  · intro x hx
    rcases List.mem_append.mp hx with hin | hin
    · exact (h.adds hdoc hfresh.adds).element x (List.mem_append_left _ hin)
    · rcases List.mem_cons.mp hin with rfl | hin
      · exact helement
      · exact (h.adds hdoc hfresh.adds).element x (List.mem_append_right _ hin)
  · refine List.pairwise_append.mpr ⟨hnewer, List.pairwise_cons.mpr ⟨fun x hx => ?_, holder⟩,
      fun x hx y hy => ?_⟩
    · exact hfresh.not_enclosed hdoc (h.has (List.mem_append_right _ hx))
    · rcases List.mem_cons.mp hy with rfl | hin
      · exact fun henclosed =>
          hfresh.new (eq_of_enclosed hfresh.alone henclosed ▸ h.has (List.mem_append_left _ hx))
      · exact hcross x hx y hin

/-- A stack stays in order when `c` is moved below `p`, if `p` is in none of the newer elements and
none of the others is in `c`. -/
theorem moved {newer older : List NodeId} {p c : NodeId} (h : doc.Ordered (newer ++ older))
    (hmoved : Moved doc doc' p c) (hnewer : ∀ x ∈ newer, ¬doc.Enclosed p x)
    (holder : ∀ x ∈ older, ¬doc.Enclosed x c) : doc'.Ordered (newer ++ older) where
  element id hid := by
    rw [hmoved.element?_eq]
    exact h.element id hid
  order := by
    -- of two elements either the newer one is among the newer, or the older one among the others
    have hout : (newer ++ older).Pairwise fun x y => doc.Enclosed y c → ¬doc.Enclosed p x := by
      refine List.pairwise_append.mpr ⟨?_, ?_, fun x hx _ _ _ => hnewer x hx⟩
      · exact List.pairwise_of_forall_mem_list fun x hx _ _ _ => hnewer x hx
      · exact List.pairwise_of_forall_mem_list fun _ _ y hy hin => absurd hin (holder y hy)
    refine h.order.imp₂ (fun x y hold hnew hin => ?_) hout
    rcases enclosed_of_link hmoved.holds hin with hbefore | ⟨hc, hp⟩
    · exact hold hbefore
    · exact hnew hc hp

end Ordered

end Document

/-- A tag of no table and no template: nodes are put in its element and not beside it. -/
def Tag.IsOrdinary (tag : Tag) : Prop := tag.name ∉ ["table", "template"]

/-- The node is the element of a formatting tag. -/
structure Document.Formats (doc : Document) (id : NodeId) (tag : Tag) : Prop where
  name : doc.name? id = some (.html tag.name)
  ordinary : tag.IsOrdinary

namespace Construction

/-! ## The invariant -/

/-- What reading a page keeps between two tokens. -/
structure IsSound (doc : Document) (openElements : List NodeId) (head : Option NodeId)
    (formatting : List FormattingEntry) : Prop where
  nested : doc.WellNested
  ordered : doc.Ordered openElements
  head : ∀ id ∈ head, (doc.element? id).isSome
  formatting : ∀ id tag, .element id tag ∈ formatting → doc.Formats id tag

/-- What reading a page keeps between two tokens. -/
def Sound (page : Construction) : Prop :=
  IsSound page.doc page.openElements page.head page.formatting

variable {page : Construction} {doc doc' mid : Document} {stack : List NodeId}
  {head : Option NodeId} {formatting : List FormattingEntry} {id target : NodeId}

/-- Edits that keep the names keep what is known of elements that are not open. -/
theorem IsSound.replace {stack' : List NodeId} (h : IsSound doc stack head formatting)
    (hnested : doc'.WellNested) (hordered : doc'.Ordered stack')
    (hname : ∀ x, doc.Has x → doc'.name? x = doc.name? x) :
    IsSound doc' stack' head formatting where
  nested := hnested
  ordered := hordered
  head id hid := by
    have helement := h.head id hid
    have hsame := hname id (has_of_isSome helement)
    rwa [← isSome_name?, hsame, isSome_name?]
  formatting id tag hentry := by
    obtain ⟨hformats, hordinary⟩ := h.formatting id tag hentry
    have hhas : doc.Has id := has_of_isSome (isSome_of_name? hformats)
    exact ⟨(hname id hhas).trans hformats, hordinary⟩

theorem IsSound.adds (h : IsSound doc stack head formatting) (hadds : Adds doc doc')
    (hnested : doc'.WellNested) : IsSound doc' stack head formatting :=
  h.replace hnested (h.ordered.adds h.nested.wellFormed hadds) hadds.name

/-- Entries may be forgotten. -/
theorem IsSound.forgetting {formatting' : List FormattingEntry}
    (h : IsSound doc stack head formatting) (hsub : formatting' ⊆ formatting) :
    IsSound doc stack head formatting' :=
  { h with formatting := fun id tag hentry => h.formatting id tag (hsub hentry) }

/-- An entry may be added for an element that formats. -/
theorem IsSound.remembering {formatting' : List FormattingEntry} {tag : Tag}
    (h : IsSound doc stack head formatting) (hformats : doc.Formats id tag)
    (hsub : ∀ entry ∈ formatting', entry = .element id tag ∨ entry ∈ formatting) :
    IsSound doc stack head formatting' :=
  { h with
    formatting := by
      intro other tag' hentry
      rcases hsub _ hentry with heq | hold
      · obtain ⟨rfl, rfl⟩ := FormattingEntry.element.inj heq
        exact hformats
      · exact h.formatting other tag' hold }

/-- The entries after an entry was swapped are the new one and those that were there. -/
theorem mem_swapFormatting {old : NodeId} {entry other : FormattingEntry}
    (h : other ∈ (page.swapFormatting old entry).formatting) :
    other = entry ∨ other ∈ page.formatting := by
  obtain ⟨there, hthere, heq⟩ := List.mem_map.mp h
  split at heq
  · exact Or.inl heq.symm
  · exact Or.inr (heq ▸ hthere)

/-- Elements may be closed. -/
theorem Sound.shrink (h : page.Sound) {stack : List NodeId}
    (hsub : stack.Sublist page.openElements) : Sound { page with openElements := stack } :=
  { h with ordered := h.ordered.sublist hsub }

/-! ## Places -/

/-- The node that a node is put below. -/
def Place.under (doc : Document) : Place → NodeId
  | .lastOf parent => parent
  | .besideTable table below => (doc.parent? table).getD below

/-- The nodes that a place names were there. -/
def Place.IsIn (doc : Document) : Place → Prop
  | .lastOf parent => doc.Has parent
  | .besideTable table below => doc.Has table ∧ doc.Has below

/-- The node that a node is put below was there if the place was. -/
theorem Place.IsIn.under {place : Place} (h : place.IsIn doc) (hdoc : doc.WellFormed)
    (hadds : Adds doc doc') : doc.Has (place.under doc') := by
  cases place with
  | lastOf parent => exact h
  | besideTable table below =>
    show doc.Has ((doc'.parent? table).getD below)
    cases hparent : doc'.parent? table with
    | none => exact h.2
    | some parent => exact hdoc.has_of_holds (hadds.holds parent table h.1 (Or.inl hparent))

/-- The contents of a template that was there were there, too. -/
theorem has_inside (hdoc : doc.WellNested) (hadds : Adds doc page.doc) (hid : doc.Has id) :
    doc.Has (page.inside id) := by
  show doc.Has ((page.doc.contents? id).getD id)
  rw [hadds.contents id hid]
  cases hcontents : doc.contents? id with
  | none => exact hid
  | some contents => exact (hdoc.contents id contents hcontents).1

/-- The place in front of a table, or in a template, names nodes that were there. -/
theorem isIn_fosterPlace (hdoc : doc.WellNested) (hadds : Adds doc page.doc) :
    ∀ stack : List NodeId, (∀ id ∈ stack, doc.Has id) → (page.fosterPlace stack).IsIn doc := by
  intro stack
  induction stack with
  | nil => intro _; exact hdoc.root.1
  | cons id rest ih =>
    intro hstack
    obtain ⟨hid, hrest⟩ := List.forall_mem_cons.mp hstack
    cases rest with
    | nil => exact hid
    | cons below older =>
      rw [fosterPlace]
      split
      · exact has_inside hdoc hadds hid
      · split
        · exact ⟨hid, hrest below List.mem_cons_self⟩
        · exact ih hrest

/-- The place in an element names nodes that were there, wherever nodes move. -/
theorem isIn_placeIn (hdoc : doc.WellNested) (hadds : Adds doc page.doc)
    (hstack : ∀ id ∈ page.openElements, doc.Has id) (htarget : doc.Has target) :
    (page.placeIn target).IsIn doc := by
  rw [placeIn]
  split
  · exact isIn_fosterPlace hdoc hadds _ hstack
  · exact has_inside hdoc hadds htarget

/-- The place for the next node names nodes that were there. -/
theorem isIn_place (page : Construction) (hdoc : doc.WellNested) (hadds : Adds doc page.doc)
    (hstack : ∀ id ∈ page.openElements, doc.Has id) : page.place.IsIn doc := by
  refine isIn_placeIn hdoc hadds hstack ?_
  cases hcurrent : page.current? with
  | none => exact hdoc.root.1
  | some id => exact hstack id (List.mem_of_head? hcurrent)

/-- Putting a node in a place moves it below the node that the place is in. -/
theorem moved_putNode (hpage : page.doc.WellFormed) {place : Place}
    (hunder : page.doc.Has (place.under page.doc)) (hid : page.doc.Has id)
    (hne : ∀ table below, place = .besideTable table below → table ≠ id)
    (hout : ¬page.doc.Within (place.under page.doc) id) :
    Moved page.doc (page.putNode place id).doc (place.under page.doc) id := by
  cases place with
  | lastOf parent => exact hpage.moved_appendChild hunder hid hout
  | besideTable table below =>
    show Moved page.doc (if (page.doc.parent? table).isSome then page.doc.insertBefore table id
      else page.doc.appendChild below id) ((page.doc.parent? table).getD below) id
    have hunder : page.doc.Has ((page.doc.parent? table).getD below) := hunder
    have hout : ¬page.doc.Within ((page.doc.parent? table).getD below) id := hout
    cases hparent : page.doc.parent? table with
    | none =>
      rw [hparent] at hunder hout
      exact hpage.moved_appendChild hunder hid hout
    | some parent =>
      rw [hparent] at hunder hout
      exact hpage.moved_insertBefore hparent hid (hne table below rfl) hout

/-- A new node may be put in any place. -/
theorem adds_putNode (page : Construction) (hdoc : doc.WellNested) (hfresh : Fresh doc page.doc id)
    {place : Place} (hplace : place.IsIn doc) :
    Adds doc (page.putNode place id).doc ∧ (page.putNode place id).doc.WellNested := by
  have hunder := hplace.under hdoc.wellFormed hfresh.adds
  refine hfresh.put hdoc hunder (moved_putNode hfresh.wellNested.wellFormed
    (hfresh.adds.has hunder) hfresh.has (fun table below heq => ?_) fun hin => ?_)
  · rintro rfl
    rw [heq] at hplace
    exact hfresh.new hplace.1
  · exact hfresh.not_enclosed hdoc.wellFormed hunder hin.enclosed

/-- Text may be put in any place. -/
theorem adds_putText (hpage : page.doc.WellNested) {place : Place} (hplace : place.IsIn page.doc)
    (text : String) :
    Adds page.doc (page.putText place text).doc ∧ (page.putText place text).doc.WellNested := by
  cases place with
  | lastOf parent => exact hpage.appendText hplace text
  | besideTable table below =>
    show Adds page.doc (if (page.doc.parent? table).isSome then
        page.doc.insertTextBefore table text else page.doc.appendText below text) ∧
      WellNested (if (page.doc.parent? table).isSome then
        page.doc.insertTextBefore table text else page.doc.appendText below text)
    split
    · exact hpage.insertTextBefore hplace.1 text
    · exact hpage.appendText hplace.2 text

/-! ## New elements -/

/-- An element of a name was made and put in a place. -/
structure NewElement (doc doc' : Document) (id : NodeId) (name : Name) : Prop where
  adds : Adds doc doc'
  wellNested : doc'.WellNested
  new : ¬doc.Has id
  name : doc'.name? id = some name

theorem NewElement.isSome {name : Name} (h : NewElement doc doc' id name) :
    (doc'.element? id).isSome :=
  isSome_of_name? h.name

theorem name?_created (doc : Document) (element : Element) :
    (doc.create (.element element)).2.name? (doc.create (.element element)).1 =
      some element.name := by
  rw [name?_eq_nameIn, data_created]
  rfl

/-- A new element is fresh and has its name; the contents of a template are fresh with it. -/
theorem exists_createElement (h : page.doc.WellNested) (name : Name) (attrs : List Attr) :
    ∃ id doc, page.createElement name attrs = (id, { page with doc }) ∧
      Fresh page.doc doc id ∧ doc.name? id = some name := by
  unfold createElement
  split
  · exact ⟨_, _, rfl, h.fresh_template rfl, name?_created _ _⟩
  · exact ⟨_, _, rfl, h.fresh_plain rfl, name?_created _ _⟩

/-- Names do not change when a node is put in a place. -/
theorem name?_putNode (page : Construction) (place : Place) (id x : NodeId) :
    (page.putNode place id).doc.name? x = page.doc.name? x := by
  rw [name?_eq_nameIn, name?_eq_nameIn]
  cases place with
  | lastOf parent => exact congrArg nameIn (data_appendChild _ _ _ _)
  | besideTable table below =>
    show nameIn (Document.data (if (page.doc.parent? table).isSome then
      page.doc.insertBefore table id else page.doc.appendChild below id) x) = _
    split
    · rw [data_insertBefore]
    · rw [data_appendChild]

/-- A fresh element of a name may be put in any place that was there. -/
theorem newElement_putNode {name : Name} (page : Construction) (hdoc : doc.WellNested)
    (hfresh : Fresh doc page.doc id) (hname : page.doc.name? id = some name) {place : Place}
    (hplace : place.IsIn doc) : NewElement doc (page.putNode place id).doc id name := by
  obtain ⟨hadds, hnested⟩ := adds_putNode page hdoc hfresh hplace
  exact ⟨hadds, hnested, hfresh.new, (name?_putNode page place id id).trans hname⟩

/-- An element is added below nodes that were there, so it is a new element. -/
theorem exists_addElement (h : page.doc.WellNested)
    (hstack : ∀ id ∈ page.openElements, page.doc.Has id) (name : Name) (attrs : List Attr) :
    ∃ id doc, page.addElement name attrs = (id, { page with doc }) ∧
      NewElement page.doc doc id name := by
  obtain ⟨id, mid, hcreate, hfresh, hname⟩ := exists_createElement h name attrs
  rw [addElement, hcreate]
  exact ⟨id, _, rfl, newElement_putNode { page with doc := mid } h hfresh hname
    (isIn_place { page with doc := mid } h hfresh.adds hstack)⟩

/-- A new element may be opened on top of a sound page. -/
theorem IsSound.opened {name : Name} (h : IsSound doc stack head formatting)
    (hnew : NewElement doc doc' id name) : IsSound doc' (id :: stack) head formatting :=
  { h.adds hnew.adds hnew.wellNested with
    ordered := h.ordered.push h.nested.wellFormed hnew.adds hnew.new hnew.isSome }

/-- Opening an element changes the document and the open elements, which have the new element on
top. -/
theorem Sound.exists_openElement (h : page.Sound) (name : Name) (attrs : List Attr) :
    ∃ id doc, page.openElement name attrs =
        (id, { page with doc, openElements := id :: page.openElements }) ∧
      NewElement page.doc doc id name := by
  obtain ⟨id, doc, hadd, hnew⟩ :=
    exists_addElement h.nested (fun _ hid => h.ordered.has hid) name attrs
  rw [openElement, hadd]
  exact ⟨id, doc, rfl, hnew⟩

/-- An element may be added and left closed. -/
theorem Sound.addElement (h : page.Sound) (name : Name) (attrs : List Attr) :
    (page.addElement name attrs).2.Sound := by
  obtain ⟨id, doc, hadd, hnew⟩ :=
    exists_addElement h.nested (fun _ hid => h.ordered.has hid) name attrs
  rw [hadd]
  exact h.adds hnew.adds hnew.wellNested

theorem Sound.openElement (h : page.Sound) (name : Name) (attrs : List Attr) :
    (page.openElement name attrs).2.Sound := by
  obtain ⟨id, doc, hopen, hnew⟩ := h.exists_openElement name attrs
  rw [hopen]
  exact h.opened hnew

namespace Sound

theorem openTag (h : page.Sound) (tag : Tag) : (page.openTag tag).Sound := h.openElement _ _

theorem addTag (h : page.Sound) (tag : Tag) : (page.addTag tag).Sound := h.addElement _ _

theorem openPlain (h : page.Sound) (tag : String) : (page.openPlain tag).Sound := h.openTag _

/-- An element may be added, and opened unless its tag closes itself. -/
theorem openUnlessClosed (h : page.Sound) (space : Namespace) (tag : Tag) :
    (page.openUnlessClosed space tag).Sound := by
  unfold Construction.openUnlessClosed
  dsimp only
  split
  · exact h.addElement _ _
  · exact h.openElement _ _

/-- The root element is put below the document itself, whatever is open. -/
theorem openRoot (h : page.Sound) (attrs : List Attr) : (page.openRoot attrs).Sound := by
  obtain ⟨id, mid, hcreate, hfresh, hname⟩ := exists_createElement h.nested (.html "html") attrs
  have hroot : (Place.lastOf root).IsIn page.doc := h.nested.root.1
  have hnew := newElement_putNode { page with doc := mid } h.nested hfresh hname hroot
  rw [Construction.openRoot, hcreate]
  dsimp only [putNode, push] at hnew ⊢
  exact h.opened hnew

/-! ## Comments and text -/

/-- A node without contents may be put below any node that is there. -/
theorem addTo (h : page.Sound) {parent : NodeId} (hparent : page.doc.Has parent) {data : NodeData}
    (hdata : contentsOf data = none) : (page.addTo parent data).Sound := by
  obtain ⟨hadds, hnested⟩ := (h.nested.fresh_plain hdata).appendChild h.nested hparent
  rw [Construction.addTo]
  exact h.adds hadds hnested

/-- The place for the next node names nodes that were there. -/
theorem isIn_place (h : page.Sound) : page.place.IsIn page.doc :=
  Construction.isIn_place page h.nested (.refl _) fun _ hid => h.ordered.has hid

/-- A comment is put in the place for the next node, like an element. -/
theorem addComment (h : page.Sound) (text : String) : (page.addComment text).Sound := by
  have hfresh : Fresh page.doc (page.doc.create (.comment text)).2
      (page.doc.create (.comment text)).1 := h.nested.fresh_plain rfl
  let made : Construction := { page with doc := (page.doc.create (.comment text)).2 }
  have hplace : made.place.IsIn page.doc :=
    Construction.isIn_place made h.nested hfresh.adds fun _ hid => h.ordered.has hid
  obtain ⟨hadds, hnested⟩ := adds_putNode made h.nested hfresh hplace
  exact h.adds hadds hnested

/-- A character is put in the place for the next node: it is joined with a text there, or makes
one. -/
theorem addCharacter (h : page.Sound) (c : Char) : (page.addCharacter c).Sound := by
  obtain ⟨hadds, hnested⟩ := adds_putText h.nested h.isIn_place (String.singleton c)
  exact h.adds hadds hnested

/-- Attributes may be added to any element. -/
theorem addMissing (h : page.Sound) (id : NodeId) (attrs : List Attr) :
    (page.addMissing id attrs).Sound :=
  have halike := Alike.addMissing page.doc id attrs
  h.adds halike.adds (halike.wellNested h.nested)

end Sound

namespace Sound

/-! ## Closing elements -/

theorem pop (h : page.Sound) : page.pop.Sound := h.shrink (List.tail_sublist _)

/-- The newest elements may be closed, up to one with a property. -/
theorem popWhileNot (h : page.Sound) (test : Name → Bool) : (page.popWhileNot test).Sound :=
  h.shrink (List.dropWhile_sublist _)

/-- The newest elements may be closed, up to one with a property and with it. -/
theorem popThrough (h : page.Sound) (test : Name → Bool) : (page.popThrough test).Sound :=
  (h.popWhileNot test).pop

theorem popThroughHtml (h : page.Sound) (tag : String) : (page.popThroughHtml tag).Sound :=
  h.popThrough _

/-- A single element may be closed wherever it is open. -/
theorem close (h : page.Sound) (id : NodeId) : (page.close id).Sound :=
  h.shrink List.erase_sublist

/-- The elements that need no end tag may be closed. -/
theorem closeImplied (h : page.Sound) (tags : List String) : (page.closeImplied tags).Sound :=
  h.shrink (List.dropWhile_sublist _)

theorem closeImpliedExcept (h : page.Sound) (tag : String) : (page.closeImpliedExcept tag).Sound :=
  h.closeImplied _

theorem closeParagraph (h : page.Sound) : page.closeParagraph.Sound :=
  (h.closeImpliedExcept "p").popThroughHtml "p"

/-- The open paragraph may be closed, if there is one. -/
theorem endParagraph (h : page.Sound) : page.endParagraph.Sound := by
  unfold Construction.endParagraph
  split
  · exact h.closeParagraph
  · exact h

/-- An ordinary end tag closes the elements down to its own, or nothing. -/
theorem closeOrdinary (h : page.Sound) (tag : String) : (page.closeOrdinary tag).Sound := by
  unfold Construction.closeOrdinary
  dsimp only
  split
  · exact h
  · next id older hrest =>
    split
    · have hsub := List.drop_sublist (page.openElements.takeWhile fun id =>
        !(page.nameOf id).isHtml tag && !(page.nameOf id).isOneOf specialTags).length
        page.openElements
      rw [hrest] at hsub
      exact h.shrink ((List.sublist_cons_self id older).trans hsub)
    · exact h

/-! ## The list of formatting elements -/

/-- A formatting element may be forgotten. -/
theorem forget (h : page.Sound) (id : NodeId) : (page.forget id).Sound :=
  h.forgetting List.eraseP_subset

/-- The formatting elements up to the newest marker may be forgotten. -/
theorem forgetToMarker (h : page.Sound) : page.forgetToMarker.Sound :=
  h.forgetting ((List.tail_sublist _).trans (List.dropWhile_sublist _)).subset

/-- A marker is no formatting element. -/
theorem pushMarker (h : page.Sound) : page.pushMarker.Sound :=
  { h with formatting := fun id tag hentry =>
      h.formatting id tag ((List.mem_cons.mp hentry).resolve_left (by simp)) }

/-- An entry may be swapped for one of an element that formats. -/
theorem swapFormatting (h : page.Sound) {id : NodeId} {tag : Tag}
    (hformats : page.doc.Formats id tag) (old : NodeId) :
    (page.swapFormatting old (.element id tag)).Sound :=
  h.remembering hformats fun _ => mem_swapFormatting

/-- Entries are opened again one by one. The list changes with each of them, but not its tags. -/
theorem reopenEntries : ∀ (entries : List FormattingEntry) {page : Construction}, page.Sound →
    (∀ id tag, .element id tag ∈ entries → tag.IsOrdinary) →
      (page.reopenEntries entries).Sound := by
  intro entries
  induction entries with
  | nil => intro page h _; exact h
  | cons entry newer ih =>
    intro page h hordinary
    have hnewer : ∀ id tag, .element id tag ∈ newer → tag.IsOrdinary := fun id tag hentry =>
      hordinary id tag (List.mem_cons_of_mem entry hentry)
    cases entry with
    | marker => exact ih h hnewer
    | element old tag =>
      obtain ⟨id, doc, hopen, hnew⟩ := h.exists_openElement (.html tag.name) tag.attrs
      rw [Construction.reopenEntries, hopen]
      have hformats : doc.Formats id tag := ⟨hnew.name, hordinary old tag List.mem_cons_self⟩
      have hopened : Sound { page with doc, openElements := id :: page.openElements } :=
        h.opened hnew
      exact ih (hopened.swapFormatting hformats old) hnewer

/-- The formatting elements that are no longer open may be opened again: their tags are
ordinary. -/
theorem reopenFormatting (h : page.Sound) : page.reopenFormatting.Sound := by
  refine reopenEntries _ h fun id tag hentry => ?_
  have hmem := (List.takeWhile_subset _) (List.mem_reverse.mp hentry)
  exact (h.formatting id tag hmem).ordinary

/-- An element of an ordinary tag may be opened as a formatting element. -/
theorem openFormatting (h : page.Sound) {tag : Tag} (hordinary : tag.IsOrdinary) :
    (page.openFormatting tag).Sound := by
  have hopened : ∀ {page : Construction}, page.Sound →
      Sound { (page.openElement (.html tag.name) tag.attrs).2 with
        formatting := .element (page.openElement (.html tag.name) tag.attrs).1 tag ::
          (page.openElement (.html tag.name) tag.attrs).2.formatting } := by
    intro page h
    obtain ⟨id, doc, hopen, hnew⟩ := h.exists_openElement (.html tag.name) tag.attrs
    rw [hopen]
    have hpage : Sound { page with doc, openElements := id :: page.openElements } := h.opened hnew
    exact hpage.remembering ⟨hnew.name, hordinary⟩ fun entry hentry => List.mem_cons.mp hentry
  unfold Construction.openFormatting
  dsimp only
  split
  · split
    · exact hopened (h.forget _)
    · exact hopened h
  · exact hopened h

end Sound

end Construction

end ComposingProxy.Markup
