import ComposingProxy.Proofs.Markup.Building

/-!
# Splitting formatting elements keeps a page well nested

An end tag of a formatting element that crosses a block splits the element around the block. This is
where nodes are moved that were put in before, so it is here that a cycle could arise. The order of
the open elements (`Ordered`) excludes it: what is moved is newer than the node that it is moved
below. There are three such moves.

* What is moved goes below a new copy of the next element, which is in nothing yet
  (`IsSound.copyAround`).
* It goes where a node of the element below the formatting element would go. Where nodes are put
  beside a table, the search for the table goes past all newer elements, which are no tables
  (`isSound_putNode`).
* The children of the block go below another copy, and the copy goes in the block
  (`Gathers.step`, `Gathers.appendChild`).

> `Sound.closeFormatting`: the end tag of a formatting element keeps the page sound.
-/

namespace ComposingProxy.Markup

open Document

namespace Construction

variable {page : Construction} {doc doc' mid : Document} {stack newer older : List NodeId}
  {head : Option NodeId} {formatting : List FormattingEntry} {id block copy x : NodeId}

/-! ## Places away from a node -/

/-- The nodes that a place names are not inside the node. -/
def Place.Avoids (doc : Document) (x : NodeId) : Place → Prop
  | .lastOf parent => ¬doc.Enclosed parent x
  | .besideTable table below => ¬doc.Enclosed table x ∧ ¬doc.Enclosed below x

/-- A place that avoids a node is below no node inside it. -/
theorem Place.Avoids.not_enclosed {place : Place} (h : place.Avoids doc x) :
    ¬doc.Enclosed (place.under doc) x := by
  cases place with
  | lastOf parent => exact h
  | besideTable table below =>
    show ¬doc.Enclosed ((doc.parent? table).getD below) x
    cases hparent : doc.parent? table with
    | none => exact h.2
    | some parent => exact fun hin => h.1 (hin.tail (Or.inl hparent))

/-- The contents of a template are inside an element only if the template is. -/
theorem not_enclosed_inside (h : page.doc.WellNested) (hx : (page.doc.element? x).isSome)
    (hid : ¬page.doc.Enclosed id x) : ¬page.doc.Enclosed (page.inside id) x := by
  show ¬page.doc.Enclosed ((page.doc.contents? id).getD id) x
  cases hcontents : page.doc.contents? id with
  | none => exact hid
  | some contents =>
    intro hin
    rcases h.enclosed_of_holds (Or.inr hcontents) hin with heq | houter
    · exact h.contents?_ne hx id (heq ▸ hcontents)
    · exact hid houter

/-- The document itself is inside no element. -/
theorem not_enclosed_root (h : page.doc.WellNested) (hx : (page.doc.element? x).isSome) :
    ¬page.doc.Enclosed Document.root x :=
  fun hin => h.ne_root hx (eq_of_enclosed h.root.2.2 hin).symm

/-- The place in front of a table avoids a node that none of the open elements is inside of. -/
theorem avoids_fosterPlace (h : page.doc.WellNested) (hx : (page.doc.element? x).isSome) :
    ∀ stack : List NodeId, (∀ id ∈ stack, ¬page.doc.Enclosed id x) →
      (page.fosterPlace stack).Avoids page.doc x := by
  intro stack
  induction stack with
  | nil => intro _; exact not_enclosed_root h hx
  | cons id rest ih =>
    intro hstack
    obtain ⟨hid, hrest⟩ := List.forall_mem_cons.mp hstack
    cases rest with
    | nil => exact hid
    | cons below older =>
      rw [fosterPlace]
      split
      · exact not_enclosed_inside h hx hid
      · split
        · exact ⟨hid, hrest below List.mem_cons_self⟩
        · exact ih hrest

/-- Elements of the name are no templates and no tables, so a search for a place goes past them. -/
def IsPassed (name : Name) : Prop := name.isHtml "template" = false ∧ name.isHtml "table" = false

/-- The search for a place goes past elements that are no templates and no tables. -/
theorem fosterPlace_append {passed rest : List NodeId}
    (hpassed : ∀ id ∈ passed, IsPassed (page.nameOf id)) (hrest : rest ≠ []) :
    page.fosterPlace (passed ++ rest) = page.fosterPlace rest := by
  induction passed with
  | nil => rfl
  | cons id newer ih =>
    obtain ⟨⟨htemplate, htable⟩, hnewer⟩ := List.forall_mem_cons.mp hpassed
    obtain ⟨below, older, hsplit⟩ : ∃ below older, newer ++ rest = below :: older :=
      List.exists_cons_of_ne_nil fun hnil => hrest (List.append_eq_nil_iff.mp hnil).2
    rw [List.cons_append, hsplit, fosterPlace, htemplate, htable, ← hsplit]
    exact ih hnewer

theorem isPassed_of_ordinary {tag : Tag} (h : tag.IsOrdinary) :
    IsPassed (.html tag.name) := by
  rw [Tag.IsOrdinary] at h
  simp only [List.mem_cons, List.not_mem_nil, or_false, not_or] at h
  constructor
  · simp [Name.isHtml, Name.html, h.2]
  · simp [Name.isHtml, Name.html, h.1]

/-- The search goes past elements that do not end the default scope, as tables and templates do. -/
theorem isPassed_of_scope {name : Name} (h : Scope.default name = false) : IsPassed name := by
  have hother : ∀ tag, name.isHtml tag = true → tag = "template" ∨ tag = "table" →
      Scope.default name = true := by
    intro tag htag hcase
    obtain ⟨hspace, heq⟩ := Bool.and_eq_true_iff.mp htag
    rw [Scope.default, Name.isOneOf, hspace, beq_iff_eq.mp heq]
    rcases hcase with rfl | rfl <;> simp
  constructor
  · rw [← Bool.not_eq_true]
    exact fun htag => absurd (hother _ htag (Or.inl rfl)) (by rw [h]; exact Bool.false_ne_true)
  · rw [← Bool.not_eq_true]
    exact fun htag => absurd (hother _ htag (Or.inr rfl)) (by rw [h]; exact Bool.false_ne_true)

/-! ## Splitting the elements in between -/

/-- While elements are split, `outside`, the block and the elements that are kept are open above
`below`, and what is moved is one of them. -/
structure Crosses (start : Construction) (outside : List NodeId) (block : NodeId)
    (below : List NodeId) (crossing : Crossing) : Prop where
  sound : IsSound crossing.page.doc (outside ++ block :: crossing.kept ++ below)
    crossing.page.head crossing.page.formatting
  moved : crossing.moved ∈ block :: crossing.kept
  passed : ∀ id ∈ crossing.kept, IsPassed (crossing.page.nameOf id)
  name : ∀ x, start.doc.Has x →
    crossing.page.doc.Has x ∧ crossing.page.doc.name? x = start.doc.name? x

/-- An element of a stack is not inside a newer one. -/
theorem not_enclosed_of_ordered {above below : List NodeId} {y : NodeId}
    (h : doc.Ordered (above ++ below)) (hx : x ∈ above) (hy : y ∈ below) : ¬doc.Enclosed y x :=
  (List.pairwise_append.mp h.order).2.2 x hx y hy

/-- A node that was there is moved below a new one. -/
theorem moved_below_new (hfresh : Fresh doc mid copy) (hx : (doc.element? x).isSome) :
    Moved mid (mid.appendChild copy x) copy x ∧ (mid.appendChild copy x).WellNested := by
  have hhas : doc.Has x := has_of_isSome hx
  have hout : ¬mid.Enclosed copy x := fun hin =>
    hfresh.new (eq_of_enclosed hfresh.alone hin ▸ hhas)
  have helement := hfresh.adds.isSome_element? hx
  have hmoved := hfresh.wellNested.wellFormed.moved_appendChild hfresh.has (hfresh.adds.has hhas)
    fun hin => hout hin.enclosed
  exact ⟨hmoved, hmoved.wellNested_of_element hfresh.wellNested hout helement⟩

/-- A copy of a formatting element is opened below newer elements, and one of those is put in it. -/
theorem IsSound.copyAround {front below : List NodeId} {tag : Tag}
    (h : IsSound doc (front ++ below) head formatting) (hfresh : Fresh doc mid copy)
    (hname : mid.name? copy = some (.html tag.name)) (hordinary : tag.IsOrdinary) (hx : x ∈ front) :
    IsSound (mid.appendChild copy x) (front ++ copy :: below) head formatting ∧
      Formats (mid.appendChild copy x) copy tag ∧
      ∀ y, doc.Has y →
        (mid.appendChild copy x).Has y ∧ (mid.appendChild copy x).name? y = doc.name? y := by
  obtain ⟨hmoved, hnested⟩ := moved_below_new hfresh (h.ordered.element x (by simp [hx]))
  have hsame : ∀ y, (mid.appendChild copy x).name? y = mid.name? y := by
    intro y
    rw [name?, name?, hmoved.element?_eq]
  have hcopy : (mid.element? copy).isSome := isSome_of_name? hname
  have hold : ∀ y ∈ front ++ below, ¬mid.Enclosed copy y := fun y hy hin =>
    hfresh.new (eq_of_enclosed hfresh.alone hin ▸ h.ordered.has hy)
  have hordered : (mid.appendChild copy x).Ordered (front ++ copy :: below) := by
    refine (h.ordered.insert h.nested.wellFormed hfresh hcopy).moved hmoved (fun y hy => ?_) ?_
    · exact hold y (List.mem_append_left _ hy)
    · -- what is open below the copy is not inside what is put in it
      refine List.forall_mem_cons.mpr ⟨hold x (List.mem_append_left _ hx), fun y hy hin => ?_⟩
      have hhas := h.ordered.has (List.mem_append_right front hy)
      have hbefore := hfresh.adds.enclosed h.nested.wellFormed hhas hin
      exact not_enclosed_of_ordered h.ordered hx hy hbefore
  have hnames : ∀ y, doc.Has y → (mid.appendChild copy x).name? y = doc.name? y := fun y hy =>
    (hsame y).trans (hfresh.adds.name y hy)
  refine ⟨h.replace hnested hordered hnames, ⟨(hsame copy).trans hname, hordinary⟩,
    fun y hy => ⟨?_, hnames y hy⟩⟩
  rw [Has, hmoved.size]
  exact hfresh.adds.has hy

section

variable {start : Construction} {outside below : List NodeId} {crossing : Crossing}

/-- One element in between is split, closed, or left for later, and the invariant is kept. -/
theorem Crosses.step (h : Crosses start outside block below crossing) (count : Nat) (id : NodeId) :
    Crosses start outside block below (crossElement count crossing id) := by
  unfold crossElement
  dsimp only
  split
  · next tag hfind =>
    split
    · exact { h with sound := h.sound.forgetting List.eraseP_subset }
    · have hordinary := (h.sound.formatting _ _ (List.mem_of_find?_eq_some hfind)).ordinary
      obtain ⟨copy, mid, hcreate, hfresh, hname⟩ :=
        exists_createElement h.sound.nested (.html tag.name) tag.attrs
      rw [hcreate]
      obtain ⟨hsound, hformats, hnew⟩ :=
        h.sound.copyAround hfresh hname hordinary (List.mem_append_right _ h.moved)
      -- the copy takes the place of the element, below those that were split before
      have hstack : outside ++ block :: (crossing.kept ++ [copy]) ++ below =
          outside ++ block :: crossing.kept ++ copy :: below := by
        simp
      refine ⟨?_, ?_, fun x hx => ?_, fun x hx => ?_⟩
      · show IsSound _ (outside ++ block :: (crossing.kept ++ [copy]) ++ below) _ _
        rw [hstack]
        exact hsound.remembering hformats fun _ => mem_swapFormatting
      · exact List.mem_cons_of_mem block (List.mem_append_right _ List.mem_cons_self)
      · show IsPassed (((mid.appendChild copy crossing.moved).name? x).getD default)
        rcases List.mem_append.mp hx with hin | hin
        · rw [(hnew x (h.sound.ordered.has (by simp [hin]))).2]
          exact h.passed x hin
        · obtain rfl := List.mem_singleton.mp hin
          rw [hformats.name]
          exact isPassed_of_ordinary hordinary
      · obtain ⟨hhas, hsame⟩ := h.name x hx
        obtain ⟨hhas', hsame'⟩ := hnew x hhas
        exact ⟨hhas', hsame'.trans hsame⟩
  · exact h

/-- All elements in between are split, the newest first. -/
theorem Crosses.steps : ∀ (between : List NodeId) (count : Nat) {crossing : Crossing},
    Crosses start outside block below crossing →
      Crosses start outside block below (crossElements count crossing between) := by
  intro between
  induction between with
  | nil => intro count crossing h; exact h
  | cons id older ih =>
    intro count crossing h
    exact ih (count + 1) (h.step count id)

end

/-! ## Putting what is moved in its place -/

/-- The place for a node in an older element is outside all newer ones that a search for a place
goes past. -/
theorem avoids_placeIn {front : List NodeId} (h : page.doc.WellNested)
    (hstack : page.openElements = front ++ id :: older)
    (hordered : page.doc.Ordered (front ++ id :: older))
    (hpassed : ∀ x ∈ front, IsPassed (page.nameOf x)) (hx : x ∈ front) :
    (page.placeIn (older.head?.getD Document.root)).Avoids page.doc x := by
  have helement := hordered.element x (List.mem_append_left _ hx)
  have hout : ∀ y ∈ id :: older, ¬page.doc.Enclosed y x := fun y hy =>
    not_enclosed_of_ordered hordered hx hy
  rw [placeIn]
  split
  · rw [hstack, fosterPlace_append hpassed (List.cons_ne_nil id older)]
    exact avoids_fosterPlace h helement _ hout
  · refine not_enclosed_inside h helement ?_
    cases older with
    | nil => exact not_enclosed_root h helement
    | cons target _ => exact hout target (List.mem_cons_of_mem id List.mem_cons_self)

/-- One of the newer elements is put in the place for a node in an older element. -/
theorem isSound_putNode {front : List NodeId} (h : page.Sound)
    (hstack : page.openElements = front ++ id :: older)
    (hpassed : ∀ x ∈ front, IsPassed (page.nameOf x)) (hx : x ∈ front) :
    (page.putNode (page.placeIn (older.head?.getD Document.root)) x).Sound := by
  have hordered : page.doc.Ordered (front ++ id :: older) := hstack ▸ h.ordered
  have havoids := fun y hy => avoids_placeIn h.nested hstack hordered hpassed (x := y) hy
  have hisIn : (page.placeIn (older.head?.getD Document.root)).IsIn page.doc := by
    refine isIn_placeIn h.nested (.refl _) (fun _ hid => h.ordered.has hid) ?_
    cases older with
    | nil => exact h.nested.root.1
    | cons target _ => exact hordered.has (by simp)
  have helement := hordered.element x (List.mem_append_left _ hx)
  have hout := (havoids x hx).not_enclosed
  have hmoved := moved_putNode h.nested.wellFormed (hisIn.under h.nested.wellFormed (.refl _))
    (has_of_isSome helement) (fun table below heq => ?_) fun hin => hout hin.enclosed
  · have hordered' := hordered.moved hmoved (fun y hy => (havoids y hy).not_enclosed)
      fun y hy => not_enclosed_of_ordered hordered hx hy
    rw [← hstack] at hordered'
    refine h.replace (hmoved.wellNested_of_element h.nested hout helement) hordered' fun y _ => ?_
    rw [name?, hmoved.element?_eq]
    rfl
  · have hplace := havoids x hx
    rw [heq] at hplace
    rintro rfl
    exact hplace.1 .refl

/-! ## The second copy -/

/-- A node that holds children of an element, and is opened right above it. -/
structure Gathers (start doc : Document) (outside : List NodeId) (copy block : NodeId)
    (below : List NodeId) : Prop where
  nested : doc.WellNested
  ordered : doc.Ordered (outside ++ copy :: block :: below)
  alone : ∀ p, ¬doc.Holds p copy
  size : doc.size = start.size
  data : ∀ x, doc.data x = start.data x

section

variable {start : Document} {outside below : List NodeId}

/-- What is right below the new node in the stack is not inside it. -/
theorem Gathers.not_enclosed (h : Gathers start doc outside copy block below)
    (hx : x ∈ block :: below) : ¬doc.Enclosed x copy :=
  (List.pairwise_cons.mp (List.pairwise_append.mp h.ordered.order).2.1).1 x hx

/-- One child of the block is moved below the new node. -/
theorem Gathers.step {child : NodeId} (h : Gathers start doc outside copy block below)
    (hparent : doc.IsParent block child) :
    Gathers start (doc.appendChild copy child) outside copy block below := by
  have hheld : doc.Holds block child := Or.inl hparent
  have hne : copy ≠ child := fun heq => h.alone block (heq ▸ hheld)
  have hcopy : doc.Has copy := h.ordered.has (by simp)
  have hout : ¬doc.Enclosed copy child := fun hin => hne (eq_of_enclosed h.alone hin)
  have hmoved := h.nested.wellFormed.moved_appendChild hcopy (has_of_parent? hparent)
    fun hin => hout hin.enclosed
  constructor
  case nested =>
    refine hmoved.wellNested h.nested hout (fun heq => ?_) fun q hq => ?_
    · exact h.nested.root.2.2 block (heq ▸ hheld)
    · exact absurd (hparent.symm.trans (h.nested.contents q child hq).2.1) (by simp)
  case ordered =>
    have hbelow := (List.pairwise_append.mp h.ordered.order).2.1
    have hblock := (List.pairwise_cons.mp (List.pairwise_cons.mp hbelow).2).1
    refine h.ordered.moved hmoved (fun y hy => ?_) ?_
    · exact not_enclosed_of_ordered h.ordered hy List.mem_cons_self
    · -- neither the block nor anything below it in the stack is in a child of the block
      refine List.forall_mem_cons.mpr ⟨hout, List.forall_mem_cons.mpr ⟨fun hin => ?_, ?_⟩⟩
      · exact h.nested.acyclic block (.head' hheld hin)
      · exact fun y hy hin => hblock y hy (.head hheld hin)
  case alone =>
    intro p hp
    rcases hmoved.holds p copy hp with hold | ⟨-, heq⟩
    · exact h.alone p hold
    · exact hne heq
  case size => exact hmoved.size.trans h.size
  case data => exact fun x => (hmoved.data x).trans (h.data x)

/-- The children of the block are moved one by one, each to the end of the copy. -/
theorem Gathers.moveFirst :
    ∀ (steps : Nat) {doc : Document}, Gathers start doc outside copy block below →
      Gathers start (doc.moveFirst block copy steps) outside copy block below := by
  intro steps
  induction steps with
  | zero => intro doc h; exact h
  | succ steps ih =>
    intro doc h
    rw [Document.moveFirst]
    split
    · exact h
    · next child hchild =>
      have hparent : doc.IsParent block child := by
        rw [h.nested.wellFormed.first] at hchild
        exact h.nested.wellFormed.isParent_iff.mpr (List.mem_of_head? hchild)
      exact ih (h.step hparent)

/-- The new node is put in the block, which has only what it gets now. -/
theorem Gathers.appendChild (h : Gathers start doc outside copy block below) :
    (doc.appendChild block copy).WellNested ∧
      (doc.appendChild block copy).Ordered (outside ++ copy :: block :: below) ∧
      ∀ x, (doc.appendChild block copy).name? x = start.name? x := by
  have hout : ¬doc.Enclosed block copy := h.not_enclosed List.mem_cons_self
  have hblock : doc.Has block := h.ordered.has (by simp)
  have hcopy := h.ordered.element copy (by simp)
  have hmoved := h.nested.wellFormed.moved_appendChild hblock (has_of_isSome hcopy)
    fun hin => hout hin.enclosed
  refine ⟨hmoved.wellNested_of_element h.nested hout hcopy, ?_, fun x => ?_⟩
  · have hordered := h.ordered
    rw [List.append_cons] at hordered ⊢
    refine hordered.moved hmoved (fun y hy => ?_) fun y hy => h.not_enclosed hy
    rcases List.mem_append.mp hy with hin | hin
    · exact not_enclosed_of_ordered h.ordered hin (by simp)
    · exact List.mem_singleton.mp hin ▸ hout
  · rw [name?_eq_nameIn, name?_eq_nameIn, hmoved.data, h.data]

end

/-! ## The whole of it -/

/-- The entries after one was placed are the new one and those that were there. -/
theorem mem_placeEntry {old : NodeId} (mark : Option NodeId) {entry other : FormattingEntry}
    (h : other ∈ (page.placeEntry old mark entry).formatting) :
    other = entry ∨ other ∈ page.formatting := by
  unfold placeEntry at h
  split at h
  · exact mem_swapFormatting h
  · next mark =>
    have hmem := List.mem_of_mem_eraseP h
    rcases List.mem_append.mp hmem with hnewer | hrest
    · exact Or.inr (List.takeWhile_subset _ hnewer)
    · exact (List.mem_cons.mp hrest).imp id fun hin => List.mem_of_mem_drop hin

/-- The formatting element is open above `older`, and the newer elements are cut in three. -/
structure IsCut (page : Construction) (id : NodeId) (cut : Cut) (older : List NodeId) : Prop where
  stack : page.openElements = cut.outside ++ cut.block :: cut.between ++ id :: older
  passed : ∀ x ∈ cut.outside ++ cut.block :: cut.between, IsPassed (page.nameOf x)

/-- A copy of a formatting element takes over the children of the block, and is opened in it. -/
theorem IsSound.copyInside {outside below : List NodeId} {tag : Tag}
    (h : IsSound doc (outside ++ block :: below) head formatting) (hfresh : Fresh doc mid copy)
    (hname : mid.name? copy = some (.html tag.name)) (hordinary : tag.IsOrdinary) :
    IsSound ((mid.moveChildren block copy).appendChild block copy)
        (outside ++ copy :: block :: below) head formatting ∧
      Formats ((mid.moveChildren block copy).appendChild block copy) copy tag := by
  have hcopy : (mid.element? copy).isSome := isSome_of_name? hname
  have hgathers : Gathers mid mid outside copy block below :=
    ⟨hfresh.wellNested, h.ordered.insert h.nested.wellFormed hfresh hcopy, hfresh.alone, rfl,
      fun _ => rfl⟩
  obtain ⟨hnested, hordered, hsame⟩ := (hgathers.moveFirst mid.size).appendChild
  exact ⟨h.replace hnested hordered fun x hx => (hsame x).trans (hfresh.adds.name x hx),
    (hsame copy).trans hname, hordinary⟩

/-- The entry of a copy may be placed anywhere in the list. -/
theorem Sound.placeEntry (h : page.Sound) {tag : Tag} (hformats : page.doc.Formats copy tag)
    (old : NodeId) (mark : Option NodeId) :
    (page.placeEntry old mark (.element copy tag)).Sound := by
  cases mark with
  | none => exact h.remembering hformats fun _ => mem_swapFormatting
  | some mark => exact h.remembering hformats fun _ => mem_placeEntry (some mark)

theorem Sound.splitFormatting (h : page.Sound) {tag : Tag} {cut : Cut}
    (hcut : IsCut page id cut older) (hordinary : tag.IsOrdinary) :
    (page.splitFormatting id tag cut older).Sound := by
  have hstart : Crosses page cut.outside cut.block (id :: older) { page, moved := cut.block } := by
    have hsub : (cut.outside ++ cut.block :: [] ++ id :: older).Sublist page.openElements := by
      rw [hcut.stack]
      simp
    exact ⟨h.shrink hsub, List.mem_cons_self, fun _ hid => absurd hid List.not_mem_nil,
      fun x hx => ⟨hx, rfl⟩⟩
  have hcrossed := hstart.steps cut.between 1
  unfold Construction.splitFormatting
  dsimp only
  generalize crossElements 1 _ cut.between = crossing at *
  -- what is moved is taken out, and goes where a node of the older element would go
  have hdetached : Sound { crossing.page with
      openElements := cut.outside ++ cut.block :: crossing.kept ++ id :: older
      doc := crossing.page.doc.detach crossing.moved } :=
    hcrossed.sound.adds (Adds.detach hcrossed.sound.nested.wellFormed _)
      (hcrossed.sound.nested.detach _)
  have hpassed : ∀ x ∈ cut.outside ++ cut.block :: crossing.kept,
      IsPassed (((crossing.page.doc.detach crossing.moved).name? x).getD default) := by
    intro x hx
    rw [name?_eq_nameIn, data_detach, ← name?_eq_nameIn]
    rcases List.mem_append.mp hx with hin | hin
    · rw [(hcrossed.name x (h.ordered.has (by rw [hcut.stack]; simp [hin]))).2]
      exact hcut.passed x (List.mem_append_left _ hin)
    · rcases List.mem_cons.mp hin with rfl | hkept
      · rw [(hcrossed.name _ (h.ordered.has (by rw [hcut.stack]; simp))).2]
        exact hcut.passed _ (by simp)
      · exact hcrossed.passed x hkept
  have hplaced := isSound_putNode hdetached rfl hpassed (List.mem_append_right _ hcrossed.moved)
  have hsub : (cut.outside ++ cut.block :: (crossing.kept ++ older)).Sublist
      (cut.outside ++ cut.block :: crossing.kept ++ id :: older) := by
    simp
  have hclosed := hplaced.shrink hsub
  generalize putNode _ _ _ = placed at *
  obtain ⟨copy, mid, hcreate, hfresh, hname⟩ :=
    exists_createElement hplaced.nested (.html tag.name) tag.attrs
  have hstack : cut.outside ++ copy :: cut.block :: crossing.kept ++ older =
      cut.outside ++ copy :: cut.block :: (crossing.kept ++ older) := by
    simp
  obtain ⟨hsound, hformats⟩ := IsSound.copyInside hclosed hfresh hname hordinary
  have hopened : Sound { placed with
      doc := (mid.moveChildren cut.block copy).appendChild cut.block copy
      openElements := cut.outside ++ copy :: cut.block :: (crossing.kept ++ older) } := hsound
  rw [hcreate, hstack]
  exact hopened.placeEntry hformats id crossing.mark

/-! ## End tags -/

/-- An element in scope is below elements that a search for a place goes past. -/
theorem split_of_inScope : ∀ stack : List NodeId,
    inScope.go page .default (· == id) stack = true →
      stack = stack.takeWhile (· != id) ++
          id :: stack.drop ((stack.takeWhile (· != id)).length + 1) ∧
        ∀ x ∈ stack.takeWhile (· != id), IsPassed (page.nameOf x) := by
  intro stack
  induction stack with
  | nil => intro h; exact absurd h Bool.false_ne_true
  | cons x older ih =>
    intro h
    by_cases hx : x = id
    · subst hx
      simp
    · have hcond := h
      rw [inScope.go, beq_false_of_ne hx, Bool.false_or] at hcond
      obtain ⟨hscope, hrest⟩ := Bool.and_eq_true_iff.mp hcond
      obtain ⟨hsplit, hpassed⟩ := ih hrest
      have htake : (x :: older).takeWhile (· != id) = x :: older.takeWhile (· != id) :=
        List.takeWhile_cons_of_pos (bne_iff_ne.mpr hx)
      rw [htake]
      refine ⟨?_, List.forall_mem_cons.mpr ⟨?_, hpassed⟩⟩
      · rw [List.cons_append, List.length_cons, List.drop_succ_cons, ← hsplit]
      · exact isPassed_of_scope (Bool.not_eq_true' _ ▸ hscope)

/-- A cut is a cut of the elements that are given. -/
theorem eq_of_cut? {cut : Cut} (h : page.cut? newer = some cut) :
    newer = cut.outside ++ cut.block :: cut.between := by
  unfold cut? at h
  split at h
  · exact absurd h (by simp)
  · next block outside hdrop =>
    obtain rfl := Option.some.inj h
    obtain ⟨between, hbetween⟩ := hdrop ▸ List.dropWhile_suffix _
    have hsplit : newer = (outside.reverse ++ [block]) ++ between.reverse := by
      rw [← List.reverse_reverse newer, ← hbetween]
      simp
    have hrest : newer.drop (outside.length + 1) = between.reverse := by
      rw [hsplit]
      exact List.drop_left' (by simp)
    rw [hrest, hsplit]
    simp

/-- A recent formatting element has an entry in the list. -/
theorem mem_of_recentFormatting {tag : Tag} (h : (id, tag) ∈ page.recentFormatting) :
    .element id tag ∈ page.formatting := by
  obtain ⟨entry, hentry, heq⟩ := List.mem_filterMap.mp h
  have hmem := List.takeWhile_subset _ hentry
  cases entry with
  | marker => exact absurd heq (by simp)
  | element other tag' =>
    obtain ⟨rfl, rfl⟩ := Prod.mk.inj (Option.some.inj heq)
    exact hmem

/-- Every round splits one element or is the last. -/
theorem Sound.closeFormattingRounds (tag : String) :
    ∀ (rounds : Nat) {page : Construction}, page.Sound →
      (Construction.closeFormattingRounds tag rounds page).Sound := by
  intro rounds
  induction rounds with
  | zero => intro page h; exact h
  | succ rounds ih =>
    intro page h
    unfold Construction.closeFormattingRounds
    split
    · exact h.closeOrdinary tag
    · next id found hfind =>
      have hentry : .element id found ∈ page.formatting :=
        mem_of_recentFormatting (List.mem_of_find?_eq_some hfind)
      split
      · exact h.forget id
      · split
        · exact h
        · next hscope =>
          have hin : page.inScope .default (· == id) = true := by simpa using hscope
          obtain ⟨hsplit, hpassed⟩ := split_of_inScope page.openElements hin
          dsimp only
          -- without a block in between nothing has to be split
          split
          · exact (h.forget id).shrink (List.drop_sublist _ _)
          · next cut hcut =>
            generalize page.openElements.takeWhile (· != id) = newer at *
            obtain rfl := eq_of_cut? hcut
            exact ih (h.splitFormatting ⟨hsplit, hpassed⟩ (h.formatting id found hentry).ordinary)

/-- The end tag of a formatting element keeps the page sound, whatever it splits or closes. -/
theorem Sound.closeFormatting (h : page.Sound) (tag : String) :
    (page.closeFormatting tag).Sound := by
  unfold Construction.closeFormatting
  split
  · split
    · exact h.pop
    · exact h.closeFormattingRounds tag 8
  · exact h

end Construction

end ComposingProxy.Markup
