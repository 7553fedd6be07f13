import ComposingProxy.Proofs.Tree.Nesting

/-!
# Documents that are built up

A reader of pages makes nodes, puts them in and moves some of them once more. `WellNested` is what
it keeps: the document is well formed, nothing is inside itself, and the contents of a template
are its own. Both kinds of steps add one link at a time, and what is inside what after a step is
told by what was before (`enclosed_of_link`):

> `WellNested.link`: a link from `p` to `c` makes no cycle if `p` is not inside `c`.
> `Fresh.put`: a new node may be put below any node that was there.

`Adds` is the step seen from the nodes that were there: they get no new parents, so they are inside
what they were inside before and nothing else.
-/

namespace ComposingProxy.Markup.Document

variable {doc doc' mid : Document} {p c x y id : NodeId}

/-! ## The invariant -/

/-- Nothing is inside itself, the contents of templates are trees of their own, no two templates
share contents, and the root is in nothing. -/
structure WellNested (doc : Document) : Prop where
  wellFormed : doc.WellFormed
  acyclic : doc.IsAcyclic
  contents : ∀ p c, doc.contents? p = some c →
    doc.Has c ∧ doc.parent? c = none ∧ doc.element? c = none
  unique : ∀ p q c, doc.contents? p = some c → doc.contents? q = some c → p = q
  root : doc.Has root ∧ doc.element? root = none ∧ ∀ p, ¬doc.Holds p root

namespace WellNested

/-- In a well nested document no node is held twice. -/
theorem holdsOnce (h : doc.WellNested) : doc.HoldsOnce :=
  ⟨fun p c hc => (h.contents p c hc).2.1, h.unique⟩

/-- A node is held by one node at most. -/
theorem eq_of_holds (h : doc.WellNested) {q : NodeId} (hp : doc.Holds p c) (hq : doc.Holds q c) :
    p = q :=
  h.holdsOnce.eq_of_holds hp hq

/-- What a node is inside of, its holder is inside of, unless it is the node itself. -/
theorem enclosed_of_holds (h : doc.WellNested) (hpc : doc.Holds p c) (hin : doc.Enclosed c x) :
    c = x ∨ doc.Enclosed p x := by
  rcases Relation.ReflTransGen.cases_tail hin with heq | ⟨q, hq, hqc⟩
  · exact Or.inl heq
  · exact Or.inr (h.eq_of_holds hqc hpc ▸ hq)

/-- The root is no element. -/
theorem ne_root (h : doc.WellNested) (hx : (doc.element? x).isSome) : x ≠ Document.root := by
  rintro rfl
  rw [h.root.2.1] at hx
  exact absurd hx (by simp)

/-- An element is not the root of the contents of a template. -/
theorem contents?_ne (h : doc.WellNested) (hx : (doc.element? x).isSome) (p : NodeId) :
    doc.contents? p ≠ some x := by
  intro hp
  rw [(h.contents p x hp).2.2] at hx
  exact absurd hx (by simp)

end WellNested

/-! ## One more link -/

/-- What is inside what with one link more: what was before, and what is in the lower end of the
link is in what the upper end is in. -/
theorem enclosed_of_link (hlink : ∀ q x, doc'.Holds q x → doc.Holds q x ∨ q = p ∧ x = c)
    (hin : doc'.Enclosed x y) :
    doc.Enclosed x y ∨ doc.Enclosed x c ∧ doc.Enclosed p y := by
  induction hin with
  | refl => exact Or.inl .refl
  | @tail q x _ hqx ih =>
    rcases hlink q x hqx with hold | ⟨rfl, rfl⟩
    · exact ih.imp (·.tail hold) fun ⟨hc, hp⟩ => ⟨hc.tail hold, hp⟩
    · exact Or.inr ⟨.refl, ih.elim (fun hq => hq) fun hboth => hboth.2⟩

/-- A link makes no cycle if its upper end is not inside its lower end. -/
theorem IsAcyclic.link (h : doc.IsAcyclic)
    (hlink : ∀ q x, doc'.Holds q x → doc.Holds q x ∨ q = p ∧ x = c) (hout : ¬doc.Enclosed p c) :
    doc'.IsAcyclic := by
  intro x hx
  obtain ⟨q, hxq, hqx⟩ := Relation.TransGen.tail'_iff.mp hx
  rcases hlink q x hqx with hold | ⟨rfl, rfl⟩
  · rcases enclosed_of_link hlink hxq with hin | ⟨hqc, hpx⟩
    · exact h x (.tail' hin hold)
    · exact hout ((hqc.tail hold).trans hpx)
  · rcases enclosed_of_link hlink hxq with hin | ⟨-, hin⟩
    · exact hout hin
    · exact hout hin

/-- There are as many nodes, with the same contents, and none is an element that was not. -/
structure SameNodes (doc doc' : Document) : Prop where
  size : doc'.size = doc.size
  contents : ∀ x, doc'.contents? x = doc.contents? x
  bare : ∀ x, doc.element? x = none → doc'.element? x = none

/-- Nodes may be linked in another way, if no cycle arises and the tops of trees stay tops. -/
theorem SameNodes.wellNested (h : SameNodes doc doc') (hdoc : doc.WellNested)
    (hwell : doc'.WellFormed) (hacyclic : doc'.IsAcyclic)
    (htop : ∀ x, (x = root ∨ ∃ q, doc.contents? q = some x) → doc.parent? x = none →
      doc'.parent? x = none) : doc'.WellNested where
  wellFormed := hwell
  acyclic := hacyclic
  contents p c hc := by
    rw [h.contents] at hc
    obtain ⟨hhas, hparent, helement⟩ := hdoc.contents p c hc
    exact ⟨by rwa [Has, h.size], htop c (Or.inr ⟨p, hc⟩) hparent, h.bare c helement⟩
  unique p q c hp hq := by
    rw [h.contents] at hp hq
    exact hdoc.unique p q c hp hq
  root := by
    obtain ⟨hhas, helement, hheld⟩ := hdoc.root
    have hparent : doc.parent? root = none :=
      Option.eq_none_iff_forall_not_mem.mpr fun p hp => hheld p (Or.inl hp)
    refine ⟨by rwa [Has, h.size], h.bare root helement, fun p hp => ?_⟩
    rcases hp with hp | hp
    · exact absurd (hp.symm.trans (htop root (Or.inl rfl) hparent)) (by simp)
    · exact hheld p (Or.inr (h.contents p ▸ hp))

/-- The node `c` is moved below `p`, and nothing else changes. -/
structure Moved (doc doc' : Document) (p c : NodeId) : Prop where
  wellFormed : doc'.WellFormed
  size : doc'.size = doc.size
  data : ∀ x, doc'.data x = doc.data x
  parent : ∀ x, doc'.parent? x = if x = c then some p else doc.parent? x

namespace Moved

theorem element?_eq (h : Moved doc doc' p c) (x : NodeId) : doc'.element? x = doc.element? x := by
  rw [element?, element?, h.data]

/-- The only new link of a move is the one to the node that is moved. -/
theorem holds (h : Moved doc doc' p c) (q x : NodeId) (hqx : doc'.Holds q x) :
    doc.Holds q x ∨ q = p ∧ x = c := by
  rcases hqx with hparent | hcontents
  · rw [h.parent] at hparent
    split at hparent
    · next heq => exact Or.inr ⟨(Option.some.inj hparent).symm, heq⟩
    · exact Or.inl (Or.inl hparent)
  · exact Or.inl (Or.inr ((contents?_eq (h.data q)).symm.trans hcontents))

/-- A move changes links only. -/
theorem sameNodes (h : Moved doc doc' p c) : SameNodes doc doc' where
  size := h.size
  contents x := contents?_eq (h.data x)
  bare x hx := (h.element?_eq x).trans hx

/-- A node that is not the root of contents may be moved to where it is not around. -/
theorem wellNested (h : Moved doc doc' p c) (hdoc : doc.WellNested) (hout : ¬doc.Enclosed p c)
    (hroot : c ≠ root) (hbare : ∀ q, doc.contents? q ≠ some c) : doc'.WellNested := by
  refine h.sameNodes.wellNested hdoc h.wellFormed (hdoc.acyclic.link h.holds hout) ?_
  intro x hx hparent
  have hne : x ≠ c := by
    rintro rfl
    rcases hx with heq | ⟨q, hq⟩
    · exact hroot heq
    · exact hbare q hq
  rw [h.parent, if_neg hne, hparent]

/-- An element may be moved below a node that is not inside it. -/
theorem wellNested_of_element (h : Moved doc doc' p c) (hdoc : doc.WellNested)
    (hout : ¬doc.Enclosed p c) (hc : (doc.element? c).isSome) : doc'.WellNested :=
  h.wellNested hdoc hout (hdoc.ne_root hc) (hdoc.contents?_ne hc)

end Moved

/-- The parents in a forest whose lists differ in the place of one node. -/
theorem IsForest.parent?_eq {kids kids' : NodeId → List NodeId} (h : doc.IsForest kids)
    (h' : doc'.IsForest kids') (hmem : ∀ q x, x ∈ kids' q ↔ if x = c then q = p else x ∈ kids q)
    (x : NodeId) : doc'.parent? x = if x = c then some p else doc.parent? x := by
  refine Option.ext fun q => ?_
  rw [← h'.mem_iff, hmem]
  split
  · exact ⟨fun heq => heq ▸ rfl, fun heq => (Option.some.inj heq).symm⟩
  · exact h.mem_iff q x

/-- Appending a child is such a move. -/
theorem WellFormed.moved_appendChild (h : doc.WellFormed) (hp : doc.Has p) (hc : doc.Has c)
    (hout : ¬doc.Within p c) : Moved doc (doc.appendChild p c) p c where
  wellFormed := h.appendChild hp hc hout
  size := size_appendChild doc p c
  data := data_appendChild doc p c
  parent := by
    refine IsForest.parent?_eq h (IsForest.appendChild h hp hc hout) fun q x => ?_
    rw [Function.update_apply]
    by_cases hq : q = p <;> by_cases hx : x = c <;>
      simp [hq, hx, (h.nodup q).mem_erase_iff, (h.nodup p).mem_erase_iff]

/-- Putting a node in front of another is such a move, below its parent. -/
theorem WellFormed.moved_insertBefore (h : doc.WellFormed) {sibling : NodeId}
    (hp : doc.parent? sibling = some p) (hc : doc.Has c) (hne : sibling ≠ c)
    (hout : ¬doc.Within p c) : Moved doc (doc.insertBefore sibling c) p c := by
  have hmem : sibling ∈ (doc.children p).erase c :=
    (List.mem_erase_of_ne hne).mpr (h.isParent_iff.mp hp)
  obtain ⟨before, after, hk⟩ := List.append_of_mem hmem
  have hforest := IsForest.insertBefore h before after hc hk hout
  refine ⟨hforest.wellFormed, size_insertBefore doc sibling c, data_insertBefore doc sibling c, ?_⟩
  refine IsForest.parent?_eq h hforest fun q x => ?_
  rw [Function.update_apply]
  by_cases hq : q = p
  · have hrow : x ∈ before ++ c :: sibling :: after ↔ x = c ∨ x ∈ (doc.children p).erase c := by
      rw [hk]
      simp only [List.mem_append, List.mem_cons]
      tauto
    rw [if_pos hq, hrow, (h.nodup p).mem_erase_iff]
    by_cases hx : x = c <;> simp [hq, hx]
  · by_cases hx : x = c <;> simp [hq, hx, (h.nodup q).mem_erase_iff]

/-! ## What was there -/

/-- The name of the element that a node is. -/
def name? (doc : Document) (id : NodeId) : Option Name := (doc.element? id).map (·.name)

theorem isSome_name? (doc : Document) (id : NodeId) :
    (doc.name? id).isSome = (doc.element? id).isSome := Option.isSome_map

/-- What has a name is an element. -/
theorem isSome_of_name? {name : Name} (h : doc.name? id = some name) :
    (doc.element? id).isSome := by
  rw [← isSome_name?, h]
  rfl

/-- The nodes of `doc` are there in `doc'` too, with their names and
contents, and nothing else holds them. -/
structure Adds (doc doc' : Document) : Prop where
  size : doc.size ≤ doc'.size
  name : ∀ x, doc.Has x → doc'.name? x = doc.name? x
  contents : ∀ x, doc.Has x → doc'.contents? x = doc.contents? x
  holds : ∀ p x, doc.Has x → doc'.Holds p x → doc.Holds p x

namespace Adds

theorem refl (doc : Document) : Adds doc doc :=
  ⟨Nat.le_refl _, fun _ _ => rfl, fun _ _ => rfl, fun _ _ _ h => h⟩

/-- Every node of the document is there afterwards. -/
theorem has (h : Adds doc doc') (hx : doc.Has x) : doc'.Has x := Nat.lt_of_lt_of_le hx h.size

/-- Elements stay elements. -/
theorem isSome_element? (h : Adds doc doc') (hx : (doc.element? x).isSome) :
    (doc'.element? x).isSome := by
  obtain ⟨element, helement⟩ := Option.isSome_iff_exists.mp hx
  rwa [← isSome_name?, h.name x (has_of_element? helement), isSome_name?]

/-- A node that was there is inside nothing that it was not inside before. -/
theorem enclosed (h : Adds doc doc') (hdoc : doc.WellFormed) (hx : doc.Has x)
    (hin : doc'.Enclosed x y) : doc.Enclosed x y := by
  induction hin with
  | refl => exact .refl
  | @tail q x _ hqx ih =>
    have hold := h.holds q x hx hqx
    exact (ih (hdoc.has_of_holds hold)).tail hold

end Adds

/-- A node that was made after `doc`, held by nothing so far. -/
structure Fresh (doc doc' : Document) (id : NodeId) : Prop where
  adds : Adds doc doc'
  wellNested : doc'.WellNested
  has : doc'.Has id
  new : ¬doc.Has id
  alone : ∀ p, ¬doc'.Holds p id

namespace Fresh

/-- The root was there from the start, so it is not fresh. -/
theorem ne_root (h : Fresh doc doc' id) (hdoc : doc.WellNested) : id ≠ root :=
  fun heq => h.new (heq ▸ hdoc.root.1)

/-- No node that was there is inside a new one. -/
theorem not_enclosed (h : Fresh doc doc' id) (hdoc : doc.WellFormed) (hx : doc.Has x) :
    ¬doc'.Enclosed x id :=
  fun hin => h.new (hdoc.has_of_enclosed hx (h.adds.enclosed hdoc hx hin))

/-- A new node may be put below a node that was there. -/
theorem put (h : Fresh doc mid id) (hdoc : doc.WellNested) (hp : doc.Has p)
    (hmoved : Moved mid doc' p id) : Adds doc doc' ∧ doc'.WellNested := by
  refine ⟨⟨hmoved.size ▸ h.adds.size, fun x hx => ?_, fun x hx => ?_, fun q x hx hqx => ?_⟩, ?_⟩
  · rw [name?, hmoved.element?_eq]
    exact h.adds.name x hx
  · rw [contents?_eq (hmoved.data x)]
    exact h.adds.contents x hx
  · rcases hmoved.holds q x hqx with hold | ⟨-, rfl⟩
    · exact h.adds.holds q x hx hold
    · exact absurd hx h.new
  · exact hmoved.wellNested h.wellNested (h.not_enclosed hdoc.wellFormed hp) (h.ne_root hdoc)
      fun q hq => h.alone q (Or.inr hq)

end Fresh

/-- A fresh node may be appended to any node that was there. -/
theorem Fresh.appendChild (h : Fresh doc mid id) (hdoc : doc.WellNested) (hp : doc.Has p) :
    Adds doc (mid.appendChild p id) ∧ (mid.appendChild p id).WellNested :=
  h.put hdoc hp (h.wellNested.wellFormed.moved_appendChild (h.adds.has hp) h.has
    fun hin => h.not_enclosed hdoc.wellFormed hp hin.enclosed)

/-- A fresh node may be put in front of any node that was there. -/
theorem Fresh.insertBefore (h : Fresh doc mid id) (hdoc : doc.WellNested) {sibling : NodeId}
    (hsibling : doc.Has sibling) :
    Adds doc (mid.insertBefore sibling id) ∧ (mid.insertBefore sibling id).WellNested := by
  cases hp : mid.parent? sibling with
  | none =>
    rw [Document.insertBefore, hp]
    exact ⟨h.adds, h.wellNested⟩
  | some p =>
    have hhas : doc.Has p := hdoc.wellFormed.has_of_holds (h.adds.holds p _ hsibling (Or.inl hp))
    refine h.put hdoc hhas (h.wellNested.wellFormed.moved_insertBefore hp h.has ?_ ?_)
    · rintro rfl
      exact h.new hsibling
    · exact fun hin => h.not_enclosed hdoc.wellFormed hhas hin.enclosed

/-! ## New nodes -/

/-- The name of the element that some data is. -/
def nameIn : NodeData → Option Name
  | .element element => some element.name
  | _ => none

theorem name?_eq_nameIn (doc : Document) (x : NodeId) : doc.name? x = nameIn (doc.data x) := by
  rw [name?, element?]
  cases doc.data x <;> rfl

/-- The contents of the template that some data is. -/
def contentsOf : NodeData → Option NodeId
  | .element element => element.contents
  | _ => none

theorem contents?_eq_contentsOf (doc : Document) (x : NodeId) :
    doc.contents? x = contentsOf (doc.data x) := by
  rw [contents?, element?]
  cases doc.data x <;> rfl

/-- The contents of all nodes are known after one is made: the new one has those of its data. -/
theorem contents?_create (data : NodeData) (x : NodeId) :
    (doc.create data).2.contents? x =
      if x = (doc.create data).1 then contentsOf data else doc.contents? x := by
  rw [contents?_eq_contentsOf, contents?_eq_contentsOf, Document.data, node_create]
  split <;> rfl

/-- The node `id` was made out of some data, and nothing else changed. -/
structure Created (doc doc' : Document) (id : NodeId) (data : NodeData) : Prop where
  wellFormed : doc'.WellFormed
  size : doc.size ≤ doc'.size
  has : doc'.Has id
  new : ¬doc.Has id
  parent : ∀ x, doc'.parent? x = doc.parent? x
  element : ∀ x, doc.Has x → doc'.element? x = doc.element? x
  contents : ∀ x, doc'.contents? x = if x = id then contentsOf data else doc.contents? x

/-- Making a node links nothing and keeps the data of all others. -/
theorem WellFormed.created (h : doc.WellFormed) (data : NodeData) :
    Created doc (doc.create data).2 (doc.create data).1 data where
  wellFormed := h.create data
  size := (Grows.create doc data).size
  has := has_created doc data
  new := not_has_created doc data
  parent := (create_sameLinks doc data).parent
  element x hx := by rw [element?, element?, data_create_of_has data hx]
  contents := contents?_create data

/-- Nothing holds a node that is not there yet. -/
theorem WellNested.not_holds_new (h : doc.WellNested) (hx : ¬doc.Has x) (p : NodeId) :
    ¬doc.Holds p x := by
  rintro (hparent | hcontents)
  · exact hx (has_of_parent? hparent)
  · exact hx (h.contents p x hcontents).1

/-- The node may become the root of the contents of a template that is made next. -/
structure CanBeContents (doc mid : Document) (root : NodeId) : Prop where
  new : ¬doc.Has root
  has : mid.Has root
  alone : ∀ p, ¬mid.Holds p root
  noElement : mid.element? root = none

namespace Created

variable {data : NodeData}

/-- A node that is made holds its contents, and that is the only link more. -/
theorem holds (h : Created doc doc' id data) (hpx : doc'.Holds p x) :
    doc.Holds p x ∨ p = id ∧ contentsOf data = some x := by
  rcases hpx with hparent | hcontents
  · exact Or.inl (Or.inl (h.parent x ▸ hparent))
  · rw [h.contents] at hcontents
    split at hcontents
    · next heq => exact Or.inr ⟨heq, hcontents⟩
    · exact Or.inl (Or.inr hcontents)

/-- Its contents are in nothing else, so there are no cycles. -/
theorem acyclic (h : Created mid doc' id data) (hmid : mid.WellNested)
    (hcontents : ∀ root, contentsOf data = some root → CanBeContents doc mid root) :
    doc'.IsAcyclic := by
  cases hdata : contentsOf data with
  | none =>
    refine fun x hx => hmid.acyclic x (Relation.TransGen.mono (fun p y hpy => ?_) _ _ hx)
    exact (h.holds hpy).resolve_right fun hy => absurd (hdata.symm.trans hy.2) (by simp)
  | some root =>
    refine hmid.acyclic.link (p := id) (c := root) (fun p x hpx => ?_) fun hin => ?_
    · refine (h.holds hpx).imp (fun hold => hold) fun hlink => ⟨hlink.1, ?_⟩
      exact Option.some.inj (hlink.2.symm.trans hdata)
    · have heq := eq_of_enclosed (hmid.not_holds_new h.new) hin
      exact h.new (heq ▸ (hcontents root hdata).has)

/-- A node may be made if its contents, where it has any, can be contents of their own. -/
theorem wellNested (h : Created mid doc' id data) (hmid : mid.WellNested) (hdoc : doc.WellNested)
    (hcontents : ∀ root, contentsOf data = some root → CanBeContents doc mid root) :
    doc'.WellNested where
  wellFormed := h.wellFormed
  acyclic := h.acyclic hmid hcontents
  contents p c hc := by
    rw [h.contents] at hc
    split at hc
    · obtain ⟨-, hhas, halone, hnone⟩ := hcontents c hc
      refine ⟨Nat.lt_of_lt_of_le hhas h.size, ?_, (h.element c hhas).trans hnone⟩
      rw [h.parent]
      exact Option.eq_none_iff_forall_not_mem.mpr fun q hq => halone q (Or.inl hq)
    · obtain ⟨hhas, hparent, hnone⟩ := hmid.contents p c hc
      exact ⟨Nat.lt_of_lt_of_le hhas h.size, (h.parent c).trans hparent,
        (h.element c hhas).trans hnone⟩
  unique p q c hp hq := by
    rw [h.contents] at hp hq
    split at hp <;> split at hq
    · next hp' hq' => exact hp'.trans hq'.symm
    · exact absurd (Or.inr hq) ((hcontents c hp).alone q)
    · exact absurd (Or.inr hp) ((hcontents c hq).alone p)
    · exact hmid.unique p q c hp hq
  root := by
    obtain ⟨hroot, hnone, htop⟩ := hmid.root
    refine ⟨Nat.lt_of_lt_of_le hroot h.size, (h.element _ hroot).trans hnone, fun p hp => ?_⟩
    rcases h.holds hp with hold | ⟨-, hcontent⟩
    · exact htop p hold
    · exact (hcontents _ hcontent).new hdoc.root.1

/-- What was there before the contents were made stays as it was. -/
theorem adds (h : Created mid doc' id data) (hadds : Adds doc mid)
    (hcontents : ∀ root, contentsOf data = some root → CanBeContents doc mid root) :
    Adds doc doc' where
  size := Nat.le_trans hadds.size h.size
  name x hx := by
    rw [name?, h.element x (hadds.has hx)]
    exact hadds.name x hx
  contents x hx := by
    rw [contents?, h.element x (hadds.has hx)]
    exact hadds.contents x hx
  holds p x hx hpx := by
    rcases h.holds hpx with hold | ⟨-, hroot⟩
    · exact hadds.holds p x hx hold
    · exact absurd hx (hcontents x hroot).new

end Created

/-- A node that is made is held by nothing, and its contents are its own. -/
theorem WellNested.fresh_create (h : mid.WellNested) (hdoc : doc.WellNested)
    (hadds : Adds doc mid) {data : NodeData}
    (hcontents : ∀ root, contentsOf data = some root → CanBeContents doc mid root) :
    Fresh doc (mid.create data).2 (mid.create data).1 := by
  have hmade := h.wellFormed.created data
  refine ⟨hmade.adds hadds hcontents, hmade.wellNested h hdoc hcontents, hmade.has,
    fun hx => hmade.new (hadds.has hx), fun p hp => ?_⟩
  rcases hmade.holds hp with hold | ⟨-, hid⟩
  · exact h.not_holds_new hmade.new p hold
  · exact hmade.new (hcontents _ hid).has

/-- A new node without contents. -/
theorem WellNested.fresh_plain (h : doc.WellNested) {data : NodeData}
    (hdata : contentsOf data = none) : Fresh doc (doc.create data).2 (doc.create data).1 :=
  h.fresh_create h (.refl doc) fun _ hroot => absurd (hdata.symm.trans hroot) (by simp)

/-- A new template; its contents are made before it. -/
theorem WellNested.fresh_template (h : doc.WellNested) {element : Element}
    (helement : element.contents = some (doc.create .document).1) :
    Fresh doc ((doc.create .document).2.create (.element element)).2
      ((doc.create .document).2.create (.element element)).1 := by
  have hcontents : Fresh doc (doc.create .document).2 (doc.create .document).1 := h.fresh_plain rfl
  refine hcontents.wellNested.fresh_create h hcontents.adds fun root hroot => ?_
  obtain rfl := Option.some.inj (helement.symm.trans hroot)
  refine ⟨hcontents.new, hcontents.has, hcontents.alone, ?_⟩
  rw [element?, data_created]

/-! ## Changes that link nothing -/

/-- Nodes are what they were as far as links, names and contents go. -/
structure Alike (doc doc' : Document) : Prop where
  size : doc'.size = doc.size
  links : SameLinks doc doc'
  name : ∀ x, doc'.name? x = doc.name? x
  contents : ∀ x, doc'.contents? x = doc.contents? x

namespace Alike

theorem element?_eq_none (h : Alike doc doc') (hx : doc.element? x = none) :
    doc'.element? x = none := by
  have hname := h.name x
  rw [name?, name?, hx] at hname
  exact Option.map_eq_none_iff.mp hname

/-- Documents that are alike hold the same nodes in the same places. -/
theorem holds_iff (h : Alike doc doc') : doc'.Holds p c ↔ doc.Holds p c := by
  rw [Holds, Holds, h.links.parent, h.contents]

/-- What is alike only adds, namely nothing. -/
theorem adds (h : Alike doc doc') : Adds doc doc' :=
  ⟨Nat.le_of_eq h.size.symm, fun x _ => h.name x, fun x _ => h.contents x,
    fun _ _ _ => h.holds_iff.mp⟩

/-- What is like a well nested document is well nested. -/
theorem wellNested (h : Alike doc doc') (hdoc : doc.WellNested) : doc'.WellNested := by
  have hsame : SameNodes doc doc' := ⟨h.size, h.contents, fun _ => h.element?_eq_none⟩
  refine hsame.wellNested hdoc (hdoc.wellFormed.sameLinks h.links) (fun x hx => ?_) fun x _ hx => ?_
  · exact hdoc.acyclic x (Relation.TransGen.mono (fun _ _ => h.holds_iff.mp) _ _ hx)
  · exact (h.links.parent x).trans hx

/-- The data of a node may change where neither the name nor the contents do. -/
theorem modifyData (doc : Document) (id : NodeId) {f : NodeData → NodeData}
    (hname : ∀ data, nameIn (f data) = nameIn data)
    (hcontents : ∀ data, contentsOf (f data) = contentsOf data) :
    Alike doc (doc.modifyData id f) where
  size := size_modify doc id _
  links := modifyData_sameLinks doc id f
  name x := by
    rw [name?_eq_nameIn, name?_eq_nameIn, Document.data, Document.modifyData, node_modify]
    split
    · exact hname (doc.node x).data
    · rfl
  contents x := by
    rw [contents?_eq_contentsOf, contents?_eq_contentsOf, Document.data, Document.modifyData,
      node_modify]
    split
    · exact hcontents (doc.node x).data
    · rfl

/-- A longer text is a text, so the document is alike. -/
theorem extendText (doc : Document) (id : NodeId) (text : String) :
    Alike doc (doc.extendText id text) := by
  refine modifyData doc id (fun data => ?_) fun data => ?_ <;> cases data <;> rfl

/-- An element with more attributes keeps its name, so the document is alike. -/
theorem addMissing (doc : Document) (id : NodeId) (attrs : List Attr) :
    Alike doc (doc.modifyElement id (·.addMissing attrs)) := by
  refine modifyData doc id (fun data => ?_) fun data => ?_ <;> cases data <;> rfl

end Alike

/-! ## Text -/

/-- Text may be put at the end of any node that was there. -/
theorem WellNested.appendText (h : doc.WellNested) (hp : doc.Has p) (text : String) :
    Adds doc (doc.appendText p text) ∧ (doc.appendText p text).WellNested := by
  unfold Document.appendText
  split
  · next last _ =>
    have halike := Alike.extendText doc last text
    exact ⟨halike.adds, halike.wellNested h⟩
  · exact (h.fresh_plain rfl).appendChild h hp

/-- Text may be put in front of any node that was there. -/
theorem WellNested.insertTextBefore (h : doc.WellNested) {sibling : NodeId}
    (hsibling : doc.Has sibling) (text : String) :
    Adds doc (doc.insertTextBefore sibling text) ∧
      (doc.insertTextBefore sibling text).WellNested := by
  unfold Document.insertTextBefore
  split
  · next previous _ =>
    have halike := Alike.extendText doc previous text
    exact ⟨halike.adds, halike.wellNested h⟩
  · exact (h.fresh_plain rfl).insertBefore h hsibling

/-! ## Fewer links -/

/-- Taking a node out makes no links. -/
theorem holds_detach (h : doc.WellFormed) (hpx : (doc.detach c).Holds p x) : doc.Holds p x := by
  rcases hpx with hparent | hcontents
  · rw [(IsForest.detach_cutOut h c).parent] at hparent
    split at hparent
    · exact absurd hparent (by simp)
    · exact Or.inl hparent
  · exact Or.inr ((contents?_eq (data_detach doc c p)).symm.trans hcontents)

/-- Taking a node out adds nothing, and nothing is held that was not held before. -/
theorem Adds.detach (h : doc.WellFormed) (c : NodeId) : Adds doc (doc.detach c) where
  size := Nat.le_of_eq (size_detach doc c).symm
  name x _ := by rw [name?, name?, element?, element?, data_detach]
  contents x _ := contents?_eq (data_detach doc c x)
  holds _ _ _ := holds_detach h

/-- Any node may be taken out of its place. -/
theorem WellNested.detach (h : doc.WellNested) (c : NodeId) : (doc.detach c).WellNested := by
  have hsame : SameNodes doc (doc.detach c) :=
    ⟨size_detach doc c, fun x => contents?_eq (data_detach doc c x), fun x hx => by
      rw [element?, data_detach]
      exact hx⟩
  refine hsame.wellNested h (h.wellFormed.detach c) (fun x hx => ?_) fun x _ hx => ?_
  · exact h.acyclic x (Relation.TransGen.mono (fun _ _ => holds_detach h.wellFormed) _ _ hx)
  · rw [(IsForest.detach_cutOut h.wellFormed c).parent, hx]
    split <;> rfl

/-- The empty document has nothing in it. -/
theorem WellNested.empty : WellNested {} := by
  have hnode : ∀ x, ({} : Document).node x = { data := .document } := by
    intro x
    by_cases hx : Document.Has {} x
    · obtain ⟨_ | i⟩ := x
      · rfl
      · exact absurd hx (by simp [Has, Document.size])
    · exact node_of_not_has hx
  have helement : ∀ x, ({} : Document).element? x = none := by
    intro x
    rw [element?, Document.data, hnode]
  have hholds : ∀ p x, ¬({} : Document).Holds p x := by
    rintro p x (hparent | hcontents)
    · rw [parent?, hnode] at hparent
      exact absurd hparent (by simp)
    · rw [contents?, helement] at hcontents
      exact absurd hcontents (by simp)
  constructor
  case wellFormed => exact WellFormed.empty
  case acyclic =>
    intro x hx
    obtain ⟨p, -, hp⟩ := Relation.TransGen.tail'_iff.mp hx
    exact hholds p x hp
  case contents => exact fun p c hc => absurd (Or.inr hc) (hholds p c)
  case unique => exact fun p _ c hc _ => absurd (Or.inr hc) (hholds p c)
  case root => exact ⟨by decide, helement _, fun p => hholds p _⟩

end ComposingProxy.Markup.Document
