import ComposingProxy.Proofs.Tree.Frame
import ComposingProxy.Proofs.Tree.Preorder

/-!
# What is found after edits

A transformer looks nodes up in a page that others have edited. What it finds is the first of
its kind in document order, and the edits of a page leave the order alone: they take whole
subtrees out and put new nodes in, so of two nodes that stay the same one comes first.

> `Keeps.precedes`: nodes that stay in the tree keep their order.
> `Keeps.isFirst_iff`: so the first of a kind afterwards is the first of those that stay, as long
> as no new node is of the kind.

The searches of a page are for elements of a name (`IsNamed`), and what they find is said by
`findWhere?_eq_some_iff` in these terms.
-/

namespace ComposingProxy.Markup.Document

variable {doc doc' : Document} {owned : NodeId → Bool} {top x y found : NodeId}

/-! ## Elements of a name -/

/-- The node is an element of a name that passes a test. -/
def IsNamed (doc : Document) (tag : String) (test : Element → Bool) (x : NodeId) : Prop :=
  ∃ element, doc.element? x = some element ∧ element.tag = tag ∧ test element = true

/-- The test for an element that the searches use. -/
theorem isNamed_iff {tag : String} {test : Element → Bool} :
    (match doc.element? x with
      | some element => element.tag == tag && test element
      | none => false) = true ↔ doc.IsNamed tag test x := by
  unfold IsNamed
  cases doc.element? x with
  | none => simp
  | some element => simp

/-- A node that is what it was is of a name if it was before. -/
theorem isNamed_congr {tag : String} {test : Element → Bool} (h : doc'.data x = doc.data x) :
    doc'.IsNamed tag test x ↔ doc.IsNamed tag test x := by
  unfold IsNamed
  rw [element?, element?, h]

theorem IsNamed.has {tag : String} {test : Element → Bool} (h : doc.IsNamed tag test x) :
    doc.Has x := by
  obtain ⟨element, helement, -⟩ := h
  exact has_of_element? helement

/-- No element has two names. -/
theorem IsNamed.ne {tag tag' : String} {test test' : Element → Bool}
    (hx : doc.IsNamed tag test x) (hy : doc.IsNamed tag' test' y) (htag : tag ≠ tag') : x ≠ y := by
  rintro rfl
  obtain ⟨element, helement, rfl, -⟩ := hx
  obtain ⟨other, hother, rfl, -⟩ := hy
  rw [Option.some.inj (helement.symm.trans hother)] at htag
  exact htag rfl

/-- A test that passes the same nodes has the same first one. -/
theorem isFirst_congr {test test' : NodeId → Prop} (h : ∀ x, test x ↔ test' x) :
    doc.IsFirst test top found ↔ doc.IsFirst test' top found := by
  rw [show test = test' from funext fun x => propext (h x)]

/-- A search for a name finds the first element of the name in document order. -/
theorem WellFormed.findWhere?_eq_some_iff (h : doc.WellFormed) {tag : String}
    {test : Element → Bool} :
    doc.findWhere? tag test top = some found ↔ doc.IsFirst (doc.IsNamed tag test) top found := by
  by_cases htop : doc.Has top
  · unfold findWhere?
    rw [h.find?_subtree_eq_some_iff htop]
    exact isFirst_congr fun x => isNamed_iff
  · refine iff_of_false (fun hfind => htop ?_) fun hfirst => htop ?_
    · have hpasses := List.find?_some hfind
      have hnamed : doc.IsNamed tag test found := isNamed_iff.mp hpasses
      exact h.has_of_within hnamed.has
        (h.within_of_mem_subtree (List.mem_of_find?_eq_some hfind))
    · exact h.has_of_within hfirst.passes.has hfirst.within

/-- A search for a name finds nothing only if there is nothing of the name. -/
theorem WellFormed.findWhere?_eq_none_iff (h : doc.WellFormed) {tag : String}
    {test : Element → Bool} :
    doc.findWhere? tag test top = none ↔ ∀ x, doc.Within x top → ¬doc.IsNamed tag test x := by
  rw [← Option.not_isSome_iff_eq_none, Option.isSome_iff_exists]
  constructor
  · intro hnone x hx hnamed
    obtain ⟨first, hfirst⟩ := h.exists_isFirst hnamed.has hx hnamed
    exact hnone ⟨first, h.findWhere?_eq_some_iff.mpr hfirst⟩
  · rintro hall ⟨found, hfound⟩
    have hfirst := h.findWhere?_eq_some_iff.mp hfound
    exact hall found hfirst.within hfirst.passes

/-! ## Order after edits -/

/-- What is in the tree is not above the root. -/
theorem WellFormed.not_above_root (h : doc.WellFormed) (hx : doc.Within x root) :
    ¬Relation.TransGen doc.IsParent x root :=
  fun habove => IsForest.not_transGen_self h x (habove.trans_left hx)

namespace Keeps

/-- A node of the tree that is not owned has nothing owned around it, and stays below all that it
was below. -/
theorem within_of_not_owned (h : Keeps doc doc' owned) (hdoc : doc.WellFormed)
    (hx : doc.Within x root) (hyx : doc.Within y x) (hy : owned y = false) :
    owned x = false ∧ doc'.Within y x := by
  induction hyx with
  | refl => exact ⟨hy, .refl⟩
  | @tail q y hqx hqy ih =>
    have hq : doc.Within q root := hx.trans hqx
    have hhas := has_of_parent? hqy
    have hparent : doc'.IsParent q y := (h.parent_of_eq_false hhas hy).trans hqy
    have hstays := (h.within_iff y hhas).mpr ⟨hq.tail hqy, hy⟩
    -- `y` is in the tree afterwards, and with it the node that is around it
    have howned : owned q = false := by
      rcases Relation.ReflTransGen.cases_tail hstays with rfl | ⟨q', hq', hparent'⟩
      · exact absurd (.single hqy) (hdoc.not_above_root hq)
      · obtain rfl : q' = q := Option.some.inj (hparent'.symm.trans hparent)
        exact ((h.within_iff q' (IsForest.has_parent hdoc hqy)).mp hq').2
    obtain ⟨hxowned, hwithin⟩ := ih howned
    exact ⟨hxowned, hwithin.tail hparent⟩

/-- Nodes of the tree that are not owned keep their order. -/
theorem precedes (h : Keeps doc doc' owned) (hdoc : doc.WellFormed) (hx : doc.Within x root)
    (hy : doc.Within y root) (hxowned : owned x = false) (hyowned : owned y = false)
    (hxy : doc.Precedes x y) : doc'.Precedes x y := by
  rcases hxy with habove | ⟨p, c, d, hsub, hxc, hyd⟩
  · refine Or.inl ?_
    obtain ⟨-, hwithin⟩ := h.within_of_not_owned hdoc hx habove.to_reflTransGen hyowned
    rcases Relation.reflTransGen_iff_eq_or_transGen.mp hwithin with rfl | habove'
    · exact absurd habove (IsForest.not_transGen_self hdoc _)
    · exact habove'
  · have hc : doc.IsParent p c := hdoc.isParent_iff.mpr (hsub.subset List.mem_cons_self)
    have hd : doc.IsParent p d :=
      hdoc.isParent_iff.mpr (hsub.subset (List.mem_cons_of_mem c List.mem_cons_self))
    -- the root does not lie below `c`, or `y` would lie below `c` and `d`
    have hapart : ¬doc.Within root c := fun hroot =>
      hdoc.ne_of_sublist hsub (hdoc.eq_of_within_children hc hd (hroot.trans hy) hyd)
    have hp : doc.Within p root := by
      have hcroot := (within_or_within hxc hx).resolve_right hapart
      refine (eq_or_within_of_isParent hc hcroot).resolve_left ?_
      rintro rfl
      exact hapart .refl
    obtain ⟨hcowned, hxc'⟩ := h.within_of_not_owned hdoc (hp.tail hc) hxc hxowned
    obtain ⟨hdowned, hyd'⟩ := h.within_of_not_owned hdoc (hp.tail hd) hyd hyowned
    have hspared : ([c, d].filter (doc.isSpared owned)) = [c, d] := by
      simp [isSpared_eq_true_iff, has_of_parent? hc, has_of_parent? hd, hcowned, hdowned]
    have hchildren := h.children p (IsForest.has_parent hdoc hc)
    have hsub' := hsub.filter (doc.isSpared owned)
    rw [hspared, ← hchildren] at hsub'
    exact Or.inr ⟨p, c, d, hsub'.trans List.filter_sublist, hxc', hyd'⟩

/-- Of the nodes that stay, the first of a kind is the first of the kind afterwards, if no new node
is of the kind. -/
theorem isFirst (h : Keeps doc doc' owned) (hdoc : doc.WellFormed) {test test' : NodeId → Prop}
    (hold : ∀ x, doc.Has x → (test' x ↔ test x)) (hnew : ∀ x, ¬doc.Has x → ¬test' x)
    (hfound : doc.IsFirst (fun x => (doc.Has x ∧ test x) ∧ owned x = false) root found) :
    doc'.IsFirst test' root found := by
  obtain ⟨hwithin, ⟨⟨hhas, htest⟩, howned⟩, hfirst⟩ := hfound
  refine ⟨(h.within_iff found hhas).mpr ⟨hwithin, howned⟩, (hold found hhas).mpr htest, ?_⟩
  intro other hother hpasses
  have hotherhas : doc.Has other := by
    by_contra hnone
    exact hnew other hnone hpasses
  obtain ⟨hin, hspared⟩ := (h.within_iff other hotherhas).mp hother
  have hotherpasses := (hold other hotherhas).mp hpasses
  exact (hfirst other hin ⟨⟨hotherhas, hotherpasses⟩, hspared⟩).imp id
    (h.precedes hdoc hwithin hin howned hspared)

/-- What is found first afterwards is the first of what stays. -/
theorem isFirst_iff (h : Keeps doc doc' owned) (hdoc : doc.WellFormed) {test test' : NodeId → Prop}
    (hold : ∀ x, doc.Has x → (test' x ↔ test x)) (hnew : ∀ x, ¬doc.Has x → ¬test' x) :
    doc'.IsFirst test' root found ↔
      doc.IsFirst (fun x => (doc.Has x ∧ test x) ∧ owned x = false) root found := by
  classical
  refine ⟨fun hfound => ?_, h.isFirst hdoc hold hnew⟩
  have hhas : doc.Has found := by
    by_contra hnone
    exact hnew found hnone hfound.passes
  obtain ⟨hwithin, howned⟩ := (h.within_iff found hhas).mp hfound.within
  -- there is a first one before the edits, and it is the first one afterwards
  obtain ⟨first, hfirst⟩ :
      ∃ first, doc.IsFirst (fun x => (doc.Has x ∧ test x) ∧ owned x = false) root first :=
    hdoc.exists_isFirst hhas hwithin ⟨⟨hhas, (hold found hhas).mp hfound.passes⟩, howned⟩
  rwa [h.wellFormed.isFirst_unique hfound (h.isFirst hdoc hold hnew hfirst)]

/-- A search finds what it found before, if that stays and no new node passes. -/
theorem find?_subtree_eq (h : Keeps doc doc' owned) (hdoc : doc.WellFormed) (hroot : doc.Has root)
    {test test' : NodeId → Bool} (hold : ∀ x, doc.Has x → test' x = test x)
    (hnew : ∀ x, ¬doc.Has x → test' x = false)
    (hspared : ∀ found, (doc.subtree root).find? test = some found → owned found = false) :
    (doc'.subtree root).find? test' = (doc.subtree root).find? test := by
  have hsame : ∀ x, doc.Has x → (test' x = true ↔ test x = true) := fun x hx => by rw [hold x hx]
  have hpasses : ∀ x, ¬doc.Has x → ¬test' x = true := fun x hx => by simp [hnew x hx]
  cases hfind : (doc.subtree root).find? test with
  | some found =>
    obtain ⟨hwithin, htest, hfirst⟩ := hdoc.isFirst_of_find? hroot hfind
    refine (h.wellFormed.find?_subtree_eq_some_iff (h.has hroot)).mpr ?_
    exact h.isFirst hdoc hsame hpasses ⟨hwithin,
      ⟨⟨hwithin.has hroot, htest⟩, hspared found hfind⟩,
      fun other hother hpassed => hfirst other hother hpassed.1.2⟩
  | none =>
    rw [List.find?_eq_none] at hfind ⊢
    intro x hx htest
    have hhas : doc.Has x := by
      by_contra hnone
      exact hpasses x hnone htest
    have hwithin := (h.wellFormed.mem_subtree_iff (h.has hroot)).mp hx
    have hbefore := ((h.within_iff x hhas).mp hwithin).1
    exact hfind x ((hdoc.mem_subtree_iff hroot).mpr hbefore) ((hsame x hhas).mp htest)

end Keeps

end ComposingProxy.Markup.Document
