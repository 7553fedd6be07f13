import ComposingProxy.Proofs.Tree.Links
import Mathlib.Data.List.Range
import Mathlib.Data.List.Nodup
import Mathlib.Data.List.Perm.Subperm
import Mathlib.Logic.Relation
import Mathlib.Order.WellFounded

/-!
# Well-formed documents

`IsForest kids` says that the five links of every node agree with child lists `kids`, and
that no chain of parents runs for ever. A document is *well formed* when its links agree
with the lists that following `next?` from `first?` gives:

> `WellFormed`: the walk over the children of `p` ends at the last child and meets every
> node whose parent is `p` once; `previous?` and `parent?` are inverse to it; a node
> without a parent has no siblings; every chain of parents ends.

The child lists are determined by the links (`IsForest.children_eq`), so to see that an
edit keeps a document well formed it is enough to name the new lists
(`IsForest.wellFormed`). The walks of `Document` are cut off after as many steps as there
are nodes; in a forest that is never too early.
-/

namespace ComposingProxy.Markup.Document

variable {doc doc' : Document} {kids : NodeId → List NodeId}

/-! ## Forests -/

/-- The node `p` is the parent of `c`. -/
def IsParent (doc : Document) (p c : NodeId) : Prop := doc.parent? c = some p

/-- The links arrange the nodes in trees in which the children of `p` are `kids p`. -/
structure IsForest (doc : Document) (kids : NodeId → List NodeId) : Prop where
  first : ∀ p, doc.first? p = (kids p).head?
  last : ∀ p, doc.last? p = (kids p).getLast?
  /-- No child is listed twice. -/
  nodup : ∀ p, (kids p).Nodup
  mem_iff : ∀ p c, c ∈ kids p ↔ doc.parent? c = some p
  /-- A child is linked to the ones listed directly before and after it. -/
  siblings : ∀ p before c after, kids p = before ++ c :: after →
    doc.previous? c = before.getLast? ∧ doc.next? c = after.head?
  alone : ∀ c, doc.parent? c = none → doc.previous? c = none ∧ doc.next? c = none
  /-- Every chain of parents ends. -/
  acyclic : WellFounded doc.IsParent

/-- The links of all nodes agree with what following them from the first child to the next
sibling lists. -/
def WellFormed (doc : Document) : Prop := doc.IsForest doc.children

/-- The node `x` is `top` or lies below it. -/
def Within (doc : Document) (x top : NodeId) : Prop := Relation.ReflTransGen doc.IsParent top x

/-! ## Walks -/

/-- From `start`, following a link meets the nodes of the list and ends. -/
def Walks (link : NodeId → Option NodeId) : Option NodeId → List NodeId → Prop
  | none, [] => True
  | some x, y :: rest => x = y ∧ Walks link (link x) rest
  | _, _ => False

/-- Following links for enough steps lists the nodes that a walk meets. -/
theorem Walks.follow_eq {link : NodeId → Option NodeId} :
    ∀ {l : List NodeId} {start : Option NodeId} {steps : Nat}, Walks link start l →
      l.length ≤ steps → follow link steps start = l := by
  intro l
  induction l with
  | nil =>
    intro start steps h _
    cases start with
    | none => cases steps <;> rfl
    | some x => exact absurd h (by simp [Walks])
  | cons y rest ih =>
    intro start steps h hsteps
    cases start with
    | none => exact absurd h (by simp [Walks])
    | some x =>
      obtain ⟨rfl, hrest⟩ := h
      rw [List.length_cons] at hsteps
      obtain ⟨steps, rfl⟩ : ∃ k, steps = k + 1 := ⟨steps - 1, by omega⟩
      rw [follow, ih hrest (by omega)]

/-- Distinct numbers that were given out are at most as many as the document has nodes. -/
theorem length_le_size {l : List NodeId} (hnodup : l.Nodup) (hhas : ∀ x ∈ l, doc.Has x) :
    l.length ≤ doc.size := by
  have hmap : (l.map NodeId.index).Nodup :=
    hnodup.map fun _ _ h => congrArg NodeId.mk h
  have hsub : l.map NodeId.index ⊆ List.range doc.size := by
    intro i hi
    obtain ⟨x, hx, rfl⟩ := List.mem_map.mp hi
    exact List.mem_range.mpr (hhas x hx)
  have hle := (List.Nodup.subperm hmap hsub).length_le
  rwa [List.length_map, List.length_range] at hle

namespace IsForest

/-- A child is a node of the document. -/
theorem has_child (h : doc.IsForest kids) {p c : NodeId} (hc : c ∈ kids p) : doc.Has c :=
  has_of_parent? ((h.mem_iff p c).mp hc)

theorem has_parent (h : doc.IsForest kids) {p c : NodeId} (hc : doc.parent? c = some p) :
    doc.Has p := by
  have hmem := (h.mem_iff p c).mpr hc
  cases hk : kids p with
  | nil => rw [hk] at hmem; exact absurd hmem (by simp)
  | cons x rest => exact has_of_first? (c := x) (by rw [h.first, hk]; rfl)

/-- Two parents of one node are the same. -/
theorem eq_of_mem (h : doc.IsForest kids) {p q c : NodeId} (hp : c ∈ kids p) (hq : c ∈ kids q) :
    p = q :=
  Option.some.inj (((h.mem_iff p c).mp hp).symm.trans ((h.mem_iff q c).mp hq))

/-- A node that was never given out has no children. -/
theorem kids_eq_nil (h : doc.IsForest kids) {p : NodeId} (hp : ¬doc.Has p) : kids p = [] := by
  have hfirst := h.first p
  rw [first?, node_of_not_has hp] at hfirst
  exact List.head?_eq_none_iff.mp hfirst.symm

/-! ## Walks in a forest are complete -/

/-- Following the links to the next sibling meets the rest of the children. -/
theorem walks_children (h : doc.IsForest kids) (p : NodeId) :
    ∀ (after before : List NodeId), kids p = before ++ after →
      Walks doc.next? after.head? after := by
  intro after
  induction after with
  | nil => intro _ _; trivial
  | cons c rest ih =>
    intro before hk
    refine ⟨rfl, ?_⟩
    rw [(h.siblings p before c rest hk).2]
    exact ih (before ++ [c]) (by rw [hk, List.append_assoc]; rfl)

/-- The child lists are what following the links gives. -/
theorem children_eq (h : doc.IsForest kids) (p : NodeId) : doc.children p = kids p := by
  unfold children
  rw [h.first]
  exact (h.walks_children p (kids p) [] rfl).follow_eq
    (length_le_size (h.nodup p) fun _ hc => h.has_child hc)

/-- A document whose links arrange some lists of children lists just these children. -/
theorem wellFormed (h : doc.IsForest kids) : doc.WellFormed := by
  have hkids : doc.children = kids := funext h.children_eq
  unfold WellFormed
  rw [hkids]
  exact h

/-- No node is below itself. -/
theorem not_transGen_self (h : doc.IsForest kids) (x : NodeId) :
    ¬Relation.TransGen doc.IsParent x x :=
  h.acyclic.transGen.irrefl.irrefl x

/-- The chain of parents of a node is a walk that meets every ancestor once. -/
theorem exists_walks_parent (h : doc.IsForest kids) (x : NodeId) :
    ∃ l, Walks doc.parent? (doc.parent? x) l ∧ l.Nodup ∧
      ∀ top, top ∈ l ↔ Relation.TransGen doc.IsParent top x := by
  induction x using h.acyclic.induction with
  | _ x ih =>
    cases hp : doc.parent? x with
    | none =>
      refine ⟨[], trivial, List.nodup_nil, fun top => ⟨fun hmem => absurd hmem (by simp), ?_⟩⟩
      intro htop
      obtain ⟨q, -, hq⟩ := Relation.TransGen.tail'_iff.mp htop
      exact absurd (hp.symm.trans hq) (by simp)
    | some p =>
      obtain ⟨l, hwalk, hnodup, hmem⟩ := ih p hp
      have hnot : p ∉ l := fun hpl => h.not_transGen_self p ((hmem p).mp hpl)
      refine ⟨p :: l, ⟨rfl, hwalk⟩, List.nodup_cons.mpr ⟨hnot, hnodup⟩, fun top => ?_⟩
      rw [List.mem_cons, hmem]
      constructor
      · rintro (rfl | htop)
        · exact Relation.TransGen.single hp
        · exact htop.tail hp
      · intro htop
        obtain ⟨q, htq, hq⟩ := Relation.TransGen.tail'_iff.mp htop
        obtain rfl : p = q := Option.some.inj (hp.symm.trans hq)
        rcases Relation.reflTransGen_iff_eq_or_transGen.mp htq with heq | hlt
        · exact Or.inl heq.symm
        · exact Or.inr hlt

/-- What is above a node is a node of the document. -/
theorem has_of_transGen (h : doc.IsForest kids) {x y : NodeId}
    (hy : Relation.TransGen doc.IsParent y x) : doc.Has y := by
  obtain ⟨c, hc, -⟩ := Relation.TransGen.head'_iff.mp hy
  exact h.has_parent hc

/-- The ancestors that following the links gives are a whole chain of parents. -/
theorem walks_ancestors (h : doc.IsForest kids) (x : NodeId) :
    Walks doc.parent? (doc.parent? x) (doc.ancestors x) ∧ (doc.ancestors x).Nodup ∧
      ∀ top, top ∈ doc.ancestors x ↔ Relation.TransGen doc.IsParent top x := by
  obtain ⟨l, hwalk, hnodup, hmem⟩ := h.exists_walks_parent x
  have hhas : ∀ y ∈ l, doc.Has y := fun y hy => h.has_of_transGen ((hmem y).mp hy)
  have hl : doc.ancestors x = l := hwalk.follow_eq (length_le_size hnodup hhas)
  rw [hl]
  exact ⟨hwalk, hnodup, hmem⟩

/-- The ancestors that following the links gives are all there are. -/
theorem mem_ancestors_iff (h : doc.IsForest kids) (x top : NodeId) :
    top ∈ doc.ancestors x ↔ Relation.TransGen doc.IsParent top x :=
  (h.walks_ancestors x).2.2 top

/-- The ancestors of an ancestor are ancestors. -/
theorem ancestors_subset (h : doc.IsForest kids) {x y : NodeId} (hy : y ∈ doc.ancestors x) :
    doc.ancestors y ⊆ doc.ancestors x := by
  intro z hz
  rw [h.mem_ancestors_iff] at hy hz ⊢
  exact hz.trans hy

/-- The ancestors of a child are its parent and the ancestors of that. -/
theorem ancestors_of_parent? (h : doc.IsForest kids) {p x : NodeId}
    (hp : doc.parent? x = some p) : doc.ancestors x = p :: doc.ancestors p := by
  obtain ⟨hwalk, hnodup, hmem⟩ := h.walks_ancestors p
  have hnot : p ∉ doc.ancestors p := fun hself => h.not_transGen_self p ((hmem p).mp hself)
  have hhas : ∀ y ∈ p :: doc.ancestors p, doc.Has y := by
    refine List.forall_mem_cons.mpr ⟨h.has_parent hp, fun y hy => ?_⟩
    exact h.has_of_transGen ((hmem y).mp hy)
  have hwhole : Walks doc.parent? (doc.parent? x) (p :: doc.ancestors p) := by
    rw [hp]
    exact ⟨rfl, hwalk⟩
  exact hwhole.follow_eq (length_le_size (List.nodup_cons.mpr ⟨hnot, hnodup⟩) hhas)

/-- A node is in the subtrees of itself and of its ancestors. -/
theorem within_iff (h : doc.IsForest kids) (x top : NodeId) :
    doc.Within x top ↔ x = top ∨ top ∈ doc.ancestors x := by
  rw [h.mem_ancestors_iff]
  exact Relation.reflTransGen_iff_eq_or_transGen

end IsForest

theorem WellFormed.isParent_iff (h : doc.WellFormed) {p c : NodeId} :
    doc.IsParent p c ↔ c ∈ doc.children p :=
  (IsForest.mem_iff h p c).symm

/-- Of two nodes around a third one, one is around the other. -/
theorem within_or_within {x a b : NodeId} (ha : doc.Within x a) (hb : doc.Within x b) :
    doc.Within a b ∨ doc.Within b a := by
  have hunique : Relator.RightUnique (Function.swap doc.IsParent) :=
    fun _ _ _ hp hq => Option.some.inj (hp.symm.trans hq)
  have htotal := Relation.ReflTransGen.total_of_right_unique hunique
    (Relation.reflTransGen_swap.mpr ha) (Relation.reflTransGen_swap.mpr hb)
  exact htotal.imp Relation.reflTransGen_swap.mp Relation.reflTransGen_swap.mp

end ComposingProxy.Markup.Document
