import ComposingProxy.Proofs.Tree.ChildLists

/-!
# Putting a node before all children

`prependChild` puts a node before the first child, and that child is looked up before the node is
taken from where it was. Where the node comes from makes no difference, unless it is the first child
itself: then it is put before itself.

> `WellFormed.prependChild_layout`: any other node comes first in the list and leaves the list it was
> in; all else stays.
> `WellFormed.prependChild_first`: the first child is left with itself on both sides, and the links
> from it lead nowhere else.
> `WellFormed.prependChild_puts_first_iff`: the two cases together.
-/

namespace ComposingProxy.Markup.Document

variable {doc : Document} {p c : NodeId}

/-! ## A node that is not the first child -/

/-- A node that is put first leaves its list and comes first in that of its new parent. -/
theorem WellFormed.prependChild_layout (h : doc.WellFormed) (hhold : doc.CanHold p c)
    (hfirst : doc.first? p ≠ some c) : (doc.prependChild p c).layout =
      { doc.layout with
        children := Function.update (doc.without c) p (c :: doc.without c p)
        parent? := Function.update doc.parent? c (some p) } := by
  have hforest := IsForest.prependChild h hhold.1 hhold.2.1 (hhold.not_within h) hfirst
  have hrows := h.mem_update_without_iff (p := p) (c := c) fun _ => List.mem_cons
  refine Layout.ext (size_prependChild doc p c) (funext (data_prependChild doc p c))
    (funext hforest.children_eq) (funext fun x => Option.ext fun q => ?_)
  exact (hforest.mem_iff q x).symm.trans (hrows q x)

/-- All child lists after such an edit. -/
theorem WellFormed.children_prependChild (h : doc.WellFormed) (hhold : doc.CanHold p c)
    (hfirst : doc.first? p ≠ some c) : (doc.prependChild p c).children =
      Function.update (doc.without c) p (c :: doc.without c p) :=
  congrArg Layout.children (h.prependChild_layout hhold hfirst)

/-! ## The first child -/

/-- The first child can be read back. -/
theorem first?_setFirst (hp : doc.Has p) (value : Option NodeId) :
    (doc.setFirst p value).first? p = value := by
  rw [setFirst, first?, node_modify, if_pos ⟨rfl, hp⟩]

theorem next?_setFirst (doc : Document) (p : NodeId) (value : Option NodeId) (x : NodeId) :
    (doc.setFirst p value).next? x = doc.next? x := by
  rw [setFirst, next?, node_modify]
  split <;> rfl

theorem next?_setPrevious (doc : Document) (p : NodeId) (value : Option NodeId) (x : NodeId) :
    (doc.setPrevious p value).next? x = doc.next? x := by
  rw [setPrevious, next?, node_modify]
  split <;> rfl

/-- Before the first child there is nothing, so it is still the first one; and it has become its own
sibling. -/
theorem WellFormed.prependChild_first (h : doc.WellFormed) (hfirst : doc.first? p = some c) :
    (doc.prependChild p c).first? p = some c ∧ (doc.prependChild p c).next? c = some c := by
  have hmem : c ∈ doc.children p := List.mem_of_head? ((h.first p).symm.trans hfirst)
  have hparent : doc.parent? c = some p := h.isParent_iff.mpr hmem
  have hp : doc.Has p := has_of_first? hfirst
  have hc : doc.Has c := has_of_parent? hparent
  have hcut := IsForest.detach_cutOut h c
  have hprevious : (doc.detach c).previous? c = none := by rw [hcut.previous, if_pos rfl]
  rw [Document.prependChild, hfirst]
  dsimp only
  rw [Document.insertBefore, hparent]
  dsimp only
  rw [hprevious]
  constructor
  · refine first?_setFirst ?_ (some c)
    rw [Has, setPrevious, size_modify, size_modify, size_detach]
    exact hp
  · have hcut' : (doc.detach c).Has c := by
      rw [Has, size_detach]
      exact hc
    rw [next?_setFirst, next?_setPrevious, next?, node_modify, if_pos ⟨rfl, hcut'⟩]

/-- A walk from a node that is linked to itself never ends. -/
theorem follow_of_loop {link : NodeId → Option NodeId} (hloop : link c = some c) :
    ∀ steps, follow link steps (some c) = List.replicate steps c := by
  intro steps
  induction steps with
  | zero => rfl
  | succ steps ih => rw [follow, hloop, ih, List.replicate_succ]

/-- A child list that repeats a node is not that of a well-formed document. -/
theorem WellFormed.not_of_loop (hp : doc.Has p) (hc : doc.Has c) (hne : c ≠ p)
    (hfirst : doc.first? p = some c) (hnext : doc.next? c = some c) : ¬doc.WellFormed := by
  intro h
  have hrow : doc.children p = List.replicate doc.size c := by
    rw [children, hfirst, follow_of_loop hnext]
  have hnodup := h.nodup p
  rw [hrow, List.nodup_replicate] at hnodup
  -- two numbers were given out
  have hindex : c.index ≠ p.index := fun heq => hne (by cases c; cases p; simpa using heq)
  rw [Has] at hp hc
  omega

/-! ## Both cases -/

/-- In a well-formed document, a node is put before the children of one that is not below it. The
document is well formed afterwards, with that node and then the other children in the list, exactly
if the node was not the first child already. Then no other list changes but the one it was in, no
other parent and no data. If it was, a walk over the children meets it again and again. -/
theorem WellFormed.prependChild_puts_first_iff (h : doc.WellFormed) (hhold : doc.CanHold p c) :
    ((doc.prependChild p c).WellFormed ∧
        (doc.prependChild p c).children p = c :: doc.without c p ↔ doc.first? p ≠ some c) ∧
    (doc.first? p ≠ some c → (doc.prependChild p c).layout =
      { doc.layout with
        children := Function.update (doc.without c) p (c :: doc.without c p)
        parent? := Function.update doc.parent? c (some p) }) ∧
    (doc.first? p = some c → ∀ steps, follow (doc.prependChild p c).next? steps
      ((doc.prependChild p c).first? p) = List.replicate steps c) := by
  have hne : c ≠ p := hhold.2.2.1
  refine ⟨⟨fun hwell hfirst => ?_, fun hfirst => ⟨h.prependChild hhold hfirst, ?_⟩⟩,
    h.prependChild_layout hhold, fun hfirst steps => ?_⟩
  · obtain ⟨hfirst', hnext⟩ := h.prependChild_first hfirst
    have hsize := size_prependChild doc p c
    refine WellFormed.not_of_loop ?_ ?_ hne hfirst' hnext hwell.1
    · rw [Has, hsize]
      exact hhold.1
    · rw [Has, hsize]
      exact hhold.2.1
  · rw [h.children_prependChild hhold hfirst, Function.update_self]
  · obtain ⟨hfirst', hnext⟩ := h.prependChild_first hfirst
    rw [hfirst', follow_of_loop hnext]

/-- The second item of a list comes first, and so does the text of another list; the first item is
put before itself. -/
theorem prependChild_puts_first_iff_list : listPage.WellFormed ∧
    listPage.CanHold ⟨1⟩ ⟨3⟩ ∧ (listPage.prependChild ⟨1⟩ ⟨3⟩).children ⟨1⟩ = [⟨3⟩, ⟨2⟩] ∧
    listPage.CanHold ⟨1⟩ ⟨6⟩ ∧ (listPage.prependChild ⟨1⟩ ⟨6⟩).children ⟨1⟩ = [⟨6⟩, ⟨2⟩, ⟨3⟩] ∧
    (listPage.prependChild ⟨1⟩ ⟨6⟩).children ⟨5⟩ = [] ∧
    listPage.CanHold ⟨1⟩ ⟨2⟩ ∧ ∀ steps, follow (listPage.prependChild ⟨1⟩ ⟨2⟩).next? steps
      ((listPage.prependChild ⟨1⟩ ⟨2⟩).first? ⟨1⟩) = List.replicate steps ⟨2⟩ := by
  have hsecond : listPage.CanHold ⟨1⟩ ⟨3⟩ := by decide +kernel
  have hother : listPage.CanHold ⟨1⟩ ⟨6⟩ := by decide +kernel
  have hfirst : listPage.CanHold ⟨1⟩ ⟨2⟩ := by decide +kernel
  obtain ⟨hiff, -, -⟩ := wellFormed_listPage.prependChild_puts_first_iff hsecond
  obtain ⟨hiff', -, -⟩ := wellFormed_listPage.prependChild_puts_first_iff hother
  obtain ⟨-, -, hloop⟩ := wellFormed_listPage.prependChild_puts_first_iff hfirst
  have hlists := wellFormed_listPage.children_prependChild hother (by decide +kernel)
  refine ⟨wellFormed_listPage, hsecond, ?_, hother, ?_, ?_, hfirst, hloop (by decide +kernel)⟩
  · rw [(hiff.mpr (by decide +kernel)).2]
    decide +kernel
  · rw [(hiff'.mpr (by decide +kernel)).2]
    decide +kernel
  · rw [hlists]
    decide +kernel

/-- The first item of a list is not followed by the second one once it is put before it. -/
theorem not_always_prepended : ¬∀ (doc : Document) (p c : NodeId), doc.WellFormed →
    doc.CanHold p c → (doc.prependChild p c).WellFormed ∧
      (doc.prependChild p c).children p = c :: doc.without c p := by
  intro hall
  obtain ⟨-, hrow⟩ := hall listPage ⟨1⟩ ⟨2⟩ wellFormed_listPage (by decide +kernel)
  exact absurd hrow (by decide +kernel)

end ComposingProxy.Markup.Document
