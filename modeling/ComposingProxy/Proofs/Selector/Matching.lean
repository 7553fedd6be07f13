import ComposingProxy.Markup.Selector.Basic
import ComposingProxy.Proofs.Tree.Editing
import ComposingProxy.Proofs.Tree.Preorder

/-!
# What matches a selector

A selector describes a row of elements, one for each step, in which each element stands to the
one before it as the combinator of its step says. Matching goes the other way: it begins
at the end of the row and looks for the element before, and where there is more than one
that will do (any ancestor, for a descendant combinator) it tries them all. Which one a
combinator belongs to, and that none is given up too early, is seen by taking the last step off:

> `exists_isRow_concat`: a row for one step more is a row for the steps before, and one element
> more that the last step joins to its end.
> `isMatch_iff_exists_isRow`: so the elements that match are the ends of rows, by induction on the
> steps from the front.

With document order this says what a selection is:

> `isMatch_and_selectAll`: all that lies below a node and is the end of a row, each once and in
> document order; the rows themselves may begin above the node.
-/

namespace ComposingProxy.Markup

variable {doc : Document} {node : NodeId} {first : Compound} {steps : List Step} {step : Step}

/-- How the element before stands to an element that it is joined to. -/
def Combinator.Joins (combinator : Combinator) (doc : Document) (before node : NodeId) : Prop :=
  match combinator with
  | .child => doc.IsParent before node
  | .descendant => Relation.TransGen doc.IsParent before node

namespace Selector

/-- The elements `row 0`, `row 1`, … satisfy the compounds of a selector one by one, each is joined
to the one before it, and the last of them is `node`. -/
structure IsRow (selector : Selector) (doc : Document) (row : Nat → NodeId) (node : NodeId) :
    Prop where
  first : selector.first.holdsAt doc (row 0) = true
  step : ∀ (i : Nat) (step : Step), selector.steps[i]? = some step →
    step.compound.holdsAt doc (row (i + 1)) = true ∧
      step.combinator.Joins doc (row i) (row (i + 1))
  last : row selector.steps.length = node

/-- A row is as good as another one with the same elements up to its end. -/
theorem IsRow.congr {row row' : Nat → NodeId} (h : IsRow { first, steps } doc row node)
    (heq : ∀ i ≤ steps.length, row' i = row i) : IsRow { first, steps } doc row' node where
  first := heq 0 (Nat.zero_le _) ▸ h.first
  step i step hstep := by
    have hlt := (List.getElem?_eq_some_iff.mp hstep).1
    rw [heq i (Nat.le_of_lt hlt), heq (i + 1) hlt]
    exact h.step i step hstep
  last := (heq steps.length (Nat.le_refl _)).trans h.last

/-- One step more makes a row longer by one element, which the step joins to the end. -/
theorem exists_isRow_concat :
    (∃ row, IsRow { first, steps := steps ++ [step] } doc row node) ↔
      step.compound.holdsAt doc node = true ∧
        ∃ before, step.combinator.Joins doc before node ∧
          ∃ row, IsRow { first, steps } doc row before := by
  have hlast : (steps ++ [step])[steps.length]? = some step := by simp
  constructor
  · rintro ⟨row, hfirst, hstep, rfl⟩
    obtain ⟨hholds, hjoins⟩ := hstep steps.length step hlast
    have hlength : (steps ++ [step]).length = steps.length + 1 := List.length_append
    refine ⟨hlength ▸ hholds, row steps.length, hlength ▸ hjoins, row, hfirst, ?_, rfl⟩
    intro i step' hstep'
    have hlt := (List.getElem?_eq_some_iff.mp hstep').1
    exact hstep i step' ((List.getElem?_append_left hlt).trans hstep')
  · rintro ⟨hholds, before, hjoins, row, hrow⟩
    -- the old row, and `node` behind it
    let longer := Function.update row (steps.length + 1) node
    have hold : ∀ i ≤ steps.length, longer i = row i := fun i hi =>
      Function.update_of_ne (by omega) _ _
    have hnew : longer (steps.length + 1) = node := Function.update_self _ _ _
    have hrow' := hrow.congr hold
    refine ⟨longer, hrow'.first, ?_, ?_⟩
    · intro i step' hstep'
      rcases Nat.lt_or_ge i steps.length with hlt | hge
      · rw [List.getElem?_append_left hlt] at hstep'
        exact hrow'.step i step' hstep'
      · have hlt' := (List.getElem?_eq_some_iff.mp hstep').1
        rw [List.length_append, List.length_singleton] at hlt'
        obtain rfl : i = steps.length := by omega
        obtain rfl := Option.some.inj (hlast.symm.trans hstep')
        rw [hnew, hrow'.last]
        exact ⟨hholds, hjoins⟩
    · show longer (steps ++ [step]).length = node
      rw [List.length_append, List.length_singleton, hnew]

/-- Matching one step more looks for an element that the step joins to this one. -/
theorem isMatch_concat (h : doc.WellFormed) :
    isMatch { first, steps := steps ++ [step] } doc node = true ↔
      step.compound.holdsAt doc node = true ∧
        ∃ before, step.combinator.Joins doc before node ∧
          isMatch { first, steps } doc before = true := by
  unfold isMatch
  rw [List.reverse_concat, matchesFrom, Bool.and_eq_true]
  refine and_congr_right fun _ => ?_
  cases hcombinator : step.combinator with
  | child => exact Option.any_eq_true _ _
  | descendant =>
    simp only [List.any_eq_true, Document.IsForest.mem_ancestors_iff h]
    rfl

/-- The elements that match are the ends of rows. -/
theorem isMatch_iff_exists_isRow (h : doc.WellFormed) (selector : Selector) (node : NodeId) :
    selector.isMatch doc node = true ↔ ∃ row, selector.IsRow doc row node := by
  obtain ⟨first, steps⟩ := selector
  induction steps using List.reverseRecOn generalizing node with
  | nil =>
    constructor
    · intro hfirst
      exact ⟨fun _ => node, hfirst, by simp, rfl⟩
    · rintro ⟨row, hfirst, -, rfl⟩
      exact hfirst
  | append_singleton steps step ih =>
    rw [isMatch_concat h, exists_isRow_concat]
    simp only [ih]

/-- In every well-formed document the elements that match are the ends of rows, and a selection
below a node has all of these that lie below it, each once and in document order, of which the
first is the one that is selected alone. -/
theorem isMatch_and_selectAll (h : doc.WellFormed) (selector : Selector) :
    (∀ node, selector.isMatch doc node = true ↔ ∃ row, selector.IsRow doc row node) ∧
      ∀ top, (∀ node, node ∈ selector.selectAll doc top ↔
          Relation.TransGen doc.IsParent top node ∧ ∃ row, selector.IsRow doc row node) ∧
        (selector.selectAll doc top).Nodup ∧
        (selector.selectAll doc top).Pairwise doc.Precedes ∧
        selector.selectFirst? doc top = (selector.selectAll doc top).head? := by
  refine ⟨isMatch_iff_exists_isRow h selector, fun top => ⟨fun node => ?_, ?_, ?_, ?_⟩⟩
  · rw [selectAll, List.mem_filter, h.mem_tail_subtree_iff, isMatch_iff_exists_isRow h]
  · exact (h.nodup_tail_subtree top).filter _
  · exact (h.pairwise_tail_subtree top).filter _
  · exact selectFirst?_eq_head? selector doc top

/-- The selector `section > div p`. -/
def paragraphInSection : Selector :=
  { first := { tag := some "section" }
    steps := [⟨.child, { tag := some "div" }⟩, ⟨.descendant, { tag := some "p" }⟩] }

/-- Edits that make a section with a paragraph in two boxes, of which only the outer one is a child
of the section. -/
def boxedEdits : List Document.Edit :=
  [.createElement "section" [], .appendChild Document.root ⟨1⟩, .createElement "div" [],
    .appendChild ⟨1⟩ ⟨2⟩, .createElement "div" [], .appendChild ⟨2⟩ ⟨3⟩,
    .createElement "p" [], .appendChild ⟨3⟩ ⟨4⟩]

def boxedPage : Document := Document.applyAll {} boxedEdits

/-- The page with the boxes was made by edits that are permitted. -/
theorem wellFormed_boxedPage : boxedPage.WellFormed :=
  Document.WellFormed.empty.applyAll boxedEdits (by decide +kernel) boxedEdits.length

/-- The nearest box will not do, and the one around it is found. -/
theorem isMatch_and_selectAll_boxed :
    boxedPage.WellFormed ∧ (∃ row, paragraphInSection.IsRow boxedPage row ⟨4⟩) ∧
      ⟨4⟩ ∈ paragraphInSection.selectAll boxedPage Document.root := by
  have hmatch : paragraphInSection.isMatch boxedPage ⟨4⟩ = true := by decide +kernel
  obtain ⟨hrow, hselect⟩ := isMatch_and_selectAll wellFormed_boxedPage paragraphInSection
  have hexists := (hrow ⟨4⟩).mp hmatch
  have hbelow : Relation.TransGen boxedPage.IsParent Document.root ⟨4⟩ :=
    (Document.IsForest.mem_ancestors_iff wellFormed_boxedPage ⟨4⟩ Document.root).mp
      (by decide +kernel)
  exact ⟨wellFormed_boxedPage, hexists, ((hselect Document.root).1 ⟨4⟩).mpr ⟨hbelow, hexists⟩⟩

end Selector

end ComposingProxy.Markup
