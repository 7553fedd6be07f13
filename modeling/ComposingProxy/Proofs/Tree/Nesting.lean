import ComposingProxy.Proofs.Tree.Contents

/-!
# Nodes inside nodes

A node holds its children, and a template holds the root of its contents as well. `Enclosed` is
what lies in a node either way, so it reaches further than `Within`, which stops at a template.
Links alone do not keep contents from holding the template that they are the contents of, and a
walk over everything in such a node would not end.

> `IsAcyclic.fits`: in a document without cycles nothing reaches deeper than the document
> has nodes, so a walk that is cut off at that depth is never cut off.
-/

namespace ComposingProxy.Markup.Document

variable {doc : Document} {p c x y top : NodeId}

/-- The node `p` is the parent of `c`, or `c` is the root of the contents of `p`. -/
def Holds (doc : Document) (p c : NodeId) : Prop :=
  doc.parent? c = some p ∨ doc.contents? p = some c

/-- The node `x` is `top`, or `top` holds it through any number of nodes. -/
def Enclosed (doc : Document) (x top : NodeId) : Prop := Relation.ReflTransGen doc.Holds top x

/-- No node is inside itself again. -/
def IsAcyclic (doc : Document) : Prop := ∀ x, ¬Relation.TransGen doc.Holds x x

/-- What has contents is a node of the document. -/
theorem has_of_contents? (h : doc.contents? p = some c) : doc.Has p := by
  obtain ⟨element, helement, -⟩ := Option.bind_eq_some_iff.mp h
  exact has_of_element? helement

/-- What holds a node is a node of the document. -/
theorem WellFormed.has_of_holds (h : doc.WellFormed) (hpc : doc.Holds p c) : doc.Has p := by
  rcases hpc with hparent | hcontents
  · exact IsForest.has_parent h hparent
  · exact has_of_contents? hcontents

theorem Within.enclosed (h : doc.Within x top) : doc.Enclosed x top :=
  Relation.ReflTransGen.mono (fun _ _ => Or.inl) _ _ h

/-- Around a node that was given out are nodes that were given out. -/
theorem WellFormed.has_of_enclosed (h : doc.WellFormed) (hx : doc.Has x)
    (hin : doc.Enclosed x top) : doc.Has top := by
  rcases Relation.ReflTransGen.cases_head hin with rfl | ⟨y, hy, -⟩
  · exact hx
  · exact h.has_of_holds hy

/-- A node that nothing holds is inside no node but itself. -/
theorem eq_of_enclosed (halone : ∀ p, ¬doc.Holds p x) (hin : doc.Enclosed x y) : x = y := by
  rcases Relation.ReflTransGen.cases_tail hin with heq | ⟨p, -, hp⟩
  · exact heq
  · exact absurd hp (halone p)

/-- No node is held by two others, nor in two ways by one. -/
structure HoldsOnce (doc : Document) : Prop where
  own : doc.HasOwnContents
  unique : ∀ p q c, doc.contents? p = some c → doc.contents? q = some c → p = q

/-- Two nodes that hold the same one are one. -/
theorem HoldsOnce.eq_of_holds (h : doc.HoldsOnce) {q : NodeId} (hp : doc.Holds p c)
    (hq : doc.Holds q c) : p = q := by
  rcases hp with hp | hp <;> rcases hq with hq | hq
  · exact Option.some.inj (hp.symm.trans hq)
  · exact absurd (hp.symm.trans (h.own q c hq)) (by simp)
  · exact absurd (hq.symm.trans (h.own p c hp)) (by simp)
  · exact h.unique p q c hp hq

/-! ## How deep nodes are nested -/

/-- Nothing is more than so many levels below the node. -/
def Fits (doc : Document) : Nat → NodeId → Prop
  | 0, x => ∀ y, ¬doc.Holds x y
  | depth + 1, x => ∀ y, doc.Holds x y → doc.Fits depth y

/-- What is no more levels below a node is no more than one more. -/
theorem Fits.succ : ∀ {depth : Nat} {x : NodeId}, doc.Fits depth x → doc.Fits (depth + 1) x := by
  intro depth
  induction depth with
  | zero => exact fun h y hy => absurd hy (h y)
  | succ depth ih => exact fun h y hy => ih (h y hy)

/-- Walking down, the nodes that were passed are all different, so they are at most as many as
the document has. -/
theorem IsAcyclic.fits_of_passed (h : doc.IsAcyclic) (hdoc : doc.WellFormed) :
    ∀ (depth : Nat) (passed : List NodeId) (x : NodeId), (x :: passed).Nodup →
      (∀ y ∈ passed, doc.Has y ∧ Relation.TransGen doc.Holds y x) →
        doc.size ≤ passed.length + depth → doc.Fits depth x := by
  intro depth
  induction depth with
  | zero =>
    intro passed x hnodup hpassed hsize y hy
    have hhas : ∀ z ∈ x :: passed, doc.Has z :=
      List.forall_mem_cons.mpr ⟨hdoc.has_of_holds hy, fun z hz => (hpassed z hz).1⟩
    have hlength := length_le_size hnodup hhas
    rw [List.length_cons] at hlength
    omega
  | succ depth ih =>
    intro passed x hnodup hpassed hsize y hy
    have habove : ∀ z ∈ x :: passed, doc.Has z ∧ Relation.TransGen doc.Holds z y := by
      refine List.forall_mem_cons.mpr ⟨⟨hdoc.has_of_holds hy, .single hy⟩, fun z hz => ?_⟩
      exact ⟨(hpassed z hz).1, (hpassed z hz).2.tail hy⟩
    have hnew : y ∉ x :: passed := fun hmem => h y (habove y hmem).2
    refine ih (x :: passed) y (List.nodup_cons.mpr ⟨hnew, hnodup⟩) habove ?_
    rw [List.length_cons]
    omega

/-- Without cycles nothing is more levels down than there are nodes. -/
theorem IsAcyclic.fits (h : doc.IsAcyclic) (hdoc : doc.WellFormed) (x : NodeId) :
    doc.Fits doc.size x :=
  h.fits_of_passed hdoc doc.size [] x (List.nodup_cons.mpr ⟨List.not_mem_nil, List.nodup_nil⟩)
    (fun _ hy => absurd hy List.not_mem_nil) (by simp)

end ComposingProxy.Markup.Document
