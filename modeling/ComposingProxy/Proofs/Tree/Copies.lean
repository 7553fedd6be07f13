import ComposingProxy.Proofs.Tree.Operations

/-!
# Copies keep documents well formed

A copy is made of new nodes only: it changes neither the parents of the nodes that were
there nor, at its top, the parent of anything (`Copied`). So a copy may be put below a
node that was there before without making a cycle, which is how the copies of the children
are put below the copy of their parent.

Nothing is asked of the document that is copied from.
-/

namespace ComposingProxy.Markup.Document

variable {doc doc' : Document} {kids : NodeId → List NodeId}

/-- Making a node keeps the links in order. -/
theorem WellFormed.create (h : doc.WellFormed) (data : NodeData) :
    (doc.create data).2.WellFormed :=
  ((create_sameLinks doc data).isForest h).wellFormed

/-- A node may be appended to one that is not inside it. -/
theorem WellFormed.appendChild (h : doc.WellFormed) {parent child : NodeId}
    (hparent : doc.Has parent) (hchild : doc.Has child) (hout : ¬doc.Within parent child) :
    (doc.appendChild parent child).WellFormed :=
  (IsForest.appendChild h hparent hchild hout).wellFormed

/-- A node without a parent lies within no other one. -/
theorem eq_of_within {x top : NodeId} (hx : doc.parent? x = none) (h : doc.Within x top) :
    x = top := by
  rcases Relation.ReflTransGen.cases_tail h with heq | ⟨p, -, hp⟩
  · exact heq
  · exact absurd (hx.symm.trans hp) (by simp)

/-- The numbers of `doc` are given out in `doc'` too, and their parents are the same. -/
structure Grows (doc doc' : Document) : Prop where
  size : doc.size ≤ doc'.size
  parent : ∀ x, doc.Has x → doc'.parent? x = doc.parent? x

namespace Grows

theorem refl (doc : Document) : Grows doc doc := ⟨Nat.le_refl _, fun _ _ => rfl⟩

theorem has (h : Grows doc doc') {x : NodeId} (hx : doc.Has x) : doc'.Has x :=
  Nat.lt_of_lt_of_le hx h.size

theorem trans {doc'' : Document} (h : Grows doc doc') (h' : Grows doc' doc'') :
    Grows doc doc'' :=
  ⟨Nat.le_trans h.size h'.size, fun x hx => (h'.parent x (h.has hx)).trans (h.parent x hx)⟩

theorem create (doc : Document) (data : NodeData) : Grows doc (doc.create data).2 :=
  ⟨by simp [Document.create, Document.size], fun x _ => (create_sameLinks doc data).parent x⟩

end Grows

/-- The document after a node `copy` without a parent was added, with a tree below it. -/
structure Copied (doc : Document) (copy : NodeId) (doc' : Document) : Prop where
  wellFormed : doc'.WellFormed
  grows : Grows doc doc'
  new : ¬doc.Has copy
  has : doc'.Has copy
  alone : doc'.parent? copy = none

/-- A new node is a copy with nothing below it. -/
theorem copied_create (h : doc.WellFormed) (data : NodeData) :
    Copied doc (doc.create data).1 (doc.create data).2 where
  wellFormed := h.create data
  grows := Grows.create doc data
  new := not_has_created doc data
  has := has_created doc data
  alone := by
    rw [(create_sameLinks doc data).parent, parent?, node_of_not_has (not_has_created doc data)]

/-- What was added before a copy does not matter. -/
theorem Copied.after {doc'' : Document} {copy : NodeId} (h : Copied doc' copy doc'')
    (hext : Grows doc doc') : Copied doc copy doc'' :=
  { h with grows := hext.trans h.grows, new := fun hx => h.new (hext.has hx) }

/-- A copy that is put below another one makes one larger copy. -/
theorem Copied.appendChild {doc'' : Document} {copy child : NodeId} (h : Copied doc copy doc')
    (hchild : Copied doc' child doc'') : Copied doc copy (doc''.appendChild copy child) := by
  have hne : copy ≠ child := fun he => hchild.new (he ▸ h.has)
  have hcopy : doc''.Has copy := hchild.grows.has h.has
  have halone : doc''.parent? copy = none := (hchild.grows.parent copy h.has).trans h.alone
  have hlink := IsForest.appendChild_linkedIn hchild.wellFormed hcopy hchild.has
  have hcut := IsForest.detach_cutOut hchild.wellFormed child
  have hsize : (doc''.appendChild copy child).size = doc''.size := hlink.size.trans hcut.size
  have hparent : ∀ x, x ≠ child → (doc''.appendChild copy child).parent? x = doc''.parent? x := by
    intro x hx
    rw [hlink.parent, if_neg hx, hcut.parent, if_neg hx]
  -- `copy` has no parent, so it lies within no node but itself
  constructor
  case wellFormed =>
    exact hchild.wellFormed.appendChild hcopy hchild.has fun hw => hne (eq_of_within halone hw)
  case grows =>
    have hgrows := h.grows.trans hchild.grows
    refine ⟨hsize.symm ▸ hgrows.size, fun x hx => ?_⟩
    rw [hparent x fun he => hchild.new (he ▸ h.grows.has hx)]
    exact hgrows.parent x hx
  case new => exact h.new
  case has => rw [Has, hsize]; exact hcopy
  case alone => rw [hparent copy hne]; exact halone

/-- The copies of a row of children may be made and put below a copy, one after the other. -/
theorem Copied.foldl_appendChild {copy : NodeId}
    (copyOf : Document → NodeId → NodeId × Document)
    (hcopy : ∀ doc child, doc.WellFormed → Copied doc (copyOf doc child).1 (copyOf doc child).2) :
    ∀ (children : List NodeId) {doc' : Document}, Copied doc copy doc' →
      Copied doc copy (children.foldl
        (fun doc child => (copyOf doc child).2.appendChild copy (copyOf doc child).1) doc') := by
  intro children
  induction children with
  | nil => intro doc' h; exact h
  | cons child rest ih =>
    intro doc' h
    exact ih (h.appendChild (hcopy doc' child h.wellFormed))

/-- Copying a node adds a copy of it, whatever the other document is. -/
theorem copied_copyWithin (source : Document) :
    ∀ (depth : Nat) (doc : Document) (id : NodeId), doc.WellFormed →
      Copied doc (copyWithin source depth doc id).1 (copyWithin source depth doc id).2 := by
  intro depth
  induction depth with
  | zero => intro doc id h; exact copied_create h _
  | succ depth ih =>
    intro doc id h
    unfold copyWithin
    cases source.contents? id with
    | none =>
      exact Copied.foldl_appendChild (copyWithin source depth) ih _ (copied_create h _)
    | some contents =>
      have hcontents := ih doc contents h
      have hcreate := copied_create hcontents.wellFormed
        (copiedData (source.data id) (some (copyWithin source depth doc contents).1))
      exact Copied.foldl_appendChild (copyWithin source depth) ih _ (hcreate.after hcontents.grows)

/-- Copying a node of any document keeps the links in order. -/
theorem WellFormed.copyFrom (h : doc.WellFormed) (source : Document) (id : NodeId) :
    (doc.copyFrom source id).2.WellFormed :=
  (copied_copyWithin source source.size doc id h).wellFormed

end ComposingProxy.Markup.Document
