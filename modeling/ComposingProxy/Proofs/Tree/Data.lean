import ComposingProxy.Markup.Copy
import ComposingProxy.Proofs.Tree.Texts

/-!
# What nodes are

Edits make nodes and move them about, but none turns a node into another one, in any
document, well formed or not. So who knows what a node is knows it for good.

> `KeepsData.trans`: what holds of every edit of a series holds of the series.
-/

namespace ComposingProxy.Markup.Document

variable {doc doc' : Document}

/-- The numbers of `doc` are given out in `doc'`, too, and stand for the same data. -/
structure KeepsData (doc doc' : Document) : Prop where
  size : doc.size ≤ doc'.size
  data : ∀ x, doc.Has x → doc'.data x = doc.data x

/-! ## Numbers are not taken back -/

theorem size_appendChild (doc : Document) (p c : NodeId) :
    (doc.appendChild p c).size = doc.size := by
  unfold appendChild
  dsimp only
  cases (doc.detach c).last? p <;>
    simp only [setNext, setFirst, setLast, size_modify, size_detach]

theorem size_insertBefore (doc : Document) (sibling c : NodeId) :
    (doc.insertBefore sibling c).size = doc.size := by
  unfold insertBefore
  split
  · rfl
  · dsimp only
    cases (doc.detach c).previous? sibling <;>
      simp only [setNext, setPrevious, setFirst, size_modify, size_detach]

theorem size_prependChild (doc : Document) (p c : NodeId) :
    (doc.prependChild p c).size = doc.size := by
  unfold prependChild
  split
  · exact size_insertBefore doc _ c
  · exact size_appendChild doc p c

/-- A new node that is put in a place is one node more. -/
theorem size_appendCreated (doc : Document) (p : NodeId) (data : NodeData) :
    ((doc.create data).2.appendChild p (doc.create data).1).size = doc.size + 1 := by
  rw [size_appendChild]
  exact Array.size_push _

namespace KeepsData

theorem refl (doc : Document) : KeepsData doc doc := ⟨Nat.le_refl _, fun _ _ => rfl⟩

theorem has (h : KeepsData doc doc') {x : NodeId} (hx : doc.Has x) : doc'.Has x :=
  Nat.lt_of_lt_of_le hx h.size

/-- Edits that keep the data one after the other keep it together. -/
theorem trans {doc'' : Document} (h : KeepsData doc doc') (h' : KeepsData doc' doc'') :
    KeepsData doc doc'' :=
  ⟨Nat.le_trans h.size h'.size, fun x hx => (h'.data x (h.has hx)).trans (h.data x hx)⟩

/-! ## Single edits -/

/-- Making a node gives out one number more. -/
theorem create (doc : Document) (data : NodeData) : KeepsData doc (doc.create data).2 :=
  ⟨by simp [Document.create, Document.size], fun _ hx => data_create_of_has data hx⟩

theorem detach (doc : Document) (c : NodeId) : KeepsData doc (doc.detach c) :=
  ⟨Nat.le_of_eq (size_detach doc c).symm, fun x _ => data_detach doc c x⟩

theorem appendChild (doc : Document) (p c : NodeId) : KeepsData doc (doc.appendChild p c) :=
  ⟨Nat.le_of_eq (size_appendChild doc p c).symm, fun x _ => data_appendChild doc p c x⟩

theorem insertBefore (doc : Document) (sibling c : NodeId) :
    KeepsData doc (doc.insertBefore sibling c) :=
  ⟨Nat.le_of_eq (size_insertBefore doc sibling c).symm,
    fun x _ => data_insertBefore doc sibling c x⟩

theorem prependChild (doc : Document) (p c : NodeId) : KeepsData doc (doc.prependChild p c) :=
  ⟨Nat.le_of_eq (size_prependChild doc p c).symm, fun x _ => data_prependChild doc p c x⟩

theorem removeChildren (doc : Document) (p : NodeId) : KeepsData doc (doc.removeChildren p) :=
  ⟨Nat.le_of_eq (IsForest.size_removeFirst p doc.size doc).symm,
    fun x _ => data_removeFirst p x doc.size doc⟩

/-! ## New nodes -/

/-- A new node may be put at the end of any node. -/
theorem appendCreated (doc : Document) (p : NodeId) (data : NodeData) :
    KeepsData doc ((doc.create data).2.appendChild p (doc.create data).1) :=
  (create doc data).trans (appendChild _ p _)

/-- A new node may be put at the beginning of any node. -/
theorem prependCreated (doc : Document) (p : NodeId) (data : NodeData) :
    KeepsData doc ((doc.create data).2.prependChild p (doc.create data).1) :=
  (create doc data).trans (prependChild _ p _)

/-- Setting a text makes a new node for it, and leaves the old ones as they are. -/
theorem setText (doc : Document) (p : NodeId) (text : String) :
    KeepsData doc (doc.setText p text) :=
  (removeChildren doc p).trans (appendCreated _ p (.text text))

/-- A new node has no text at its end that could grow. -/
theorem appendFilled (doc : Document) (p : NodeId) (data : NodeData) (text : String) :
    KeepsData doc (doc.appendFilled p data text) := by
  have hlast : (doc.create data).2.last? (doc.create data).1 = none := by
    rw [(create_sameLinks doc data).last, last?, node_of_not_has (not_has_created doc data)]
  have htext : KeepsData (doc.create data).2
      ((doc.create data).2.appendText (doc.create data).1 text) := by
    rw [Document.appendText, hlast, Option.filter_none]
    exact appendCreated _ _ (.text text)
  exact ((create doc data).trans htext).trans (appendChild _ p _)

/-! ## Many edits -/

/-- A fold keeps what every step of it keeps. -/
theorem foldl {α : Type} {step : Document → α → Document}
    (hstep : ∀ doc a, KeepsData doc (step doc a)) :
    ∀ (items : List α) (doc : Document), KeepsData doc (items.foldl step doc) := by
  intro items
  induction items with
  | nil => intro doc; exact refl doc
  | cons item rest ih =>
    intro doc
    exact (hstep doc item).trans (ih (step doc item))

/-- A copy is made of new nodes. -/
theorem copyWithin (source : Document) : ∀ (depth : Nat) (doc : Document) (id : NodeId),
    KeepsData doc (copyWithin source depth doc id).2 := by
  intro depth
  induction depth with
  | zero => intro doc id; exact create doc _
  | succ depth ih =>
    have hchildren : ∀ (copy : NodeId) (children : List NodeId) (doc : Document),
        KeepsData doc (children.foldl (fun doc child =>
          (Document.copyWithin source depth doc child).2.appendChild copy
            (Document.copyWithin source depth doc child).1) doc) := fun copy =>
      foldl fun doc child => (ih doc child).trans (appendChild _ copy _)
    intro doc id
    unfold Document.copyWithin
    cases source.contents? id with
    | none => exact (create doc _).trans (hchildren _ _ _)
    | some contents =>
      exact ((ih doc contents).trans (create _ _)).trans (hchildren _ _ _)

end KeepsData

end ComposingProxy.Markup.Document
