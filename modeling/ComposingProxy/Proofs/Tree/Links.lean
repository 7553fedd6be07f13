import ComposingProxy.Markup.Edit

/-!
# What an edit does to the links

Every edit of a document comes down to two moves: a node is cut out from between its
siblings, or a node without a parent is linked in between two others. `CutOut` and
`LinkedIn` say for each of the five links what the move makes of it, at every node of the
document, and that sizes and data stay as they are:

> `detach_cutOut`: `detach` cuts out.
> `appendChild_linkedIn`, `insertBefore_linkedIn`: what `appendChild` and `insertBefore`
> do after they have cut the node out is to link it in.

Later files use these equations and never look at the writes themselves. A write to a
number that was never given out is lost, so the moves ask that the numbers they write to
were given out (`Has`).
-/

namespace ComposingProxy.Markup.Document

variable {doc doc' : Document}

/-- The number was given out by the document. -/
def Has (doc : Document) (id : NodeId) : Prop := id.index < doc.size

instance (doc : Document) (id : NodeId) : Decidable (doc.Has id) :=
  inferInstanceAs (Decidable (_ < _))

/-! ## Reading back one write -/

theorem size_modify (doc : Document) (id : NodeId) (f : Node → Node) :
    (doc.modify id f).size = doc.size := by
  simp [modify, size]

/-- A write changes the node it is made to and no other one. -/
theorem node_modify (doc : Document) (id : NodeId) (f : Node → Node) (x : NodeId) :
    (doc.modify id f).node x = if x = id ∧ doc.Has id then f (doc.node x) else doc.node x := by
  obtain ⟨i⟩ := id
  obtain ⟨j⟩ := x
  unfold modify node Has size
  rw [Array.getElem?_modify]
  by_cases hji : j = i
  · subst hji
    by_cases hlt : j < doc.nodes.size
    · simp [hlt]
    · simp [hlt]
  · rw [if_neg (fun h => hji h.symm), if_neg (fun h => hji (NodeId.mk.inj h.1))]

/-- A node whose number was never given out has no links. -/
theorem node_of_not_has {id : NodeId} (h : ¬doc.Has id) : doc.node id = { data := .document } := by
  unfold node
  rw [Array.getElem?_eq_none (Nat.le_of_not_lt h)]
  rfl

/-- A number that was not given out stands for no data. -/
theorem data_of_not_has {id : NodeId} (h : ¬doc.Has id) : doc.data id = .document := by
  rw [data, node_of_not_has h]

theorem has_of_parent? {id p : NodeId} (h : doc.parent? id = some p) : doc.Has id := by
  by_cases hhas : doc.Has id
  · exact hhas
  · rw [parent?, node_of_not_has hhas] at h
    exact absurd h (by simp)

theorem has_of_first? {id c : NodeId} (h : doc.first? id = some c) : doc.Has id := by
  by_cases hhas : doc.Has id
  · exact hhas
  · rw [first?, node_of_not_has hhas] at h
    exact absurd h (by simp)

/-! ## Documents with the same links -/

/-- The links of all nodes are the same in both documents. -/
structure SameLinks (doc doc' : Document) : Prop where
  parent : ∀ x, doc'.parent? x = doc.parent? x
  first : ∀ x, doc'.first? x = doc.first? x
  last : ∀ x, doc'.last? x = doc.last? x
  previous : ∀ x, doc'.previous? x = doc.previous? x
  next : ∀ x, doc'.next? x = doc.next? x

/-- A new node is added at its number, and no other node changes. -/
theorem node_create (doc : Document) (data : NodeData) (x : NodeId) :
    (doc.create data).2.node x = if x = (doc.create data).1 then { data } else doc.node x := by
  obtain ⟨i⟩ := x
  simp only [create, node, Array.getElem?_push, NodeId.mk.injEq]
  split <;> rfl

/-- A new node has no links, just as its number had none before it was given out. -/
theorem create_sameLinks (doc : Document) (data : NodeData) :
    SameLinks doc (doc.create data).2 := by
  have hnew : doc.node (doc.create data).1 = { data := .document } :=
    node_of_not_has (by simp [Has, size, create])
  constructor <;> intro x <;>
    simp only [parent?, first?, last?, previous?, next?, node_create] <;>
    split
  all_goals first
    | rfl
    | next h => rw [h, hnew]

/-- Changing what a node is leaves all links as they are. -/
theorem modifyData_sameLinks (doc : Document) (id : NodeId) (f : NodeData → NodeData) :
    SameLinks doc (doc.modifyData id f) := by
  constructor <;> intro x <;>
    simp only [parent?, first?, last?, previous?, next?, modifyData, node_modify] <;>
    split <;> rfl

/-- Changing an element changes no link. -/
theorem modifyElement_sameLinks (doc : Document) (id : NodeId) (f : Element → Element) :
    SameLinks doc (doc.modifyElement id f) :=
  modifyData_sameLinks doc id _

theorem has_create (doc : Document) (data : NodeData) {x : NodeId} (h : doc.Has x) :
    (doc.create data).2.Has x := by
  simp only [Has, size, create, Array.size_push] at h ⊢
  omega

theorem has_created (doc : Document) (data : NodeData) :
    (doc.create data).2.Has (doc.create data).1 := by
  simp [Has, size, create]

/-- The number of a new node was not given out before. -/
theorem not_has_created (doc : Document) (data : NodeData) : ¬doc.Has (doc.create data).1 := by
  simp [Has, size, create]

/-- After a node was made, the nodes are those that were there and the new one. -/
theorem has_or_eq_of_has_create {data : NodeData} {x : NodeId}
    (h : (doc.create data).2.Has x) : doc.Has x ∨ x = (doc.create data).1 := by
  obtain ⟨index⟩ := x
  simp only [Has, size, create, Array.size_push, NodeId.mk.injEq] at h ⊢
  omega

/-! ## Cutting out and linking in -/

/-- The node `c` is cut out of its parent, and its siblings are linked to each other. -/
structure CutOut (doc doc' : Document) (c : NodeId) : Prop where
  size : doc'.size = doc.size
  data : ∀ x, doc'.data x = doc.data x
  parent : ∀ x, doc'.parent? x = if x = c then none else doc.parent? x
  previous : ∀ x, doc'.previous? x =
    if x = c then none else if doc.next? c = some x then doc.previous? c else doc.previous? x
  next : ∀ x, doc'.next? x =
    if x = c then none else if doc.previous? c = some x then doc.next? c else doc.next? x
  first : ∀ x, doc'.first? x =
    if doc.previous? c = none ∧ doc.parent? c = some x then doc.next? c else doc.first? x
  last : ∀ x, doc'.last? x =
    if doc.next? c = none ∧ doc.parent? c = some x then doc.previous? c else doc.last? x

/-- The node `c` is linked in under `p`, between the siblings `before` and `after`. -/
structure LinkedIn (doc doc' : Document) (p c : NodeId) (before after : Option NodeId) : Prop where
  size : doc'.size = doc.size
  data : ∀ x, doc'.data x = doc.data x
  parent : ∀ x, doc'.parent? x = if x = c then some p else doc.parent? x
  previous : ∀ x, doc'.previous? x =
    if x = c then before else if after = some x then some c else doc.previous? x
  next : ∀ x, doc'.next? x =
    if x = c then after else if before = some x then some c else doc.next? x
  first : ∀ x, doc'.first? x = if before = none ∧ x = p then some c else doc.first? x
  last : ∀ x, doc'.last? x = if after = none ∧ x = p then some c else doc.last? x

theorem size_detach (doc : Document) (c : NodeId) : (doc.detach c).size = doc.size := by
  unfold detach
  rw [size_modify]
  cases doc.previous? c <;> cases doc.next? c <;> cases doc.parent? c <;>
    simp only [setNext, setPrevious, setFirst, setLast, size_modify]

/-- `detach` cuts a node out, where the numbers it is linked to were given out. -/
theorem detach_cutOut {c : NodeId} (hprevious : ∀ x, doc.previous? c = some x → doc.Has x)
    (hnext : ∀ x, doc.next? c = some x → doc.Has x)
    (hparent : ∀ x, doc.parent? c = some x → doc.Has x) : CutOut doc (doc.detach c) c := by
  -- the last write is lost if `c` was never given out, but then `c` has no links
  have hc : ¬doc.Has c → doc.parent? c = none ∧ doc.previous? c = none ∧ doc.next? c = none := by
    intro h
    simp only [parent?, previous?, next?, node_of_not_has h, and_self]
  unfold detach
  cases hp : doc.previous? c <;> cases hn : doc.next? c <;> cases hq : doc.parent? c
  all_goals
    rw [hp] at hprevious
    rw [hn] at hnext
    rw [hq] at hparent
    constructor
    case size => simp only [size_modify, setNext, setPrevious, setFirst, setLast]
    all_goals
      intro x
      simp only [parent?, previous?, next?, first?, last?, data, node_modify, setNext,
        setPrevious, setFirst, setLast, Has, size_modify] at *
      grind

/-- `appendChild` links the node that it has cut out in after the last child. -/
theorem appendChild_linkedIn {parent child : NodeId} (hparent : doc.Has parent)
    (hchild : doc.Has child) (hnext : (doc.detach child).next? child = none)
    (hlast : ∀ x, (doc.detach child).last? parent = some x → doc.Has x ∧ x ≠ child) :
    LinkedIn (doc.detach child) (doc.appendChild parent child) parent child
      ((doc.detach child).last? parent) none := by
  have hsize := size_detach doc child
  unfold appendChild
  generalize doc.detach child = cut at *
  cases hl : cut.last? parent
  all_goals
    simp only [hl] at hlast ⊢
    constructor
    case size => simp only [size_modify, setNext, setFirst, setLast]
    all_goals
      intro x
      simp only [parent?, previous?, next?, first?, last?, data, node_modify, setNext,
        setFirst, setLast, Has, size_modify] at *
      grind

/-- `insertBefore` links the node that it has cut out in before the sibling. -/
theorem insertBefore_linkedIn {parent sibling child : NodeId}
    (hp : doc.parent? sibling = some parent) (hparent : doc.Has parent)
    (hchild : doc.Has child) (hne : sibling ≠ child)
    (hprevious : ∀ x, (doc.detach child).previous? sibling = some x → doc.Has x ∧ x ≠ child) :
    LinkedIn (doc.detach child) (doc.insertBefore sibling child) parent child
      ((doc.detach child).previous? sibling) (some sibling) := by
  have hsize := size_detach doc child
  have hsibling := has_of_parent? hp
  unfold insertBefore
  rw [hp]
  dsimp only
  generalize doc.detach child = cut at *
  cases hl : cut.previous? sibling
  all_goals
    simp only [hl] at hprevious ⊢
    constructor
    case size => simp only [size_modify, setNext, setPrevious, setFirst]
    all_goals
      intro x
      simp only [parent?, previous?, next?, first?, last?, data, node_modify, setNext,
        setPrevious, setFirst, Has, size_modify] at *
      grind

end ComposingProxy.Markup.Document
