import ComposingProxy.Markup.Writer
import ComposingProxy.Proofs.Tree.Frame

/-!
# Documents that differ only in what some nodes are

Two documents agree off some *hidden* nodes when they have the same nodes with the same links,
and a node that is not hidden is the same in both. Edits and walks follow links and do not look at
what nodes are, so what is hidden stays hidden:

> `AgreeOff.modify`: writes of links keep the agreement, and every edit comes down to them.
> `AgreeOff.copyWithin`: copies of the same nodes are the same in both documents.
> `AgreeOff.render_eq`: documents that agree have the same text if nothing hidden is written.

Nothing is asked of the documents until they are written.
-/

namespace ComposingProxy.Markup

/-- A node with the same links and other data. -/
def Node.withData (node : Node) (data : NodeData) : Node := { node with data }

namespace Document

variable {doc doc' : Document} {hidden : NodeId → Bool} {top x : NodeId}

/-- The same nodes with the same links, and with the same data where they are not hidden. -/
structure AgreeOff (hidden : NodeId → Bool) (doc doc' : Document) : Prop where
  size : doc'.size = doc.size
  node : ∀ x, (doc'.node x).withData (doc.data x) = doc.node x
  data : ∀ x, hidden x = false → doc'.data x = doc.data x

/-- What is in a node that is not hidden is not hidden either: its children, and the contents of a
template. -/
structure IsShownWhole (hidden : NodeId → Bool) (doc : Document) : Prop where
  child : ∀ p c, hidden p = false → doc.parent? c = some p → hidden c = false
  contents : ∀ p c, hidden p = false → doc.contents? p = some c → hidden c = false

/-- What is below a node that is shown is shown. -/
theorem IsShownWhole.of_within (hwhole : IsShownWhole hidden doc) (htop : hidden top = false)
    (hx : doc.Within x top) : hidden x = false := by
  induction hx with
  | refl => exact htop
  | @tail p c _ hpc ih => exact hwhole.child p c ih hpc

namespace AgreeOff

/-- Another data of a hidden node makes no difference. -/
theorem modifyData (doc : Document) {id : NodeId} (h : hidden id = true)
    (f : NodeData → NodeData) : AgreeOff hidden doc (doc.modifyData id f) where
  size := size_modify doc id _
  node x := by
    rw [Document.modifyData, node_modify]
    split <;> rfl
  data x hx := by
    have hne : x ≠ id := by
      rintro rfl
      exact absurd (h.symm.trans hx) (by simp)
    rw [Document.modifyData, Document.data, node_modify, if_neg fun hboth => hne hboth.1]
    rfl

/-! ## Links -/

/-- What a node has apart from its data is the same in both documents. -/
theorem link {α : Type} (h : AgreeOff hidden doc doc') (read : Node → α)
    (hread : ∀ node data, read (node.withData data) = read node) (x : NodeId) :
    read (doc'.node x) = read (doc.node x) := by
  rw [← hread (doc'.node x) (doc.data x), h.node]

/-- The links agree at every node, hidden or not. -/
theorem parent (h : AgreeOff hidden doc doc') (x : NodeId) : doc'.parent? x = doc.parent? x :=
  h.link Node.parent (fun _ _ => rfl) x

theorem first (h : AgreeOff hidden doc doc') (x : NodeId) : doc'.first? x = doc.first? x :=
  h.link Node.first (fun _ _ => rfl) x

theorem last (h : AgreeOff hidden doc doc') (x : NodeId) : doc'.last? x = doc.last? x :=
  h.link Node.last (fun _ _ => rfl) x

theorem previous (h : AgreeOff hidden doc doc') (x : NodeId) :
    doc'.previous? x = doc.previous? x :=
  h.link Node.previous (fun _ _ => rfl) x

theorem next (h : AgreeOff hidden doc doc') (x : NodeId) : doc'.next? x = doc.next? x :=
  h.link Node.next (fun _ _ => rfl) x

/-- A node that is not hidden is the same in both documents. -/
theorem node_eq (h : AgreeOff hidden doc doc') (hx : hidden x = false) :
    doc'.node x = doc.node x := by
  rw [← h.node x, ← h.data x hx]
  rfl

/-- A node that is shown is the same element. -/
theorem element_eq (h : AgreeOff hidden doc doc') (hx : hidden x = false) :
    doc'.element? x = doc.element? x := by
  rw [element?, h.data x hx]
  rfl

/-! ## Edits -/

/-- A write that has nothing to do with the data of a node keeps the agreement. -/
theorem modify (h : AgreeOff hidden doc doc') (id : NodeId) {f : Node → Node}
    (hf : ∀ node data, f (node.withData data) = (f node).withData data) :
    AgreeOff hidden (doc.modify id f) (doc'.modify id f) := by
  have hdata : ∀ node, (f node).data = node.data := by
    intro node
    show (f (node.withData node.data)).data = node.data
    rw [hf]
    rfl
  have hhas : doc'.Has id ↔ doc.Has id := by rw [Has, Has, h.size]
  constructor
  case size => rw [size_modify, size_modify, h.size]
  case node =>
    intro x
    simp only [Document.data, node_modify, hhas]
    split
    · rw [hdata, ← hf]
      exact congrArg f (h.node x)
    · exact h.node x
  case data =>
    intro x hx
    simp only [Document.data, node_modify, hhas]
    split
    · rw [hdata, hdata]
      exact h.data x hx
    · exact h.data x hx

/-- Two documents still agree when the same node is taken out of both. -/
theorem detach (h : AgreeOff hidden doc doc') (c : NodeId) :
    AgreeOff hidden (doc.detach c) (doc'.detach c) := by
  -- which nodes are written to is told by links, so both documents get the same writes
  unfold Document.detach
  simp only [h.parent, h.previous, h.next]
  refine modify ?_ c fun _ _ => rfl
  cases doc.previous? c <;> cases doc.next? c <;> cases doc.parent? c
  all_goals
    dsimp only
    first
      | exact h
      | exact h.modify _ fun _ _ => rfl
      | exact (h.modify _ fun _ _ => rfl).modify _ fun _ _ => rfl

theorem appendChild (h : AgreeOff hidden doc doc') (p c : NodeId) :
    AgreeOff hidden (doc.appendChild p c) (doc'.appendChild p c) := by
  have hcut := h.detach c
  unfold Document.appendChild
  simp only [hcut.last]
  refine modify ?_ p fun _ _ => rfl
  cases (doc.detach c).last? p with
  | none => exact (hcut.modify c fun _ _ => rfl).modify p fun _ _ => rfl
  | some last => exact (hcut.modify c fun _ _ => rfl).modify last fun _ _ => rfl

theorem insertBefore (h : AgreeOff hidden doc doc') (sibling c : NodeId) :
    AgreeOff hidden (doc.insertBefore sibling c) (doc'.insertBefore sibling c) := by
  have hcut := h.detach c
  unfold Document.insertBefore
  rw [h.parent]
  cases doc.parent? sibling with
  | none => exact h
  | some p =>
    simp only [hcut.previous]
    cases (doc.detach c).previous? sibling with
    | none =>
      exact ((hcut.modify c fun _ _ => rfl).modify sibling fun _ _ => rfl).modify p
        fun _ _ => rfl
    | some previous =>
      exact ((hcut.modify c fun _ _ => rfl).modify sibling fun _ _ => rfl).modify previous
        fun _ _ => rfl

/-- A new node gets the same number in both documents. -/
theorem create (h : AgreeOff hidden doc doc') (data : NodeData) :
    (doc'.create data).1 = (doc.create data).1 ∧
      AgreeOff hidden (doc.create data).2 (doc'.create data).2 := by
  have hnew : (doc'.create data).1 = (doc.create data).1 := congrArg NodeId.mk h.size
  refine ⟨hnew, ?_, fun x => ?_, fun x hx => ?_⟩
  · show (doc'.nodes.push _).size = (doc.nodes.push _).size
    rw [Array.size_push, Array.size_push]
    exact congrArg (· + 1) h.size
  · simp only [Document.data, node_create, hnew]
    split
    · rfl
    · exact h.node x
  · simp only [Document.data, node_create, hnew]
    split
    · rfl
    · exact h.data x hx

/-- A fold keeps the agreement if every step of it does. -/
theorem foldl {α : Type} {step : Document → α → Document}
    (hstep : ∀ {doc doc' : Document} (item : α), AgreeOff hidden doc doc' →
      AgreeOff hidden (step doc item) (step doc' item)) :
    ∀ (items : List α) {doc doc' : Document}, AgreeOff hidden doc doc' →
      AgreeOff hidden (items.foldl step doc) (items.foldl step doc') := by
  intro items
  induction items with
  | nil => intro doc doc' h; exact h
  | cons item rest ih =>
    intro doc doc' h
    exact ih (hstep item h)

/-- A copy gets the same numbers in both documents. -/
theorem copyWithin (source : Document) : ∀ (depth : Nat) {doc doc' : Document} (id : NodeId),
    AgreeOff hidden doc doc' →
      (copyWithin source depth doc' id).1 = (copyWithin source depth doc id).1 ∧
        AgreeOff hidden (copyWithin source depth doc id).2
          (copyWithin source depth doc' id).2 := by
  intro depth
  induction depth with
  | zero => intro doc doc' id h; exact h.create _
  | succ depth ih =>
    -- the copies of the children go below a copy that has one number in both documents
    have hchildren : ∀ (copy : NodeId) (children : List NodeId) {doc doc' : Document},
        AgreeOff hidden doc doc' → AgreeOff hidden
          (children.foldl (fun doc child =>
            (Document.copyWithin source depth doc child).2.appendChild copy
              (Document.copyWithin source depth doc child).1) doc)
          (children.foldl (fun doc child =>
            (Document.copyWithin source depth doc child).2.appendChild copy
              (Document.copyWithin source depth doc child).1) doc') := by
      intro copy
      refine foldl fun child h => ?_
      obtain ⟨hsame, hcopied⟩ := ih child h
      rw [hsame]
      exact hcopied.appendChild copy _
    intro doc doc' id h
    unfold Document.copyWithin
    cases source.contents? id with
    | none =>
      obtain ⟨hsame, hcreated⟩ := h.create (copiedData (source.data id) none)
      dsimp only
      rw [hsame]
      exact ⟨rfl, hchildren _ _ hcreated⟩
    | some contents =>
      obtain ⟨hcopy, hcopied⟩ := ih contents h
      dsimp only
      rw [hcopy]
      obtain ⟨hsame, hcreated⟩ := hcopied.create
        (copiedData (source.data id) (some (Document.copyWithin source depth doc contents).1))
      rw [hsame]
      exact ⟨rfl, hchildren _ _ hcreated⟩

/-! ## Walks -/

theorem children_eq (h : AgreeOff hidden doc doc') (x : NodeId) :
    doc'.children x = doc.children x := by
  rw [children, children, h.size, h.first, funext h.next]

theorem ancestors_eq (h : AgreeOff hidden doc doc') (x : NodeId) :
    doc'.ancestors x = doc.ancestors x := by
  rw [ancestors, ancestors, h.size, h.parent, funext h.parent]

theorem nextAbove_eq (h : AgreeOff hidden doc doc') (top : NodeId) :
    ∀ (steps : Nat) (x : NodeId), doc'.nextAbove? top steps x = doc.nextAbove? top steps x := by
  intro steps
  induction steps with
  | zero => intro x; rfl
  | succ steps ih =>
    intro x
    rw [nextAbove?, nextAbove?, h.next, h.parent]
    split
    · rfl
    · cases doc.next? x with
      | some sibling => rfl
      | none =>
        cases doc.parent? x with
        | none => rfl
        | some p => exact ih p

/-- Every node has the same nodes below it, in the same order. -/
theorem subtree_eq (h : AgreeOff hidden doc doc') (top : NodeId) :
    doc'.subtree top = doc.subtree top := by
  have hafter : doc'.after? top = doc.after? top := by
    funext x
    rw [after?, after?, h.first, h.size, h.nextAbove_eq]
  rw [subtree, subtree, hafter, h.size]

/-- The same nodes are in the tree of both documents. -/
theorem inTree_iff (h : AgreeOff hidden doc doc') (x : NodeId) :
    doc'.InTree x ↔ doc.InTree x := by
  have hparent : doc'.IsParent = doc.IsParent := by
    funext p c
    rw [IsParent, IsParent, h.parent]
  rw [InTree, InTree, Has, Has, h.size, Within, Within, hparent]

/-! ## Texts -/

/-- A subtree with nothing hidden in it has the same text in both documents. -/
theorem collectText_eq (h : AgreeOff hidden doc doc')
    (hshown : ∀ y ∈ doc.subtree top, hidden y = false) :
    doc'.collectText top = doc.collectText top := by
  have hown : ∀ y ∈ doc.subtree top, doc'.ownText y = doc.ownText y := by
    intro y hy
    rw [ownText, h.data y (hshown y hy)]
    rfl
  rw [collectText, collectText, h.subtree_eq, List.map_congr_left hown]

/-- What is written for a node that is shown is the same: all that is written with it is shown,
too. -/
theorem writer_eq (h : AgreeOff hidden doc doc') (hdoc : doc.WellFormed)
    (hwhole : IsShownWhole hidden doc) : ∀ (depth : Nat) (around : Writer.Surroundings)
    (x : NodeId), hidden x = false →
      Writer.node doc' depth around x = Writer.node doc depth around x := by
  have hkids : ∀ {p c : NodeId}, hidden p = false → c ∈ doc.children p → hidden c = false :=
    fun hp hc => hwhole.child _ _ hp (hdoc.isParent_iff.mpr hc)
  intro depth
  induction depth with
  | zero => intro around x _; rfl
  | succ depth ih =>
    intro around x hx
    have hinner : ∀ (within : Writer.Surroundings) (p : NodeId), hidden p = false →
        (doc'.children p).flatMap (Writer.node doc' depth within) =
          (doc.children p).flatMap (Writer.node doc depth within) := by
      intro within p hp
      rw [h.children_eq]
      exact List.flatMap_congr fun c hc => ih within c (hkids hp hc)
    rw [Writer.node, Writer.node, h.data x hx]
    cases hdata : doc.data x with
    | document => exact hinner around x hx
    | element element =>
      -- a template is written with its contents in the place of its children
      have hheld : hidden (element.contents.getD x) = false := by
        cases hcontents : element.contents with
        | none => exact hx
        | some c =>
          refine hwhole.contents x c hx ?_
          rw [contents?, element?, hdata]
          exact hcontents
      have hline : Writer.needsLineEnd doc' element x = Writer.needsLineEnd doc element x := by
        rw [Writer.needsLineEnd, Writer.needsLineEnd, h.first]
        cases hfirst : doc.first? x with
        | none => rfl
        | some c =>
          have hc : c ∈ doc.children x := by
            rw [hdoc.first] at hfirst
            exact List.mem_of_head? hfirst
          rw [Option.map_some, Option.map_some, ownText, h.data c (hkids hx hc)]
          rfl
      simp only [hinner _ _ hheld, hline]
    | _ => rfl

/-- Documents that agree have the same text if nothing hidden is written. -/
theorem render_eq (h : AgreeOff hidden doc doc') (hdoc : doc.WellFormed)
    (hwhole : IsShownWhole hidden doc) (hroot : hidden root = false) :
    doc'.render = doc.render := by
  rw [render, render, renderChildren, renderChildren, h.children_eq, h.size]
  refine congrArg String.ofList (List.flatMap_congr fun c hc => ?_)
  exact h.writer_eq hdoc hwhole doc.size {} c
    (hwhole.child root c hroot (hdoc.isParent_iff.mpr hc))

end AgreeOff

end Document

end ComposingProxy.Markup
