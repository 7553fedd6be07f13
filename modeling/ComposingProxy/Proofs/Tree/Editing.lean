import ComposingProxy.Markup.Construction.Basic
import ComposingProxy.Proofs.Tree.Copies

/-!
# Every sequence of edits keeps a document well formed

`Edit` is the list of everything that is ever done to a document: creating nodes, taking
out, putting in, text, copies from other documents, and what the reader of pages asks for.
An edit is *permitted* when the nodes it names were given out and nothing is put below
itself: the node that moves is not the new parent and none of its ancestors
(`CanHold`), and not the sibling it is put in front of. The payoff:

> `wellFormed_applyAll`: from the empty document on, a sequence of edits each of which is
> permitted where it comes leaves the document well formed after every step.

One step is `Edit.wellFormed_apply`, which has one case for each kind of edit.
-/

namespace ComposingProxy.Markup.Document

variable {doc : Document}

/-! ## What may be put where -/

/-- Both numbers were given out, and `child` is neither `parent` nor one of its ancestors. -/
def CanHold (doc : Document) (parent child : NodeId) : Prop :=
  doc.Has parent ∧ doc.Has child ∧ child ≠ parent ∧ child ∉ doc.ancestors parent

instance (doc : Document) (parent child : NodeId) : Decidable (doc.CanHold parent child) :=
  inferInstanceAs (Decidable (_ ∧ _ ∧ _ ∧ _))

/-- A node can be put before the sibling, or the sibling has no parent. -/
def CanPrecede (doc : Document) (sibling child : NodeId) : Prop :=
  child ≠ sibling ∧ ∀ parent ∈ doc.parent? sibling, doc.CanHold parent child

instance (doc : Document) (sibling child : NodeId) : Decidable (doc.CanPrecede sibling child) :=
  inferInstanceAs (Decidable (_ ∧ _))

/-- A node can be put in a place: in an element, or beside a table if that has a parent. -/
def CanPut (doc : Document) : Construction.Place → NodeId → Prop
  | .lastOf parent, id => doc.CanHold parent id
  | .besideTable table below, id =>
    if (doc.parent? table).isSome then doc.CanPrecede table id else doc.CanHold below id

/-- Text can be put in a place. -/
def CanPutText (doc : Document) : Construction.Place → Prop
  | .lastOf parent => doc.Has parent
  | .besideTable _ below => doc.Has below

instance (doc : Document) (id : NodeId) : (place : Construction.Place) →
    Decidable (doc.CanPut place id)
  | .lastOf parent => inferInstanceAs (Decidable (doc.CanHold parent id))
  | .besideTable table below => inferInstanceAs
    (Decidable (if (doc.parent? table).isSome then doc.CanPrecede table id
      else doc.CanHold below id))

instance (doc : Document) : (place : Construction.Place) → Decidable (doc.CanPutText place)
  | .lastOf parent => inferInstanceAs (Decidable (doc.Has parent))
  | .besideTable _ below => inferInstanceAs (Decidable (doc.Has below))

/-- What can hold a node is not inside it: its ancestors are all the nodes around it. -/
theorem CanHold.not_within {parent child : NodeId} (hhold : doc.CanHold parent child)
    (h : doc.WellFormed) : ¬doc.Within parent child := by
  obtain ⟨-, -, hne, hancestors⟩ := hhold
  rw [IsForest.within_iff h]
  rintro (heq | hmem)
  · exact hne heq.symm
  · exact hancestors hmem

/-- A new node can be put anywhere: nothing lies within it. -/
theorem not_within_created (h : doc.WellFormed) (data : NodeData) {parent : NodeId}
    (hparent : doc.Has parent) :
    ¬(doc.create data).2.Within parent (doc.create data).1 := by
  intro hw
  have hforest := (create_sameLinks doc data).isForest h
  have hkids : doc.children (doc.create data).1 = [] :=
    IsForest.kids_eq_nil h (not_has_created doc data)
  rcases Relation.ReflTransGen.cases_head hw with heq | ⟨c, hc, -⟩
  · exact not_has_created doc data (heq ▸ hparent)
  · have hmem := (hforest.mem_iff _ c).mpr hc
    rw [hkids] at hmem
    exact absurd hmem (by simp)

/-! ## Single operations -/

namespace WellFormed

/-- The empty document is its root alone. -/
theorem empty : WellFormed {} := by
  have hnode : ∀ x, ({} : Document).node x = { data := .document } := by
    intro x
    by_cases hx : Document.Has {} x
    · obtain ⟨_ | i⟩ := x
      · rfl
      · exact absurd hx (by simp [Has, Document.size])
    · exact node_of_not_has hx
  have hforest : IsForest {} fun _ => [] := by
    constructor
    case nodup => exact fun _ => List.nodup_nil
    case siblings => exact fun p before c after hk => absurd hk (by simp)
    case acyclic => exact ⟨fun x => ⟨x, fun q hq => by simp [IsParent, parent?, hnode] at hq⟩⟩
    all_goals simp [first?, last?, parent?, previous?, next?, hnode]
  exact hforest.wellFormed

/-- Well-formedness is about links only. -/
theorem sameLinks {doc' : Document} (h : doc.WellFormed) (hsame : SameLinks doc doc') :
    doc'.WellFormed :=
  (hsame.isForest h).wellFormed

/-- Any node may be taken out. -/
theorem detach (h : doc.WellFormed) (id : NodeId) : (doc.detach id).WellFormed :=
  (IsForest.detach h id).wellFormed

/-- All children of a node may be taken out. -/
theorem removeChildren (h : doc.WellFormed) (id : NodeId) : (doc.removeChildren id).WellFormed :=
  (IsForest.removeChildren h id).wellFormed

/-- All children of a node may be moved to one that is not inside it. -/
theorem moveChildren (h : doc.WellFormed) {source target : NodeId} (htarget : doc.Has target)
    (hne : source ≠ target) (hancestors : source ∉ doc.ancestors target) :
    (doc.moveChildren source target).WellFormed := by
  have hout : ¬doc.Within target source := by
    rw [IsForest.within_iff h]
    rintro (heq | hmem)
    · exact hne heq.symm
    · exact hancestors hmem
  exact (IsForest.moveChildren h htarget hout).wellFormed

/-- A node may be appended to one that can hold it. -/
theorem appendChild_of_canHold (h : doc.WellFormed) {parent child : NodeId}
    (hhold : doc.CanHold parent child) : (doc.appendChild parent child).WellFormed :=
  h.appendChild hhold.1 hhold.2.1 (hhold.not_within h)

/-- A node may be put first if it is not the first child already; that one would be linked to
itself. -/
theorem prependChild (h : doc.WellFormed) {parent child : NodeId}
    (hhold : doc.CanHold parent child) (hfirst : doc.first? parent ≠ some child) :
    (doc.prependChild parent child).WellFormed :=
  (IsForest.prependChild h hhold.1 hhold.2.1 (hhold.not_within h) hfirst).wellFormed

/-- Nothing happens before a node without a parent. -/
theorem insertBefore (h : doc.WellFormed) {sibling child : NodeId}
    (hparent : ∀ parent, doc.parent? sibling = some parent →
      child ≠ sibling ∧ doc.Has child ∧ ¬doc.Within parent child) :
    (doc.insertBefore sibling child).WellFormed := by
  cases hp : doc.parent? sibling with
  | none => rwa [Document.insertBefore, hp]
  | some parent =>
    obtain ⟨hne, hchild, hout⟩ := hparent parent hp
    have hmem : sibling ∈ (doc.children parent).erase child :=
      (List.mem_erase_of_ne (Ne.symm hne)).mpr ((IsForest.mem_iff h parent sibling).mpr hp)
    obtain ⟨before, after, hk⟩ := List.append_of_mem hmem
    exact (IsForest.insertBefore h before after hchild hk hout).wellFormed

/-- A node may be put in front of one that it can precede. -/
theorem insertBefore_of_canPrecede (h : doc.WellFormed) {sibling child : NodeId}
    (hprecede : doc.CanPrecede sibling child) : (doc.insertBefore sibling child).WellFormed :=
  h.insertBefore fun parent hp =>
    ⟨hprecede.1, (hprecede.2 parent hp).2.1, (hprecede.2 parent hp).not_within h⟩

/-! ## New nodes and text -/

/-- A new node can be put after the children of any node. -/
theorem appendCreated (h : doc.WellFormed) {parent : NodeId} (hparent : doc.Has parent)
    (data : NodeData) : ((doc.create data).2.appendChild parent (doc.create data).1).WellFormed :=
  (h.create data).appendChild (has_create doc data hparent) (has_created doc data)
    (not_within_created h data hparent)

/-- A new node can be put before any node. -/
theorem insertCreated (h : doc.WellFormed) (sibling : NodeId) (data : NodeData) :
    ((doc.create data).2.insertBefore sibling (doc.create data).1).WellFormed := by
  refine (h.create data).insertBefore fun parent hp => ?_
  rw [(create_sameLinks doc data).parent] at hp
  refine ⟨fun he => ?_, has_created doc data, not_within_created h data (IsForest.has_parent h hp)⟩
  exact not_has_created doc data (he ▸ has_of_parent? hp)

/-- Text at the end goes into the last text, or into a new one. -/
theorem appendText (h : doc.WellFormed) {parent : NodeId} (hparent : doc.Has parent)
    (text : String) : (doc.appendText parent text).WellFormed := by
  unfold Document.appendText
  split
  · exact h.sameLinks (modifyData_sameLinks doc _ _)
  · exact h.appendCreated hparent (.text text)

/-- Text in front of a node goes into the text there, or into a new one. -/
theorem insertTextBefore (h : doc.WellFormed) (sibling : NodeId) (text : String) :
    (doc.insertTextBefore sibling text).WellFormed := by
  unfold Document.insertTextBefore
  split
  · exact h.sameLinks (modifyData_sameLinks doc _ _)
  · exact h.insertCreated sibling (.text text)

/-- Setting a text takes all children out and puts a new one in. -/
theorem setText (h : doc.WellFormed) {id : NodeId} (hid : doc.Has id) (text : String) :
    (doc.setText id text).WellFormed :=
  (h.removeChildren id).appendCreated
    (by rw [Has, Document.removeChildren, IsForest.size_removeFirst]; exact hid) (.text text)

/-! ## What the reader of pages asks for -/

/-- An element may be made with the root of its contents. -/
theorem createNamed (h : doc.WellFormed) (name : Name) (attrs : List Attr) :
    ({ doc : Construction }.createElement name attrs).2.doc.WellFormed := by
  unfold Construction.createElement
  split
  · exact (h.create .document).create _
  · exact h.create _

/-- A node may be put in any place that can hold it. -/
theorem putNode (h : doc.WellFormed) {place : Construction.Place} {id : NodeId}
    (hput : doc.CanPut place id) : ({ doc : Construction }.putNode place id).doc.WellFormed := by
  cases place with
  | lastOf parent => exact h.appendChild_of_canHold hput
  | besideTable table below =>
    simp only [CanPut] at hput
    simp only [Construction.putNode]
    split at hput
    · next hp =>
      rw [if_pos hp]
      exact h.insertBefore_of_canPrecede hput
    · next hp =>
      rw [if_neg hp]
      exact h.appendChild_of_canHold hput

theorem addMissing (h : doc.WellFormed) (id : NodeId) (attrs : List Attr) :
    ({ doc : Construction }.addMissing id attrs).doc.WellFormed :=
  h.sameLinks (modifyElement_sameLinks doc id _)

/-- Text may be put in any place. -/
theorem putText (h : doc.WellFormed) {place : Construction.Place} (hput : doc.CanPutText place)
    (text : String) : ({ doc : Construction }.putText place text).doc.WellFormed := by
  cases place with
  | lastOf parent => exact h.appendText hput text
  | besideTable table below =>
    simp only [Construction.putText]
    split
    · exact h.insertTextBefore table text
    · exact h.appendText hput text

end WellFormed

/-! ## Edits -/

/-- What is done to a document in one step. -/
inductive Edit where
  | create (data : NodeData)
  | createElement (tag : String) (attrs : List (String × String))
  | createText (text : String)
  /-- A new element under its full name; a template comes with the root of its contents. -/
  | createNamed (name : Name) (attrs : List Attr)
  | detach (id : NodeId)
  | appendChild (parent child : NodeId)
  | prependChild (parent child : NodeId)
  | insertBefore (sibling child : NodeId)
  | removeChildren (id : NodeId)
  | moveChildren (source target : NodeId)
  | appendText (parent : NodeId) (text : String)
  | insertTextBefore (sibling : NodeId) (text : String)
  | setText (id : NodeId) (text : String)
  | copyFrom (source : Document) (id : NodeId)
  /-- A node where the reader of pages puts it: in an element or beside a table. -/
  | putNode (place : Construction.Place) (id : NodeId)
  /-- Text where the reader of pages puts it. -/
  | putText (place : Construction.Place) (text : String)
  /-- A new node after the children of a node: a document type or a comment. -/
  | addTo (parent : NodeId) (data : NodeData)
  | addMissing (id : NodeId) (attrs : List Attr)

namespace Edit

/-- The document after an edit. -/
def apply (doc : Document) : Edit → Document
  | create data => (doc.create data).2
  | createElement tag attrs => (doc.createElement tag attrs).2
  | createText text => (doc.createText text).2
  | createNamed name attrs => ({ doc : Construction }.createElement name attrs).2.doc
  | detach id => doc.detach id
  | appendChild parent child => doc.appendChild parent child
  | prependChild parent child => doc.prependChild parent child
  | insertBefore sibling child => doc.insertBefore sibling child
  | removeChildren id => doc.removeChildren id
  | moveChildren source target => doc.moveChildren source target
  | appendText parent text => doc.appendText parent text
  | insertTextBefore sibling text => doc.insertTextBefore sibling text
  | setText id text => doc.setText id text
  | copyFrom source id => (doc.copyFrom source id).2
  | putNode place id => ({ doc : Construction }.putNode place id).doc
  | putText place text => ({ doc : Construction }.putText place text).doc
  | addTo parent data => ({ doc : Construction }.addTo parent data).doc
  | addMissing id attrs => ({ doc : Construction }.addMissing id attrs).doc

/-- The nodes that an edit names were given out, and it puts nothing below itself. -/
def Permitted (doc : Document) : Edit → Prop
  | appendChild parent child => doc.CanHold parent child
  | prependChild parent child => doc.CanHold parent child ∧ doc.first? parent ≠ some child
  | insertBefore sibling child => doc.CanPrecede sibling child
  | moveChildren source target =>
    doc.Has target ∧ source ≠ target ∧ source ∉ doc.ancestors target
  | appendText parent _ => doc.Has parent
  | setText id _ => doc.Has id
  | putNode place id => doc.CanPut place id
  | putText place _ => doc.CanPutText place
  | addTo parent _ => doc.Has parent
  | create _ | createElement _ _ | createText _ | createNamed _ _ | detach _ | removeChildren _
  | insertTextBefore _ _ | copyFrom _ _ | addMissing _ _ => True

instance (doc : Document) : (edit : Edit) → Decidable (edit.Permitted doc)
  | appendChild parent child => inferInstanceAs (Decidable (doc.CanHold parent child))
  | prependChild _ _ => inferInstanceAs (Decidable (_ ∧ _))
  | insertBefore sibling child => inferInstanceAs (Decidable (doc.CanPrecede sibling child))
  | moveChildren _ _ => inferInstanceAs (Decidable (_ ∧ _ ∧ _))
  | appendText parent _ => inferInstanceAs (Decidable (doc.Has parent))
  | setText id _ => inferInstanceAs (Decidable (doc.Has id))
  | putNode place id => inferInstanceAs (Decidable (doc.CanPut place id))
  | putText place _ => inferInstanceAs (Decidable (doc.CanPutText place))
  | addTo parent _ => inferInstanceAs (Decidable (doc.Has parent))
  | create _ | createElement _ _ | createText _ | createNamed _ _ | detach _ | removeChildren _
  | insertTextBefore _ _ | copyFrom _ _ | addMissing _ _ => isTrue trivial

/-- One permitted edit keeps a document well formed. -/
theorem wellFormed_apply {edit : Edit} (h : doc.WellFormed) (hpermitted : edit.Permitted doc) :
    (edit.apply doc).WellFormed := by
  cases edit with
  | create data => exact h.create data
  | createElement tag attrs => exact h.create _
  | createText text => exact h.create _
  | createNamed name attrs => exact h.createNamed name attrs
  | detach id => exact h.detach id
  | appendChild parent child => exact h.appendChild_of_canHold hpermitted
  | prependChild parent child => exact h.prependChild hpermitted.1 hpermitted.2
  | insertBefore sibling child => exact h.insertBefore_of_canPrecede hpermitted
  | removeChildren id => exact h.removeChildren id
  | moveChildren source target =>
    obtain ⟨htarget, hne, hancestors⟩ := hpermitted
    exact h.moveChildren htarget hne hancestors
  | appendText parent text => exact h.appendText hpermitted text
  | insertTextBefore sibling text => exact h.insertTextBefore sibling text
  | setText id text => exact h.setText hpermitted text
  | copyFrom source id => exact h.copyFrom source id
  | putNode place id => exact h.putNode hpermitted
  | putText place text => exact h.putText hpermitted text
  | addTo parent data => exact h.appendCreated hpermitted data
  | addMissing id attrs => exact h.addMissing id attrs

end Edit

/-! ## Sequences of edits -/

/-- The document after all edits of a sequence. -/
def applyAll (doc : Document) (edits : List Edit) : Document :=
  edits.foldl (fun doc edit => edit.apply doc) doc

/-- Each edit of a sequence is permitted where it comes. -/
def AllPermitted : Document → List Edit → Prop
  | _, [] => True
  | doc, edit :: rest => edit.Permitted doc ∧ AllPermitted (edit.apply doc) rest

instance decidableAllPermitted : (edits : List Edit) → (doc : Document) →
    Decidable (AllPermitted doc edits)
  | [], _ => isTrue trivial
  | edit :: rest, doc =>
    have := decidableAllPermitted rest (edit.apply doc)
    inferInstanceAs (Decidable (_ ∧ _))

/-- What one edit keeps, every part of a sequence keeps. -/
theorem WellFormed.applyAll :
    ∀ (edits : List Edit) {doc : Document}, doc.WellFormed → AllPermitted doc edits →
      ∀ steps, (doc.applyAll (edits.take steps)).WellFormed := by
  intro edits
  induction edits with
  | nil => intro doc h _ steps; rwa [List.take_nil]
  | cons edit rest ih =>
    intro doc h hpermitted steps
    cases steps with
    | zero => exact h
    | succ steps => exact ih (Edit.wellFormed_apply h hpermitted.1) hpermitted.2 steps

/-- A sequence of permitted edits of the empty document leaves it well formed after every
step. -/
theorem wellFormed_applyAll {edits : List Edit} (hpermitted : AllPermitted {} edits)
    (steps : Nat) : (applyAll {} (edits.take steps)).WellFormed :=
  WellFormed.empty.applyAll edits hpermitted steps

/-- Edits that build a list with a nested list, move items to the front, to the end and
between the lists, put text beside a table, and take in a copy. -/
def sampleEdits : List Edit :=
  [.createElement "ul" [], .appendChild root ⟨1⟩, .createElement "li" [("id", "a")],
    .createElement "li" [("id", "b")], .appendChild ⟨1⟩ ⟨2⟩, .appendChild ⟨1⟩ ⟨3⟩,
    .prependChild ⟨1⟩ ⟨3⟩, .appendText ⟨2⟩ "a", .createNamed (.html "table") [],
    .appendChild ⟨2⟩ ⟨5⟩, .putText (.besideTable ⟨5⟩ ⟨1⟩) "b", .createText "c",
    .insertBefore ⟨3⟩ ⟨6⟩, .moveChildren ⟨1⟩ ⟨0⟩, .putNode (.besideTable ⟨5⟩ ⟨2⟩) ⟨1⟩,
    .copyFrom {} root, .setText ⟨2⟩ "d", .addTo root (.doctype "html" "" "")]

/-- All of these edits are permitted, and the tree is well formed after each of them. -/
theorem wellFormed_sampleEdits : AllPermitted {} sampleEdits ∧
    ∀ steps, (applyAll {} (sampleEdits.take steps)).WellFormed :=
  ⟨by decide +kernel, wellFormed_applyAll (by decide +kernel)⟩

end ComposingProxy.Markup.Document
