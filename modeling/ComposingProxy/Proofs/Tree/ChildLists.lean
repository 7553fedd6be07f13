import ComposingProxy.Proofs.Tree.DeepCopies
import ComposingProxy.Proofs.Tree.Traversal

/-!
# What edits make of a document, on lists

The links between siblings say in many small pieces what a list says at once. `Layout` is a document
without them: how many nodes there are, what each is, the list of its children and its parent. Each
edit is an equation for the layout, with everything it names and nothing else changed, and as many
nodes as there were, or one more.

> `WellFormed.isLaidOut_edits`: the equations of all edits that move nodes or text.

The two loops that take the first child until there is none are counted in the model. `Drains` is
the loop without the count. Once the list is empty the count cannot have cut anything off, so that
is all that has to be known for both (`drains_of_first?_eq_none`).

Texts never get children: `TextsAreLeaves` is kept along with the links, and with it the text of a
node is what the lists say it is.
-/

namespace ComposingProxy.Markup.Document

variable {doc doc' : Document} {n : NodeId} {t : String}

/-! ## Layouts -/

/-- What a document is as a collection of trees. -/
@[ext] structure Layout where
  /-- How many numbers were given out. -/
  size : Nat
  data : NodeId → NodeData
  children : NodeId → List NodeId
  parent? : NodeId → Option NodeId

/-- The layout that the links of a document stand for. -/
def layout (doc : Document) : Layout where
  size := doc.size
  data := doc.data
  children := doc.children
  parent? := doc.parent?

/-- No text holds anything. -/
def TextsAreLeaves (doc : Document) : Prop := ∀ x, doc.isText x = true → doc.children x = []

/-- The document is well formed, its texts are leaves, and this is its layout. -/
structure IsLaidOut (doc : Document) (layout : Layout) : Prop where
  wellFormed : doc.WellFormed
  leaves : doc.TextsAreLeaves
  layout_eq : doc.layout = layout

namespace IsLaidOut

variable {layout : Layout}

theorem size_eq (h : doc.IsLaidOut layout) : doc.size = layout.size :=
  congrArg Layout.size h.layout_eq

theorem data_eq (h : doc.IsLaidOut layout) : doc.data = layout.data :=
  congrArg Layout.data h.layout_eq

theorem children_eq (h : doc.IsLaidOut layout) : doc.children = layout.children :=
  congrArg Layout.children h.layout_eq

theorem parent?_eq (h : doc.IsLaidOut layout) : doc.parent? = layout.parent? :=
  congrArg Layout.parent? h.layout_eq

end IsLaidOut

/-- A text is a node of the document. -/
theorem has_of_isText {x : NodeId} (h : doc.isText x = true) : doc.Has x := by
  by_contra hnone
  rw [isText, data, node_of_not_has hnone] at h
  exact absurd h (by simp)

instance (doc : Document) : Decidable doc.TextsAreLeaves :=
  decidable_of_iff (∀ i < doc.size, doc.isText ⟨i⟩ = true → doc.children ⟨i⟩ = [])
    ⟨fun h x hx => h x.index (has_of_isText hx) hx, fun h i _ hi => h ⟨i⟩ hi⟩

/-- Lists, parents and data that fit together are the layout of a document whose links agree with
the lists. -/
theorem IsForest.isLaidOut {layout : Layout} (h : doc.IsForest layout.children)
    (hsize : doc.size = layout.size) (hdata : ∀ x, doc.data x = layout.data x)
    (hparent : ∀ p x, x ∈ layout.children p ↔ layout.parent? x = some p)
    (hleaves : ∀ x, doc.isText x = true → layout.children x = []) : doc.IsLaidOut layout where
  wellFormed := h.wellFormed
  leaves x hx := (h.children_eq x).trans (hleaves x hx)
  layout_eq := Layout.ext hsize (funext hdata) (funext h.children_eq)
    (funext fun x => Option.ext fun p => (h.mem_iff p x).symm.trans (hparent p x))

/-- A node is a text just if its data is one. -/
theorem isText_eq_true_iff {x : NodeId} :
    doc.isText x = true ↔ ∃ value, doc.data x = .text value := by
  unfold isText
  cases doc.data x <;> simp

theorem isText_congr {x : NodeId} (h : doc'.data x = doc.data x) :
    doc'.isText x = doc.isText x := by
  rw [isText, isText, h]

/-! ## One node that moves -/

/-- The children of `p` other than `c`. -/
def without (doc : Document) (c p : NodeId) : List NodeId := (doc.children p).erase c

/-- Only one list gets shorter. -/
theorem WellFormed.without_of_ne (h : doc.WellFormed) {c p : NodeId} (hp : doc.parent? c ≠ some p) :
    doc.without c p = doc.children p :=
  List.erase_of_not_mem fun hc => hp (h.isParent_iff.mpr hc)

/-- The other children of a node are those that are not the one left out. -/
theorem WellFormed.mem_without_iff (h : doc.WellFormed) {c p x : NodeId} :
    x ∈ doc.without c p ↔ x ≠ c ∧ doc.parent? x = some p := by
  rw [without, (h.nodup p).mem_erase_iff, ← h.isParent_iff, IsParent]

/-- A text has no other children either. -/
theorem TextsAreLeaves.without (hleaves : doc.TextsAreLeaves) (c : NodeId) {x : NodeId}
    (hx : doc.isText x = true) : doc.without c x = [] := by
  rw [Document.without, hleaves x hx, List.erase_nil]

/-- A node that is taken out leaves the child list of its parent, and has no parent. -/
theorem WellFormed.isLaidOut_detach (h : doc.WellFormed) (hleaves : doc.TextsAreLeaves)
    (c : NodeId) : (doc.detach c).IsLaidOut
      { doc.layout with
        children := doc.without c
        parent? := Function.update doc.parent? c none } := by
  refine (IsForest.detach h c).isLaidOut (size_detach doc c) (data_detach doc c) (fun p x => ?_)
    fun x hx => hleaves.without c (isText_congr (data_detach doc c x) ▸ hx)
  refine h.mem_without_iff.trans ?_
  by_cases hx : x = c
  · simp [hx]
  · simp [hx]

/-- With `c` put somewhere among the other children of `p`, the lists say what the parents say. -/
theorem WellFormed.mem_update_without_iff (h : doc.WellFormed) {p c : NodeId} {row : List NodeId}
    (hrow : ∀ x, x ∈ row ↔ x = c ∨ x ∈ doc.without c p) (q x : NodeId) :
    x ∈ Function.update (doc.without c) p row q ↔
      Function.update doc.parent? c (some p) x = some q := by
  rw [Function.update_apply, Function.update_apply]
  by_cases hq : q = p
  · subst hq
    rw [if_pos rfl, hrow, h.mem_without_iff]
    by_cases hx : x = c <;> simp [hx]
  · rw [if_neg hq, h.mem_without_iff]
    by_cases hx : x = c <;> simp [hx, Ne.symm hq]

/-- A node that is appended leaves its list and comes last in the one of its new parent. -/
theorem WellFormed.isLaidOut_appendChild (h : doc.WellFormed) (hleaves : doc.TextsAreLeaves)
    {p c : NodeId} (hp : doc.Has p) (hc : doc.Has c) (hout : ¬doc.Within p c)
    (htext : doc.isText p = false) : (doc.appendChild p c).IsLaidOut
      { doc.layout with
        children := Function.update (doc.without c) p (doc.without c p ++ [c])
        parent? := Function.update doc.parent? c (some p) } := by
  have hforest := IsForest.appendChild h hp hc hout
  refine IsForest.isLaidOut hforest (size_appendChild doc p c) (data_appendChild doc p c) ?_ ?_
  · exact h.mem_update_without_iff fun x => by simp [or_comm]
  · intro x hx
    rw [isText_congr (data_appendChild doc p c x)] at hx
    have hne : x ≠ p := fun heq => by simp [heq, htext] at hx
    exact (Function.update_of_ne hne _ _).trans (hleaves.without c hx)

/-- A node that is put in front of a sibling leaves its list and comes right before the sibling. -/
theorem WellFormed.isLaidOut_insertBefore (h : doc.WellFormed) (hleaves : doc.TextsAreLeaves)
    {p s c : NodeId} (hp : doc.parent? s = some p) (hne : c ≠ s) (hhold : doc.CanHold p c) :
    ∃ before after, doc.without c p = before ++ s :: after ∧
      (doc.insertBefore s c).IsLaidOut
        { doc.layout with
          children := Function.update (doc.without c) p (before ++ c :: s :: after)
          parent? := Function.update doc.parent? c (some p) } := by
  have hs : s ∈ doc.without c p := h.mem_without_iff.mpr ⟨Ne.symm hne, hp⟩
  obtain ⟨before, after, hrow⟩ := List.append_of_mem hs
  refine ⟨before, after, hrow, ?_⟩
  have hforest := IsForest.insertBefore h before after hhold.2.1 hrow (hhold.not_within h)
  refine IsForest.isLaidOut hforest (size_insertBefore doc s c) (data_insertBefore doc s c) ?_ ?_
  · refine h.mem_update_without_iff fun x => ?_
    rw [hrow]
    simp only [List.mem_append, List.mem_cons]
    tauto
  · intro x hx
    rw [isText_congr (data_insertBefore doc s c x)] at hx
    -- the parent has a child, so it is no text
    have hparent : x ≠ p := by
      rintro rfl
      rw [hleaves.without c hx] at hs
      exact absurd hs List.not_mem_nil
    exact (Function.update_of_ne hparent _ _).trans (hleaves.without c hx)

/-! ## All children -/

/-- Taking the first child of a node until there is none comes to an end with this document. -/
inductive Drains (step : Document → NodeId → Document) (n : NodeId) : Document → Document → Prop
  | done {doc : Document} (hfirst : doc.first? n = none) : Drains step n doc doc
  | next {doc doc' : Document} {c : NodeId} (hfirst : doc.first? n = some c)
    (rest : Drains step n (step doc c) doc') : Drains step n doc doc'

/-- What each step keeps, the loop keeps. -/
theorem Drains.eq_of_forall {α : Type} {step : Document → NodeId → Document} {f : Document → α}
    (h : Drains step n doc doc') (hstep : ∀ doc c, f (step doc c) = f doc) : f doc' = f doc := by
  induction h with
  | done => rfl
  | next _ _ ih => exact ih.trans (hstep _ _)

/-- A loop that counts its steps was not cut off if it leaves no child. -/
theorem drains_of_first?_eq_none {step : Document → NodeId → Document}
    (loop : Document → Nat → Document) (hzero : ∀ doc, loop doc 0 = doc)
    (hsucc : ∀ doc steps, loop doc (steps + 1) =
      match doc.first? n with
      | none => doc
      | some c => loop (step doc c) steps) :
    ∀ (steps : Nat) (doc : Document), (loop doc steps).first? n = none →
      Drains step n doc (loop doc steps) := by
  intro steps
  induction steps with
  | zero =>
    intro doc hfirst
    rw [hzero] at hfirst ⊢
    exact .done hfirst
  | succ steps ih =>
    intro doc hend
    rw [hsucc] at hend ⊢
    cases hfirst : doc.first? n with
    | none => exact .done hfirst
    | some c =>
      rw [hfirst] at hend
      exact .next hfirst (ih (step doc c) hend)

/-- The parents after all children of `source` were given to `target`, or to no one. -/
def handedOver (doc : Document) (source : NodeId) (target : Option NodeId) (x : NodeId) :
    Option NodeId :=
  if doc.parent? x = some source then target else doc.parent? x

/-- The parent of a node is then the target, if it was the source, and else the one it was. -/
theorem handedOver_eq_some_iff {source p x : NodeId} {target : Option NodeId} :
    doc.handedOver source target x = some p ↔
      doc.parent? x = some source ∧ target = some p ∨ doc.parent? x = some p ∧ p ≠ source := by
  rw [handedOver]
  split
  · next hsource => simp [hsource, eq_comm]
  · next hother =>
    refine ⟨fun hp => Or.inr ⟨hp, fun heq => hother (heq ▸ hp)⟩, ?_⟩
    rintro (⟨hsource, -⟩ | ⟨hp, -⟩)
    · exact absurd hsource hother
    · exact hp

/-- Removing all children takes out the first of them until there is none: the steps are enough. -/
theorem WellFormed.drains_removeChildren (h : doc.WellFormed) (n : NodeId) :
    Drains Document.detach n doc (doc.removeChildren n) := by
  refine drains_of_first?_eq_none (·.removeFirst n) (fun _ => rfl) (fun _ _ => rfl) doc.size doc ?_
  have hfirst := (IsForest.removeChildren h n).first n
  rwa [Function.update_self, List.head?_nil] at hfirst

/-- Removing all children empties the child list, and leaves the children without a parent. -/
theorem WellFormed.isLaidOut_removeChildren (h : doc.WellFormed) (hleaves : doc.TextsAreLeaves)
    (n : NodeId) : (doc.removeChildren n).IsLaidOut
      { doc.layout with
        children := Function.update doc.children n []
        parent? := doc.handedOver n none } := by
  have hdrains := h.drains_removeChildren n
  have hdata := fun x => hdrains.eq_of_forall (f := (·.data x)) fun doc c => data_detach doc c x
  refine IsForest.isLaidOut (IsForest.removeChildren h n) (hdrains.eq_of_forall size_detach) hdata
    (fun p x => ?_) fun x hx => ?_
  · show x ∈ Function.update doc.children n [] p ↔ doc.handedOver n none x = some p
    rw [Function.update_apply, handedOver_eq_some_iff]
    by_cases hp : p = n
    · simp [hp]
    · rw [if_neg hp, ← h.isParent_iff, IsParent]
      simp [hp]
  · rw [isText_congr (hdata x)] at hx
    show Function.update doc.children n [] x = []
    rw [Function.update_apply, hleaves x hx, ite_self]

/-- Moving all children appends the first of them to the target until there is none. -/
theorem WellFormed.drains_moveChildren (h : doc.WellFormed) {source target : NodeId}
    (htarget : doc.Has target) (hout : ¬doc.Within target source) :
    Drains (fun doc c => doc.appendChild target c) source doc (doc.moveChildren source target) := by
  have hne : source ≠ target := fun heq => hout (heq ▸ .refl)
  refine drains_of_first?_eq_none (·.moveFirst source target) (fun _ => rfl) (fun _ _ => rfl)
    doc.size doc ?_
  have hfirst := (IsForest.moveChildren h htarget hout).first source
  rwa [Function.update_of_ne hne, Function.update_self, List.head?_nil] at hfirst

/-- Moving all children empties one list and puts it behind the other, in the same order. -/
theorem WellFormed.isLaidOut_moveChildren (h : doc.WellFormed) (hleaves : doc.TextsAreLeaves)
    {source target : NodeId} (htarget : doc.Has target) (hout : ¬doc.Within target source)
    (htext : doc.isText target = true → doc.children source = []) :
    (doc.moveChildren source target).IsLaidOut
      { doc.layout with
        children := Function.update (Function.update doc.children source []) target
          (doc.children target ++ doc.children source)
        parent? := doc.handedOver source (some target) } := by
  have hne : target ≠ source := fun heq => hout (heq ▸ .refl)
  have hdrains := h.drains_moveChildren htarget hout
  have hdata := fun x =>
    hdrains.eq_of_forall (f := (·.data x)) fun doc c => data_appendChild doc target c x
  refine IsForest.isLaidOut (IsForest.moveChildren h htarget hout)
    (hdrains.eq_of_forall fun doc c => size_appendChild doc target c) hdata (fun p x => ?_)
    fun x hx => ?_
  · show x ∈ Function.update (Function.update doc.children source []) target
      (doc.children target ++ doc.children source) p ↔
        doc.handedOver source (some target) x = some p
    rw [Function.update_apply, Function.update_apply, handedOver_eq_some_iff]
    by_cases hp : p = target
    · rw [if_pos hp, hp, List.mem_append, ← h.isParent_iff, ← h.isParent_iff, IsParent, IsParent]
      simp [hne, or_comm]
    · rw [if_neg hp]
      by_cases hq : p = source
      · simp [hq, hne]
      · rw [if_neg hq, ← h.isParent_iff, IsParent]
        simp [hq, Ne.symm hp]
  · rw [isText_congr (hdata x)] at hx
    show Function.update (Function.update doc.children source []) target
      (doc.children target ++ doc.children source) x = []
    rw [Function.update_apply, Function.update_apply, hleaves x hx, ite_self]
    split
    · next heq =>
      subst heq
      rw [hleaves x hx, htext hx, List.append_nil]
    · rfl

/-! ## Text -/

/-- The number that the next new node gets. -/
def newId (doc : Document) : NodeId := ⟨doc.size⟩

/-- A new node has no children and no parent, and everything else stays. -/
theorem WellFormed.isLaidOut_create (h : doc.WellFormed) (hleaves : doc.TextsAreLeaves)
    (data : NodeData) : (doc.create data).2.IsLaidOut
      { doc.layout with
        size := doc.size + 1
        data := Function.update doc.data doc.newId data } := by
  have hdata : ∀ x, (doc.create data).2.data x = Function.update doc.data doc.newId data x := by
    intro x
    rw [Document.data, node_create, Function.update_apply]
    show (if x = doc.newId then _ else _ : Node).data = _
    split <;> rfl
  refine IsForest.isLaidOut ((create_sameLinks doc data).isForest h) (Array.size_push _) hdata
    (fun p x => h.mem_iff p x) fun x hx => ?_
  by_cases hnew : x = doc.newId
  · rw [hnew]
    exact IsForest.kids_eq_nil h (not_has_created doc data)
  · have hsame : (doc.create data).2.data x = doc.data x :=
      (hdata x).trans (Function.update_of_ne hnew _ _)
    exact hleaves x (isText_congr hsame ▸ hx)

/-- A new text at the end of a node. -/
theorem WellFormed.isLaidOut_appendCreated (h : doc.WellFormed) (hleaves : doc.TextsAreLeaves)
    (hn : doc.Has n) (htext : doc.isText n = false) (t : String) :
    ((doc.createText t).2.appendChild n (doc.createText t).1).IsLaidOut
      { size := doc.size + 1
        data := Function.update doc.data doc.newId (.text t)
        children := Function.update doc.children n (doc.children n ++ [doc.newId])
        parent? := Function.update doc.parent? doc.newId (some n) } := by
  have hnew : ¬doc.Has doc.newId := not_has_created doc (.text t)
  obtain ⟨hwell, hlaid, hlayout⟩ := h.isLaidOut_create hleaves (.text t)
  have htext' : (doc.create (.text t)).2.isText n = false :=
    (isText_congr (data_create_of_has (.text t) hn)).trans htext
  have happend := hwell.isLaidOut_appendChild hlaid (has_create doc (.text t) hn)
    (has_created doc (.text t)) (not_within_created h (.text t) hn) htext'
  -- the new node was in no list before
  have hwithout : (doc.create (.text t)).2.without (doc.create (.text t)).1 = doc.children := by
    funext p
    rw [without, h.children_create]
    exact List.erase_of_not_mem fun hmem => hnew (IsForest.has_child h hmem)
  have hparent : (doc.create (.text t)).2.parent? = doc.parent? :=
    funext (create_sameLinks doc (.text t)).parent
  rw [hlayout, hwithout, hparent] at happend
  exact happend

/-- Setting the text of a node takes out its children and puts in a new text as the only one. -/
theorem WellFormed.isLaidOut_setText (h : doc.WellFormed) (hleaves : doc.TextsAreLeaves)
    (hn : doc.Has n) (htext : doc.isText n = false) (t : String) :
    (doc.setText n t).IsLaidOut
      { size := doc.size + 1
        data := Function.update doc.data doc.newId (.text t)
        children := Function.update doc.children n [doc.newId]
        parent? := Function.update (doc.handedOver n none) doc.newId (some n) } := by
  have hempty := h.isLaidOut_removeChildren hleaves n
  have hhas : (doc.removeChildren n).Has n := by
    rw [Has, hempty.size_eq]
    exact hn
  have happend := hempty.wellFormed.isLaidOut_appendCreated hempty.leaves hhas
    ((isText_congr (congrFun hempty.data_eq n)).trans htext) t
  rw [newId, hempty.size_eq, hempty.data_eq, hempty.children_eq, hempty.parent?_eq] at happend
  dsimp only at happend
  rw [Function.update_idem, Function.update_self, List.nil_append] at happend
  exact happend

/-- Its text is the one that was set. -/
theorem WellFormed.collectText_setText (h : doc.WellFormed) (hn : doc.Has n)
    (htext : doc.isText n = false) (t : String) : (doc.setText n t).collectText n = t := by
  obtain ⟨child, hholds⟩ := h.exists_holdsText_setText hn t
  refine hholds.collectText (h.setText hn t) (ownText_of_not_isText ?_)
  exact (isText_congr (data_setText n t hn)).trans htext

/-- A text at the end of a node that gets longer. -/
theorem WellFormed.isLaidOut_extendText (h : doc.WellFormed) (hleaves : doc.TextsAreLeaves)
    {last : NodeId} {value : String} (hvalue : doc.data last = .text value) (t : String) :
    (doc.extendText last t).IsLaidOut
      { doc.layout with data := Function.update doc.data last (.text (value ++ t)) } := by
  have hlast : doc.Has last := has_of_isText (by rw [isText, hvalue])
  have hdata : ∀ x, (doc.extendText last t).data x =
      Function.update doc.data last (.text (value ++ t)) x := by
    intro x
    have hnode : (doc.node last).data = .text value := hvalue
    rw [extendText, modifyData, Document.data, node_modify, Function.update_apply]
    by_cases hx : x = last
    · rw [if_pos ⟨hx, hlast⟩, if_pos hx, hx]
      simp only [hnode]
    · rw [if_neg fun hboth => hx hboth.1, if_neg hx]
      rfl
  refine IsForest.isLaidOut ((modifyData_sameLinks doc last _).isForest h) (size_modify doc last _)
    hdata (fun p x => h.mem_iff p x) fun x hx => ?_
  by_cases hxlast : x = last
  · exact hleaves x (by rw [isText, hxlast, hvalue])
  · have hsame : (doc.extendText last t).data x = doc.data x :=
      (hdata x).trans (Function.update_of_ne hxlast _ _)
    exact hleaves x (isText_congr hsame ▸ hx)

/-- Where the nodes of a subtree stay, its text stays. -/
theorem WellFormed.collectText_congr (h : doc.WellFormed) (h' : doc'.WellFormed)
    (hn : doc.Has n) (hstays : ∀ x, doc.Within x n → StaysAt doc doc' x) :
    doc'.collectText n = doc.collectText n := by
  induction n using h.induction_children with
  | hstep n ih =>
    obtain ⟨hhas, hdata, hchildren⟩ := hstays n .refl
    rw [h.collectText_eq hn, h'.collectText_eq hhas, hchildren, ownText, ownText, hdata]
    refine congrArg (doc.ownText n ++ String.join ·) (List.map_congr_left fun c hc => ?_)
    exact ih c hc (IsForest.has_child h hc) fun x hx =>
      hstays x (Relation.ReflTransGen.head (h.isParent_iff.mpr hc) hx)

/-- Where the last children add something to the text and the others stay, the node has that much
more text. -/
theorem WellFormed.collectText_of_back (h : doc.WellFormed) (h' : doc'.WellFormed)
    (hn : doc.Has n) (hhas : doc'.Has n) (hdata : doc'.data n = doc.data n)
    {front back back' : List NodeId} (hrow : doc.children n = front ++ back)
    (hrow' : doc'.children n = front ++ back')
    (hstays : ∀ c ∈ front, ∀ x, doc.Within x c → StaysAt doc doc' x)
    (hback : String.join (back'.map doc'.collectText) =
      String.join (back.map doc.collectText) ++ t) :
    doc'.collectText n = doc.collectText n ++ t := by
  have hfront : front.map doc'.collectText = front.map doc.collectText :=
    List.map_congr_left fun c hc => h.collectText_congr h'
      (IsForest.has_child h (hrow ▸ List.mem_append_left back hc)) (hstays c hc)
  rw [h.collectText_eq hn, h'.collectText_eq hhas, hrow, hrow', List.map_append, List.map_append,
    String.join_append, String.join_append, hfront, hback, ownText, ownText, hdata]
  simp only [String.append_assoc]

/-- A text at the end is made longer. -/
theorem appendText_of_text {last : NodeId} {value : String} (hlast : doc.last? n = some last)
    (hvalue : doc.data last = .text value) (t : String) :
    doc.appendText n t = doc.extendText last t := by
  have htext : doc.isText last = true := by rw [isText, hvalue]
  rw [Document.appendText, hlast, Option.filter_some, if_pos htext]

/-- Where no text is at the end, a new one is put there. -/
theorem appendText_of_no_text (hlast : ∀ last, doc.last? n = some last → doc.isText last = false)
    (t : String) : doc.appendText n t =
      (doc.createText t).2.appendChild n (doc.createText t).1 := by
  have hnone : (doc.last? n).filter doc.isText = none :=
    Option.filter_eq_none_iff.mpr fun last hsome => by simp [hlast last hsome]
  rw [Document.appendText, hnone]

/-- Making the last text longer adds to the text of its parent. -/
theorem WellFormed.collectText_extendText (h : doc.WellFormed) (hleaves : doc.TextsAreLeaves)
    {last : NodeId} {value : String} (hlast : doc.last? n = some last)
    (hvalue : doc.data last = .text value) (t : String) :
    (doc.extendText last t).collectText n = doc.collectText n ++ t := by
  have htext : doc.isText last = true := by rw [isText, hvalue]
  have hlaid := h.isLaidOut_extendText hleaves hvalue t
  have hwell := hlaid.wellFormed
  have hsize : (doc.extendText last t).size = doc.size := hlaid.size_eq
  have hchildren : (doc.extendText last t).children = doc.children := hlaid.children_eq
  have hdata : (doc.extendText last t).data =
      Function.update doc.data last (.text (value ++ t)) := hlaid.data_eq
  obtain ⟨front, hrow⟩ := List.getLast?_eq_some_iff.mp ((h.last n).symm.trans hlast)
  have hparent : doc.IsParent n last := h.isParent_iff.mpr (by rw [hrow]; simp)
  have hn := IsForest.has_parent h hparent
  have hstays : ∀ x, doc.Has x → x ≠ last → StaysAt doc (doc.extendText last t) x :=
    fun x hx hne => ⟨by rw [Has, hsize]; exact hx, by rw [hdata, Function.update_of_ne hne],
      by rw [hchildren]⟩
  -- the text that gets longer has no children, so it is not `n`
  have hne : n ≠ last := by
    rintro rfl
    rw [hleaves n htext] at hrow
    exact absurd hrow (by simp)
  have hrow' : (doc.extendText last t).children n = front ++ [last] := by rw [hchildren, hrow]
  refine h.collectText_of_back hwell hn (hstays n hn hne).has (hstays n hn hne).data hrow hrow'
    (fun c hc x hx => ?_) ?_
  · have hcparent : doc.IsParent n c := h.isParent_iff.mpr (by rw [hrow]; simp [hc])
    refine hstays x (hx.has (has_of_parent? hcparent)) ?_
    rintro rfl
    have heq := h.eq_of_within_children hcparent hparent hx .refl
    have hnodup := h.nodup n
    rw [hrow, List.nodup_append] at hnodup
    exact hnodup.2.2 c hc x (by simp) heq
  · have hhas := has_of_isText htext
    have hhas' : (doc.extendText last t).Has last := by rw [Has, hsize]; exact hhas
    have hleaf := hleaves last htext
    have hleaf' : (doc.extendText last t).children last = [] := by rw [hchildren, hleaf]
    have htexts : doc.collectText last = value ∧
        (doc.extendText last t).collectText last = value ++ t := by
      rw [h.collectText_of_leaf hhas hleaf, hwell.collectText_of_leaf hhas' hleaf', ownText,
        ownText, hdata, Function.update_self, hvalue]
      exact ⟨rfl, rfl⟩
    simp only [List.map_cons, List.map_nil, String.join_cons, String.join_nil,
      String.append_empty, htexts]

/-- A new text at the end adds to the text of its parent. -/
theorem WellFormed.collectText_appendCreated (h : doc.WellFormed) (hleaves : doc.TextsAreLeaves)
    (hn : doc.Has n) (htext : doc.isText n = false) (t : String) :
    ((doc.createText t).2.appendChild n (doc.createText t).1).collectText n =
      doc.collectText n ++ t := by
  have hlaid := h.isLaidOut_appendCreated hleaves hn htext t
  generalize (doc.createText t).2.appendChild n (doc.createText t).1 = doc' at hlaid
  have hwell := hlaid.wellFormed
  have hsize : doc'.size = doc.size + 1 := hlaid.size_eq
  have hchildren : doc'.children = Function.update doc.children n (doc.children n ++ [doc.newId]) :=
    hlaid.children_eq
  have hdata : doc'.data = Function.update doc.data doc.newId (.text t) := hlaid.data_eq
  have hne : ∀ x, doc.Has x → x ≠ doc.newId := by
    rintro x hx rfl
    exact not_has_created doc (.text t) hx
  have hhas : ∀ x, doc.Has x → doc'.Has x := fun x hx => by
    rw [Has, hsize]
    exact Nat.lt_succ_of_lt hx
  have hdatax : ∀ x, doc.Has x → doc'.data x = doc.data x := fun x hx => by
    rw [hdata, Function.update_of_ne (hne x hx)]
  have hrow : doc'.children n = doc.children n ++ [doc.newId] := by
    rw [hchildren, Function.update_self]
  refine h.collectText_of_back hwell hn (hhas n hn) (hdatax n hn) (List.append_nil _).symm hrow
    (fun c hc x hx => ?_) ?_
  · have hparent := h.isParent_iff.mpr hc
    have hx' := hx.has (has_of_parent? hparent)
    refine ⟨hhas x hx', hdatax x hx', ?_⟩
    rw [hchildren, Function.update_of_ne]
    rintro rfl
    exact IsForest.not_transGen_self h x (.head' hparent hx)
  · have hnew : doc'.Has doc.newId := by
      rw [Has, hsize]
      exact Nat.lt_succ_self _
    have hleaf : doc'.children doc.newId = [] := by
      rw [hchildren, Function.update_of_ne (hne n hn).symm]
      exact IsForest.kids_eq_nil h (not_has_created doc (.text t))
    have hown : doc'.collectText doc.newId = t := by
      rw [hwell.collectText_of_leaf hnew hleaf, ownText, hdata, Function.update_self]
    simp only [List.map_cons, List.map_nil, String.join_cons, String.join_nil,
      String.append_empty, String.empty_append, hown]

/-- In both cases the text of the node is followed by the new one. -/
theorem WellFormed.collectText_appendText (h : doc.WellFormed) (hleaves : doc.TextsAreLeaves)
    (hn : doc.Has n) (htext : doc.isText n = false) (t : String) :
    (doc.appendText n t).collectText n = doc.collectText n ++ t := by
  by_cases hlast : ∃ last, doc.last? n = some last ∧ doc.isText last = true
  · obtain ⟨last, hlast, htrue⟩ := hlast
    obtain ⟨value, hvalue⟩ := isText_eq_true_iff.mp htrue
    rw [appendText_of_text hlast hvalue]
    exact h.collectText_extendText hleaves hlast hvalue t
  · rw [appendText_of_no_text fun last hsome =>
      Bool.eq_false_iff.mpr fun htrue => hlast ⟨last, hsome, htrue⟩]
    exact h.collectText_appendCreated hleaves hn htext t

/-! ## All edits -/

/-- What one list loses, and no other. -/
theorem WellFormed.exists_without_eq (h : doc.WellFormed) {c p : NodeId}
    (hp : doc.parent? c = some p) : ∃ before after, doc.children p = before ++ c :: after ∧
      doc.without c p = before ++ after := by
  obtain ⟨before, after, hrow⟩ := List.append_of_mem (h.isParent_iff.mp hp)
  refine ⟨before, after, hrow, ?_⟩
  have herase := congrFun (IsForest.erase_eq_update h before after hrow) p
  rwa [Function.update_self] at herase

/-- In a well-formed document whose texts are leaves, each edit does to the lists what it is for and
changes nothing else, and it leaves a well-formed document whose texts are leaves. A node is put
where it is not below itself and where there is no text. Taking first children one after the other
comes to an end, whether they are dropped or put into a node outside. -/
theorem WellFormed.isLaidOut_edits (h : doc.WellFormed) (hleaves : doc.TextsAreLeaves) :
    (∀ c p, doc.parent? c ≠ some p → doc.without c p = doc.children p) ∧
    (∀ c p, doc.parent? c = some p → ∃ before after,
      doc.children p = before ++ c :: after ∧ doc.without c p = before ++ after) ∧
    (∀ c, (doc.detach c).IsLaidOut
      { doc.layout with
        children := doc.without c
        parent? := Function.update doc.parent? c none }) ∧
    (∀ p c, doc.CanHold p c → doc.isText p = false → (doc.appendChild p c).IsLaidOut
      { doc.layout with
        children := Function.update (doc.without c) p (doc.without c p ++ [c])
        parent? := Function.update doc.parent? c (some p) }) ∧
    (∀ p s c, doc.parent? s = some p → c ≠ s → doc.CanHold p c →
      ∃ before after, doc.without c p = before ++ s :: after ∧
        (doc.insertBefore s c).IsLaidOut
          { doc.layout with
            children := Function.update (doc.without c) p (before ++ c :: s :: after)
            parent? := Function.update doc.parent? c (some p) }) ∧
    (∀ s c, doc.parent? s = none → doc.insertBefore s c = doc) ∧
    (∀ n, Drains Document.detach n doc (doc.removeChildren n) ∧
      (doc.removeChildren n).IsLaidOut
        { doc.layout with
          children := Function.update doc.children n []
          parent? := doc.handedOver n none }) ∧
    (∀ source target, doc.Has target → ¬doc.Within target source →
      (doc.isText target = true → doc.children source = []) →
        Drains (fun doc c => doc.appendChild target c) source doc
          (doc.moveChildren source target) ∧
        (doc.moveChildren source target).IsLaidOut
          { doc.layout with
            children := Function.update (Function.update doc.children source []) target
              (doc.children target ++ doc.children source)
            parent? := doc.handedOver source (some target) }) ∧
    (∀ n t, doc.Has n → doc.isText n = false →
      (doc.setText n t).collectText n = t ∧
      (doc.setText n t).IsLaidOut
        { size := doc.size + 1
          data := Function.update doc.data doc.newId (.text t)
          children := Function.update doc.children n [doc.newId]
          parent? := Function.update (doc.handedOver n none) doc.newId (some n) }) ∧
    ∀ n t, doc.Has n → doc.isText n = false →
      (doc.appendText n t).collectText n = doc.collectText n ++ t ∧
      (∀ last value, (doc.children n).getLast? = some last → doc.data last = .text value →
        (doc.appendText n t).IsLaidOut
          { doc.layout with data := Function.update doc.data last (.text (value ++ t)) }) ∧
      ((∀ last, (doc.children n).getLast? = some last → doc.isText last = false) →
        (doc.appendText n t).IsLaidOut
          { size := doc.size + 1
            data := Function.update doc.data doc.newId (.text t)
            children := Function.update doc.children n (doc.children n ++ [doc.newId])
            parent? := Function.update doc.parent? doc.newId (some n) }) := by
  refine ⟨fun c p => h.without_of_ne, fun c p => h.exists_without_eq, h.isLaidOut_detach hleaves,
    fun p c hhold => h.isLaidOut_appendChild hleaves hhold.1 hhold.2.1 (hhold.not_within h),
    fun p s c => h.isLaidOut_insertBefore hleaves, fun s c hnone => ?_,
    fun n => ⟨h.drains_removeChildren n, h.isLaidOut_removeChildren hleaves n⟩,
    fun source target htarget hout htext => ⟨h.drains_moveChildren htarget hout,
      h.isLaidOut_moveChildren hleaves htarget hout htext⟩,
    fun n t hn htext => ⟨h.collectText_setText hn htext t, h.isLaidOut_setText hleaves hn htext t⟩,
    fun n t hn htext => ⟨h.collectText_appendText hleaves hn htext t,
      fun last value hlast hvalue => ?_, fun hlast => ?_⟩⟩
  · rw [Document.insertBefore, hnone]
  · -- the last text is made longer
    rw [appendText_of_text ((h.last n).trans hlast) hvalue]
    exact h.isLaidOut_extendText hleaves hvalue t
  · rw [← h.last n] at hlast
    rw [appendText_of_no_text hlast]
    exact h.isLaidOut_appendCreated hleaves hn htext t

/-- Two lists: one with an empty item and an item with a text, one with a text of its own. -/
def listEdits : List Edit :=
  [.createElement "ul" [], .appendChild root ⟨1⟩, .createElement "li" [], .appendChild ⟨1⟩ ⟨2⟩,
    .createElement "li" [], .appendChild ⟨1⟩ ⟨3⟩, .appendText ⟨3⟩ "a", .createElement "ol" [],
    .appendChild root ⟨5⟩, .appendText ⟨5⟩ "b"]

def listPage : Document := applyAll {} listEdits

/-- The page with two lists was made by edits that are permitted. -/
theorem wellFormed_listPage : listPage.WellFormed :=
  WellFormed.empty.applyAll listEdits (by decide +kernel) listEdits.length

/-- An item is put after its sibling and before it, items go from one list to the other, and text is
put in the place of items and after a text. -/
theorem isLaidOut_edits_list : listPage.TextsAreLeaves ∧
    listPage.CanHold ⟨1⟩ ⟨2⟩ ∧ (listPage.appendChild ⟨1⟩ ⟨2⟩).children ⟨1⟩ = [⟨3⟩, ⟨2⟩] ∧
    listPage.CanHold ⟨1⟩ ⟨3⟩ ∧ (listPage.insertBefore ⟨2⟩ ⟨3⟩).children ⟨1⟩ = [⟨3⟩, ⟨2⟩] ∧
    (listPage.moveChildren ⟨1⟩ ⟨5⟩).children ⟨5⟩ = [⟨6⟩, ⟨2⟩, ⟨3⟩] ∧
    (listPage.setText ⟨1⟩ "c").collectText ⟨1⟩ = "c" ∧
    (listPage.setText ⟨1⟩ "c").children ⟨1⟩ = [⟨7⟩] ∧
    (listPage.appendText ⟨5⟩ "c").collectText ⟨5⟩ = "bc" ∧
    (listPage.appendText ⟨5⟩ "c").size = 7 := by
  have hleaves : listPage.TextsAreLeaves := by decide +kernel
  have hfirst : listPage.CanHold ⟨1⟩ ⟨2⟩ := by decide +kernel
  have hsecond : listPage.CanHold ⟨1⟩ ⟨3⟩ := by decide +kernel
  have hout : ¬listPage.Within ⟨5⟩ ⟨1⟩ := by
    rw [IsForest.within_iff wellFormed_listPage]
    decide +kernel
  obtain ⟨-, -, -, happend, hinsert, -, -, hmove, hset, htext⟩ :=
    wellFormed_listPage.isLaidOut_edits hleaves
  have hback := happend ⟨1⟩ ⟨2⟩ hfirst (by decide +kernel)
  obtain ⟨before, after, hrow, hfront⟩ :=
    hinsert ⟨1⟩ ⟨2⟩ ⟨3⟩ (by decide +kernel) (by decide +kernel) hsecond
  have hother : listPage.without ⟨3⟩ ⟨1⟩ = [⟨2⟩] := by decide +kernel
  obtain ⟨rfl, rfl⟩ : before = [] ∧ after = [] := by
    simpa [List.append_eq_cons_iff] using hrow.symm.trans hother
  obtain ⟨-, hmoved⟩ := hmove ⟨1⟩ ⟨5⟩ (by decide +kernel) hout (by decide +kernel)
  obtain ⟨hall, hone⟩ := hset ⟨1⟩ "c" (by decide +kernel) (by decide +kernel)
  obtain ⟨hlonger, hsame, -⟩ := htext ⟨5⟩ "c" (by decide +kernel) (by decide +kernel)
  have hkept := hsame ⟨6⟩ "b" (by decide +kernel) (by decide +kernel)
  refine ⟨hleaves, hfirst, ?_, hsecond, ?_, ?_, hall, ?_, ?_, ?_⟩
  · rw [hback.children_eq]
    decide +kernel
  · rw [hfront.children_eq]
    decide +kernel
  · rw [hmoved.children_eq]
    decide +kernel
  · rw [hone.children_eq]
    decide +kernel
  · have hbefore : listPage.collectText ⟨5⟩ = "b" := by decide +kernel
    rw [hlonger, hbefore]
    rfl
  · rw [hkept.size_eq]
    decide +kernel

end ComposingProxy.Markup.Document
