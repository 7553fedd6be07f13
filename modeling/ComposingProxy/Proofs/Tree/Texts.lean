import ComposingProxy.Proofs.Tree.Editing
import ComposingProxy.Proofs.Tree.Preorder

/-!
# Elements that hold one text

The text of an element is read off its whole subtree, so what an edit makes of it is a
fact about the tree. Most elements whose text matters hold one text node and nothing else
(`HoldsText`), and for them it is that node's text:

> `HoldsText.collectText`: the text of such an element is the text of its only child.

`setText` makes an element hold one text, `appendText` makes that text longer, and putting other
nodes elsewhere leaves it alone.
-/

namespace ComposingProxy.Markup.Document

variable {doc : Document} {id child : NodeId} {text : String}

/-- The only child of the node is a text without children. -/
structure HoldsText (doc : Document) (id child : NodeId) (text : String) : Prop where
  children : doc.children id = [child]
  leaf : doc.children child = []
  data : doc.data child = .text text

/-! ## The text of a subtree -/

/-- What is an element is a node of the document. -/
theorem has_of_element? {element : Element} (h : doc.element? id = some element) :
    doc.Has id := by
  by_cases hhas : doc.Has id
  · exact hhas
  · rw [element?, data, node_of_not_has hhas] at h
    exact absurd h (by simp)

theorem data_of_element? {element : Element} (h : doc.element? id = some element) :
    doc.data id = .element element := by
  unfold element? at h
  split at h
  · next found hdata => rw [hdata, Option.some.inj h]
  · exact absurd h (by simp)

/-- An element has no text of its own. -/
theorem ownText_of_element? {element : Element} (h : doc.element? id = some element) :
    doc.ownText id = "" := by
  rw [ownText, data_of_element? h]

/-- A text is not its own child. -/
theorem HoldsText.ne (h : doc.HoldsText id child text) : child ≠ id := by
  rintro rfl
  exact absurd (h.children.symm.trans h.leaf) (by simp)

/-- In the document order of an element with one text, the text follows the element. -/
theorem HoldsText.subtree (h : doc.HoldsText id child text) (hdoc : doc.WellFormed) :
    doc.subtree id = [id, child] := by
  have hmem : child ∈ doc.children id := by rw [h.children]; exact List.mem_cons_self
  have hid := IsForest.has_parent hdoc (hdoc.isParent_iff.mpr hmem)
  have hchild := IsForest.has_child hdoc hmem
  rw [hdoc.subtree_eq hid, h.children, List.flatMap_singleton, hdoc.subtree_eq hchild, h.leaf,
    List.flatMap_nil]

/-- A node without text of its own that holds one text has that text. -/
theorem HoldsText.collectText (h : doc.HoldsText id child text) (hdoc : doc.WellFormed)
    (hid : doc.ownText id = "") : doc.collectText id = text := by
  have htext : doc.ownText child = text := by rw [ownText, h.data]
  rw [Document.collectText, h.subtree hdoc, List.map_cons, List.map_cons, List.map_nil, hid, htext]
  simp [String.join]

/-- The text of a node without children is its own. -/
theorem WellFormed.collectText_of_leaf (h : doc.WellFormed) (hid : doc.Has id)
    (hleaf : doc.children id = []) : doc.collectText id = doc.ownText id := by
  rw [Document.collectText, h.subtree_eq hid, hleaf]
  simp [String.join]

/-! ## Edits keep what nodes are -/

/-- A change of a node that keeps its data keeps all data. -/
theorem data_modify {f : Node → Node} (hf : ∀ node, (f node).data = node.data) (id x : NodeId) :
    (doc.modify id f).data x = doc.data x := by
  rw [data, node_modify]
  split
  · rw [hf]; rfl
  · rfl

@[simp] theorem data_setFirst (p : NodeId) (first : Option NodeId) (x : NodeId) :
    (doc.setFirst p first).data x = doc.data x :=
  data_modify (fun _ => by rfl) p x

@[simp] theorem data_setLast (p : NodeId) (last : Option NodeId) (x : NodeId) :
    (doc.setLast p last).data x = doc.data x :=
  data_modify (fun _ => by rfl) p x

@[simp] theorem data_setPrevious (c : NodeId) (previous : Option NodeId) (x : NodeId) :
    (doc.setPrevious c previous).data x = doc.data x :=
  data_modify (fun _ => by rfl) c x

@[simp] theorem data_setNext (c : NodeId) (next : Option NodeId) (x : NodeId) :
    (doc.setNext c next).data x = doc.data x :=
  data_modify (fun _ => by rfl) c x

@[simp] theorem data_detach (doc : Document) (c x : NodeId) :
    (doc.detach c).data x = doc.data x := by
  unfold detach
  refine (data_modify (fun _ => by rfl) c x).trans ?_
  cases doc.previous? c <;> cases doc.next? c <;> cases doc.parent? c <;> simp

theorem data_appendChild (doc : Document) (p c x : NodeId) :
    (doc.appendChild p c).data x = doc.data x := by
  unfold appendChild
  rw [data_setLast]
  cases (doc.detach c).last? p with
  | none =>
    exact (data_setFirst p _ x).trans
      ((data_modify (fun _ => by rfl) c x).trans (data_detach doc c x))
  | some last =>
    exact (data_setNext last _ x).trans
      ((data_modify (fun _ => by rfl) c x).trans (data_detach doc c x))

theorem data_insertBefore (doc : Document) (sibling c x : NodeId) :
    (doc.insertBefore sibling c).data x = doc.data x := by
  unfold insertBefore
  split
  · rfl
  · dsimp only
    cases (doc.detach c).previous? sibling with
    | none =>
      rw [data_setFirst, data_setPrevious, data_modify, data_detach]
      exact fun _ => rfl
    | some previous =>
      rw [data_setNext, data_setPrevious, data_modify, data_detach]
      exact fun _ => rfl

theorem data_prependChild (doc : Document) (p c x : NodeId) :
    (doc.prependChild p c).data x = doc.data x := by
  unfold prependChild
  split
  · exact data_insertBefore doc _ c x
  · exact data_appendChild doc p c x

theorem data_removeFirst (p x : NodeId) :
    ∀ (steps : Nat) (doc : Document), (doc.removeFirst p steps).data x = doc.data x := by
  intro steps
  induction steps with
  | zero => intro doc; rfl
  | succ steps ih =>
    intro doc
    rw [removeFirst]
    split
    · rfl
    · next c _ => rw [ih, data_detach]

/-- The data of a node that was there is not touched when one is made. -/
theorem data_create_of_has (data : NodeData) {x : NodeId} (h : doc.Has x) :
    (doc.create data).2.data x = doc.data x := by
  rw [Document.data, node_create, if_neg]
  · rfl
  · rintro rfl
    exact not_has_created doc data h

/-- A new node has the data that it was made of. -/
theorem data_created (doc : Document) (data : NodeData) :
    (doc.create data).2.data (doc.create data).1 = data := by
  rw [Document.data, node_create, if_pos rfl]

/-! ## Edits of the text -/

/-- A new node is nowhere yet. -/
theorem WellFormed.children_create (h : doc.WellFormed) (data : NodeData) (x : NodeId) :
    (doc.create data).2.children x = doc.children x :=
  ((create_sameLinks doc data).isForest h).children_eq x

/-- A new node that is put into another one is its last child, and has no children. -/
theorem WellFormed.children_appendCreated (h : doc.WellFormed) (hid : doc.Has id)
    (data : NodeData) (x : NodeId) :
    ((doc.create data).2.appendChild id (doc.create data).1).children x =
      if x = id then doc.children id ++ [(doc.create data).1] else doc.children x := by
  have hnew := not_has_created doc data
  have hforest := IsForest.appendChild ((create_sameLinks doc data).isForest h)
    (has_create doc data hid) (has_created doc data) (not_within_created h data hid)
  have herase : ∀ p, (doc.children p).erase (doc.create data).1 = doc.children p :=
    fun p => List.erase_of_not_mem fun hmem => hnew (IsForest.has_child h hmem)
  rw [hforest.children_eq, Function.update_apply, herase, herase]

/-- A new node that is put before the children of another one is its first child. -/
theorem WellFormed.prependCreated (h : doc.WellFormed) (hid : doc.Has id) (data : NodeData) :
    ((doc.create data).2.prependChild id (doc.create data).1).IsForest
      (Function.update doc.children id ((doc.create data).1 :: doc.children id)) := by
  have hnew := not_has_created doc data
  have hcreated := create_sameLinks doc data
  have hfirst : (doc.create data).2.first? id ≠ some (doc.create data).1 := by
    intro heq
    rw [hcreated.first, h.first] at heq
    exact hnew (IsForest.has_child h (List.mem_of_head? heq))
  have hforest := IsForest.prependChild (hcreated.isForest h) (has_create doc data hid)
    (has_created doc data) (not_within_created h data hid) hfirst
  have herase : ∀ p, (doc.children p).erase (doc.create data).1 = doc.children p :=
    fun p => List.erase_of_not_mem fun hmem => hnew (IsForest.has_child h hmem)
  simpa only [herase] using hforest

/-- A new text in a node without children is all that the node holds. -/
theorem WellFormed.holdsText_appendCreated (h : doc.WellFormed) (hid : doc.Has id)
    (hempty : doc.children id = []) (text : String) :
    HoldsText ((doc.createText text).2.appendChild id (doc.createText text).1) id
      (doc.createText text).1 text := by
  have hnew := not_has_created doc (.text text)
  have hne : (doc.createText text).1 ≠ id := by
    intro heq
    exact hnew (heq ▸ hid)
  rw [createText] at hne ⊢
  constructor
  · rw [h.children_appendCreated hid, if_pos rfl, hempty]
    rfl
  · rw [h.children_appendCreated hid, if_neg hne, IsForest.kids_eq_nil h hnew]
  · rw [data_appendChild]
    exact data_created doc (.text text)

/-- `setText` makes a node hold one text. -/
theorem WellFormed.exists_holdsText_setText (h : doc.WellFormed) (hid : doc.Has id)
    (text : String) : ∃ child, (doc.setText id text).HoldsText id child text := by
  have hforest := IsForest.removeChildren h id
  have hsize : (doc.removeChildren id).Has id := by
    rw [Has, Document.removeChildren, IsForest.size_removeFirst]
    exact hid
  have hempty : (doc.removeChildren id).children id = [] := by
    rw [hforest.children_eq, Function.update_self]
  exact ⟨_, hforest.wellFormed.holdsText_appendCreated hsize hempty text⟩

/-- Setting the text of a node changes the children of no other. -/
theorem WellFormed.children_setText (h : doc.WellFormed) (hid : doc.Has id) (text : String)
    {x : NodeId} (hx : x ≠ id) : (doc.setText id text).children x = doc.children x := by
  have hforest := IsForest.removeChildren h id
  have hhas : (doc.removeChildren id).Has id := by
    rwa [Has, Document.removeChildren, IsForest.size_removeFirst]
  refine (hforest.wellFormed.children_appendCreated hhas (.text text) x).trans ?_
  rw [if_neg hx, hforest.children_eq, Function.update_of_ne hx]

/-- `setText` changes no node that was there. -/
theorem data_setText (id : NodeId) (text : String) {x : NodeId} (hx : doc.Has x) :
    (doc.setText id text).data x = doc.data x := by
  have hhas : (doc.removeChildren id).Has x := by
    rwa [Has, Document.removeChildren, IsForest.size_removeFirst]
  show (((doc.removeChildren id).create (.text text)).2.appendChild id
    ((doc.removeChildren id).create (.text text)).1).data x = _
  rw [data_appendChild, data_create_of_has _ hhas, Document.removeChildren, data_removeFirst]

/-- Text that is added to a text makes it longer. -/
theorem HoldsText.appendText (h : doc.HoldsText id child text) (hdoc : doc.WellFormed)
    (more : String) : (doc.appendText id more).HoldsText id child (text ++ more) := by
  have hlast : doc.last? id = some child := by rw [hdoc.last, h.children]; rfl
  have hchild : doc.Has child :=
    IsForest.has_child hdoc (by rw [h.children]; exact List.mem_cons_self)
  have htext : doc.isText child = true := by rw [isText, h.data]
  have happend : doc.appendText id more = doc.extendText child more := by
    rw [Document.appendText, hlast, Option.filter_some, if_pos htext]
  have hlinks : SameLinks doc (doc.extendText child more) := modifyData_sameLinks doc child _
  have hforest := hlinks.isForest hdoc
  rw [happend]
  constructor
  · rw [hforest.children_eq, h.children]
  · rw [hforest.children_eq, h.leaf]
  · have hdata : (doc.node child).data = .text text := h.data
    rw [extendText, modifyData, Document.data, node_modify, if_pos ⟨rfl, hchild⟩]
    simp only [hdata]

/-- The first text in a node without children is all that the node holds. -/
theorem WellFormed.exists_holdsText_appendText (h : doc.WellFormed) (hid : doc.Has id)
    (hempty : doc.children id = []) (text : String) :
    ∃ child, ¬doc.Has child ∧ (doc.appendText id text).HoldsText id child text := by
  have hlast : doc.last? id = none := by rw [h.last, hempty]; rfl
  have happend : doc.appendText id text =
      (doc.createText text).2.appendChild id (doc.createText text).1 := by
    rw [Document.appendText, hlast, Option.filter_none]
  rw [happend]
  exact ⟨_, not_has_created doc (.text text), h.holdsText_appendCreated hid hempty text⟩

/-- A node that is appended once it was made is there. -/
theorem has_appendCreated (h : doc.WellFormed) (hid : doc.Has id) (data : NodeData) {x : NodeId}
    (hx : (doc.create data).2.Has x) :
    ((doc.create data).2.appendChild id (doc.create data).1).Has x := by
  have hlinked := IsForest.appendChild_linkedIn ((create_sameLinks doc data).isForest h)
    (has_create doc data hid) (has_created doc data)
  rwa [Has, hlinked.size, size_detach]

/-- Appending text takes no number back. -/
theorem has_appendText (h : doc.WellFormed) (hid : doc.Has id) (text : String) {x : NodeId}
    (hx : doc.Has x) : (doc.appendText id text).Has x := by
  unfold Document.appendText
  split
  · rwa [extendText, modifyData, Has, size_modify]
  · exact has_appendCreated h hid (.text text) (has_create doc (.text text) hx)

/-- Adding text changes no element. -/
theorem element?_appendText (id : NodeId) (text : String) {x : NodeId} (hx : doc.Has x) :
    (doc.appendText id text).element? x = doc.element? x := by
  unfold Document.appendText
  split
  · next last hlast =>
    have htext : doc.isText last = true := (Option.filter_eq_some_iff.mp hlast).2
    rw [element?, element?, extendText, modifyData, Document.data, node_modify]
    by_cases heq : x = last
    · rw [if_pos ⟨heq, heq ▸ hx⟩]
      rw [isText, ← heq, Document.data] at htext
      rw [Document.data]
      cases hdata : (doc.node x).data with
      | text value => rfl
      | _ => simp [hdata] at htext
    · rw [if_neg fun hboth => heq hboth.1]
      rfl
  · show ((doc.create (.text text)).2.appendChild id (doc.create (.text text)).1).element? x = _
    rw [element?, element?, data_appendChild, data_create_of_has _ hx]

/-! ## Edits elsewhere -/

/-- Nothing but the node and its text lies within the node. -/
theorem HoldsText.not_within (h : doc.HoldsText id child text) (hdoc : doc.WellFormed)
    {x : NodeId} (hid : x ≠ id) (hchild : x ≠ child) : ¬doc.Within x id := by
  intro hwithin
  rcases Relation.ReflTransGen.cases_head hwithin with heq | ⟨c, hc, hbelow⟩
  · exact hid heq.symm
  · have hmem := (IsForest.mem_iff hdoc id c).mpr hc
    rw [h.children, List.mem_singleton] at hmem
    subst hmem
    rcases Relation.ReflTransGen.cases_head hbelow with heq | ⟨c', hc', -⟩
    · exact hchild heq.symm
    · have hnone := (IsForest.mem_iff hdoc c c').mpr hc'
      rw [h.leaf] at hnone
      exact List.not_mem_nil hnone

/-- A node that is put elsewhere leaves the text alone. -/
theorem HoldsText.appendChild (h : doc.HoldsText id child text) (hdoc : doc.WellFormed)
    {p c : NodeId} (hp : doc.Has p) (hhas : doc.Has c) (hout : ¬doc.Within p c) (hid : p ≠ id)
    (hchild : p ≠ child) (hc : c ≠ child) : (doc.appendChild p c).HoldsText id child text := by
  have hforest := IsForest.appendChild hdoc hp hhas hout
  constructor
  · rw [hforest.children_eq, Function.update_of_ne (Ne.symm hid), h.children]
    exact List.erase_of_not_mem fun hmem => hc (List.mem_singleton.mp hmem)
  · rw [hforest.children_eq, Function.update_of_ne (Ne.symm hchild), h.leaf]
    rfl
  · rw [data_appendChild, h.data]

/-- A node still holds its text when another one is made. -/
theorem HoldsText.create (h : doc.HoldsText id child text) (hdoc : doc.WellFormed)
    (data : NodeData) : (doc.create data).2.HoldsText id child text := by
  have hchild : doc.Has child :=
    IsForest.has_child hdoc (by rw [h.children]; exact List.mem_cons_self)
  constructor
  · rw [hdoc.children_create, h.children]
  · rw [hdoc.children_create, h.leaf]
  · rw [data_create_of_has data hchild, h.data]

/-- A text that is added elsewhere leaves the text alone. -/
theorem HoldsText.appendText_of_ne (h : doc.HoldsText id child text) (hdoc : doc.WellFormed)
    {p : NodeId} (hp : doc.Has p) (hid : p ≠ id) (hchild : p ≠ child) (more : String) :
    (doc.appendText p more).HoldsText id child text := by
  have hmem : child ∈ doc.children id := by rw [h.children]; exact List.mem_cons_self
  unfold Document.appendText
  split
  · next last hlast =>
    -- the text that grows is a child of another node
    have hne : child ≠ last := by
      rintro rfl
      have hfilter := Option.filter_eq_some_iff.mp hlast
      have hlastmem := List.mem_of_getLast? ((hdoc.last p).symm.trans hfilter.1)
      exact hid (IsForest.eq_of_mem hdoc hlastmem hmem)
    have hlinks : SameLinks doc (doc.extendText last more) := modifyData_sameLinks doc last _
    have hforest := hlinks.isForest hdoc
    constructor
    · rw [hforest.children_eq, h.children]
    · rw [hforest.children_eq, h.leaf]
    · rw [extendText, modifyData, Document.data, node_modify, if_neg fun hboth => hne hboth.1]
      exact h.data
  · -- no text stands at the end of `p`, and a new one is made there
    have hne : child ≠ (doc.create (.text more)).1 := by
      intro heq
      exact not_has_created doc (.text more) (heq ▸ IsForest.has_child hdoc hmem)
    refine (h.create hdoc (.text more)).appendChild (hdoc.create _) (has_create doc _ hp)
      (has_created doc _) (not_within_created hdoc _ hp) hid hchild ?_
    exact fun heq => hne heq.symm

/-- A new node with a text of its own, put at the end of `p`. -/
def appendFilled (doc : Document) (p : NodeId) (data : NodeData) (text : String) : Document :=
  ((doc.create data).2.appendText (doc.create data).1 text).appendChild p (doc.create data).1

/-- Appending a new node with a text changes no element that was there. -/
theorem element?_appendFilled (p : NodeId) (data : NodeData) (text : String) {x : NodeId}
    (hx : doc.Has x) : (doc.appendFilled p data text).element? x = doc.element? x := by
  rw [appendFilled, element?, data_appendChild]
  show ((doc.create data).2.appendText (doc.create data).1 text).element? x = _
  rw [element?_appendText _ _ (has_create doc data hx), element?, element?,
    data_create_of_has data hx]

/-- A new node with a text of its own can be put anywhere. -/
theorem WellFormed.not_within_filled (h : doc.WellFormed) {p : NodeId} (hp : doc.Has p)
    (data : NodeData) (text : String) :
    ¬((doc.create data).2.appendText (doc.create data).1 text).Within p (doc.create data).1 := by
  have hnew := not_has_created doc data
  have hhas := has_created doc data
  have hempty : (doc.create data).2.children (doc.create data).1 = [] := by
    rw [h.children_create, IsForest.kids_eq_nil h hnew]
  obtain ⟨own, hown, hholds⟩ := (h.create data).exists_holdsText_appendText hhas hempty text
  refine hholds.not_within ((h.create data).appendText hhas text) ?_ ?_
  · rintro rfl
    exact hnew hp
  · rintro rfl
    exact hown (has_create doc data hp)

/-- A new node with a text may be put at the end of any node. -/
theorem WellFormed.appendFilled (h : doc.WellFormed) {p : NodeId} (hp : doc.Has p)
    (data : NodeData) (text : String) : (doc.appendFilled p data text).WellFormed :=
  ((h.create data).appendText (has_created doc data) text).appendChild
    (has_appendText (h.create data) (has_created doc data) text (has_create doc data hp))
    (has_appendText (h.create data) (has_created doc data) text (has_created doc data))
    (h.not_within_filled hp data text)

/-- A new node with a text of its own leaves the text alone. -/
theorem HoldsText.appendFilled (h : doc.HoldsText id child text) (hdoc : doc.WellFormed)
    {p : NodeId} (hp : doc.Has p) (hid : p ≠ id) (hchild : p ≠ child) (data : NodeData)
    (more : String) : (doc.appendFilled p data more).HoldsText id child text := by
  have hne : ∀ x, doc.Has x → (doc.create data).1 ≠ x := by
    rintro x hx rfl
    exact not_has_created doc data hx
  have hmem : child ∈ doc.children id := by rw [h.children]; exact List.mem_cons_self
  have hhaschild := IsForest.has_child hdoc hmem
  have hhas := IsForest.has_parent hdoc ((IsForest.mem_iff hdoc id child).mp hmem)
  have hcreated := has_created doc data
  have hfilled := (h.create hdoc data).appendText_of_ne (hdoc.create data) hcreated
    (hne id hhas) (hne child hhaschild) more
  exact hfilled.appendChild ((hdoc.create data).appendText hcreated more)
    (has_appendText (hdoc.create data) hcreated more (has_create doc data hp))
    (has_appendText (hdoc.create data) hcreated more hcreated)
    (hdoc.not_within_filled hp data more) hid hchild (hne child hhaschild)

/-! ## Text that comes in characters -/

/-- The document after characters were added to the text of a node, one after the other. -/
def typeText (doc : Document) (id : NodeId) (chars : List Char) : Document :=
  chars.foldl (fun doc c => doc.appendText id (String.singleton c)) doc

/-- Characters that are typed in two runs are typed in one. -/
theorem typeText_append (doc : Document) (id : NodeId) (front back : List Char) :
    doc.typeText id (front ++ back) = (doc.typeText id front).typeText id back :=
  List.foldl_append

theorem typeText_cons (doc : Document) (id : NodeId) (c : Char) (chars : List Char) :
    doc.typeText id (c :: chars) = (doc.appendText id (String.singleton c)).typeText id chars :=
  List.foldl_cons

/-- What adding a text keeps, adding characters keeps. -/
theorem WellFormed.typeText (h : doc.WellFormed) (hid : doc.Has id) (chars : List Char) :
    (doc.typeText id chars).WellFormed ∧ (doc.typeText id chars).Has id ∧
      (doc.typeText id chars).element? id = doc.element? id := by
  induction chars generalizing doc with
  | nil => exact ⟨h, hid, rfl⟩
  | cons c chars ih =>
    have hhas := has_appendText h hid (String.singleton c) hid
    obtain ⟨hwell, hsame, helement⟩ := ih (h.appendText hid (String.singleton c)) hhas
    exact ⟨hwell, hsame, helement.trans (element?_appendText id (String.singleton c) hid)⟩

/-- Characters that are typed go to the end of the text that is there. -/
theorem HoldsText.typeText (h : doc.HoldsText id child text) (hdoc : doc.WellFormed)
    (hid : doc.Has id) (chars : List Char) :
    (doc.typeText id chars).HoldsText id child (text ++ String.ofList chars) := by
  induction chars generalizing doc text with
  | nil => rwa [String.ofList_nil, String.append_empty]
  | cons c chars ih =>
    have hall := ih (h.appendText hdoc (String.singleton c)) (hdoc.appendText hid _)
      (has_appendText hdoc hid _ hid)
    rwa [String.append_assoc, ← String.ofList_cons] at hall

/-- Characters that are added to a node without children make one text. -/
theorem WellFormed.exists_holdsText_typeText (h : doc.WellFormed) (hid : doc.Has id)
    (hempty : doc.children id = []) {chars : List Char} (hchars : chars ≠ []) :
    ∃ child, (doc.typeText id chars).HoldsText id child (String.ofList chars) := by
  cases chars with
  | nil => exact absurd rfl hchars
  | cons c chars =>
    obtain ⟨child, -, hfirst⟩ := h.exists_holdsText_appendText hid hempty (String.singleton c)
    refine ⟨child, ?_⟩
    rw [String.ofList_cons]
    exact hfirst.typeText (h.appendText hid _) (has_appendText h hid _ hid) chars

end ComposingProxy.Markup.Document
