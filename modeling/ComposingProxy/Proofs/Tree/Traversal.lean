import ComposingProxy.Proofs.Tree.Search

/-!
# Walking through a subtree without a bound

`Document.subtree` counts its steps so that it ends in every document. In a well-formed one nothing
has to be counted: `Yields` follows the links for as long as there are any, up and down, and ends
when it comes back to the node it began at. What it yields is written down here a second time, by
recursion over the tree, and neither the links to siblings nor the way up appear in that.

> `WellFormed.preorder`: a node, and then the same for each of its children.
> `WellFormed.yields_iff_preorder`: the walk ends, and the preorder is what it has yielded. So
> searches find what is first in preorder, and the text of a node is that of its children.

What makes the way up end is that each step of it leaves one ancestor fewer (`climbs_nextAbove?`).
-/

namespace ComposingProxy

/-- The texts of lists that are put one behind the other are joined list by list. -/
theorem join_map_flatMap {α β : Type} (text : α → String) (lists : β → List α)
    (l : List β) : String.join ((l.flatMap lists).map text) =
      String.join (l.map fun x => String.join ((lists x).map text)) := by
  induction l with
  | nil => rfl
  | cons x rest ih =>
    rw [List.flatMap_cons, List.map_append, String.join_append, ih, List.map_cons,
      String.join_cons]

end ComposingProxy

namespace ComposingProxy.Markup.Document

variable {doc : Document} {id top : NodeId}

/-! ## Following links for as long as there are any -/

/-- Going up from a node that has nothing below it, to the next sibling of the nearest node that has
one, or to the top and no further. -/
inductive Climbs (doc : Document) (top : NodeId) : NodeId → Option NodeId → Prop
  | top : Climbs doc top top none
  | sibling {id next : NodeId} (below : id ≠ top) (hnext : doc.next? id = some next) :
    Climbs doc top id (some next)
  | parent {id p : NodeId} {found : Option NodeId} (below : id ≠ top)
    (hnext : doc.next? id = none) (hparent : doc.parent? id = some p)
    (climbs : Climbs doc top p found) : Climbs doc top id found
  | out {id : NodeId} (below : id ≠ top) (hnext : doc.next? id = none)
    (hparent : doc.parent? id = none) : Climbs doc top id none

/-- A walk through the subtree of `top` that has come to a node yields these nodes and ends. -/
inductive Yields (doc : Document) (top : NodeId) : Option NodeId → List NodeId → Prop
  | done : Yields doc top none []
  | down {id child : NodeId} {rest : List NodeId} (hfirst : doc.first? id = some child)
    (yields : Yields doc top (some child) rest) : Yields doc top (some id) (id :: rest)
  | up {id : NodeId} {next : Option NodeId} {rest : List NodeId} (hfirst : doc.first? id = none)
    (climbs : Climbs doc top id next) (yields : Yields doc top next rest) :
    Yields doc top (some id) (id :: rest)

/-- Going up ends in one place. -/
theorem Climbs.unique {found found' : Option NodeId} (h : Climbs doc top id found)
    (h' : Climbs doc top id found') : found = found' := by
  induction h with
  | top =>
    cases h' with
    | top => rfl
    | sibling hbelow | parent hbelow | out hbelow => exact absurd rfl hbelow
  | sibling hbelow hnext =>
    cases h' with
    | top => exact absurd rfl hbelow
    | sibling _ hnext' => exact hnext.symm.trans hnext'
    | parent _ hnext' | out _ hnext' => exact absurd (hnext.symm.trans hnext') (by simp)
  | parent hbelow hnext hparent _ ih =>
    cases h' with
    | top => exact absurd rfl hbelow
    | sibling _ hnext' => exact absurd (hnext.symm.trans hnext') (by simp)
    | parent _ _ hparent' climbs =>
      obtain rfl := Option.some.inj (hparent.symm.trans hparent')
      exact ih climbs
    | out _ _ hparent' => exact absurd (hparent.symm.trans hparent') (by simp)
  | out hbelow hnext hparent =>
    cases h' with
    | top => rfl
    | sibling _ hnext' => exact absurd (hnext.symm.trans hnext') (by simp)
    | parent _ _ hparent' => exact absurd (hparent.symm.trans hparent') (by simp)
    | out => rfl

/-- A walk yields one list. -/
theorem Yields.unique {start : Option NodeId} {l l' : List NodeId} (h : Yields doc top start l)
    (h' : Yields doc top start l') : l = l' := by
  induction h generalizing l' with
  | done => cases h'; rfl
  | down hfirst _ ih =>
    cases h' with
    | down hfirst' yields =>
      obtain rfl := Option.some.inj (hfirst.symm.trans hfirst')
      rw [ih yields]
    | up hfirst' => exact absurd (hfirst.symm.trans hfirst') (by simp)
  | up hfirst climbs _ ih =>
    cases h' with
    | down hfirst' => exact absurd (hfirst.symm.trans hfirst') (by simp)
    | up _ climbs' yields =>
      obtain rfl := climbs.unique climbs'
      rw [ih yields]

/-- The way up ends before its steps are used up. -/
theorem WellFormed.climbs_nextAbove? (h : doc.WellFormed) (top : NodeId) :
    ∀ (steps : Nat) (id : NodeId), (doc.ancestors id).length < steps →
      Climbs doc top id (doc.nextAbove? top steps id) := by
  intro steps
  induction steps with
  | zero => intro id hlt; exact absurd hlt (Nat.not_lt_zero _)
  | succ steps ih =>
    intro id hlt
    rw [nextAbove?]
    split
    · next heq => exact heq ▸ .top
    · next hbelow =>
      cases hnext : doc.next? id with
      | some next => exact .sibling hbelow hnext
      | none =>
        cases hparent : doc.parent? id with
        | none => exact .out hbelow hnext hparent
        | some p =>
          rw [IsForest.ancestors_of_parent? h hparent, List.length_cons] at hlt
          exact .parent hbelow hnext hparent (ih p (by omega))

/-- A walk whose steps are counted is one whose steps are not, if it comes to an end. -/
theorem WellFormed.yields_of_walks (h : doc.WellFormed) (top : NodeId) :
    ∀ (l : List NodeId) (start : Option NodeId), Walks (doc.after? top) start l →
      (∀ x ∈ l, doc.Has x) → Yields doc top start l := by
  intro l
  induction l with
  | nil =>
    intro start hwalk _
    cases start with
    | none => exact .done
    | some id => exact absurd hwalk (by simp [Walks])
  | cons id rest ih =>
    intro start hwalk hhas
    cases start with
    | none => exact absurd hwalk (by simp [Walks])
    | some x =>
      obtain ⟨rfl, hrest⟩ := hwalk
      obtain ⟨hx, hothers⟩ := List.forall_mem_cons.mp hhas
      have hyields := ih _ hrest hothers
      unfold after? at hyields
      cases hfirst : doc.first? x with
      | some child =>
        rw [hfirst] at hyields
        exact .down hfirst hyields
      | none =>
        rw [hfirst] at hyields
        exact .up hfirst (h.climbs_nextAbove? top doc.size x (h.length_ancestors_lt hx)) hyields

/-! ## Preorder -/

/-- The subtree of a node in preorder: the node, and then the subtrees of its children in order. -/
def WellFormed.preorder (h : doc.WellFormed) (id : NodeId) : List NodeId :=
  id :: (doc.children id).attach.flatMap fun child => h.preorder child.1
termination_by doc.size - (doc.ancestors id).length
decreasing_by
  -- a child has one ancestor more, and still fewer than there are nodes
  have hlt := h.length_ancestors_lt (IsForest.has_child h child.2)
  rw [IsForest.ancestors_of_parent? h (h.isParent_iff.mpr child.2), List.length_cons] at hlt ⊢
  omega

/-- The preorder of a node is the node and then the preorders of its children. -/
theorem WellFormed.preorder_eq (h : doc.WellFormed) (id : NodeId) :
    h.preorder id = id :: (doc.children id).flatMap h.preorder := by
  rw [preorder, List.flatMap_subtype fun _ _ => rfl, List.unattach_attach]

/-- The nodes that links lead to are those of the recursion, in the same order. -/
theorem WellFormed.subtree_eq_preorder (h : doc.WellFormed) (hid : doc.Has id) :
    doc.subtree id = h.preorder id := by
  induction id using h.induction_children with
  | hstep id ih =>
    rw [h.subtree_eq hid, h.preorder_eq]
    refine congrArg (id :: ·) (List.flatMap_congr fun child hchild => ?_)
    exact ih child hchild (IsForest.has_child h hchild)

/-- The preorder lists the nodes of the subtree and no others. -/
theorem WellFormed.mem_preorder_iff (h : doc.WellFormed) (hid : doc.Has id) {x : NodeId} :
    x ∈ h.preorder id ↔ doc.Within x id := by
  rw [← h.subtree_eq_preorder hid, h.mem_subtree_iff hid]

/-- A walk that starts at a node yields its preorder. -/
theorem WellFormed.yields_preorder (h : doc.WellFormed) (hid : doc.Has id) :
    Yields doc id (some id) (h.preorder id) := by
  have hwalk := (h.traverses_subtree hid).walks id [] .refl (by rw [beyond?_self]; trivial)
  rw [List.append_nil, h.subtree_eq_preorder hid] at hwalk
  exact h.yields_of_walks id _ _ hwalk fun x hx => ((h.mem_preorder_iff hid).mp hx).has hid

/-! ## Searches and texts -/

/-- The node is in the list, passes the test, and none before it does. -/
def IsFirstIn (l : List NodeId) (test : NodeId → Prop) (found : NodeId) : Prop :=
  test found ∧ ∃ before after, l = before ++ found :: after ∧ ∀ x ∈ before, ¬test x

/-- The node is an element with this id. -/
def IsCalled (doc : Document) (name : String) (x : NodeId) : Prop :=
  ∃ element, doc.element? x = some element ∧ element.attr? "id" = some name

/-- The test for an id that the search uses. -/
theorem isCalled_iff {name : String} {x : NodeId} :
    (((doc.element? x).bind (·.attr? "id")) == some name) = true ↔ doc.IsCalled name x := by
  rw [beq_iff_eq, Option.bind_eq_some_iff]
  rfl

/-- The node that is found is the first that passes. -/
theorem find?_eq_some_iff_isFirstIn {l : List NodeId} {test : NodeId → Bool}
    {passes : NodeId → Prop} (htest : ∀ x, test x = true ↔ passes x) {found : NodeId} :
    l.find? test = some found ↔ IsFirstIn l passes found := by
  rw [List.find?_eq_some_iff_append, IsFirstIn, htest]
  simp only [Bool.not_eq_true', ← Bool.not_eq_true, htest]

theorem find?_eq_none_iff_forall {l : List NodeId} {test : NodeId → Bool}
    {passes : NodeId → Prop} (htest : ∀ x, test x = true ↔ passes x) :
    l.find? test = none ↔ ∀ x ∈ l, ¬passes x := by
  simp only [List.find?_eq_none, htest]

/-- The text of a node is its own and then the texts of its children. -/
theorem WellFormed.collectText_eq (h : doc.WellFormed) (hid : doc.Has id) :
    doc.collectText id = doc.ownText id ++ String.join ((doc.children id).map doc.collectText) := by
  rw [collectText, h.subtree_eq hid, List.map_cons, String.join_cons, join_map_flatMap]
  rfl

/-- Only texts have a text of their own. -/
theorem ownText_of_not_isText (hid : doc.isText id = false) : doc.ownText id = "" := by
  unfold isText at hid
  unfold ownText
  cases hdata : doc.data id with
  | text value =>
    rw [hdata] at hid
    exact absurd hid (by simp)
  | _ => rfl

/-- A walk through the subtree of a node comes to an end. It yields the preorder of the subtree and
nothing else, so each node of the subtree once and no other node. What is searched for by name or by
id is what comes first in preorder, and the text of a node that is no text is what the texts of its
children are together. -/
theorem WellFormed.yields_iff_preorder (h : doc.WellFormed) (hid : doc.Has id) :
    (∀ l, Yields doc id (some id) l ↔ l = h.preorder id) ∧
    doc.subtree id = h.preorder id ∧
    h.preorder id = id :: (doc.children id).flatMap h.preorder ∧
    (h.preorder id).Nodup ∧
    (∀ x, x ∈ h.preorder id ↔ doc.Within x id) ∧
    (∀ tag test found, doc.findWhere? tag test id = some found ↔
      IsFirstIn (h.preorder id) (doc.IsNamed tag test) found) ∧
    (∀ tag test, doc.findWhere? tag test id = none ↔
      ∀ x ∈ h.preorder id, ¬doc.IsNamed tag test x) ∧
    (∀ name found, doc.findId? name id = some found ↔
      IsFirstIn (h.preorder id) (doc.IsCalled name) found) ∧
    (∀ name, doc.findId? name id = none ↔ ∀ x ∈ h.preorder id, ¬doc.IsCalled name x) ∧
    (doc.isText id = false →
      doc.collectText id = String.join ((doc.children id).map doc.collectText)) := by
  have hsubtree := h.subtree_eq_preorder hid
  have hyields := h.yields_preorder hid
  refine ⟨fun l => ⟨fun hl => hl.unique hyields, fun heq => heq ▸ hyields⟩, hsubtree,
    h.preorder_eq id, hsubtree ▸ h.nodup_subtree hid, fun x => h.mem_preorder_iff hid, ?_⟩
  rw [← hsubtree]
  refine ⟨fun tag test found => find?_eq_some_iff_isFirstIn fun x => isNamed_iff,
    fun tag test => find?_eq_none_iff_forall fun x => isNamed_iff,
    fun name found => find?_eq_some_iff_isFirstIn fun x => isCalled_iff,
    fun name => find?_eq_none_iff_forall fun x => isCalled_iff, fun htext => ?_⟩
  rw [h.collectText_eq hid, ownText_of_not_isText htext, String.empty_append]

/-- A section with a paragraph, a text beside an element and a text in it, and a paragraph after the
section. Both the element and the last paragraph have the same id. -/
def outlineEdits : List Edit :=
  [.createElement "section" [], .appendChild root ⟨1⟩, .createElement "p" [],
    .appendChild ⟨1⟩ ⟨2⟩, .appendText ⟨2⟩ "a", .createElement "b" [("id", "x")],
    .appendChild ⟨2⟩ ⟨4⟩, .appendText ⟨4⟩ "b", .createElement "p" [("id", "x")],
    .appendChild root ⟨6⟩, .appendText ⟨6⟩ "c"]

def outlinePage : Document := applyAll {} outlineEdits

theorem wellFormed_outlinePage : outlinePage.WellFormed :=
  WellFormed.empty.applyAll outlineEdits (by decide +kernel) outlineEdits.length

/-- From the last text of the section the way up comes back to the section and not to the paragraph
after it. -/
theorem yields_iff_preorder_outline : outlinePage.Has ⟨1⟩ ∧
    outlinePage.next? ⟨1⟩ = some ⟨6⟩ ∧
    Yields outlinePage ⟨1⟩ (some ⟨1⟩) [⟨1⟩, ⟨2⟩, ⟨3⟩, ⟨4⟩, ⟨5⟩] ∧
    wellFormed_outlinePage.preorder ⟨1⟩ = [⟨1⟩, ⟨2⟩, ⟨3⟩, ⟨4⟩, ⟨5⟩] ∧
    IsFirstIn [⟨1⟩, ⟨2⟩, ⟨3⟩, ⟨4⟩, ⟨5⟩] (outlinePage.IsCalled "x") ⟨4⟩ ∧
    outlinePage.collectText ⟨2⟩ = "ab" := by
  have hsection : outlinePage.Has ⟨1⟩ := by decide +kernel
  have hparagraph : outlinePage.Has ⟨2⟩ := by decide +kernel
  have hwalk : outlinePage.subtree ⟨1⟩ = [⟨1⟩, ⟨2⟩, ⟨3⟩, ⟨4⟩, ⟨5⟩] := by decide +kernel
  have hfind : outlinePage.findId? "x" ⟨1⟩ = some ⟨4⟩ := by decide +kernel
  have hrow : outlinePage.children ⟨2⟩ = [⟨3⟩, ⟨4⟩] := by decide +kernel
  have htexts : outlinePage.collectText ⟨3⟩ = "a" ∧ outlinePage.collectText ⟨4⟩ = "b" := by
    decide +kernel
  obtain ⟨hyields, hsubtree, -, -, -, -, -, hfound, -⟩ :=
    wellFormed_outlinePage.yields_iff_preorder hsection
  obtain ⟨-, -, -, -, -, -, -, -, -, htext⟩ :=
    wellFormed_outlinePage.yields_iff_preorder hparagraph
  have hpreorder := hsubtree.symm.trans hwalk
  refine ⟨hsection, by decide +kernel, (hyields _).mpr hpreorder.symm, hpreorder, ?_, ?_⟩
  · rw [← hpreorder]
    exact (hfound "x" ⟨4⟩).mp hfind
  · rw [htext (by decide +kernel), hrow, List.map_cons, List.map_cons, List.map_nil, htexts.1,
      htexts.2]
    rfl

end ComposingProxy.Markup.Document
