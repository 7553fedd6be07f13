import ComposingProxy.Page.Navigation
import ComposingProxy.Proofs.Tree.Agreement

/-!
# What the items of a navigation are told by

A field of an item is found with a selector, and its value is an attribute or all text of a
subtree. So a field looks at some nodes of the page and at no others, and what is written of an item
is told by the few fields that the template names, and the weight:

> `NavField.read_eq`: pages that agree on what a field looks at give it the same value.
> `Navigation.markup_items_eq`: the markup for a client that is not logged in is told by the allowed
> items.
-/

namespace ComposingProxy

open Markup

/-! ## What is looked at -/

/-- The entries of a list up to the first one that passes a test, with that one. -/
def upTo {α : Type} (test : α → Bool) : List α → List α
  | [] => []
  | x :: rest => if test x then [x] else x :: upTo test rest

theorem mem_of_mem_upTo {α : Type} {test : α → Bool} {l : List α} {x : α} (h : x ∈ upTo test l) :
    x ∈ l := by
  induction l with
  | nil => exact h
  | cons y rest ih =>
    unfold upTo at h
    split at h
    · exact List.mem_singleton.mp h ▸ List.mem_cons_self
    · rcases List.mem_cons.mp h with rfl | hrest
      · exact List.mem_cons_self
      · exact List.mem_cons_of_mem y (ih hrest)

/-- Which entry passes first is told by the entries up to there. -/
theorem find?_congr_upTo {α : Type} {test other : α → Bool} {l : List α}
    (h : ∀ x ∈ upTo test l, other x = test x) : l.find? other = l.find? test := by
  induction l with
  | nil => rfl
  | cons y rest ih =>
    unfold upTo at h
    split at h
    · next htest =>
      have hother := h y List.mem_cons_self
      rw [List.find?_cons_of_pos htest, List.find?_cons_of_pos (hother.trans htest)]
    · next htest =>
      obtain ⟨hother, hrest⟩ := List.forall_mem_cons.mp h
      rw [List.find?_cons_of_neg htest, List.find?_cons_of_neg (by rw [hother]; exact htest),
        ih hrest]

namespace Markup

open Document

variable {doc doc' : Document} {hidden : NodeId → Bool} {item top x : NodeId}

namespace Selector

/-- What is looked at to see whether a node matches: the node, and all around it if the selector
has several compounds. -/
def looksAt (selector : Selector) (doc : Document) (x : NodeId) : List NodeId :=
  if selector.steps.isEmpty then [x] else x :: doc.ancestors x

/-- What is looked at to find the first node below another one that matches. -/
def looksBelow (selector : Selector) (doc : Document) (top : NodeId) : List NodeId :=
  (upTo (selector.isMatch doc) (doc.subtree top).tail).flatMap (selector.looksAt doc)

/-- A node that is shown, with all nodes around it, matches the same steps in both documents. -/
theorem matchesFrom_eq (h : AgreeOff hidden doc doc') (hdoc : doc.WellFormed) (first : Compound) :
    ∀ (steps : List Step) (x : NodeId), hidden x = false →
      (steps ≠ [] → ∀ y ∈ doc.ancestors x, hidden y = false) →
        matchesFrom doc' first steps x = matchesFrom doc first steps x := by
  intro steps
  induction steps with
  | nil =>
    intro x hx _
    rw [matchesFrom, matchesFrom, Compound.holdsAt, h.element_eq hx]
    rfl
  | cons step earlier ih =>
    intro x hx haround
    have hancestors := haround (List.cons_ne_nil _ _)
    -- what is around an ancestor is around the node
    have hearlier : ∀ y ∈ doc.ancestors x,
        matchesFrom doc' first earlier y = matchesFrom doc first earlier y := fun y hy =>
      ih y (hancestors y hy) fun _ z hz => hancestors z (IsForest.ancestors_subset hdoc hy hz)
    rw [matchesFrom, matchesFrom, Compound.holdsAt, h.element_eq hx, h.parent, h.ancestors_eq]
    refine congrArg _ ?_
    cases step.combinator with
    | child =>
      cases hp : doc.parent? x with
      | none => rfl
      | some p =>
        exact hearlier p ((IsForest.mem_ancestors_iff hdoc x p).mpr (.single hp))
    | descendant =>
      dsimp only
      rw [Bool.eq_iff_iff, List.any_eq_true, List.any_eq_true]
      exact exists_congr fun y => and_congr_right fun hy => by rw [hearlier y hy]

/-- Whether a node matches is told by what is looked at. -/
theorem isMatch_eq (h : AgreeOff hidden doc doc') (hdoc : doc.WellFormed) {selector : Selector}
    (hshown : ∀ y ∈ selector.looksAt doc x, hidden y = false) :
    selector.isMatch doc' x = selector.isMatch doc x := by
  unfold looksAt at hshown
  split at hshown
  · next hnone =>
    refine matchesFrom_eq h hdoc _ _ x (hshown x List.mem_cons_self) fun hne => ?_
    exact absurd (List.reverse_eq_nil_iff.mpr (List.isEmpty_iff.mp hnone)) hne
  · exact matchesFrom_eq h hdoc _ _ x (hshown x List.mem_cons_self) fun _ y hy =>
      hshown y (List.mem_cons_of_mem x hy)

/-- Which node is found is told by what is looked at. -/
theorem selectFirst?_eq (h : AgreeOff hidden doc doc') (hdoc : doc.WellFormed)
    {selector : Selector} (hshown : ∀ y ∈ selector.looksBelow doc top, hidden y = false) :
    selector.selectFirst? doc' top = selector.selectFirst? doc top := by
  rw [selectFirst?, selectFirst?, h.subtree_eq]
  refine find?_congr_upTo fun x hx => isMatch_eq h hdoc fun y hy => ?_
  exact hshown y (List.mem_flatMap.mpr ⟨x, hx, hy⟩)

/-- What is looked at is around the node or the node itself. -/
theorem within_of_mem_looksAt {selector : Selector} (hdoc : doc.WellFormed) {y : NodeId}
    (hy : y ∈ selector.looksAt doc x) : doc.Within x y := by
  unfold looksAt at hy
  rw [IsForest.within_iff hdoc]
  split at hy
  · exact Or.inl (List.mem_singleton.mp hy).symm
  · exact (List.mem_cons.mp hy).imp Eq.symm id

end Selector

end Markup

open Document

variable {doc doc' : Document} {hidden : NodeId → Bool} {item x : NodeId}

namespace NavField

/-- What is looked at in the node of a field. -/
def looksIn (field : NavField) (doc : Document) (node : NodeId) : List NodeId :=
  if field.attrName = "" then doc.subtree node else [node]

/-- What is looked at for a field of an item. -/
def looksAt (field : NavField) (doc : Document) (item : NodeId) : List NodeId :=
  (match field.query with
    | some query => query.looksBelow doc item
    | none => []) ++
    match field.node? doc item with
    | some node => field.looksIn doc node
    | none => []

/-- The value of a field is told by what is looked at. -/
theorem read_eq (h : AgreeOff hidden doc doc') (hdoc : doc.WellFormed) {field : NavField}
    (hshown : ∀ y ∈ field.looksAt doc item, hidden y = false) :
    field.read doc' item = field.read doc item := by
  obtain ⟨hbelow, hin⟩ := List.forall_mem_append.mp hshown
  have hnode : field.node? doc' item = field.node? doc item := by
    unfold node?
    cases hquery : field.query with
    | none => rfl
    | some query =>
      rw [hquery] at hbelow
      exact Selector.selectFirst?_eq h hdoc hbelow
  rw [read, read, hnode]
  cases hfound : field.node? doc item with
  | none => rfl
  | some node =>
    rw [hfound] at hin
    unfold looksIn at hin
    dsimp only at hin ⊢
    split at hin
    · next htext => rw [if_pos htext, if_pos htext, h.collectText_eq hin]
    · next hattr =>
      rw [if_neg hattr, if_neg hattr, h.element_eq (hin node List.mem_cons_self)]

/-- What is looked at is in the item or around it. -/
theorem within_of_mem_looksAt (hdoc : doc.WellFormed) {field : NavField}
    (hx : x ∈ field.looksAt doc item) : doc.Within x item ∨ doc.Within item x := by
  have htail : ∀ {y : NodeId}, y ∈ (doc.subtree item).tail → doc.Within y item := fun hy =>
    hdoc.within_of_mem_subtree (List.mem_of_mem_tail hy)
  rcases List.mem_append.mp hx with hbelow | hin
  · cases hquery : field.query with
    | none =>
      rw [hquery] at hbelow
      exact absurd hbelow List.not_mem_nil
    | some query =>
      rw [hquery] at hbelow
      obtain ⟨y, hy, hlooks⟩ := List.mem_flatMap.mp hbelow
      exact within_or_within (Selector.within_of_mem_looksAt hdoc hlooks)
        (htail (mem_of_mem_upTo hy))
  · cases hfound : field.node? doc item with
    | none =>
      rw [hfound] at hin
      exact absurd hin List.not_mem_nil
    | some node =>
      rw [hfound] at hin
      have hnode : doc.Within node item := by
        unfold node? at hfound
        split at hfound
        · exact htail (List.mem_of_find?_eq_some hfound)
        · exact Option.some.inj hfound ▸ .refl
      unfold looksIn at hin
      dsimp only at hin
      split at hin
      · exact Or.inl (hnode.trans (hdoc.within_of_mem_subtree hin))
      · exact Or.inl (List.mem_singleton.mp hin ▸ hnode)

end NavField

/-! ## What is written of an item -/

/-- A look-up in a table of fields is told by the fields of that name. -/
theorem Table.get?_ofList_congr {α β : Type} {fields : List β} {key : β → String}
    {value other : β → α} {name : String}
    (h : ∀ field ∈ fields, key field = name → other field = value field) :
    (ofList (fields.map fun field => (key field, other field))).get? name =
      (ofList (fields.map fun field => (key field, value field))).get? name := by
  rw [get?_ofList, get?_ofList, ← List.map_reverse, ← List.map_reverse, List.find?_map,
    List.find?_map]
  show ((fields.reverse.find? fun field => key field = name).map _).map _ =
    ((fields.reverse.find? fun field => key field = name).map _).map _
  cases hfound : fields.reverse.find? fun field => key field = name with
  | none => rfl
  | some field =>
    have hkey : key field = name := by simpa using List.find?_some hfound
    have hmem := List.mem_reverse.mp (List.mem_of_find?_eq_some hfound)
    exact congrArg some (h field hmem hkey)

namespace Navigation

variable {navigation : Navigation}

/-- Whether a field has a say in what is written of an item. -/
def shows (navigation : Navigation) (field : NavField) : Bool :=
  field.name == "weight" || navigation.template.fields.elem field.name

/-- What counts of an item when it is written: its weight and its markup. -/
def trace (navigation : Navigation) (item : NavItem) : Binary64 × String :=
  (item.weight, navigation.template.render item.fields)

/-- The items that a page has itself. -/
def found (navigation : Navigation) (doc : Document) : List NodeId :=
  navigation.query.selectAll doc root

/-- Whether the item that a node is is kept from those who are not logged in. -/
def guards (navigation : Navigation) (doc : Document) (item : NodeId) : Bool :=
  (navigation.itemOf doc item).isProtected navigation.protectedPaths

/-- What is written of an item is told by the fields that have a say in it. -/
theorem trace_eq (h : ∀ field ∈ navigation.fields, navigation.shows field = true →
    field.read doc' item = field.read doc item) :
    navigation.trace (navigation.itemOf doc' item) =
      navigation.trace (navigation.itemOf doc item) := by
  have hget : ∀ name, (name = "weight" ∨ name ∈ navigation.template.fields) →
      (navigation.itemOf doc' item).fields.get? name =
        (navigation.itemOf doc item).fields.get? name := by
    intro name hname
    refine Table.get?_ofList_congr fun field hfield heq => h field hfield ?_
    rw [shows, Bool.or_eq_true, beq_iff_eq, List.elem_iff, heq]
    exact hname
  refine Prod.ext ?_ ?_
  · exact congrArg NavItem.weightOf (hget "weight" (Or.inl rfl))
  · refine congrArg String.join (List.map_congr_left fun segment hsegment => ?_)
    cases segment with
    | literal text => rfl
    | field name =>
      have hname : name ∈ navigation.template.fields :=
        List.mem_filterMap.mpr ⟨.field name, hsegment, rfl⟩
      rw [ItemTemplate.Segment.render, ItemTemplate.Segment.render, hget name (Or.inr hname)]

/-- The markup of items in order is told by their weights and markups. -/
theorem markup_inOrder (items : List NavItem) :
    navigation.markup (NavItem.inOrder items) =
      String.join (((items.map navigation.trace).mergeSort fun a b => a.1.le b.1).map (·.2)) := by
  have hsorted : (NavItem.inOrder items).map navigation.trace =
      (items.map navigation.trace).mergeSort fun a b => a.1.le b.1 :=
    List.map_mergeSort fun _ _ _ _ => rfl
  rw [← hsorted, List.map_map]
  rfl

/-- The traces of the items that are written for a client that is not logged in. -/
theorem trace_filter (nodes : List NodeId) :
    ((nodes.map (navigation.itemOf doc) ++ navigation.templatePaths.map NavItem.ofTemplatePath).filter
        fun item => false || !item.isProtected navigation.protectedPaths).map navigation.trace =
      (nodes.filter fun item => !navigation.guards doc item).map
          (fun item => navigation.trace (navigation.itemOf doc item)) ++
        ((navigation.templatePaths.map NavItem.ofTemplatePath).filter
          fun item => !item.isProtected navigation.protectedPaths).map navigation.trace := by
  simp only [Bool.false_or]
  rw [List.filter_append, List.filter_map, List.map_append, List.map_map]
  rfl

/-- The markup for a client that is not logged in is told by what is written of the allowed
items. -/
theorem markup_items_eq {nodes : List NodeId}
    (hguards : ∀ item ∈ nodes, navigation.guards doc' item = navigation.guards doc item)
    (htrace : ∀ item ∈ nodes, navigation.guards doc item = false →
      navigation.trace (navigation.itemOf doc' item) =
        navigation.trace (navigation.itemOf doc item)) :
    navigation.markup (navigation.items doc' nodes false) =
      navigation.markup (navigation.items doc nodes false) := by
  have hallowed : (nodes.filter fun item => !navigation.guards doc' item) =
      nodes.filter fun item => !navigation.guards doc item :=
    List.filter_congr fun item hitem => by rw [hguards item hitem]
  have hwritten : ∀ item ∈ nodes.filter fun item => !navigation.guards doc item,
      navigation.trace (navigation.itemOf doc' item) =
        navigation.trace (navigation.itemOf doc item) := by
    intro item hitem
    obtain ⟨hmem, hspared⟩ := List.mem_filter.mp hitem
    exact htrace item hmem (by simpa using hspared)
  unfold items
  rw [markup_inOrder, markup_inOrder, trace_filter, trace_filter, hallowed,
    List.map_congr_left hwritten]

end Navigation

end ComposingProxy
