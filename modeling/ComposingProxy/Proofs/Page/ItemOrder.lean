import ComposingProxy.Page.Navigation
import Mathlib.Algebra.Group.Nat.Defs
import Mathlib.Data.List.Forall2

/-!
# Which items are shown, and in which order

The items of a navigation are those of the page followed by the template paths. An item of the page
has what its fields read there, and its address, label and weight are what three of them say
(`Navigation.IsExtracted`); the item of a template path has what is configured
(`NavItem.IsConfigured`). What is protected is left out for a client that is not logged in, and
what is left is sorted by weight. Weights are compared by their bits, so the order is total
whatever text a weight was read from.

> `NavItem.inOrder_eq_iff`: a list is the sorted one exactly if its weights never fall and the items
> of each weight are those of the unsorted list, in the same order.
> `Navigation.items_sorted`: the items of a page are the shown ones, sorted so.
-/

namespace ComposingProxy

/-! ## The order of weights -/

namespace Binary64

variable {x y z : Binary64}

/-- Weights are compared by their places. -/
theorem le_iff : x.le y = true ↔ x.key ≤ y.key := decide_eq_true_iff

theorem le_total (x y : Binary64) : (x.le y || y.le x) = true := by
  rw [Bool.or_eq_true, le_iff, le_iff]
  exact Int.le_total x.key y.key

theorem le_trans (hxy : x.le y = true) (hyz : y.le z = true) : x.le z = true := by
  rw [le_iff] at hxy hyz ⊢
  exact Int.le_trans hxy hyz

theorem signBit_eq : signBit = 9223372036854775808 := by decide

/-- The place of a number tells its bits: its sign is the sign of the place, and the other bits
are the distance from where numbers of that sign begin. -/
theorem eq_of_key_eq (h : x.key = y.key) : x = y := by
  have hx : x.bits.toNat < 18446744073709551616 := x.bits.toNat_lt
  have hy : y.bits.toNat < 18446744073709551616 := y.bits.toNat_lt
  have hbits : x.bits.toNat = y.bits.toNat := by
    simp only [key, isNegative, magnitude, decide_eq_true_eq, signBit_eq] at h
    split at h <;> split at h <;> omega
  cases x
  cases y
  exact congrArg Binary64.mk (UInt64.toNat_inj.mp hbits)

/-- Two weights with the same place are one: the sign is part of the place. -/
theorem le_antisymm (hxy : x.le y = true) (hyx : y.le x = true) : x = y := by
  rw [le_iff] at hxy hyx
  exact eq_of_key_eq (Int.le_antisymm hxy hyx)

/-- The total order: numbers with a minus sign come before those without it, of two numbers with the
sign the one of more bits comes first, and of two without it the one of fewer bits. -/
def ComesFirst (x y : Binary64) : Prop :=
  2 ^ 63 ≤ x.bits.toNat ∧ y.bits.toNat < 2 ^ 63 ∨
    2 ^ 63 ≤ x.bits.toNat ∧ 2 ^ 63 ≤ y.bits.toNat ∧ y.bits.toNat ≤ x.bits.toNat ∨
    x.bits.toNat < 2 ^ 63 ∧ y.bits.toNat < 2 ^ 63 ∧ x.bits.toNat ≤ y.bits.toNat

/-- The comparison of weights is the total order. -/
theorem le_iff_comesFirst : x.le y = true ↔ ComesFirst x y := by
  have hx : x.bits.toNat < 18446744073709551616 := x.bits.toNat_lt
  have hy : y.bits.toNat < 18446744073709551616 := y.bits.toNat_lt
  rw [le_iff, ComesFirst]
  simp only [key, isNegative, magnitude, decide_eq_true_eq, signBit_eq]
  split <;> split <;> omega

/-- The two zeros have places of their own, and a value that is no number has one as well. -/
example : (ofMagnitude true 0).le zero ∧ ¬ zero.le (ofMagnitude true 0) ∧
    (infinity false).le (notANumber false) ∧ (notANumber true).le (infinity true) := by
  decide

end Binary64

/-! ## Stable sorting -/

namespace NavItem

variable {items result other : List NavItem} {a b : NavItem} {weight : Binary64}

/-- The items of a list that have a weight, in order. -/
def ofWeight (items : List NavItem) (weight : Binary64) : List NavItem :=
  items.filter fun item => item.weight = weight

theorem mem_ofWeight : a ∈ ofWeight items a.weight ↔ a ∈ items := by
  rw [ofWeight, List.mem_filter]
  simp

theorem weight_eq (h : a ∈ ofWeight items weight) : a.weight = weight :=
  of_decide_eq_true (List.mem_filter.mp h).2

/-- An item stands before another one if its weight is not above that of the other. -/
def Before (a b : NavItem) : Prop := a.weight.le b.weight = true

theorem le_trans (a b c : NavItem) (hab : a.weight.le b.weight = true)
    (hbc : b.weight.le c.weight = true) : a.weight.le c.weight = true :=
  Binary64.le_trans hab hbc

theorem le_total (a b : NavItem) : (a.weight.le b.weight || b.weight.le a.weight) = true :=
  Binary64.le_total a.weight b.weight

theorem Before.of_weight_eq (h : a.weight = b.weight) : Before a b := by
  rw [Before, h]
  exact Binary64.le_iff.mpr (Int.le_refl _)

/-- The weights of a list never fall. -/
def Rising (items : List NavItem) : Prop := items.Pairwise Before

/-- The weights of sorted items never fall. -/
theorem rising_inOrder (items : List NavItem) : Rising (inOrder items) :=
  List.pairwise_mergeSort le_trans le_total items

/-- Sorting neither loses nor adds an item. -/
theorem inOrder_perm (items : List NavItem) : (inOrder items).Perm items :=
  List.mergeSort_perm items _

/-- Items of one weight are in order before the sorting, so they are a part of the sorted list;
it has no others, so it is all of them. -/
theorem ofWeight_inOrder (items : List NavItem) (weight : Binary64) :
    ofWeight (inOrder items) weight = ofWeight items weight := by
  have hequal : Rising (ofWeight items weight) := by
    refine List.pairwise_iff_forall_sublist.mpr fun {a b} hpair => ?_
    have ha := hpair.subset List.mem_cons_self
    have hb := hpair.subset (List.mem_cons_of_mem a List.mem_cons_self)
    exact .of_weight_eq ((weight_eq ha).trans (weight_eq hb).symm)
  have hpart : (ofWeight items weight).Sublist (inOrder items) :=
    List.sublist_mergeSort le_trans le_total hequal List.filter_sublist
  have hfilter : (ofWeight items weight).Sublist (ofWeight (inOrder items) weight) := by
    have hagain := hpart.filter fun item => decide (item.weight = weight)
    rwa [ofWeight, List.filter_filter, funext fun _ => Bool.and_self _] at hagain
  have hlength : (ofWeight items weight).length = (ofWeight (inOrder items) weight).length :=
    ((inOrder_perm items).filter _).length_eq.symm
  exact (hfilter.eq_of_length hlength).symm

/-- Two rising lists with the same items of each weight begin with the same item: each first item
is in the other list, so neither weight is above the other. -/
theorem eq_of_rising (hitems : Rising items) (hother : Rising other)
    (hsame : ∀ weight, ofWeight items weight = ofWeight other weight) : items = other := by
  have hmem : ∀ a, a ∈ items ↔ a ∈ other := by
    intro a
    rw [← mem_ofWeight, hsame, mem_ofWeight]
  induction items generalizing other with
  | nil =>
    cases other with
    | nil => rfl
    | cons b rest => exact absurd ((hmem b).mpr List.mem_cons_self) List.not_mem_nil
  | cons a rest ih =>
    cases other with
    | nil => exact absurd ((hmem a).mp List.mem_cons_self) List.not_mem_nil
    | cons b rest' =>
      obtain ⟨ha, hrest⟩ := List.pairwise_cons.mp hitems
      obtain ⟨hb, hrest'⟩ := List.pairwise_cons.mp hother
      have hab : Before a b := by
        rcases List.mem_cons.mp ((hmem b).mpr List.mem_cons_self) with heq | hin
        · exact .of_weight_eq (heq ▸ rfl)
        · exact ha b hin
      have hba : Before b a := by
        rcases List.mem_cons.mp ((hmem a).mp List.mem_cons_self) with heq | hin
        · exact .of_weight_eq (heq ▸ rfl)
        · exact hb a hin
      have hweight : a.weight = b.weight := Binary64.le_antisymm hab hba
      -- the first items have one weight, and of this weight the lists have the same items
      have hhead := hsame a.weight
      simp only [ofWeight, List.filter_cons, hweight, decide_true, if_true] at hhead
      obtain ⟨rfl, -⟩ := List.cons.inj hhead
      have htail : ∀ weight, ofWeight rest weight = ofWeight rest' weight := by
        intro weight
        have hweight := hsame weight
        simp only [ofWeight, List.filter_cons] at hweight
        split at hweight
        · exact (List.cons.inj hweight).2
        · exact hweight
      refine congrArg (a :: ·) (ih hrest hrest' htail fun c => ?_)
      rw [← mem_ofWeight, htail, mem_ofWeight]

/-- What sorting gives: the only rising list that has the items of each weight in the order in
which they were. -/
theorem inOrder_eq_iff : inOrder items = result ↔
    Rising result ∧ ∀ weight, ofWeight result weight = ofWeight items weight := by
  constructor
  · intro h
    rw [← h]
    exact ⟨rising_inOrder items, ofWeight_inOrder items⟩
  · intro ⟨hrising, hsame⟩
    refine eq_of_rising (rising_inOrder items) hrising fun weight => ?_
    rw [ofWeight_inOrder, hsame]

end NavItem

/-! ## Where items come from -/

open Markup

namespace NavField

variable {field : NavField} {doc : Document} {item : NodeId}

/-- The node that a field is read from: the item itself, or the first one below it that matches. -/
def IsNode (field : NavField) (doc : Document) (item node : NodeId) : Prop :=
  match field.query with
  | none => node = item
  | some query => (query.selectAll doc item).head? = some node

/-- What a field reads: nothing where no node matches; otherwise the text of the node without white
space around it, or the value of the attribute that is named, nothing if that is not there. -/
inductive IsRead (field : NavField) (doc : Document) (item : NodeId) : String → Prop
  | missing {query : Selector} (hquery : field.query = some query)
      (hnone : query.selectAll doc item = []) : IsRead field doc item ""
  | text {node : NodeId} (hnode : field.IsNode doc item node) (hname : field.attrName = "") :
      IsRead field doc item (Text.trimText (doc.collectText node))
  | attr {node : NodeId} {element : Element} {value : String} (hnode : field.IsNode doc item node)
      (hname : field.attrName ≠ "") (helement : doc.element? node = some element)
      (hvalue : element.attr? field.attrName = some value) : IsRead field doc item value
  | noAttr {node : NodeId} (hnode : field.IsNode doc item node) (hname : field.attrName ≠ "")
      (hnone : ∀ element, doc.element? node = some element →
        element.attr? field.attrName = none) : IsRead field doc item ""

/-- What is read from a node is its text or the value of its attribute. -/
theorem isRead_of_node {node : NodeId} (hnode : field.IsNode doc item node) :
    field.IsRead doc item (if field.attrName = "" then Text.trimText (doc.collectText node)
      else ((doc.element? node).bind (·.attr? field.attrName)).getD "") := by
  split
  · next hname => exact .text hnode hname
  · next hname =>
    cases hvalue : (doc.element? node).bind (·.attr? field.attrName) with
    | none =>
      refine .noAttr hnode hname fun element helement => ?_
      rw [helement] at hvalue
      exact hvalue
    | some value =>
      obtain ⟨element, helement, hattr⟩ := Option.bind_eq_some_iff.mp hvalue
      exact .attr hnode hname helement hattr

/-- Every field of every item is read in one of these ways. -/
theorem isRead_read (field : NavField) (doc : Document) (item : NodeId) :
    field.IsRead doc item (field.read doc item) := by
  rw [read, node?]
  cases hquery : field.query with
  | none =>
    have hnode : field.IsNode doc item item := by rw [IsNode, hquery]
    exact isRead_of_node hnode
  | some query =>
    dsimp only
    rw [Selector.selectFirst?_eq_head?]
    cases hfirst : (query.selectAll doc item).head? with
    | none => exact .missing hquery (List.head?_eq_none_iff.mp hfirst)
    | some node =>
      have hnode : field.IsNode doc item node := by
        rw [IsNode, hquery]
        exact hfirst
      exact isRead_of_node hnode

end NavField

namespace NavItem

/-- The weight that a text gives: the number that it spells without the white space around it, or
zero if it spells none or there is no text. -/
inductive IsWeight : Option String → Binary64 → Prop
  | number {text : String} {weight : Binary64}
      (h : Binary64.parse? (Text.trimText text) = some weight) : IsWeight (some text) weight
  | noNumber {text : String} (h : Binary64.parse? (Text.trimText text) = none) :
      IsWeight (some text) .zero
  | missing : IsWeight none .zero

/-- Every text, or none, gives a weight. -/
theorem isWeight_weightOf (text : Option String) : IsWeight text (weightOf text) := by
  cases text with
  | none => exact .missing
  | some text =>
    rw [weightOf, Option.bind_some]
    cases hparse : Binary64.parse? (Text.trimText text) with
    | none => exact .noNumber hparse
    | some weight => exact .number hparse

/-- The item of a template path is what is configured for it, and has nothing else in its fields. -/
structure IsConfigured (path : TemplatePath) (item : NavItem) : Prop where
  href : item.href = path.href
  label : item.label = path.label
  weight : item.weight = path.weight
  fields : ∀ name, item.fields.get? name =
    if name = "href" then some path.href else if name = "label" then some path.label
    else if name = "weight" then some path.weight.render else none

/-- The item of a template path has what is configured in its fields, too. -/
theorem isConfigured_ofTemplatePath (path : TemplatePath) :
    IsConfigured path (ofTemplatePath path) where
  href := rfl
  label := rfl
  weight := rfl
  fields name := by
    rw [ofTemplatePath, Table.get?_ofList]
    by_cases hhref : name = "href"
    · rw [hhref]
      rfl
    by_cases hlabel : name = "label"
    · rw [hlabel]
      rfl
    by_cases hweight : name = "weight"
    · rw [hweight]
      rfl
    simp [hhref, hlabel, hweight, eq_comm]

end NavItem

/-! ## The items of a page -/

namespace Navigation

/-- An item of the page has what is read for each field, of several fields of one name what is read
for the last, and nothing else. Its address and its label are two of the fields, and its weight is
what a third one spells. -/
structure IsExtracted (navigation : Navigation) (doc : Document) (node : NodeId) (item : NavItem) :
    Prop where
  fields : ∀ name, Option.Rel (fun field value => field.IsRead doc node value)
    (navigation.fields.reverse.find? (·.name = name)) (item.fields.get? name)
  href : item.href = (item.fields.get? "href").getD ""
  label : item.label = (item.fields.get? "label").getD ""
  weight : NavItem.IsWeight (item.fields.get? "weight") item.weight

/-- An item of the page is extracted by the rules for its fields. -/
theorem isExtracted_itemOf (navigation : Navigation) (doc : Document) (node : NodeId) :
    navigation.IsExtracted doc node (navigation.itemOf doc node) where
  fields name := by
    rw [itemOf, NavItem.ofFields, Table.get?_ofList, ← List.map_reverse, List.find?_map]
    show Option.Rel _ (navigation.fields.reverse.find? fun field => field.name = name) (((
      navigation.fields.reverse.find? fun field => field.name = name).map _).map _)
    cases navigation.fields.reverse.find? fun field => field.name = name with
    | none => exact .none
    | some field => exact .some (field.isRead_read doc node)
  href := rfl
  label := rfl
  weight := NavItem.isWeight_weightOf _

/-- All items for a page: the extracted ones and then those of the template paths. -/
def candidates (navigation : Navigation) (doc : Document) (found : List NodeId) : List NavItem :=
  found.map (navigation.itemOf doc) ++ navigation.templatePaths.map NavItem.ofTemplatePath

/-- An address is protected if a path that is not empty is a beginning of it. -/
def Protects (navigation : Navigation) (href : String) : Prop :=
  ∃ path ∈ navigation.protectedPaths, path ≠ "" ∧ ∃ rest, href = path ++ rest

instance (navigation : Navigation) (href : String) : Decidable (navigation.Protects href) :=
  decidable_of_iff (∃ path ∈ navigation.protectedPaths,
    path ≠ "" ∧ (Text.stripPrefix? path href).isSome) (by
      simp only [Option.isSome_iff_exists, Text.stripPrefix?_eq_some_iff]
      rfl)

/-- The test for a protected address. -/
theorem isProtected_iff {navigation : Navigation} {item : NavItem} :
    item.isProtected navigation.protectedPaths = true ↔ navigation.Protects item.href := by
  simp only [NavItem.isProtected, Text.hasBeginning, List.any_eq_true, Bool.and_eq_true,
    bne_iff_ne, Option.isSome_iff_exists, Text.stripPrefix?_eq_some_iff]
  rfl

/-- The items that the client may see: all of them if it is logged in, and otherwise those that are
not protected. -/
def shown (navigation : Navigation) (doc : Document) (found : List NodeId) (loggedIn : Bool) :
    List NavItem :=
  if loggedIn then navigation.candidates doc found
  else (navigation.candidates doc found).filter fun item => ¬ navigation.Protects item.href

theorem items_eq (navigation : Navigation) (doc : Document) (found : List NodeId)
    (loggedIn : Bool) :
    navigation.items doc found loggedIn =
      NavItem.inOrder (navigation.shown doc found loggedIn) := by
  refine congrArg NavItem.inOrder ?_
  cases loggedIn with
  | true => exact List.filter_eq_self.mpr fun _ _ => Bool.true_or _
  | false =>
    refine List.filter_congr fun item _ => ?_
    rw [Bool.false_or, Bool.eq_iff_iff, decide_eq_true_iff, Bool.not_eq_true', ← isProtected_iff,
      Bool.not_eq_true]

/-- The items are those of the page in its order and those of the template paths behind them. -/
theorem exists_candidates_eq (navigation : Navigation) (doc : Document) (found : List NodeId) :
    ∃ extracted configured, navigation.candidates doc found = extracted ++ configured ∧
      List.Forall₂ (navigation.IsExtracted doc) found extracted ∧
      List.Forall₂ NavItem.IsConfigured navigation.templatePaths configured := by
  refine ⟨_, _, rfl, ?_, ?_⟩
  · rw [List.forall₂_map_right_iff, List.forall₂_same]
    exact fun node _ => navigation.isExtracted_itemOf doc node
  · rw [List.forall₂_map_right_iff, List.forall₂_same]
    exact fun path _ => NavItem.isConfigured_ofTemplatePath path

/-- For every page, list of matches and navigation: there is an item for every match, with what is
read of it, and then one for every template path, as it is configured. The items are the shown ones
of these, each as often as it was there; their weights never fall in the total order, and the items
of one weight are in the order in which they were. No other list is like that. Nothing that is
protected is there for a client that is not logged in. -/
theorem items_sorted (navigation : Navigation) (doc : Document) (found : List NodeId)
    (loggedIn : Bool) :
    (∃ extracted configured, navigation.candidates doc found = extracted ++ configured ∧
      List.Forall₂ (navigation.IsExtracted doc) found extracted ∧
      List.Forall₂ NavItem.IsConfigured navigation.templatePaths configured) ∧
    (navigation.items doc found loggedIn).Perm (navigation.shown doc found loggedIn) ∧
    (∀ result, navigation.items doc found loggedIn = result ↔
      NavItem.Rising result ∧ ∀ weight, NavItem.ofWeight result weight =
        NavItem.ofWeight (navigation.shown doc found loggedIn) weight) ∧
    (navigation.items doc found loggedIn).Pairwise
      (fun item later => item.weight.ComesFirst later.weight) ∧
    (loggedIn = false →
      ∀ item ∈ navigation.items doc found loggedIn, ¬ navigation.Protects item.href) := by
  rw [items_eq]
  refine ⟨navigation.exists_candidates_eq doc found, NavItem.inOrder_perm _,
    fun result => NavItem.inOrder_eq_iff, ?_, fun hout item hitem => ?_⟩
  · exact (NavItem.rising_inOrder _).imp fun hbefore => Binary64.le_iff_comesFirst.mp hbefore
  · subst hout
    have hshown := (NavItem.inOrder_perm _).subset hitem
    exact of_decide_eq_true (List.mem_filter.mp hshown).2

end Navigation

end ComposingProxy
