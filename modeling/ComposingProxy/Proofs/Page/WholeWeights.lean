import ComposingProxy.Proofs.Decimal.ShortestText
import ComposingProxy.Proofs.Page.ItemOrder
import Mathlib.Data.List.FinRange

/-!
# Whole numbers as weights

Where every weight is written as a whole number of at most fifteen digits, items stand in the order
of these numbers. Items of a page are read, and a template path has the text of its number as a
field, so that both are known by their texts (`Navigation.weight_of_mem_shown`). Sorting puts the
positions in an order of their own (`NavItem.isOrder_positions`), by the places of the weights and
then by the positions, and places of whole numbers are in the order of the numbers except at zero
(`Whole.key_lt_iff`).

> `Navigation.items_arranged`: items are in the order of their numbers, and in their old order where
> the numbers are the same, exactly if no zero with a minus sign comes after one without it.

A zero with a minus sign is put in front of every other zero, though they are the same number
(`Navigation.not_always_by_number`).
-/

namespace ComposingProxy

/-! ## Positions in order -/

section Positions

variable {n : Nat} {before : Fin n → Fin n → Prop} {order : List (Fin n)}

/-- An order of all positions, in which one stands in front of another exactly if it comes before
it. -/
structure IsOrder (before : Fin n → Fin n → Prop) (order : List (Fin n)) : Prop where
  perm : order.Perm (List.finRange n)
  pair_sublist_iff : ∀ i j, [i, j].Sublist order ↔ before i j

/-- Of two positions one stands in front of the other. -/
theorem pair_sublist_or {i j : Fin n} (hne : i ≠ j) (hi : i ∈ order) (hj : j ∈ order) :
    [i, j].Sublist order ∨ [j, i].Sublist order := by
  obtain ⟨front, back, rfl⟩ := List.append_of_mem hi
  rcases List.mem_append.mp hj with hfront | hback
  · refine .inr ?_
    exact (List.singleton_sublist.mpr hfront).append (List.singleton_sublist.mpr List.mem_cons_self)
  · have hback' := (List.mem_cons.mp hback).resolve_left hne.symm
    exact .inl (((List.singleton_sublist.mpr hback').cons_cons i).trans
      (List.sublist_append_right front _))

/-- Of two positions one stands in front, so it is enough that no pair stands the wrong way. -/
theorem IsOrder.of_pairwise (hperm : order.Perm (List.finRange n)) (hpair : order.Pairwise before)
    (hasymm : ∀ i j, before i j → ¬before j i) : IsOrder before order := by
  have hpairs : ∀ {i j}, [i, j].Sublist order → before i j :=
    List.pairwise_iff_forall_sublist.mp hpair
  refine ⟨hperm, fun i j => ⟨hpairs, fun hbefore => ?_⟩⟩
  have hmem : ∀ k, k ∈ order := fun k => hperm.mem_iff.mpr (List.mem_finRange k)
  have hne : i ≠ j := by
    rintro rfl
    exact hasymm i i hbefore hbefore
  exact (pair_sublist_or hne (hmem i) (hmem j)).resolve_right
    fun hother => hasymm i j hbefore (hpairs hother)

theorem IsOrder.congr {other : Fin n → Fin n → Prop} (horder : IsOrder before order)
    (h : ∀ i j, before i j ↔ other i j) : IsOrder other order :=
  ⟨horder.perm, fun i j => (horder.pair_sublist_iff i j).trans (h i j)⟩

end Positions

namespace NavItem

variable {items : List NavItem}

/-! ## Sorting positions -/

/-- The place of the weight at a position. -/
def keyAt (items : List NavItem) (i : Fin items.length) : Int := (items.get i).weight.key

/-- One position comes before another: its weight is lower, or the weights are the same and it is
the first. -/
def Earlier (items : List NavItem) (i j : Fin items.length) : Prop :=
  keyAt items i < keyAt items j ∨ keyAt items i = keyAt items j ∧ i < j

/-- Whether a position comes before another or is it. -/
def notLater (items : List NavItem) (i j : Fin items.length) : Bool :=
  keyAt items i < keyAt items j ∨ keyAt items i = keyAt items j ∧ i ≤ j

/-- The test by which positions are sorted. -/
theorem notLater_iff {i j : Fin items.length} : notLater items i j = true ↔
    keyAt items i < keyAt items j ∨ keyAt items i = keyAt items j ∧ i ≤ j :=
  decide_eq_true_iff

/-- The positions as they come one after another. -/
def positions (items : List NavItem) : List (Fin items.length) :=
  (List.finRange items.length).mergeSort (notLater items)

/-- Every position is there once. -/
theorem positions_perm (items : List NavItem) :
    (positions items).Perm (List.finRange items.length) :=
  List.mergeSort_perm _ _

/-- Sorted positions come one after another: no two are alike in number. -/
theorem pairwise_positions (items : List NavItem) :
    (positions items).Pairwise (Earlier items) := by
  have hnodup : (positions items).Nodup :=
    (positions_perm items).nodup_iff.mpr (List.nodup_finRange _)
  have hsorted : (positions items).Pairwise fun i j => notLater items i j = true := by
    refine List.pairwise_mergeSort (fun i j k hij hjk => ?_) (fun i j => ?_) _
    · rw [notLater_iff] at *
      omega
    · rw [Bool.or_eq_true, notLater_iff, notLater_iff]
      omega
  refine (hsorted.and hnodup).imp fun {i j} ⟨hij, hne⟩ => ?_
  rw [notLater_iff] at hij
  rw [Earlier]
  omega

/-- Sorting the positions puts them in the order of weight and number. -/
theorem isOrder_positions (items : List NavItem) : IsOrder (Earlier items) (positions items) := by
  refine .of_pairwise (positions_perm items) (pairwise_positions items) fun i j hij hji => ?_
  rw [Earlier] at hij hji
  omega

/-- The positions of one weight ascend, so they are the same positions in the same order. -/
theorem filter_positions (items : List NavItem) (weight : Binary64) :
    (positions items).filter (fun i => (items.get i).weight = weight) =
      (List.finRange items.length).filter fun i => (items.get i).weight = weight := by
  have hleft : ((positions items).filter fun i => (items.get i).weight = weight).Pairwise
      (· < ·) := by
    refine ((pairwise_positions items).filter _).imp_of_mem fun {i j} hi hj hij => ?_
    have hi' := of_decide_eq_true (List.mem_filter.mp hi).2
    have hj' := of_decide_eq_true (List.mem_filter.mp hj).2
    have heq : keyAt items i = keyAt items j := by rw [keyAt, keyAt, hi', hj']
    rw [Earlier] at hij
    omega
  have hright : ((List.finRange items.length).filter fun i =>
      (items.get i).weight = weight).Pairwise (· < ·) :=
    (List.pairwise_lt_finRange _).filter _
  exact List.Perm.eq_of_pairwise (fun i j _ _ hij hji => absurd hij hji.asymm) hleft hright
    ((positions_perm items).filter _)

/-- Sorting items is sorting their positions. -/
theorem inOrder_eq_map (items : List NavItem) :
    inOrder items = (positions items).map items.get := by
  refine inOrder_eq_iff.mpr ⟨?_, fun weight => ?_⟩
  · refine List.pairwise_map.mpr ((pairwise_positions items).imp fun {i j} hij => ?_)
    refine Binary64.le_iff.mpr (show keyAt items i ≤ keyAt items j from ?_)
    rw [Earlier] at hij
    omega
  · calc ofWeight ((positions items).map items.get) weight
        = ((positions items).filter fun i => (items.get i).weight = weight).map items.get := by
          rw [ofWeight, List.filter_map]
          rfl
      _ = ((List.finRange items.length).filter fun i =>
            (items.get i).weight = weight).map items.get := by rw [filter_positions]
      _ = ofWeight ((List.finRange items.length).map items.get) weight := by
          rw [ofWeight, List.filter_map]
          rfl
      _ = ofWeight items weight := by rw [List.map_get_finRange]

/-! ## Weights that are written as whole numbers -/

/-- The text of the weight; a field that is missing is like an empty one. -/
def weightText (item : NavItem) : List Char :=
  Text.trim ((item.fields.get? "weight").getD "").toList

/-- The whole number that the text spells; where there is no text it is zero. -/
def whole? (item : NavItem) : Option Whole :=
  if item.weightText = [] then some .zero else Whole.ofText? item.weightText

/-- That number, for an item that has one. -/
def whole (item : NavItem) : Whole := item.whole?.getD .zero

/-- A text that spells a whole number gives that number as its weight. -/
theorem weightOf_eq {text : Option String} {number : Whole}
    (h : (if Text.trim (text.getD "").toList = [] then some Whole.zero
      else Whole.ofText? (Text.trim (text.getD "").toList)) = some number) :
    weightOf text = number.toBinary64 := by
  have hzero : Whole.zero.toBinary64 = .zero := by decide
  cases text with
  | none =>
    obtain rfl := Option.some.inj h
    exact hzero.symm
  | some text =>
    rw [Option.getD_some] at h
    rw [weightOf, Option.bind_some, Text.trimText]
    split at h
    · next hblank =>
      obtain rfl := Option.some.inj h
      rw [hblank, hzero]
      decide
    · rw [Whole.parse?_of_ofText? (by rwa [String.toList_ofList]), Option.getD_some]

/-- The weight of an extracted item is the whole number in its field. -/
theorem weight_ofFields {fields : Table String} {number : Whole}
    (h : (ofFields fields).whole? = some number) : (ofFields fields).weight = number.toBinary64 :=
  weightOf_eq h

/-- The weight of a template path is the whole number in its field. -/
theorem weight_ofTemplatePath {path : TemplatePath} {number : Whole}
    (h : (ofTemplatePath path).whole? = some number) :
    (ofTemplatePath path).weight = number.toBinary64 := by
  have hfield : (ofTemplatePath path).fields.get? "weight" = some path.weight.render := by
    simp [ofTemplatePath, Table.ofList, Table.get?_insert]
  have htext : (ofTemplatePath path).weightText = path.weight.render.toList := by
    rw [weightText, hfield, Option.getD_some, Binary64.trim_render]
  have hne : path.weight.render.toList ≠ [] := fun hnil =>
    Binary64.render_ne_empty path.weight (String.toList_eq_nil_iff.mp hnil)
  rw [whole?, htext, if_neg hne] at h
  exact Binary64.eq_of_ofText?_render h

/-! ## Two orders -/

/-- One position comes before another in the order of the numbers: its number is lower, or the
numbers are the same and it is the first. -/
def ByNumber (items : List NavItem) (i j : Fin items.length) : Prop :=
  (items.get i).whole.toInt < (items.get j).whole.toInt ∨
    (items.get i).whole.toInt = (items.get j).whole.toInt ∧ i < j

/-- The order that there is: a zero with a minus sign comes before the other zeros, and else items of
the same number keep their places. -/
def ByWeight (items : List NavItem) (i j : Fin items.length) : Prop :=
  (items.get i).whole.toInt < (items.get j).whole.toInt ∨
    (items.get i).whole.toInt = (items.get j).whole.toInt ∧
      ((items.get i).whole.isMinusZero = true ∧ (items.get j).whole.isMinusZero = false ∨
        (items.get i).whole.isMinusZero = (items.get j).whole.isMinusZero ∧ i < j)

/-- Every weight is the number that is written. -/
def AreWhole (items : List NavItem) : Prop :=
  ∀ item ∈ items, item.weight = item.whole.toBinary64

/-- The weight of one whole number is below that of another if the number is, or if both are zero
and only the first has a minus sign. -/
theorem AreWhole.keyAt_lt_iff (h : AreWhole items) (i j : Fin items.length) :
    keyAt items i < keyAt items j ↔
      (items.get i).whole.toInt < (items.get j).whole.toInt ∨
        (items.get i).whole.toInt = (items.get j).whole.toInt ∧
          (items.get i).whole.isMinusZero = true ∧ (items.get j).whole.isMinusZero = false := by
  rw [keyAt, keyAt, h _ (List.get_mem items i), h _ (List.get_mem items j), Whole.key_lt_iff]

/-- Positions come in the order of the numbers, but for zeros with a minus sign. -/
theorem AreWhole.earlier_iff (h : AreWhole items) (i j : Fin items.length) :
    Earlier items i j ↔ ByWeight items i j := by
  have hij := h.keyAt_lt_iff i j
  have hji := h.keyAt_lt_iff j i
  -- weights are the same where neither is lower
  have hkeys : keyAt items i = keyAt items j ↔
      ¬keyAt items i < keyAt items j ∧ ¬keyAt items j < keyAt items i := by omega
  rw [Earlier, ByWeight, hkeys, hij, hji]
  -- the signs of zeros are all that is left besides numbers and positions
  cases (items.get i).whole.isMinusZero <;> cases (items.get j).whole.isMinusZero <;>
    simp only [reduceCtorEq, and_true, and_false, true_and, false_and, or_false, false_or] <;>
    omega

/-- No zero with a minus sign comes after a zero without it. -/
def MinusZerosFirst (items : List NavItem) : Prop :=
  ∀ i j : Fin items.length, i < j → (items.get i).whole.toInt = 0 →
    (items.get j).whole.isMinusZero = true → (items.get i).whole.isMinusZero = true

instance (items : List NavItem) : Decidable (MinusZerosFirst items) :=
  inferInstanceAs (Decidable (∀ i j : Fin items.length, i < j →
    (items.get i).whole.toInt = 0 → (items.get j).whole.isMinusZero = true →
      (items.get i).whole.isMinusZero = true))

/-- Where such zeros come first anyway, the order is that of the numbers. -/
theorem byWeight_iff (h : MinusZerosFirst items) (i j : Fin items.length) :
    ByWeight items i j ↔ ByNumber items i j := by
  rw [ByWeight, ByNumber]
  refine or_congr_right (and_congr_right fun heq => ⟨?_, fun hlt => ?_⟩)
  · rintro (⟨hi, hj⟩ | ⟨-, hlt⟩)
    · -- the zero with the sign stands in front of the other one, or it would have come after it
      have hzero := Whole.toInt_of_isMinusZero hi
      rcases lt_trichotomy i j with hlt | rfl | hgt
      · exact hlt
      · rw [hi] at hj
        exact absurd hj (by decide)
      · have hminus := h j i hgt (heq ▸ hzero) hi
        rw [hj] at hminus
        exact absurd hminus (by decide)
    · exact hlt
  · cases hj : (items.get j).whole.isMinusZero with
    | true =>
      -- then the first of them is a zero too, and has the sign by hypothesis
      have hi := h i j hlt (heq.trans (Whole.toInt_of_isMinusZero hj)) hj
      exact .inr ⟨hi, hlt⟩
    | false =>
      cases hi : (items.get i).whole.isMinusZero with
      | true => exact .inl ⟨rfl, rfl⟩
      | false => exact .inr ⟨rfl, hlt⟩

/-- Where a zero with a minus sign does come after another zero, their weights would fall. -/
theorem AreWhole.minusZerosFirst (h : AreWhole items) {order : List (Fin items.length)}
    (horder : IsOrder (ByNumber items) order) (hrising : Rising (order.map items.get)) :
    MinusZerosFirst items := by
  intro i j hlt hzero hminus
  by_contra hi
  rw [Bool.not_eq_true] at hi
  -- in the order of the numbers the two zeros keep their places
  have heq := hzero.trans (Whole.toInt_of_isMinusZero hminus).symm
  have hpair := ((horder.pair_sublist_iff i j).mpr (.inr ⟨heq, hlt⟩)).map items.get
  have hbefore := Binary64.le_iff.mp (List.pairwise_iff_forall_sublist.mp hrising hpair)
  have hfalls := (h.keyAt_lt_iff j i).mpr (.inr ⟨heq.symm, hminus, hi⟩)
  exact absurd hbefore (Int.not_le.mpr hfalls)

end NavItem

/-! ## The items of a page -/

namespace Navigation

open Markup

variable {navigation : Navigation} {doc : Document} {found : List NodeId} {loggedIn : Bool}

/-- A shown item has the weight that is written, whether it was read or configured. -/
theorem weight_of_mem_shown {item : NavItem} {number : Whole}
    (hshown : item ∈ navigation.shown doc found loggedIn) (h : item.whole? = some number) :
    item.weight = number.toBinary64 := by
  have hmem : item ∈ navigation.candidates doc found := by
    rw [shown] at hshown
    split at hshown
    · exact hshown
    · exact List.mem_of_mem_filter hshown
  rcases List.mem_append.mp hmem with hpage | hpath
  · obtain ⟨node, -, rfl⟩ := List.mem_map.mp hpage
    exact NavItem.weight_ofFields h
  · obtain ⟨path, -, rfl⟩ := List.mem_map.mp hpath
    exact NavItem.weight_ofTemplatePath h

/-- Items, and the markup of them, are shown ones by an order of their positions. -/
def IsArranged (navigation : Navigation) (shown : List NavItem)
    (before : Fin shown.length → Fin shown.length → Prop) (items : List NavItem) : Prop :=
  ∃ order, IsOrder before order ∧ items = order.map shown.get ∧
    navigation.markup items =
      String.join (order.map fun i => navigation.template.render (shown.get i).fields)

theorem isArranged_iff {shown items : List NavItem}
    {before : Fin shown.length → Fin shown.length → Prop} :
    navigation.IsArranged shown before items ↔
      ∃ order, IsOrder before order ∧ items = order.map shown.get := by
  refine exists_congr fun order => and_congr_right fun _ => ⟨And.left, ?_⟩
  rintro rfl
  refine ⟨rfl, ?_⟩
  rw [markup, List.map_map]
  rfl

/-- For every page, list of matches and navigation, where the weights of the shown items are
written as whole numbers of at most fifteen digits, with or without a sign, or left out: the items
stand in the order of these numbers, zeros with a minus sign first among the zeros, and else in the
order they had, those of the page before the template paths. That is the stable order of the numbers
exactly if no zero with a minus sign comes after a zero without it. -/
theorem items_arranged (navigation : Navigation) (doc : Document) (found : List NodeId)
    (loggedIn : Bool)
    (hwhole : ∀ item ∈ navigation.shown doc found loggedIn, item.whole?.isSome = true) :
    navigation.IsArranged (navigation.shown doc found loggedIn)
        (NavItem.ByWeight (navigation.shown doc found loggedIn))
        (navigation.items doc found loggedIn) ∧
      (navigation.IsArranged (navigation.shown doc found loggedIn)
          (NavItem.ByNumber (navigation.shown doc found loggedIn))
          (navigation.items doc found loggedIn) ↔
        NavItem.MinusZerosFirst (navigation.shown doc found loggedIn)) := by
  have hweights : NavItem.AreWhole (navigation.shown doc found loggedIn) := by
    intro item hitem
    obtain ⟨number, hnumber⟩ := Option.isSome_iff_exists.mp (hwhole item hitem)
    rw [weight_of_mem_shown hitem hnumber, NavItem.whole, hnumber, Option.getD_some]
  rw [isArranged_iff, isArranged_iff, items_eq]
  generalize navigation.shown doc found loggedIn = shown at *
  have horder := (NavItem.isOrder_positions shown).congr hweights.earlier_iff
  have hitems := NavItem.inOrder_eq_map shown
  refine ⟨⟨_, horder, hitems⟩, ?_, fun hfirst => ?_⟩
  · rintro ⟨order, hnumbers, heq⟩
    exact hweights.minusZerosFirst hnumbers (heq ▸ NavItem.rising_inOrder shown)
  · exact ⟨_, horder.congr (NavItem.byWeight_iff hfirst), hitems⟩

/-- A page of items with the given weights. -/
def weightPage (weights : List String) : Document :=
  weights.foldl
    (fun doc weight =>
      let (item, doc) := doc.createElement "li" [("data-weight", weight)]
      doc.appendChild Document.root item)
    {}

/-- The navigation of such a page, which writes the weights one after another. -/
def weightList (templatePaths : List TemplatePath) : Navigation :=
  { query := { first := { tag := some "li" } }
    fields := [⟨"weight", none, "data-weight"⟩]
    template := ⟨[.field "weight", .literal ";"]⟩
    templatePaths
    protectedPaths := [] }

/-- Signs and zeros in front, a weight that is left out, and numbers that come twice, the second
seven as the weight of a template path. -/
theorem items_arranged_signs :
    let navigation := weightList
      [{ href := "/t", label := "T", template := "/t", weight := .ofDecimal false 7 0 }]
    let doc := weightPage ["+007", "-3", "", "-0003"]
    let found : List NodeId := [⟨1⟩, ⟨2⟩, ⟨3⟩, ⟨4⟩]
    (∀ item ∈ navigation.shown doc found true, item.whole?.isSome = true) ∧
      (navigation.shown doc found true).map (·.whole.toInt) = [7, -3, 0, -3, 7] ∧
      navigation.IsArranged (navigation.shown doc found true)
        (NavItem.ByNumber (navigation.shown doc found true))
        (navigation.items doc found true) := by
  intro navigation doc found
  have hwhole : ∀ item ∈ navigation.shown doc found true, item.whole?.isSome = true := by
    decide +kernel
  obtain ⟨-, hnumbers⟩ := items_arranged navigation doc found true hwhole
  exact ⟨hwhole, by decide +kernel, hnumbers.mpr (by decide +kernel)⟩

/-- Of two zeros in a page the second one is put first if it is the one with a minus sign. -/
theorem not_always_by_number : ¬∀ (navigation : Navigation) (doc : Document) (found : List NodeId)
    (loggedIn : Bool),
    (∀ item ∈ navigation.shown doc found loggedIn, item.whole?.isSome = true) →
      navigation.IsArranged (navigation.shown doc found loggedIn)
        (NavItem.ByNumber (navigation.shown doc found loggedIn))
        (navigation.items doc found loggedIn) := by
  intro h
  obtain ⟨order, horder, hitems, -⟩ :=
    h (weightList []) (weightPage ["0", "-0"]) [⟨1⟩, ⟨2⟩] true (by decide +kernel)
  have hpair := (horder.pair_sublist_iff ⟨0, by decide +kernel⟩ ⟨1, by decide +kernel⟩).mpr
    (.inr (by decide +kernel))
  have hitem := hpair.map ((weightList []).shown (weightPage ["0", "-0"]) [⟨1⟩, ⟨2⟩] true).get
  rw [← hitems, items_eq] at hitem
  have hbefore := List.pairwise_iff_forall_sublist.mp (NavItem.rising_inOrder _) hitem
  rw [NavItem.Before] at hbefore
  revert hbefore
  decide +kernel

end Navigation

end ComposingProxy
