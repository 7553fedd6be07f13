import Mathlib.Data.String.Basic
import ComposingProxy.Proofs.Selector.Reading
import ComposingProxy.Proofs.Text.Utf8

/-!
# Whole selectors and what is wrong with the others

The reader gives the place of a character that it refuses by what is left of the text there. So
whatever it refuses stands in front of an end of the text (`Fault.IsIn`), and counting bytes leads
back to it (`get?_of_error`).

> `parse_iff_isSelector`: a text is read as a selector exactly if the grammar says that it is
> that selector; and where a character is refused, it stands at the place that is given for it.
-/

namespace ComposingProxy.Markup

namespace Selector.Parser

open Grammar

/-! ## Places of faults -/

/-- If a fault names a character and what follows it, that is how the text ends. -/
def Fault.IsIn (fault : Fault) (s : List Char) : Prop :=
  ∀ found rest, fault = .unexpected found rest → found :: rest <:+ s

/-- A fault at a place names what stands there, or the end. -/
theorem Fault.isIn_at (s : List Char) : (Fault.at s).IsIn s := by
  intro found rest h
  cases s with
  | nil => exact absurd h (by simp [Fault.at])
  | cons c s =>
    obtain ⟨rfl, rfl⟩ := Fault.unexpected.inj h
    exact List.suffix_refl _

/-- A fault in the end of a text is one in the text. -/
theorem Fault.IsIn.mono {fault : Fault} {s t : List Char} (h : fault.IsIn t) (hsuffix : t <:+ s) :
    fault.IsIn s := fun found rest heq => (h found rest heq).trans hsuffix

theorem skip_suffix (s : List Char) : skip s <:+ s := List.dropWhile_suffix _

/-- A fault in a name is where the name should begin. -/
theorem isIn_of_someName {s : List Char} {fault : Fault} (h : someName s = .error fault) :
    fault.IsIn s := by
  unfold someName at h
  split at h
  · exact Except.error.inj h ▸ Fault.isIn_at s
  · exact absurd h (by simp)

/-- A value is refused only because its quote is not closed. -/
theorem eq_of_value_eq_error {s : List Char} {fault : Fault} (h : value s = .error fault) :
    fault = .unterminated := by
  unfold value at h
  split at h
  · split at h
    · split at h
      · exact (Except.error.inj h).symm
      · exact absurd h (by simp)
    · exact absurd h (by simp)
  · exact absurd h (by simp)

/-- A fault in a condition on an attribute is in what was left to read. -/
theorem isIn_of_attrCondition {s : List Char} {fault : Fault}
    (h : attrCondition s = .error fault) : fault.IsIn s := by
  have hopen : Fault.IsIn .unterminated s := fun _ _ heq => absurd heq (by simp)
  unfold attrCondition at h
  dsimp only [name] at h
  split at h
  · obtain rfl := Except.error.inj h
    split
    · exact hopen
    · exact (Fault.isIn_at (skip s)).mono (skip_suffix s)
  · split at h
    · exact absurd h (by simp)
    · split at h
      · next hvalue =>
        obtain rfl := Except.error.inj h
        exact eq_of_value_eq_error hvalue ▸ hopen
      · split at h
        · exact absurd h (by simp)
        · exact Except.error.inj h ▸ hopen
    · exact Except.error.inj h ▸ hopen
    · next c rest _ _ heq =>
      obtain rfl := Except.error.inj h
      have hin : c :: rest <:+ (skip s).dropWhile isNameChar := heq ▸ skip_suffix _
      exact (Fault.isIn_at (c :: rest)).mono
        ((hin.trans (List.dropWhile_suffix _)).trans (skip_suffix s))

theorem isIn_of_conditions {s : List Char} {fault : Fault} (h : conditions s = .error fault) :
    fault.IsIn s := by
  fun_induction conditions s with
  | case1 rest _ hname | case4 rest _ hname =>
    obtain rfl := Except.error.inj h
    exact (isIn_of_someName hname).mono (List.suffix_cons _ _)
  | case2 rest n after hname _ hmore ih | case5 rest n after hname _ hmore ih =>
    obtain rfl := Except.error.inj h
    obtain ⟨t, -, -, rfl⟩ := isName_of_someName hname
    exact (ih hmore).mono ((List.suffix_append t after).trans (List.suffix_cons _ _))
  | case7 rest _ hattr =>
    obtain rfl := Except.error.inj h
    exact (isIn_of_attrCondition hattr).mono (List.suffix_cons _ _)
  | case8 rest condition after hattr _ hmore ih =>
    obtain rfl := Except.error.inj h
    obtain ⟨t, -, rfl⟩ := isAttribute_of_attrCondition hattr
    exact (ih hmore).mono ((List.suffix_append t after).trans (List.suffix_cons _ _))
  | case3 | case6 | case9 | case10 => exact absurd h (by simp)

theorem typeName_suffix (s : List Char) : (typeName s).2.2 <:+ s := by
  rcases isTypeName_of_typeName s with ⟨t, -, -, hs⟩ | hnone
  · exact ⟨t, hs.symm⟩
  · exact ⟨[], congrArg (·.2.2) hnone⟩

theorem isIn_of_compound {s : List Char} {fault : Fault} (h : compound s = .error fault) :
    fault.IsIn s := by
  unfold compound at h
  dsimp only at h
  split at h
  · next hconditions =>
    obtain rfl := Except.error.inj h
    exact (isIn_of_conditions hconditions).mono (typeName_suffix s)
  · next last hconditions =>
    obtain ⟨t, -, hrest⟩ := isConditions_of_conditions hconditions
    split at h
    · have hlast : last <:+ (typeName s).2.2 := ⟨t, hrest.symm⟩
      exact Except.error.inj h ▸ (Fault.isIn_at last).mono (hlast.trans (typeName_suffix s))
    · exact absurd h (by simp)

theorem isIn_of_combinator {s : List Char} {fault : Fault} (h : combinator s = .error fault) :
    fault.IsIn s := by
  unfold combinator at h
  split at h
  · exact absurd h (by simp)
  · exact absurd h (by simp)
  · next c rest _ heq =>
    split at h
    · exact absurd h (by simp)
    · obtain rfl := Except.error.inj h
      exact (Fault.isIn_at (c :: rest)).mono (heq ▸ skip_suffix s)

/-- A fault in steps is the fault of a combinator or of a compound. -/
theorem isIn_of_steps {s : List Char} {fault : Fault} (h : steps s = .error fault) :
    fault.IsIn s := by
  fun_induction steps s with
  | case1 s _ hcombinator =>
    obtain rfl := Except.error.inj h
    exact isIn_of_combinator hcombinator
  | case3 => exact fun _ _ heq => absurd (Except.error.inj h ▸ heq) (by simp)
  | case4 s combinator rest hcombinator _ _ hcompound =>
    obtain rfl := Except.error.inj h
    obtain ⟨t, -, rfl⟩ := isCombinator_of_combinator hcombinator
    exact (isIn_of_compound hcompound).mono (List.suffix_append t rest)
  | case5 s combinator rest hcombinator _ compound after hcompound _ hmore ih =>
    obtain rfl := Except.error.inj h
    obtain ⟨t, -, rfl⟩ := isCombinator_of_combinator hcombinator
    obtain ⟨u, -, rfl⟩ := isCompound_of_compound hcompound
    exact (ih hmore).mono ((List.suffix_append u after).trans (List.suffix_append t _))
  | case2 | case6 => exact absurd h (by simp)

/-- Any fault is in the text of the selector. -/
theorem isIn_of_selector {s : List Char} {fault : Fault} (h : selector s = .error fault) :
    fault.IsIn s := by
  unfold selector at h
  dsimp only at h
  split at h
  · exact fun _ _ heq => absurd (Except.error.inj h ▸ heq) (by simp)
  · split at h
    · next hcompound =>
      obtain rfl := Except.error.inj h
      exact (isIn_of_compound hcompound).mono (skip_suffix s)
    · next rest hfirst =>
      split at h
      · next hsteps =>
        obtain rfl := Except.error.inj h
        obtain ⟨t, -, htext⟩ := isCompound_of_compound hfirst
        have hrest : rest <:+ skip s := ⟨t, htext.symm⟩
        exact (isIn_of_steps hsteps).mono (hrest.trans (skip_suffix s))
      · exact absurd h (by simp)

/-! ## Whole texts -/

/-- The place of a fault is where its character stands, counted in bytes. -/
theorem get?_of_error {input : List Char} {fault : Fault} (h : fault.IsIn input) {found : Char}
    {offset : Nat} (herror : fault.error input = .unexpected found offset) :
    String.Pos.Raw.get? (String.ofList input) ⟨offset⟩ = some found := by
  have hlength : ∀ s : List Char, (Text.Utf8.encode s).length = String.utf8Len s := by
    intro s
    induction s with
    | nil => rfl
    | cons c s ih =>
      rw [Text.Utf8.encode_cons, List.length_append, ih, String.utf8Len_cons,
        String.length_utf8EncodeChar, Nat.add_comm]
  cases fault with
  | unexpected c rest =>
    obtain ⟨before, rfl⟩ := h c rest rfl
    obtain ⟨rfl, rfl⟩ := SelectorError.unexpected.inj herror
    rw [Text.Utf8.encode_append, List.length_append, Nat.add_sub_cancel, hlength,
      String.get?_of_valid]
    rfl
  | empty | unterminated | dangling => exact absurd herror (by simp [Fault.error])

/-- A text is read as a selector exactly if it is that selector by the grammar. What is read has
a step for matching to begin with, and a character that is refused stands at the place that is given
for it. -/
theorem parse_iff_isSelector (text : String) :
    (∀ found : Selector, Selector.parse text = .ok found ↔ IsSelector text.toList found) ∧
      (∀ found : Selector, Selector.parse text = .ok found → 0 < found.row.length ∧
        ∀ doc id, found.isMatch doc id = matchesAt doc found.row (found.row.length - 1) id) ∧
      ∀ (found : Char) (offset : Nat), Selector.parse text = .error (.unexpected found offset) →
        String.Pos.Raw.get? text ⟨offset⟩ = some found := by
  have hrow : ∀ found : Selector, 0 < found.row.length := fun found => by
    rw [row, List.length_cons]
    exact Nat.succ_pos _
  unfold Selector.parse
  refine ⟨fun found => ⟨fun h => ?_, fun h => ?_⟩,
    fun found _ => ⟨hrow found, found.isMatch_eq_matchesAt⟩, fun found offset h => ?_⟩
  · split at h
    · next hread => exact isSelector_of_selector (Except.ok.inj h ▸ hread)
    · exact absurd h (by simp)
  · rw [selector_of_isSelector h]
  · split at h
    · exact absurd h (by simp)
    · next hfault =>
      have hget := get?_of_error (isIn_of_selector hfault) (Except.error.inj h)
      rwa [String.ofList_toList] at hget

/-- The links of a list, and below them what has a certain attribute. -/
def sampleSelector : Selector :=
  { first := { tag := some "nav" }
    steps := [⟨.child, { tag := some "li", conditions := [.hasClass "item"] }⟩,
      ⟨.descendant, { conditions := [.hasId "top", .attrEquals "data-é" "x]\""] }⟩] }

/-- Blanks are skipped wherever they may stand, and places are counted in bytes. -/
theorem parse_iff_isSelector_sample :
    Selector.parse " nav>li.item  #top[ data-é = 'x]\"' ] " = .ok sampleSelector ∧
      IsSelector " nav>li.item  #top[ data-é = 'x]\"' ] ".toList sampleSelector ∧
      0 < sampleSelector.row.length ∧
      Selector.parse "é,b" = .error (.unexpected ',' 2) ∧
      String.Pos.Raw.get? "é,b" ⟨2⟩ = some ',' := by
  have hread : Selector.parse " nav>li.item  #top[ data-é = 'x]\"' ] " = .ok sampleSelector := by
    decide +kernel
  have hrefused : Selector.parse "é,b" = .error (.unexpected ',' 2) := by decide +kernel
  obtain ⟨hiff, hrow, -⟩ := parse_iff_isSelector " nav>li.item  #top[ data-é = 'x]\"' ] "
  obtain ⟨-, -, hplace⟩ := parse_iff_isSelector "é,b"
  exact ⟨hread, (hiff _).mp hread, (hrow _ hread).1, hrefused, hplace _ _ hrefused⟩

end Selector.Parser

end ComposingProxy.Markup
