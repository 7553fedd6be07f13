import ComposingProxy.Markup.Selector.Parser

/-!
# The grammar of selectors

Which texts are selectors, and which selectors they are, as a grammar that knows nothing of
how texts are read: one relation for each part of a selector, from the inside out. In a
compound there is an element name or a star, or at least one condition; blanks may stand
around a `>` and around what is in brackets, and at both ends of the whole.

Reading never has to look ahead because the characters that begin a part do not continue
the one before it.

> `isMatch_eq_matchesAt`: the steps that are read are those that matching walks through.
> `isNameChar_of_isBlank`, `isNameChar_of_mem_marks`: neither blanks nor marks are in names.
> `IsCompound.head`: a compound begins with neither a blank nor a `>`.
-/

namespace ComposingProxy.Markup

open Text (isBlank isLetter)
open Selector.Parser (isNameChar)

namespace Selector

/-! ## Steps in a row -/

/-- The steps in a row, the first compound as one of them. No element has to stand before
the one of the first step, so its combinator is never looked at. -/
def row (selector : Selector) : List Step := ⟨.descendant, selector.first⟩ :: selector.steps

/-- Whether a row of elements that ends in a node satisfies a row of steps up to the one at an
index; nothing does if there is no such step. -/
def matchesAt (doc : Document) (row : List Step) : Nat → NodeId → Bool
  | 0, id => (row[0]?).any (·.compound.holdsAt doc id)
  | index + 1, id =>
    (row[index + 1]?).any fun step =>
      step.compound.holdsAt doc id &&
        match step.combinator with
        | .child => (doc.parent? id).any (matchesAt doc row index)
        | .descendant => (doc.ancestors id).any (matchesAt doc row index)

/-- Trying the steps from the last to the first is matching the row at the index of the last. -/
theorem matchesFrom_take (selector : Selector) (doc : Document) :
    ∀ (index : Nat) (id : NodeId), index ≤ selector.steps.length →
      matchesFrom doc selector.first (selector.steps.take index).reverse id =
        matchesAt doc selector.row index id := by
  intro index
  induction index with
  | zero => intro id _; rfl
  | succ index ih =>
    intro id hindex
    have hlt : index < selector.steps.length := hindex
    have hstep : selector.row[index + 1]? = some selector.steps[index] := by
      rw [row, List.getElem?_cons_succ, List.getElem?_eq_getElem hlt]
    have hearlier : matchesFrom doc selector.first (selector.steps.take index).reverse =
        matchesAt doc selector.row index := funext fun x => ih x (Nat.le_of_lt hlt)
    rw [List.take_succ_eq_append_getElem hlt, List.reverse_concat, matchesFrom, matchesAt, hstep,
      hearlier]
    rfl

/-- Matching looks at the steps from the last one on, and at each by its index. -/
theorem isMatch_eq_matchesAt (selector : Selector) (doc : Document) (id : NodeId) :
    selector.isMatch doc id = matchesAt doc selector.row (selector.row.length - 1) id := by
  have hlast : selector.row.length - 1 = selector.steps.length := by
    rw [row, List.length_cons, Nat.add_sub_cancel]
  rw [hlast, ← selector.matchesFrom_take doc _ id (Nat.le_refl _), List.take_length, isMatch]

namespace Grammar

/-! ## Texts -/

/-- Any number of blanks. -/
def IsBlanks (s : List Char) : Prop := ∀ c ∈ s, isBlank c = true

/-- Any number of name characters. -/
def IsNameText (s : List Char) : Prop := ∀ c ∈ s, isNameChar c = true

/-- A name: one or more name characters. -/
def IsName (s : List Char) : Prop := s ≠ [] ∧ IsNameText s

/-- A value: a text without its quote between two quotes, or any number of name characters. -/
inductive IsValue : List Char → String → Prop
  | quoted {quote : Char} {text : List Char} (hquote : quote = '"' ∨ quote = '\'')
    (htext : quote ∉ text) : IsValue (quote :: (text ++ [quote])) (String.ofList text)
  | bare {text : List Char} (h : IsNameText text) : IsValue text (String.ofList text)

/-- What stands between the brackets of a condition on an attribute, and the closing one. -/
inductive IsAttribute : List Char → Condition → Prop
  | hasAttr {before name after : List Char} (hbefore : IsBlanks before) (hname : IsName name)
    (hafter : IsBlanks after) :
    IsAttribute (before ++ (name ++ (after ++ [']']))) (.hasAttr (String.ofList name))
  | attrEquals {before name after lead text trail : List Char} {value : String}
    (hbefore : IsBlanks before) (hname : IsName name) (hafter : IsBlanks after)
    (hlead : IsBlanks lead) (hvalue : IsValue text value) (htrail : IsBlanks trail) :
    IsAttribute (before ++ (name ++ (after ++ '=' :: (lead ++ (text ++ (trail ++ [']']))))))
      (.attrEquals (String.ofList name) value)

/-- A condition. -/
inductive IsCondition : List Char → Condition → Prop
  | hasId {name : List Char} (h : IsName name) :
    IsCondition ('#' :: name) (.hasId (String.ofList name))
  | hasClass {name : List Char} (h : IsName name) :
    IsCondition ('.' :: name) (.hasClass (String.ofList name))
  | bracketed {s : List Char} {condition : Condition} (h : IsAttribute s condition) :
    IsCondition ('[' :: s) condition

/-- Any number of conditions, one directly behind the other. -/
inductive IsConditions : List Char → List Condition → Prop
  | nil : IsConditions [] []
  | cons {s t : List Char} {condition : Condition} {more : List Condition}
    (h : IsCondition s condition) (hmore : IsConditions t more) :
    IsConditions (s ++ t) (condition :: more)

/-- A star, or an element name, which begins with a letter. -/
inductive IsTypeName : List Char → Option String → Prop
  | star : IsTypeName ['*'] none
  | named {c : Char} {rest : List Char} (hc : isLetter c = true) (hrest : IsNameText rest) :
    IsTypeName (c :: rest) (some (String.ofList (c :: rest)))

/-- A compound: a star or an element name and then any conditions, or conditions alone. -/
inductive IsCompound : List Char → Compound → Prop
  | typed {s t : List Char} {tag : Option String} {conditions : List Condition}
    (hname : IsTypeName s tag) (hconditions : IsConditions t conditions) :
    IsCompound (s ++ t) { tag, conditions }
  | untyped {s : List Char} {conditions : List Condition} (hne : conditions ≠ [])
    (hconditions : IsConditions s conditions) : IsCompound s { conditions }

/-- A combinator: a `>` that may have blanks around it, or blanks alone. -/
inductive IsCombinator : List Char → Combinator → Prop
  | child {before after : List Char} (hbefore : IsBlanks before) (hafter : IsBlanks after) :
    IsCombinator (before ++ '>' :: after) .child
  | descendant {s : List Char} (hne : s ≠ []) (h : IsBlanks s) : IsCombinator s .descendant

/-- Steps: each combinator belongs to the compound behind it. -/
inductive IsSteps : List Char → List Step → Prop
  | nil : IsSteps [] []
  | cons {s t u : List Char} {combinator : Combinator} {compound : Compound} {more : List Step}
    (hcombinator : IsCombinator s combinator) (hcompound : IsCompound t compound)
    (hmore : IsSteps u more) : IsSteps (s ++ (t ++ u)) (⟨combinator, compound⟩ :: more)

/-- A whole selector. -/
inductive IsSelector : List Char → Selector → Prop
  | intro {before s t after : List Char} {first : Compound} {steps : List Step}
    (hbefore : IsBlanks before) (hfirst : IsCompound s first) (hsteps : IsSteps t steps)
    (hafter : IsBlanks after) : IsSelector (before ++ (s ++ (t ++ after))) { first, steps }

/-! ## Characters -/

/-- The numbers of the blanks. -/
def blankNumbers : List Nat :=
  [9, 10, 11, 12, 13, 0x20, 0x85, 0xA0, 0x1680, 0x2000, 0x2001, 0x2002, 0x2003, 0x2004, 0x2005,
    0x2006, 0x2007, 0x2008, 0x2009, 0x200A, 0x2028, 0x2029, 0x202F, 0x205F, 0x3000]

/-- The characters that stand for something in selectors. -/
def marks : List Char := ['*', '#', '.', '[', ']', '=', '>', '"', '\'']

/-- A blank ends a name. -/
theorem isNameChar_of_isBlank {c : Char} (h : isBlank c = true) : isNameChar c = false := by
  have hall : ∀ n ∈ blankNumbers, isNameChar (Char.ofNat n) = false := by decide +kernel
  have hmem : c.toNat ∈ blankNumbers := by
    simp only [isBlank, Bool.or_eq_true, Bool.and_eq_true, decide_eq_true_eq, beq_iff_eq] at h
    simp only [blankNumbers, List.mem_cons, List.not_mem_nil, or_false]
    omega
  rw [← Char.ofNat_toNat c]
  exact hall _ hmem

theorem isNameChar_of_mem_marks {c : Char} (h : c ∈ marks) : isNameChar c = false := by
  have hall : marks.all (fun mark => !isNameChar mark) = true := by decide +kernel
  simpa using List.all_eq_true.mp hall c h

theorem isBlank_of_mem_marks {c : Char} (h : c ∈ marks) : isBlank c = false := by
  have hall : marks.all (fun mark => !isBlank mark) = true := by decide
  simpa using List.all_eq_true.mp hall c h

/-- A letter can begin a name. -/
theorem isNameChar_of_isLetter {c : Char} (h : isLetter c = true) : isNameChar c = true := by
  rw [isNameChar, Text.isLetterOrDigit_of_isLetter h]
  rfl

theorem isBlank_of_isNameChar {c : Char} (h : isNameChar c = true) : isBlank c = false := by
  cases hblank : isBlank c with
  | false => rfl
  | true => exact absurd (h.symm.trans (isNameChar_of_isBlank hblank)) (by simp)

/-- A name has no mark in it. -/
theorem not_mem_marks_of_isNameChar {c : Char} (h : isNameChar c = true) : c ∉ marks :=
  fun hmark => absurd (h.symm.trans (isNameChar_of_mem_marks hmark)) (by simp)

/-! ## What begins a part -/

/-- A condition is told by its first character. -/
theorem IsCondition.head {s : List Char} {condition : Condition} (h : IsCondition s condition) :
    ∃ c rest, s = c :: rest ∧ (c = '#' ∨ c = '.' ∨ c = '[') := by
  cases h with
  | @hasId name _ => exact ⟨'#', name, rfl, Or.inl rfl⟩
  | @hasClass name _ => exact ⟨'.', name, rfl, Or.inr (Or.inl rfl)⟩
  | @bracketed t _ _ => exact ⟨'[', t, rfl, Or.inr (Or.inr rfl)⟩

theorem IsConditions.head {s : List Char} {conditions : List Condition}
    (h : IsConditions s conditions) (hne : conditions ≠ []) :
    ∃ c rest, s = c :: rest ∧ (c = '#' ∨ c = '.' ∨ c = '[') := by
  cases h with
  | nil => exact absurd rfl hne
  | @cons s t _ _ hcondition _ =>
    obtain ⟨c, rest, rfl, hc⟩ := hcondition.head
    exact ⟨c, rest ++ t, rfl, hc⟩

/-- A compound begins with neither a blank nor a `>`. -/
theorem IsCompound.head {s : List Char} {compound : Compound} (h : IsCompound s compound) :
    ∃ c rest, s = c :: rest ∧ isBlank c = false ∧ c ≠ '>' := by
  cases h with
  | @typed s t _ _ hname _ =>
    cases hname with
    | star => exact ⟨'*', t, rfl, by decide, by decide⟩
    | @named c rest hc _ =>
      have hchar := isNameChar_of_isLetter hc
      refine ⟨c, rest ++ t, rfl, isBlank_of_isNameChar hchar, ?_⟩
      rintro rfl
      exact not_mem_marks_of_isNameChar hchar (by decide)
  | untyped hne hconditions =>
    obtain ⟨c, rest, rfl, hc⟩ := hconditions.head hne
    refine ⟨c, rest, rfl, ?_⟩
    rcases hc with rfl | rfl | rfl <;> exact ⟨by decide, by decide⟩

/-- What may stand directly behind a compound: blanks, a `>`, or nothing. -/
def EndsCompound (rest : List Char) : Prop := ∀ c ∈ rest.head?, isBlank c = true ∨ c = '>'

theorem EndsCompound.of_isBlanks {s : List Char} (h : IsBlanks s) : EndsCompound s :=
  fun c hc => Or.inl (h c (List.mem_of_head? hc))

/-- A compound ends where steps begin, or where nothing is left but blanks. -/
theorem EndsCompound.of_isSteps {s after : List Char} {steps : List Step} (h : IsSteps s steps)
    (hafter : IsBlanks after) : EndsCompound (s ++ after) := by
  cases h with
  | nil => exact .of_isBlanks hafter
  | @cons s t u _ _ _ hcombinator _ _ =>
    cases hcombinator with
    | @child before tail hbefore _ =>
      intro c hc
      cases before with
      | nil => exact Or.inr (Option.some.inj hc).symm
      | cons b before => exact Or.inl (Option.some.inj hc ▸ hbefore b List.mem_cons_self)
    | descendant hne hblanks =>
      obtain ⟨b, blanks, rfl⟩ := List.exists_cons_of_ne_nil hne
      intro c hc
      exact Or.inl (Option.some.inj hc ▸ hblanks b List.mem_cons_self)

/-- Where a compound ends, its last name does. -/
theorem EndsCompound.isNameChar {rest : List Char} (h : EndsCompound rest) :
    ∀ c ∈ rest.head?, Parser.isNameChar c = false := by
  intro c hc
  rcases h c hc with hblank | rfl
  · exact isNameChar_of_isBlank hblank
  · exact isNameChar_of_mem_marks (by decide)

end Grammar

end Selector

end ComposingProxy.Markup
