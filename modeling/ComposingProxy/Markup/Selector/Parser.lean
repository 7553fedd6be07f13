import ComposingProxy.Markup.Selector.Basic
import ComposingProxy.Text.Blank
import ComposingProxy.Text.Letter
import ComposingProxy.Text.Utf8

/-!
# Reading selectors

A selector is written as compounds with `>` or blanks between them. A compound is an
optional `*` or element name and then any number of `#id`, `.class`, `[name]` and
`[name=value]`, at least one of all these; a value is quoted or made of name characters.

Every part of the reader gives back what it has not read, so the place of a fault is
what is left there.
-/

namespace ComposingProxy.Markup

/-- Why a text is not a selector. -/
inductive SelectorError where
  | empty
  /-- A character that does not belong at its offset in bytes. -/
  | unexpected (found : Char) (offset : Nat)
  | unterminatedAttribute
  | danglingCombinator
  deriving DecidableEq, Repr

/-- The wording of an error. -/
def SelectorError.message : SelectorError → String
  | .empty => "empty selector"
  | .unexpected found offset =>
    "unexpected \x60" ++ String.ofList [found] ++ "\x60 at offset " ++ Text.decimal offset
  | .unterminatedAttribute => "unterminated attribute selector"
  | .danglingCombinator => "dangling combinator"

namespace Selector.Parser

open Text (isBlank isLetter isLetterOrDigit)

/-- A fault, with the rest of the text where it is one of place. -/
inductive Fault where
  | empty
  | unexpected (found : Char) (rest : List Char)
  | unterminated
  | dangling
  deriving DecidableEq, Repr

/-- The fault of a rest in which something else was due. -/
def Fault.at : List Char → Fault
  | [] => .dangling
  | c :: rest => .unexpected c rest

/-- A character of a name. -/
def isNameChar (c : Char) : Bool := isLetterOrDigit c || c == '-' || c == '_'

/-- The rest after blanks. -/
def skip (s : List Char) : List Char := s.dropWhile isBlank

/-- A name, perhaps empty, and the rest. -/
def name (s : List Char) : String × List Char :=
  (String.ofList (s.takeWhile isNameChar), s.dropWhile isNameChar)

/-- A name that must not be empty. -/
def someName (s : List Char) : Except Fault (String × List Char) :=
  if (s.takeWhile isNameChar).isEmpty then .error (.at s) else .ok (name s)

/-! ## Attributes -/

/-- A value: quoted, or a name. -/
def value (s : List Char) : Except Fault (String × List Char) :=
  match s with
  | c :: rest =>
    if c = '"' ∨ c = '\'' then
      match rest.dropWhile (· != c) with
      | [] => .error .unterminated
      | _ :: after => .ok (String.ofList (rest.takeWhile (· != c)), after)
    else .ok (name s)
  | [] => .ok (name s)

/-- A condition on an attribute after its opening bracket. -/
def attrCondition (s : List Char) : Except Fault (Condition × List Char) :=
  let s := skip s
  if (s.takeWhile isNameChar).isEmpty then
    .error (if s.isEmpty then .unterminated else .at s)
  else
    let (attrName, s) := name s
    match skip s with
    | ']' :: rest => .ok (.hasAttr attrName, rest)
    | '=' :: rest =>
      match value (skip rest) with
      | .error fault => .error fault
      | .ok (value, rest) =>
        match skip rest with
        | ']' :: rest => .ok (.attrEquals attrName value, rest)
        | _ => .error .unterminated
    | [] => .error .unterminated
    | c :: rest => .error (.unexpected c rest)

/-! ## What is left is never more than there was -/

theorem length_dropWhile_le {α : Type} (p : α → Bool) (s : List α) :
    (s.dropWhile p).length ≤ s.length :=
  (List.dropWhile_suffix p).length_le

theorem length_name_le (s : List Char) : (name s).2.length ≤ s.length :=
  length_dropWhile_le _ _

theorem length_someName_le {s : List Char} {n : String} {rest : List Char}
    (h : someName s = .ok (n, rest)) : rest.length ≤ s.length := by
  unfold someName at h
  split at h
  · simp at h
  · simp only [Except.ok.injEq] at h
    have := length_name_le s
    rw [h] at this
    exact this

theorem length_value_le {s : List Char} {v : String} {rest : List Char}
    (h : value s = .ok (v, rest)) : rest.length ≤ s.length := by
  unfold value at h
  split at h
  · next c tail =>
    split at h
    · split at h
      · simp at h
      · next d after hafter =>
        simp only [Except.ok.injEq, Prod.mk.injEq] at h
        have := length_dropWhile_le (· != c) tail
        rw [hafter] at this
        simp only [List.length_cons] at this ⊢
        rw [← h.2]; omega
    · simp only [Except.ok.injEq] at h
      have := length_name_le (c :: tail)
      rw [h] at this
      exact this
  · simp only [Except.ok.injEq] at h
    have := length_name_le []
    rw [h] at this
    exact this

theorem length_attrCondition_le {s : List Char} {c : Condition} {rest : List Char}
    (h : attrCondition s = .ok (c, rest)) : rest.length ≤ s.length := by
  have hskip : ∀ t : List Char, (skip t).length ≤ t.length := fun t => length_dropWhile_le _ t
  unfold attrCondition at h
  simp only at h
  split at h
  · simp at h
  · have hn := length_name_le (skip s)
    have h0 := hskip s
    have h1 := hskip (name (skip s)).2
    split at h
    · next after hafter =>
      simp only [Except.ok.injEq, Prod.mk.injEq] at h
      rw [hafter] at h1; simp only [List.length_cons] at h1
      rw [← h.2]; omega
    · next after hafter =>
      rw [hafter] at h1; simp only [List.length_cons] at h1
      split at h
      · simp at h
      · next v rest' hv =>
        have h2 := length_value_le hv
        have h3 := hskip after
        have h4 := hskip rest'
        split at h
        · next last hlast =>
          simp only [Except.ok.injEq, Prod.mk.injEq] at h
          rw [hlast] at h4; simp only [List.length_cons] at h4
          rw [← h.2]; omega
        · simp at h
    · simp at h
    · simp at h

/-! ## Compounds -/

/-- The conditions at the front of a text. -/
def conditions (s : List Char) : Except Fault (List Condition × List Char) :=
  match s with
  | '#' :: rest =>
    match _h : someName rest with
    | .error fault => .error fault
    | .ok (n, after) =>
      match conditions after with
      | .error fault => .error fault
      | .ok (more, last) => .ok (.hasId n :: more, last)
  | '.' :: rest =>
    match _h : someName rest with
    | .error fault => .error fault
    | .ok (n, after) =>
      match conditions after with
      | .error fault => .error fault
      | .ok (more, last) => .ok (.hasClass n :: more, last)
  | '[' :: rest =>
    match _h : attrCondition rest with
    | .error fault => .error fault
    | .ok (condition, after) =>
      match conditions after with
      | .error fault => .error fault
      | .ok (more, last) => .ok (condition :: more, last)
  | _ => .ok ([], s)
termination_by s.length
decreasing_by
  · have := length_someName_le _h; simp only [List.length_cons]; omega
  · have := length_someName_le _h; simp only [List.length_cons]; omega
  · have := length_attrCondition_le _h; simp only [List.length_cons]; omega

/-- A star or an element name at the front of a text: whether there is one, the name, and
the rest. -/
def typeName (s : List Char) : Bool × Option String × List Char :=
  match s with
  | '*' :: rest => (true, none, rest)
  | c :: _ => if isLetter c then (true, some (name s).1, (name s).2) else (false, none, s)
  | [] => (false, none, s)

/-- A compound. -/
def compound (s : List Char) : Except Fault (Compound × List Char) :=
  let (named, tag, rest) := typeName s
  match conditions rest with
  | .error fault => .error fault
  | .ok (found, last) =>
    if !named && found.isEmpty then .error (.at last) else .ok ({ tag, conditions := found }, last)

theorem length_conditions_le {s : List Char} {found : List Condition} {last : List Char}
    (h : conditions s = .ok (found, last)) : last.length ≤ s.length := by
  fun_induction conditions s generalizing found last with
  | case1 => simp at h
  | case2 => simp at h
  | case3 rest n after hn more last' hmore ih =>
    simp only [Except.ok.injEq, Prod.mk.injEq] at h
    have := length_someName_le hn
    have := ih hmore
    rw [← h.2]; simp only [List.length_cons]; omega
  | case4 => simp at h
  | case5 => simp at h
  | case6 rest n after hn more last' hmore ih =>
    simp only [Except.ok.injEq, Prod.mk.injEq] at h
    have := length_someName_le hn
    have := ih hmore
    rw [← h.2]; simp only [List.length_cons]; omega
  | case7 => simp at h
  | case8 => simp at h
  | case9 rest condition after hc more last' hmore ih =>
    simp only [Except.ok.injEq, Prod.mk.injEq] at h
    have := length_attrCondition_le hc
    have := ih hmore
    rw [← h.2]; simp only [List.length_cons]; omega
  | case10 =>
    simp only [Except.ok.injEq, Prod.mk.injEq] at h
    obtain ⟨-, rfl⟩ := h
    exact Nat.le_refl _

theorem length_typeName_le (s : List Char) : (typeName s).2.2.length ≤ s.length := by
  unfold typeName
  split
  · simp
  · split
    · exact length_name_le _
    · exact Nat.le_refl _
  · exact Nat.le_refl _

theorem length_compound_le {s : List Char} {c : Compound} {last : List Char}
    (h : compound s = .ok (c, last)) : last.length ≤ s.length := by
  unfold compound at h
  simp only at h
  split at h
  · simp at h
  · next found rest hfound =>
    split at h
    · simp at h
    · simp only [Except.ok.injEq, Prod.mk.injEq] at h
      rw [← h.2]
      exact Nat.le_trans (length_conditions_le hfound) (length_typeName_le s)

/-! ## Steps -/

/-- The combinator at the front of a text and the rest in which a compound is due; `none`
at the end of the text. -/
def combinator (s : List Char) : Except Fault (Option (Combinator × List Char)) :=
  match skip s with
  | [] => .ok none
  | '>' :: rest => .ok (some (.child, skip rest))
  | c :: rest =>
    if rest.length + 1 < s.length then .ok (some (.descendant, c :: rest))
    else .error (.unexpected c rest)

theorem length_combinator_lt {s : List Char} {c : Combinator} {rest : List Char}
    (h : combinator s = .ok (some (c, rest))) : rest.length < s.length := by
  have hskip : (skip s).length ≤ s.length := length_dropWhile_le _ s
  unfold combinator at h
  split at h
  · simp at h
  · next after hafter =>
    simp only [Except.ok.injEq, Option.some.injEq, Prod.mk.injEq] at h
    have h1 : (skip after).length ≤ after.length := length_dropWhile_le _ after
    rw [hafter] at hskip; simp only [List.length_cons] at hskip
    rw [← h.2]; omega
  · next d after hd hafter =>
    split at h
    · simp only [Except.ok.injEq, Option.some.injEq, Prod.mk.injEq] at h
      rw [← h.2]; simpa using ‹_›
    · simp at h

/-- The steps of a text after its first compound. -/
def steps (s : List Char) : Except Fault (List Step) :=
  match _h : combinator s with
  | .error fault => .error fault
  | .ok none => .ok []
  | .ok (some (combinator, rest)) =>
    if rest.isEmpty then .error .dangling
    else
      match _hc : compound rest with
      | .error fault => .error fault
      | .ok (compound, after) =>
        match steps after with
        | .error fault => .error fault
        | .ok more => .ok (⟨combinator, compound⟩ :: more)
termination_by s.length
decreasing_by
  have := length_combinator_lt _h
  have := length_compound_le _hc
  omega

/-- A whole selector. -/
def selector (s : List Char) : Except Fault Selector :=
  let s := skip s
  if s.isEmpty then .error .empty
  else
    match compound s with
    | .error fault => .error fault
    | .ok (first, rest) =>
      match steps rest with
      | .error fault => .error fault
      | .ok more => .ok { first, steps := more }

/-- The error of a fault in a text: its place is counted in bytes from the beginning. -/
def Fault.error (input : List Char) : Fault → SelectorError
  | .empty => .empty
  | .unexpected found rest =>
    .unexpected found
      ((Text.Utf8.encode input).length - (Text.Utf8.encode (found :: rest)).length)
  | .unterminated => .unterminatedAttribute
  | .dangling => .danglingCombinator

end Selector.Parser

/-- Reads a selector. -/
def Selector.parse (text : String) : Except SelectorError Selector :=
  match Parser.selector text.toList with
  | .ok selector => .ok selector
  | .error fault => .error (fault.error text.toList)

end ComposingProxy.Markup
