import ComposingProxy.Json.Value
import ComposingProxy.Text.Ascii

/-!
# Lexemes of JSON

A JSON text is a row of punctuation, words, numbers and strings with blanks between
them. Each is recognised from its first character alone, so cutting a text into lexemes
needs to know nothing of how values nest.
-/

namespace ComposingProxy.Json

/-- A lexeme. -/
inductive Lexeme where
  | openArray
  | closeArray
  | openObject
  | closeObject
  | comma
  | colon
  | null
  | bool (value : Bool)
  | number (value : JsonNumber)
  | string (text : String)
  /-- A string that names half of a surrogate pair. -/
  | broken
  deriving DecidableEq, Repr

/-- A blank between lexemes. -/
def isBlank (c : Char) : Bool := c == ' ' || c == '\n' || c == '\t' || c == '\r'

/-! ## Strings -/

/-- The character of an escape with one letter. -/
def shortEscape? (c : Char) : Option Char :=
  match c with
  | '"' => some '"'
  | '\\' => some '\\'
  | '/' => some '/'
  | 'b' => some '\x08'
  | 'f' => some '\x0C'
  | 'n' => some '\n'
  | 'r' => some '\r'
  | 't' => some '\t'
  | _ => none

/-- The 16 bits of four hexadecimal digits. -/
def unit? (a b c d : Char) : Option Nat := do
  some (((← Text.hexDigit? a) * 16 + (← Text.hexDigit? b)) * 256
    + (← Text.hexDigit? c) * 16 + (← Text.hexDigit? d))

/-- Whether 16 bits are the first half of a surrogate pair. -/
def isHighHalf (unit : Nat) : Bool := 0xD800 ≤ unit && unit < 0xDC00

/-- Whether 16 bits are the second half of a surrogate pair. -/
def isLowHalf (unit : Nat) : Bool := 0xDC00 ≤ unit && unit < 0xE000

/-- The character of a surrogate pair. -/
def ofPair (high low : Nat) : Char :=
  Char.ofNat (0x10000 + (high - 0xD800) * 0x400 + (low - 0xDC00))

/-- A piece of a string: a character or half of a surrogate pair. -/
abbrev Piece := Option Char

/-- Cuts a string after its opening quote: its pieces and what follows the closing quote. -/
def cutString : List Char → Option (List Piece × List Char)
  | [] => none
  | '"' :: rest => some ([], rest)
  | '\\' :: 'u' :: a :: b :: c :: d :: '\\' :: 'u' :: e :: f :: g :: h :: rest =>
    match unit? a b c d with
    | none => none
    | some high =>
      match unit? e f g h with
      | none => none
      | some low =>
        if isHighHalf high && isLowHalf low then
          (cutString rest).map fun (ps, rest) => (some (ofPair high low) :: ps, rest)
        else
          let piece := if isHighHalf high || isLowHalf high then none else some (Char.ofNat high)
          (cutString ('\\' :: 'u' :: e :: f :: g :: h :: rest)).map fun (ps, rest) =>
            (piece :: ps, rest)
  | '\\' :: 'u' :: a :: b :: c :: d :: rest =>
    match unit? a b c d with
    | none => none
    | some unit =>
      let piece := if isHighHalf unit || isLowHalf unit then none else some (Char.ofNat unit)
      (cutString rest).map fun (ps, rest) => (piece :: ps, rest)
  | '\\' :: c :: rest =>
    match shortEscape? c with
    | some escaped => (cutString rest).map fun (ps, rest) => (some escaped :: ps, rest)
    | none => none
  | c :: rest =>
    if c.toNat < 0x20 || c == '\\' then none
    else (cutString rest).map fun (ps, rest) => (some c :: ps, rest)

/-- The lexeme of the pieces of a string. -/
def ofPieces (pieces : List Piece) : Lexeme :=
  match pieces.mapM id with
  | some s => .string (String.ofList s)
  | none => .broken

/-! ## Numbers -/

/-- Cuts digits off the front; there has to be one. -/
def cutDigits (s : List Char) : Option (List Char × List Char) :=
  let digits := s.takeWhile Char.isDigit
  if digits.isEmpty then none else some (digits, s.dropWhile Char.isDigit)

/-- Cuts a minus sign off the front, if there is one. -/
def cutMinus (s : List Char) : Bool × List Char :=
  match s with
  | '-' :: rest => (true, rest)
  | _ => (false, s)

/-- Cuts a sign off the front of an exponent, if there is one; tells whether it is a minus. -/
def cutSign (s : List Char) : Bool × List Char :=
  match s with
  | '+' :: rest => (false, rest)
  | _ => cutMinus s

/-- Cuts a point and the digits after it off the front, if there is a point. -/
def cutFraction (s : List Char) : Option (List Char × List Char) :=
  match s with
  | '.' :: rest => cutDigits rest
  | _ => some ([], s)

/-- Cuts an exponent off the front, if there is one. -/
def cutExponent (s : List Char) : Option (Option Int × List Char) :=
  match s with
  | [] => some (none, [])
  | c :: rest =>
    if c == 'e' || c == 'E' then
      (cutDigits (cutSign rest).2).map fun (digits, after) =>
        let n : Int := Text.ofDecimalDigits digits
        (some (if (cutSign rest).1 then -n else n), after)
    else some (none, c :: rest)

/-- Cuts a number off the front: no zero before another digit, and a digit on either side of
a point. -/
def cutNumber (s : List Char) : Option (JsonNumber × List Char) :=
  match cutDigits (cutMinus s).2 with
  | none => none
  | some (whole, tail) =>
    if whole.head? = some '0' && whole.length > 1 then none
    else
      match cutFraction tail with
      | none => none
      | some (fraction, tail) =>
        (cutExponent tail).map fun (exponent, after) =>
          ({ negative := (cutMinus s).1
             digits := Text.ofDecimalDigits (whole ++ fraction)
             exponent := exponent.getD 0 - fraction.length
             whole := fraction.isEmpty && exponent.isNone }, after)

/-! ## Every lexeme takes something -/

theorem length_cutString (s : List Char) :
    ∀ pieces rest, cutString s = some (pieces, rest) → rest.length < s.length := by
  fun_induction cutString s <;> simp_all <;> intros <;> grind

theorem length_cutDigits {s digits rest : List Char} (h : cutDigits s = some (digits, rest)) :
    rest.length < s.length := by
  unfold cutDigits at h
  have hl := congrArg List.length (List.takeWhile_append_dropWhile (p := Char.isDigit) (l := s))
  rw [List.length_append] at hl
  grind [List.isEmpty_iff_length_eq_zero]

theorem length_cutMinus (s : List Char) : (cutMinus s).2.length ≤ s.length := by
  unfold cutMinus; split <;> simp

theorem length_cutSign (s : List Char) : (cutSign s).2.length ≤ s.length := by
  unfold cutSign; split <;> simp [length_cutMinus]

theorem length_cutFraction {s digits rest : List Char}
    (h : cutFraction s = some (digits, rest)) : rest.length ≤ s.length := by
  unfold cutFraction at h
  split at h
  · have := length_cutDigits h; simp; omega
  · simp_all

theorem length_cutExponent {s rest : List Char} {exponent : Option Int}
    (h : cutExponent s = some (exponent, rest)) : rest.length ≤ s.length := by
  unfold cutExponent at h
  split at h
  · simp_all
  · rename_i c tail
    split at h
    · rw [Option.map_eq_some_iff] at h
      obtain ⟨⟨digits, after⟩, hd, he⟩ := h
      have := length_cutDigits hd
      have := length_cutSign tail
      simp at he ⊢
      rw [← he.2]; omega
    · simp_all

theorem length_cutNumber {s rest : List Char} {n : JsonNumber}
    (h : cutNumber s = some (n, rest)) : rest.length < s.length := by
  unfold cutNumber at h
  split at h
  · simp at h
  · rename_i whole tail hw
    have := length_cutDigits hw
    have := length_cutMinus s
    split at h
    · simp at h
    · split at h
      · simp at h
      · rename_i fraction tail hf
        have := length_cutFraction hf
        rw [Option.map_eq_some_iff] at h
        obtain ⟨⟨exponent, after⟩, he, heq⟩ := h
        have := length_cutExponent he
        simp at heq
        rw [← heq.2]; omega

/-! ## Rows of lexemes -/

/-- Cuts one lexeme off a text that begins with `c`. -/
def cutLexeme (c : Char) (rest : List Char) : Option (Lexeme × List Char) :=
  match c, rest with
  | '[', _ => some (.openArray, rest)
  | ']', _ => some (.closeArray, rest)
  | '{', _ => some (.openObject, rest)
  | '}', _ => some (.closeObject, rest)
  | ',', _ => some (.comma, rest)
  | ':', _ => some (.colon, rest)
  | 'n', 'u' :: 'l' :: 'l' :: rest => some (.null, rest)
  | 't', 'r' :: 'u' :: 'e' :: rest => some (.bool true, rest)
  | 'f', 'a' :: 'l' :: 's' :: 'e' :: rest => some (.bool false, rest)
  | '"', _ => (cutString rest).map fun (pieces, rest) => (ofPieces pieces, rest)
  | _, _ => (cutNumber (c :: rest)).map fun (n, rest) => (.number n, rest)

theorem length_cutLexeme {c : Char} {rest after : List Char} {lexeme : Lexeme}
    (h : cutLexeme c rest = some (lexeme, after)) : after.length ≤ rest.length := by
  unfold cutLexeme at h
  split at h
  all_goals simp only [Option.map_eq_some_iff, Prod.exists, Prod.mk.injEq,
    Option.some.injEq] at h
  case h_10 =>
    obtain ⟨pieces, tail, hs, -, rfl⟩ := h
    have := length_cutString _ _ _ hs
    omega
  case h_11 =>
    obtain ⟨n, tail, hn, -, rfl⟩ := h
    have := length_cutNumber hn
    rw [List.length_cons] at this
    omega
  all_goals
    obtain ⟨-, rfl⟩ := h
    grind

/-- The lexemes of a text; `none` where some part of it is none. -/
def lexemes (s : List Char) : Option (List Lexeme) :=
  match s with
  | [] => some []
  | c :: rest =>
    if isBlank c then lexemes rest
    else
      match h : cutLexeme c rest with
      | none => none
      | some (lexeme, after) =>
        have := length_cutLexeme h
        (lexemes after).map (lexeme :: ·)
termination_by s.length

end ComposingProxy.Json
