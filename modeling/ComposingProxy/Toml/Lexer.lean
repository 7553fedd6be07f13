import ComposingProxy.Text.Ascii

/-!
# Lexemes of TOML

Punctuation, line ends, blanks, quoted texts, and words: unbroken rows of the
characters that bare keys, numbers and dates are made of. What a word means depends on
where it stands, so it is kept as it is. Comments are checked and dropped.
-/

namespace ComposingProxy.Toml

/-- A lexeme. -/
inductive Lexeme where
  | openBracket
  | closeBracket
  | openBrace
  | closeBrace
  | comma
  | equals
  | newline
  | blank
  | word (s : List Char)
  /-- A quoted text; one of several lines cannot be a key. -/
  | text (s : String) (multiline : Bool)
  deriving DecidableEq, Repr

/-- A character of a word. -/
def isWordChar (c : Char) : Bool :=
  c.isAlphanum || c == '_' || c == '-' || c == '+' || c == '.' || c == ':'

/-- A blank within a line. -/
def isBlank (c : Char) : Bool := c == ' ' || c == '\t'

/-- A character that may stand in a comment or a quoted text. -/
def isTextChar (c : Char) : Bool := c == '\t' || (c.toNat ≥ 0x20 && c.toNat != 0x7F)

/-! ## Quoted texts -/

/-- The character that hexadecimal digits name. -/
def namedChar? (digits : List Char) : Option Char := do
  let values ← digits.mapM Text.hexDigit?
  let n := values.foldl (fun n d => 16 * n + d) 0
  if n < 0xD800 ∨ (0xE000 ≤ n ∧ n < 0x110000) then some (Char.ofNat n) else none

/-- The character of an escape with one letter. -/
def shortEscape? (c : Char) : Option Char :=
  match c with
  | 'b' => some '\x08'
  | 't' => some '\t'
  | 'n' => some '\n'
  | 'f' => some '\x0C'
  | 'r' => some '\r'
  | '"' => some '"'
  | '\\' => some '\\'
  | _ => none

/-- Takes an escape after its backslash: its character and what follows it. -/
def cutEscape (s : List Char) : Option (Char × List Char) :=
  match s with
  | 'u' :: rest =>
    if rest.length < 4 then none else (namedChar? (rest.take 4)).map (·, rest.drop 4)
  | 'U' :: rest =>
    if rest.length < 8 then none else (namedChar? (rest.take 8)).map (·, rest.drop 8)
  | c :: rest => (shortEscape? c).map (·, rest)
  | [] => none

theorem length_cutEscape {s after : List Char} {c : Char} (h : cutEscape s = some (c, after)) :
    after.length < s.length := by
  unfold cutEscape at h
  split at h <;> simp only [Option.map_eq_some_iff, Option.ite_none_left_eq_some,
    Prod.mk.injEq, reduceCtorEq] at h <;> grind

/-- Cuts a text of one line after its opening quote. -/
def cutBasic (s : List Char) : Option (List Char × List Char) :=
  match s with
  | [] => none
  | '"' :: rest => some ([], rest)
  | '\\' :: rest =>
    match h : cutEscape rest with
    | none => none
    | some (c, after) =>
      have := length_cutEscape h
      (cutBasic after).map fun (t, r) => (c :: t, r)
  | c :: rest =>
    if isTextChar c then (cutBasic rest).map fun (t, r) => (c :: t, r) else none
termination_by s.length

/-- Cuts a text of one line without escapes after its opening quote. -/
def cutLiteral : List Char → Option (List Char × List Char)
  | [] => none
  | '\'' :: rest => some ([], rest)
  | c :: rest =>
    if isTextChar c then (cutLiteral rest).map fun (t, r) => (c :: t, r) else none

/-- What follows the blanks and line ends at the front. -/
def skipBlankLines : List Char → List Char
  | '\r' :: '\n' :: rest => skipBlankLines rest
  | c :: rest => if isBlank c || c == '\n' then skipBlankLines rest else c :: rest
  | [] => []

/-- After a backslash at the end of a line: what follows the line end and all blanks and
line ends after it, if there is nothing but blanks before the line end. -/
def skipLineEnd? (s : List Char) : Option (List Char) :=
  match s.dropWhile isBlank with
  | '\n' :: rest => some (skipBlankLines rest)
  | '\r' :: '\n' :: rest => some (skipBlankLines rest)
  | _ => none

theorem length_skipBlankLines (s : List Char) : (skipBlankLines s).length ≤ s.length := by
  fun_induction skipBlankLines s <;> simp <;> omega

theorem length_skipLineEnd? {s after : List Char} (h : skipLineEnd? s = some after) :
    after.length < s.length := by
  have hl := (List.dropWhile_suffix isBlank (l := s)).length_le
  unfold skipLineEnd? at h
  split at h <;> grind [length_skipBlankLines]

/-- Cuts a text of several lines after its opening quotes. Up to two quotes may stand
before the three that close it. -/
def cutMultiline (quote : Char) (escapes : Bool) (s : List Char) :
    Option (List Char × List Char) :=
  match s with
  | [] => none
  | c :: rest =>
    if c = quote ∧ rest.take 2 = [quote, quote] then
      let extra := ((rest.drop 2).takeWhile (· == quote)).length
      if extra ≤ 2 then some (List.replicate extra quote, rest.drop (2 + extra))
      else some ([quote, quote], rest.drop 4)
    else if c = '\\' ∧ escapes = true then
      match hl : skipLineEnd? rest with
      | some after =>
        have := length_skipLineEnd? hl
        cutMultiline quote escapes after
      | none =>
        match he : cutEscape rest with
        | none => none
        | some (e, after) =>
          have := length_cutEscape he
          (cutMultiline quote escapes after).map fun (t, r) => (e :: t, r)
    else if c = '\r' then
      match rest with
      | '\n' :: after => (cutMultiline quote escapes after).map fun (t, r) => ('\n' :: t, r)
      | _ => none
    else if isTextChar c || c == '\n' then
      (cutMultiline quote escapes rest).map fun (t, r) => (c :: t, r)
    else none
termination_by s.length

/-- A line end directly after the opening quotes is no part of the text. -/
def dropFirstLineEnd : List Char → List Char
  | '\n' :: rest => rest
  | '\r' :: '\n' :: rest => rest
  | s => s

/-! ## Words -/

/-- Whether a word is a date, and the text after it a blank and a time. -/
def continuesDate (word rest : List Char) : Bool :=
  (match word with
    | [a, b, c, d, '-', e, f, '-', g, h] => [a, b, c, d, e, f, g, h].all Char.isDigit
    | _ => false) &&
  match rest with
  | ' ' :: a :: b :: ':' :: _ => a.isDigit && b.isDigit
  | _ => false

/-- Cuts a word off the front; a date and a time with a blank between them are one. -/
def cutWord (s : List Char) : List Char × List Char :=
  let word := s.takeWhile isWordChar
  let rest := s.dropWhile isWordChar
  if continuesDate word rest then
    (word ++ ' ' :: rest.tail.takeWhile isWordChar, rest.tail.dropWhile isWordChar)
  else (word, rest)

/-! ## Rows of lexemes -/

/-- Cuts one lexeme off a text that begins with `c`; a comment is none. -/
def cutLexeme (c : Char) (rest : List Char) : Option (Option Lexeme × List Char) :=
  match c, rest with
  | '[', _ => some (some .openBracket, rest)
  | ']', _ => some (some .closeBracket, rest)
  | '{', _ => some (some .openBrace, rest)
  | '}', _ => some (some .closeBrace, rest)
  | ',', _ => some (some .comma, rest)
  | '=', _ => some (some .equals, rest)
  | '\n', _ => some (some .newline, rest)
  | '\r', '\n' :: rest => some (some .newline, rest)
  | '#', _ => some (none, rest.dropWhile isTextChar)
  | '"', '"' :: '"' :: rest =>
    (cutMultiline '"' true (dropFirstLineEnd rest)).map fun (t, rest) =>
      (some (.text (String.ofList t) true), rest)
  | '"', _ => (cutBasic rest).map fun (t, rest) => (some (.text (String.ofList t) false), rest)
  | '\'', '\'' :: '\'' :: rest =>
    (cutMultiline '\'' false (dropFirstLineEnd rest)).map fun (t, rest) =>
      (some (.text (String.ofList t) true), rest)
  | '\'', _ => (cutLiteral rest).map fun (t, rest) => (some (.text (String.ofList t) false), rest)
  | _, _ =>
    if isBlank c then some (some .blank, rest.dropWhile isBlank)
    else if isWordChar c then
      let (word, rest) := cutWord (c :: rest)
      some (some (.word word), rest)
    else none

/-! ## Every lexeme takes something -/

theorem length_cutBasic (s : List Char) :
    ∀ t rest, cutBasic s = some (t, rest) → rest.length < s.length := by
  fun_induction cutBasic s <;> grind [Option.map_eq_some_iff]

theorem length_cutLiteral (s : List Char) :
    ∀ t rest, cutLiteral s = some (t, rest) → rest.length < s.length := by
  fun_induction cutLiteral s <;> grind [Option.map_eq_some_iff]

theorem length_cutMultiline (quote : Char) (escapes : Bool) (s : List Char) :
    ∀ t rest, cutMultiline quote escapes s = some (t, rest) → rest.length < s.length := by
  fun_induction cutMultiline quote escapes s <;> grind [Option.map_eq_some_iff]

theorem length_dropFirstLineEnd (s : List Char) : (dropFirstLineEnd s).length ≤ s.length := by
  unfold dropFirstLineEnd
  split <;> grind

theorem length_cutWord {c : Char} (rest : List Char) (h : isWordChar c = true) :
    (cutWord (c :: rest)).2.length ≤ rest.length := by
  have hl := (List.dropWhile_suffix isWordChar (l := rest)).length_le
  have ht := (List.dropWhile_suffix isWordChar (l := (rest.dropWhile isWordChar).tail)).length_le
  unfold cutWord
  simp only [List.dropWhile_cons, h, if_true]
  split <;> grind

theorem length_cutLexeme {c : Char} {rest after : List Char} {lexeme : Option Lexeme}
    (h : cutLexeme c rest = some (lexeme, after)) : after.length ≤ rest.length := by
  unfold cutLexeme at h
  split at h <;> simp only [Option.map_eq_some_iff, Prod.exists, Prod.mk.injEq,
    Option.some.injEq] at h
  case h_9 => rw [← h.2]; exact (List.dropWhile_suffix _).length_le
  case h_10 rest =>
    obtain ⟨t, tail, hc, -, rfl⟩ := h
    have := length_cutMultiline _ _ _ _ _ hc
    have := length_dropFirstLineEnd rest
    simp; omega
  case h_11 => obtain ⟨t, tail, hc, -, rfl⟩ := h; have := length_cutBasic _ _ _ hc; omega
  case h_12 rest =>
    obtain ⟨t, tail, hc, -, rfl⟩ := h
    have := length_cutMultiline _ _ _ _ _ hc
    have := length_dropFirstLineEnd rest
    simp; omega
  case h_13 => obtain ⟨t, tail, hc, -, rfl⟩ := h; have := length_cutLiteral _ _ _ hc; omega
  case h_14 =>
    split at h
    · simp only [Option.some.injEq, Prod.mk.injEq] at h
      rw [← h.2]; exact (List.dropWhile_suffix _).length_le
    · split at h
      · rename_i hw
        simp only [Option.some.injEq, Prod.mk.injEq] at h
        rw [← h.2]; exact length_cutWord _ hw
      · simp at h
  all_goals
    obtain ⟨-, rfl⟩ := h
    grind

/-- The lexemes of a text. -/
def lexemes (s : List Char) : Option (List Lexeme) :=
  match s with
  | [] => some []
  | c :: rest =>
    match h : cutLexeme c rest with
    | none => none
    | some (lexeme, after) =>
      have := length_cutLexeme h
      (lexemes after).map (lexeme.toList ++ ·)
termination_by s.length

end ComposingProxy.Toml
