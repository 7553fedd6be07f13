import ComposingProxy.Json.Lexer
import ComposingProxy.Json.Writer

/-!
# Strings of JSON and back

A string that was written reads back as it was:

> `cutLexeme_quote`: the quoted text is one lexeme, the string, whatever follows it.

Reading goes escape by escape (`cutString_escapeChar`). There is one catch: behind an escape with
four digits the reader looks for the second half of a surrogate pair and gives up on
digits that it cannot read, so it matters that the writer never puts such ones
there (`unitsRead_escaped`).
-/

namespace ComposingProxy

/-- Where each element of a row reads back, the whole row does. -/
theorem mapM_map_eq_some {α β : Type} {make : α → β} {read : β → Option α}
    (h : ∀ a, read (make a) = some a) (row : List α) : (row.map make).mapM read = some row := by
  induction row with
  | nil => rfl
  | cons a row ih =>
    rw [List.map_cons, List.mapM_cons, h, ih]
    rfl

end ComposingProxy

namespace ComposingProxy.Json

/-! ## Escapes -/

/-- A control character is written in four digits that are read back. -/
theorem unit?_control :
    ∀ n < 0x20, unit? '0' '0' (Text.hexChar (n / 16)) (Text.hexChar (n % 16)) = some n := by
  decide

/-- Where the text begins with an escape of four digits, they are hexadecimal. -/
def UnitsRead (s : List Char) : Prop :=
  ∀ a b c d rest, s = '\\' :: 'u' :: a :: b :: c :: d :: rest → unit? a b c d ≠ none

/-- Reading one more character in front of a string. -/
def consPiece (c : Char) (read : List Piece × List Char) : List Piece × List Char :=
  (some c :: read.1, read.2)

/-- A control character, which is written with four digits, is no half of a pair. -/
theorem cutString_control {n : Nat} (hn : n < 0x20) {s : List Char} (hs : UnitsRead s) :
    cutString ('\\' :: 'u' :: '0' :: '0' :: Text.hexChar (n / 16) :: Text.hexChar (n % 16) :: s) =
      (cutString s).map (consPiece (Char.ofNat n)) := by
  have hhigh : isHighHalf n = false := by
    rw [isHighHalf, Bool.and_eq_false_iff, decide_eq_false_iff_not]
    omega
  have hlow : isLowHalf n = false := by
    rw [isLowHalf, Bool.and_eq_false_iff, decide_eq_false_iff_not]
    omega
  -- `n` is half of no pair, so a second escape behind it is read on its own
  by_cases hpair : ∃ a b c d rest, s = '\\' :: 'u' :: a :: b :: c :: d :: rest
  · obtain ⟨a, b, c, d, rest, rfl⟩ := hpair
    obtain ⟨low, hunit⟩ := Option.ne_none_iff_exists'.mp (hs a b c d rest rfl)
    rw [cutString.eq_3, unit?_control n hn, hunit]
    simp only [hhigh, hlow, Bool.false_and, Bool.or_self, Bool.false_eq_true, ↓reduceIte]
    rfl
  · rw [cutString.eq_4 _ _ _ _ _ fun a b c d rest heq => hpair ⟨a, b, c, d, rest, heq⟩,
      unit?_control n hn]
    simp only [hhigh, hlow, Bool.or_self, Bool.false_eq_true, ↓reduceIte]
    rfl

/-- A short escape is read as its character. -/
theorem cutString_short {letter c : Char} (h : shortEscape? letter = some c) (s : List Char) :
    cutString ('\\' :: letter :: s) = (cutString s).map (consPiece c) := by
  have hne : letter ≠ 'u' := by
    rintro rfl
    exact absurd h (by simp [shortEscape?])
  rw [cutString.eq_5 _ _ (fun _ _ _ _ _ _ _ _ _ heq => absurd heq hne)
    fun _ _ _ _ _ heq => absurd heq hne, h]
  rfl

/-- A character without an escape is read as it is. -/
theorem cutString_plain {c : Char} (hquote : c ≠ '"') (hslash : c ≠ '\\')
    (hcontrol : ¬c.toNat < 0x20) (s : List Char) :
    cutString (c :: s) = (cutString s).map (consPiece c) := by
  have htest : ¬(decide (c.toNat < 32) || c == '\\') = true := by
    rw [Bool.or_eq_true, decide_eq_true_eq, beq_iff_eq]
    rintro (h | h)
    · exact hcontrol h
    · exact hslash h
  rw [cutString.eq_6 _ _ hquote (fun _ _ _ _ _ _ _ _ _ heq => absurd heq hslash)
    (fun _ _ _ _ _ heq => absurd heq hslash) fun _ _ heq => absurd heq hslash, if_neg htest]
  rfl

/-! ## Written strings -/

/-- A character as it was written, in front of a text. -/
theorem cutString_escapeChar (c : Char) {s : List Char} (hs : UnitsRead s) :
    cutString (escapeChar c ++ s) = (cutString s).map (consPiece c) := by
  unfold escapeChar
  split
  all_goals first
    | exact cutString_short rfl s
    | skip
  next hquote hslash _ _ _ _ _ =>
  split
  · next hcontrol =>
    have hread := cutString_control hcontrol hs
    rw [Char.ofNat_toNat] at hread
    exact hread
  · next hcontrol => exact cutString_plain hquote hslash hcontrol s

theorem unitsRead_cons {c : Char} (h : c ≠ '\\') (s : List Char) : UnitsRead (c :: s) :=
  fun _ _ _ _ _ heq => absurd (List.cons.inj heq).1 h

/-- What is written for a character begins with no broken escape. -/
theorem unitsRead_escapeChar (c : Char) (s : List Char) : UnitsRead (escapeChar c ++ s) := by
  unfold escapeChar
  split
  all_goals first
    | exact fun _ _ _ _ _ heq => absurd (List.cons.inj (List.cons.inj heq).2).1 (by decide)
    | skip
  next hquote hslash _ _ _ _ _ =>
  split
  · next hcontrol =>
    intro a b d e rest heq
    simp only [List.cons_append, List.nil_append, List.cons.injEq] at heq
    obtain ⟨-, -, rfl, rfl, rfl, rfl, -⟩ := heq
    rw [unit?_control _ hcontrol]
    exact Option.some_ne_none _
  · exact unitsRead_cons hslash s

/-- The rest of a written string begins with no broken escape. -/
theorem unitsRead_escaped (s rest : List Char) :
    UnitsRead (s.flatMap escapeChar ++ '"' :: rest) := by
  cases s with
  | nil => exact unitsRead_cons (by decide) rest
  | cons c s =>
    rw [List.flatMap_cons, List.append_assoc]
    exact unitsRead_escapeChar c _

/-- The pieces of a written string are its characters. -/
theorem cutString_escaped (s rest : List Char) :
    cutString (s.flatMap escapeChar ++ '"' :: rest) = some (s.map some, rest) := by
  induction s with
  | nil => exact cutString.eq_2 rest
  | cons c s ih =>
    rw [List.flatMap_cons, List.append_assoc, cutString_escapeChar c (unitsRead_escaped s rest), ih]
    rfl

/-- Pieces that are characters make a string. -/
theorem ofPieces_map_some (s : List Char) : ofPieces (s.map some) = .string (String.ofList s) := by
  have hpieces := @mapM_map_eq_some Char Piece some id (fun _ => rfl) s
  rw [ofPieces, hpieces]

/-- A quote begins a string, which is one lexeme. -/
theorem cutLexeme_string (s : List Char) :
    cutLexeme '"' s = (cutString s).map fun read => (ofPieces read.1, read.2) := rfl

/-- A quoted text is one lexeme. -/
theorem cutLexeme_quote (text : String) (rest : List Char) :
    ∃ inner, quote text ++ rest = '"' :: inner ∧
      cutLexeme '"' inner = some (.string text, rest) := by
  refine ⟨text.toList.flatMap escapeChar ++ '"' :: rest, ?_, ?_⟩
  · rw [quote, List.cons_append, List.cons_append, List.append_assoc]
    rfl
  · rw [cutLexeme_string, cutString_escaped, Option.map_some, ofPieces_map_some,
      String.ofList_toList]

end ComposingProxy.Json
