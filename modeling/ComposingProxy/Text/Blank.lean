/-!
# White space

The Unicode property `White_Space`, the characters it holds, and trimming a text
of them at both ends.
-/

namespace ComposingProxy.Text

/-- A character with the property `White_Space`. -/
def isBlank (c : Char) : Bool :=
  let n := c.toNat
  (9 ≤ n && n ≤ 13) || n == 0x20 || n == 0x85 || n == 0xA0 || n == 0x1680 ||
    (0x2000 ≤ n && n ≤ 0x200A) || n == 0x2028 || n == 0x2029 || n == 0x202F || n == 0x205F ||
    n == 0x3000

/-- A text without the elements of the class `p` at either end. -/
def trimOf {α : Type} (p : α → Bool) (s : List α) : List α :=
  (s.dropWhile p).reverse.dropWhile p |>.reverse

/-- A text without white space at either end. -/
def trim (s : List Char) : List Char := trimOf isBlank s

/-- A text without white space at either end. -/
def trimText (s : String) : String := String.ofList (trim s.toList)

theorem dropWhile_eq_nil_iff {α : Type} {p : α → Bool} {s : List α} :
    s.dropWhile p = [] ↔ ∀ a ∈ s, p a = true := by
  induction s with
  | nil => simp
  | cons a s ih => by_cases h : p a = true <;> simp [h, ih]

/-- Trimming leaves nothing exactly when there is nothing but trimmed characters. -/
theorem trimOf_eq_nil_iff {α : Type} {p : α → Bool} {s : List α} :
    trimOf p s = [] ↔ ∀ a ∈ s, p a = true := by
  rw [← dropWhile_eq_nil_iff]
  constructor
  · intro h
    cases hs : s.dropWhile p with
    | nil => rfl
    | cons a r =>
      have ha : p a = false := by
        have := List.head_dropWhile_not p (l := s) (by simp [hs])
        simpa [hs] using this
      have hall : ∀ b ∈ (s.dropWhile p).reverse, p b = true := by
        rw [← dropWhile_eq_nil_iff]
        simpa [trimOf] using h
      have := hall a (by simp [hs])
      simp [ha] at this
  · intro h
    simp [trimOf, h]

/-- Trimming takes off white space alone. -/
theorem exists_trim_eq (s : List Char) : ∃ front back, s = front ++ trim s ++ back ∧
    (∀ c ∈ front, isBlank c = true) ∧ ∀ c ∈ back, isBlank c = true := by
  let rest := (s.dropWhile isBlank).reverse
  have hrest : s.dropWhile isBlank = trim s ++ (rest.takeWhile isBlank).reverse := by
    rw [trim, trimOf, ← List.reverse_append, List.takeWhile_append_dropWhile, List.reverse_reverse]
  refine ⟨s.takeWhile isBlank, (rest.takeWhile isBlank).reverse, ?_, fun c hc => ?_, fun c hc => ?_⟩
  · rw [List.append_assoc, ← hrest, List.takeWhile_append_dropWhile]
  · exact List.all_eq_true.mp List.all_takeWhile c hc
  · exact List.all_eq_true.mp List.all_takeWhile c (List.mem_reverse.mp hc)

/-- White space around a text that has none in it is all that trimming takes off. -/
theorem trim_append {front s back : List Char} (hfront : ∀ c ∈ front, isBlank c = true)
    (hs : ∀ c ∈ s, isBlank c = false) (hback : ∀ c ∈ back, isBlank c = true) :
    trim (front ++ s ++ back) = s := by
  have hstop : ∀ {t : List Char}, (∀ c ∈ t, isBlank c = false) → t.dropWhile isBlank = t := by
    intro t ht
    cases t with
    | nil => rfl
    | cons c t => rw [List.dropWhile_cons, ht c List.mem_cons_self, if_neg Bool.false_ne_true]
  have hlast : (s ++ back).reverse.dropWhile isBlank = s.reverse := by
    rw [List.reverse_append, List.dropWhile_append_of_pos, hstop]
    · exact fun c hc => hs c (List.mem_reverse.mp hc)
    · exact fun c hc => hback c (List.mem_reverse.mp hc)
  rw [trim, trimOf, List.append_assoc, List.dropWhile_append_of_pos hfront]
  cases s with
  | nil =>
    rw [List.nil_append, dropWhile_eq_nil_iff.mpr hback]
    rfl
  | cons c s =>
    rw [List.cons_append, List.dropWhile_cons, hs c List.mem_cons_self, if_neg Bool.false_ne_true,
      ← List.cons_append, hlast, List.reverse_reverse]

end ComposingProxy.Text
