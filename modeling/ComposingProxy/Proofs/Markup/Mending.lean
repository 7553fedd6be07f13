import ComposingProxy.Markup.Reader
import Mathlib.Data.List.Basic

/-!
# Marks that are lost in reading

A mark of the order of bytes is dropped wherever a piece begins with one, also in the middle of a
page. So a text is read without some of its marks (`LosesMarks`), and other characters stay as
they are:

> `flatten_mendPieces`: without returns, the marks at beginnings of pieces are all that is lost.
> `withoutMarks_eq_iff`: nothing is lost exactly if no piece begins with a mark.

The relation is carried through the parts of a text and through an escaping that writes the mark as
it is (`LosesMarks.exists_flatMap`), so what is lost of a page is lost of the texts in it.
-/

namespace ComposingProxy.Markup

variable {s t r back : List Char} {pieces : List (List Char)}

/-! ## Texts without some marks -/

/-- The second text is the first one without some of its marks of the order of bytes. -/
inductive LosesMarks : List Char → List Char → Prop
  | nil : LosesMarks [] []
  | keep (c : Char) {s t : List Char} : LosesMarks s t → LosesMarks (c :: s) (c :: t)
  | lose {s t : List Char} : LosesMarks s t → LosesMarks (byteOrderMark :: s) t

namespace LosesMarks

/-- A text may lose no mark at all. -/
theorem refl (s : List Char) : LosesMarks s s := by
  induction s with
  | nil => exact .nil
  | cons c s ih => exact ih.keep c

/-- Two texts that lose marks lose them together. -/
theorem append {s' t' : List Char} (h : LosesMarks s t) (h' : LosesMarks s' t') :
    LosesMarks (s ++ s') (t ++ t') := by
  induction h with
  | nil => exact h'
  | keep c _ ih => exact ih.keep c
  | lose _ ih => exact ih.lose

theorem sublist (h : LosesMarks s t) : t.Sublist s := by
  induction h with
  | nil => exact .slnil
  | keep c _ ih => exact ih.cons_cons c
  | lose _ ih => exact ih.cons _

/-- What is lost is missing in the length. -/
theorem length_lt (h : LosesMarks s t) (hne : t ≠ s) : t.length < s.length :=
  Nat.lt_of_le_of_ne h.sublist.length_le fun heq => hne (h.sublist.eq_of_length heq)

/-- A text without marks loses nothing. -/
theorem eq_of_not_mem (h : LosesMarks s t) (hs : byteOrderMark ∉ s) : t = s := by
  induction h with
  | nil => rfl
  | keep c _ ih => rw [ih fun hmem => hs (List.mem_cons_of_mem c hmem)]
  | lose => exact absurd List.mem_cons_self hs

/-- What two texts lose together, each of them loses for itself. -/
theorem exists_append (h : LosesMarks (s ++ back) r) :
    ∃ t back', r = t ++ back' ∧ LosesMarks s t ∧ LosesMarks back back' := by
  induction s generalizing r with
  | nil => exact ⟨[], r, rfl, .nil, h⟩
  | cons c s ih =>
    rw [List.cons_append] at h
    cases h with
    | keep _ h =>
      obtain ⟨t, back', rfl, hs, hback⟩ := ih h
      exact ⟨c :: t, back', rfl, hs.keep c, hback⟩
    | lose h =>
      obtain ⟨t, back', rfl, hs, hback⟩ := ih h
      exact ⟨t, back', rfl, hs.lose, hback⟩

/-- Between texts without marks, only what is in the middle loses any. -/
theorem exists_middle {front : List Char} (h : LosesMarks (front ++ s ++ back) r)
    (hfront : byteOrderMark ∉ front) (hback : byteOrderMark ∉ back) :
    ∃ t, r = front ++ t ++ back ∧ LosesMarks s t := by
  obtain ⟨_, _, rfl, h, hlast⟩ := h.exists_append
  obtain ⟨_, t, rfl, hfirst, hs⟩ := h.exists_append
  rw [hfirst.eq_of_not_mem hfront, hlast.eq_of_not_mem hback]
  exact ⟨t, rfl, hs⟩

/-- What a text loses that is written character by character, it loses before it is written. -/
theorem exists_flatMap {write : Char → List Char} (hmark : write byteOrderMark = [byteOrderMark])
    (hwrite : ∀ c, c ≠ byteOrderMark → byteOrderMark ∉ write c)
    (h : LosesMarks (s.flatMap write) r) : ∃ t, r = t.flatMap write ∧ LosesMarks s t := by
  induction s generalizing r with
  | nil =>
    cases h
    exact ⟨[], rfl, .nil⟩
  | cons c s ih =>
    rw [List.flatMap_cons] at h
    obtain ⟨first, rest, rfl, hfirst, hrest⟩ := h.exists_append
    obtain ⟨t, rfl, hs⟩ := ih hrest
    by_cases hc : c = byteOrderMark
    · subst hc
      rw [hmark] at hfirst
      cases hfirst with
      | keep _ hnil =>
        cases hnil
        exact ⟨byteOrderMark :: t, by rw [List.flatMap_cons, hmark], hs.keep _⟩
      | lose hnil =>
        cases hnil
        exact ⟨t, rfl, hs.lose⟩
    · rw [hfirst.eq_of_not_mem (hwrite c hc)]
      exact ⟨c :: t, List.flatMap_cons.symm, hs.keep c⟩

end LosesMarks

/-! ## Pieces -/

/-- The text of pieces without the marks that they begin with. -/
def withoutMarks (pieces : List (List Char)) : List Char :=
  (pieces.map dropByteOrderMark).flatten

/-- At most the first character of a piece is lost, and only if it is a mark. -/
theorem losesMarks_dropByteOrderMark (piece : List Char) :
    LosesMarks piece (dropByteOrderMark piece) := by
  cases piece with
  | nil => exact .nil
  | cons c rest =>
    by_cases hc : c = byteOrderMark
    · rw [dropByteOrderMark, if_pos hc, hc]
      exact (LosesMarks.refl rest).lose
    · rw [dropByteOrderMark, if_neg hc]
      exact .refl _

/-- All pieces together lose marks and nothing else. -/
theorem losesMarks_withoutMarks (pieces : List (List Char)) :
    LosesMarks pieces.flatten (withoutMarks pieces) := by
  induction pieces with
  | nil => exact .nil
  | cons piece pieces ih => exact (losesMarks_dropByteOrderMark piece).append ih

theorem dropByteOrderMark_eq_iff (piece : List Char) :
    dropByteOrderMark piece = piece ↔ piece.head? ≠ some byteOrderMark := by
  cases piece with
  | nil => exact ⟨fun _ => nofun, fun _ => rfl⟩
  | cons c rest => by_cases hc : c = byteOrderMark <;> simp [dropByteOrderMark, hc]

/-- Nothing is lost exactly if no piece begins with a mark. -/
theorem withoutMarks_eq_iff (pieces : List (List Char)) :
    withoutMarks pieces = pieces.flatten ↔
      ∀ piece ∈ pieces, piece.head? ≠ some byteOrderMark := by
  induction pieces with
  | nil => simp [withoutMarks]
  | cons piece pieces ih =>
    have hpiece := (losesMarks_dropByteOrderMark piece).sublist
    have hrest := (losesMarks_withoutMarks pieces).sublist
    have hsplit : withoutMarks (piece :: pieces) = (piece :: pieces).flatten ↔
        dropByteOrderMark piece = piece ∧ withoutMarks pieces = pieces.flatten := by
      refine ⟨fun h => ?_, fun h => ?_⟩
      · -- no part gets longer, so the parts are as long as before if the whole is
        have hlength : (dropByteOrderMark piece).length + (withoutMarks pieces).length =
            piece.length + pieces.flatten.length := by
          simpa [withoutMarks] using congrArg List.length h
        have := hpiece.length_le
        have := hrest.length_le
        exact ⟨hpiece.eq_of_length (by omega), hrest.eq_of_length (by omega)⟩
      · show dropByteOrderMark piece ++ withoutMarks pieces = piece ++ pieces.flatten
        rw [h.1, h.2]
    rw [hsplit, dropByteOrderMark_eq_iff, ih, List.forall_mem_cons]

/-! ## Line ends -/

/-- A text without carriage returns has its line ends already. -/
theorem joinLineEnds_of_not_mem (h : '\r' ∉ s) : joinLineEnds s = s := by
  fun_induction joinLineEnds s with
  | case1 => rfl
  | case2 rest ih => exact absurd List.mem_cons_self h
  | case3 rest hrest ih => exact absurd List.mem_cons_self h
  | case4 c rest _ _ ih => rw [ih fun hmem => h (List.mem_cons_of_mem c hmem)]

/-- Where no line ends with a return, only the marks are lost at the beginnings of pieces. -/
theorem flatten_mendPieces (h : '\r' ∉ pieces.flatten) :
    (mendPieces false pieces).flatten = withoutMarks pieces := by
  induction pieces with
  | nil => rfl
  | cons piece pieces ih =>
    rw [List.flatten_cons, List.mem_append, not_or] at h
    have hpiece : '\r' ∉ dropByteOrderMark piece := fun hmem =>
      h.1 ((losesMarks_dropByteOrderMark piece).sublist.mem hmem)
    show _ = dropByteOrderMark piece ++ withoutMarks pieces
    unfold mendPieces
    cases hdrop : dropByteOrderMark piece with
    | nil => exact ih h.2
    | cons c rest =>
      rw [hdrop] at hpiece
      -- no piece ends with a return, so none is told to drop the line feed that it begins with
      have hlast : ((c :: rest).getLast? == some '\r') = false := by
        rw [beq_eq_false_iff_ne]
        exact fun heq => hpiece (List.mem_of_getLast? heq)
      dsimp only
      rw [hlast, Bool.false_and, if_neg Bool.false_ne_true, List.flatten_cons,
        joinLineEnds_of_not_mem hpiece, ih h.2]

end ComposingProxy.Markup
