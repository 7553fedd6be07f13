/-!
# Searching text

Plain searches over lists, used wherever a text is cut at a marker: stripping a
known beginning and cutting at the first place where a marker stands. Main
statements: `dropPrefix?` inverts prepending; the two parts of a cut, with the
marker between them, are the whole, and the marker does not stand any earlier
(`splitFirst?_eq_some_iff`).
-/

namespace ComposingProxy.Text

variable {α : Type} [DecidableEq α]

/-- What follows `p` in `s`, if `s` begins with `p`. -/
def dropPrefix? : (p s : List α) → Option (List α)
  | [], s => some s
  | _ :: _, [] => none
  | a :: p, b :: s => if a = b then dropPrefix? p s else none

/-- Cuts `s` at the first place where `marker` stands: what comes before it and
what comes after it. -/
def splitFirst? (marker : List α) : List α → Option (List α × List α)
  | [] => if marker = [] then some ([], []) else none
  | c :: s =>
    match dropPrefix? marker (c :: s) with
    | some after => some ([], after)
    | none => (splitFirst? marker s).map fun cut => (c :: cut.1, cut.2)

/-- The parts of `s` between the places where `mark` stands; one part more than
there are marks. -/
def splitAt (mark : α) : List α → List (List α)
  | [] => [[]]
  | c :: s =>
    if c = mark then [] :: splitAt mark s
    else
      match splitAt mark s with
      | [] => [[c]]
      | part :: parts => (c :: part) :: parts

/-! ## On strings -/

/-- What follows `p` in `s`, if `s` begins with `p`. -/
def stripPrefix? (p s : String) : Option String :=
  (dropPrefix? p.toList s.toList).map String.ofList

/-- Cuts a string at the first place where `marker` stands. -/
def cut? (marker s : String) : Option (String × String) :=
  (splitFirst? marker.toList s.toList).map fun parts =>
    (String.ofList parts.1, String.ofList parts.2)

/-- Whether a string begins with a character. -/
def beginsWith (c : Char) (s : String) : Bool := s.toList.head? == some c

/-- Whether a string ends with a character. -/
def endsIn (c : Char) (s : String) : Bool := s.toList.getLast? == some c

/-- A string without its last character, if that is `c`. -/
def dropLastOf (c : Char) (s : String) : String :=
  if endsIn c s then String.ofList s.toList.dropLast else s

/-- Whether a string begins with another one. -/
def hasBeginning (p s : String) : Bool := (stripPrefix? p s).isSome

/-! ## Laws -/

theorem dropPrefix?_eq_some_iff {p s r : List α} : dropPrefix? p s = some r ↔ s = p ++ r := by
  induction p generalizing s with
  | nil => simp [dropPrefix?]
  | cons a p ih =>
    cases s with
    | nil => simp [dropPrefix?]
    | cons b s =>
      by_cases h : a = b
      · subst h; simp [dropPrefix?, ih]
      · simp [dropPrefix?, h, Ne.symm h]

theorem append_of_splitFirst? {marker s before after : List α}
    (h : splitFirst? marker s = some (before, after)) : s = before ++ marker ++ after := by
  induction s generalizing before with
  | nil =>
    by_cases hm : marker = []
    · simp [splitFirst?, hm] at h; simp [hm, h]
    · simp [splitFirst?, hm] at h
  | cons c s ih =>
    simp only [splitFirst?] at h
    split at h
    · next r hr =>
      simp at h
      obtain ⟨rfl, rfl⟩ := h
      simpa using dropPrefix?_eq_some_iff.1 hr
    · simp only [Option.map_eq_some_iff] at h
      obtain ⟨⟨a, b⟩, hab, heq⟩ := h
      simp at heq
      obtain ⟨rfl, rfl⟩ := heq
      simp [ih hab]

/-- A cut is at the first place of the marker: in what stands before it, with the marker after
that, the marker stands only at the end. -/
theorem splitFirst?_eq_some_iff {marker s before after : List α} :
    splitFirst? marker s = some (before, after) ↔ s = before ++ marker ++ after ∧
      ∀ x y, before ++ marker = x ++ marker ++ y → y = [] := by
  induction s generalizing before with
  | nil =>
    by_cases hm : marker = []
    · subst hm
      simp only [splitFirst?, if_pos, Option.some.injEq, Prod.mk.injEq, List.append_nil]
      constructor
      · rintro ⟨rfl, rfl⟩
        exact ⟨rfl, fun x y h => (List.nil_eq_append_iff.1 h).2⟩
      · rintro ⟨h, -⟩
        exact ⟨(List.nil_eq_append_iff.1 h).1.symm, (List.nil_eq_append_iff.1 h).2.symm⟩
    · simp [splitFirst?, hm]
  | cons c s ih =>
    simp only [splitFirst?]
    cases hdrop : dropPrefix? marker (c :: s) with
    | some r =>
      have hs := dropPrefix?_eq_some_iff.1 hdrop
      simp only [Option.some.injEq, Prod.mk.injEq]
      constructor
      · rintro ⟨rfl, rfl⟩
        refine ⟨hs, fun x y h => ?_⟩
        have hlength := congrArg List.length h
        simp only [List.length_append, List.length_nil] at hlength
        exact List.length_eq_zero_iff.1 (by omega)
      · rintro ⟨h, hfirst⟩
        -- the marker stands at the beginning too, so nothing stands before the first one
        have hlead : marker <+: before ++ marker := by
          have hboth : before ++ marker <+: c :: s := ⟨after, h.symm⟩
          exact List.prefix_of_prefix_length_le ⟨r, hs.symm⟩ hboth (by simp)
        obtain ⟨y, hy⟩ := hlead
        have hnil := hfirst [] y hy.symm
        have hlength := congrArg List.length hy
        simp only [hnil, List.length_append, List.length_nil] at hlength
        obtain rfl : before = [] := List.length_eq_zero_iff.1 (by omega)
        rw [hs] at h
        exact ⟨rfl, List.append_cancel_left h⟩
    | none =>
      -- the marker does not stand at the beginning, so `c` is the first of what stands before it
      have hnone : ∀ y, c :: s ≠ marker ++ y := fun y h =>
        absurd (hdrop.symm.trans (dropPrefix?_eq_some_iff.2 h)) (by simp)
      simp only [Option.map_eq_some_iff, Prod.exists, Prod.mk.injEq]
      constructor
      · rintro ⟨b, a, hab, rfl, rfl⟩
        obtain ⟨rfl, hfirst⟩ := ih.1 hab
        refine ⟨rfl, fun x y h => ?_⟩
        cases x with
        | nil =>
          refine absurd ?_ (hnone (y ++ a))
          simpa using congrArg (· ++ a) h
        | cons d x =>
          rw [List.cons_append, List.cons_append, List.cons_append, List.cons.injEq] at h
          exact hfirst x y h.2
      · rintro ⟨h, hfirst⟩
        cases before with
        | nil => exact absurd h (hnone after)
        | cons d b =>
          rw [List.cons_append, List.cons_append, List.cons.injEq] at h
          obtain ⟨rfl, rfl⟩ := h
          refine ⟨b, after, ih.2 ⟨rfl, fun x y h => ?_⟩, rfl, rfl⟩
          exact hfirst (c :: x) y (congrArg (c :: ·) h)

/-- Nothing is cut exactly where the marker does not stand anywhere. -/
theorem splitFirst?_eq_none_iff {marker s : List α} :
    splitFirst? marker s = none ↔ ∀ before after, s ≠ before ++ marker ++ after := by
  constructor
  · intro h before after hs
    induction before generalizing s with
    | nil =>
      cases s with
      | nil =>
        obtain rfl : marker = [] := (List.append_eq_nil_iff.1 hs.symm).1
        simp [splitFirst?] at h
      | cons c s =>
        rw [List.nil_append] at hs
        simp [splitFirst?, dropPrefix?_eq_some_iff.2 hs] at h
    | cons c before ih =>
      subst hs
      simp only [List.cons_append, splitFirst?] at h
      split at h
      · simp at h
      · exact ih (Option.map_eq_none_iff.1 h) rfl
  · intro h
    cases hcut : splitFirst? marker s with
    | none => rfl
    | some cut => exact absurd (append_of_splitFirst? hcut) (h cut.1 cut.2)

theorem append_of_cut? {marker s before after : String}
    (h : cut? marker s = some (before, after)) : s = before ++ marker ++ after := by
  simp only [cut?, Option.map_eq_some_iff] at h
  obtain ⟨⟨a, b⟩, hab, heq⟩ := h
  simp only [Prod.mk.injEq] at heq
  obtain ⟨rfl, rfl⟩ := heq
  apply String.toList_inj.1
  simpa using append_of_splitFirst? hab

theorem cut?_eq_some_iff {marker s before after : String} :
    cut? marker s = some (before, after) ↔ s = before ++ marker ++ after ∧
      ∀ x y, before ++ marker = x ++ marker ++ y → y = "" := by
  simp only [cut?, Option.map_eq_some_iff, Prod.exists, Prod.mk.injEq]
  constructor
  · rintro ⟨b, a, hcut, rfl, rfl⟩
    obtain ⟨hs, hfirst⟩ := splitFirst?_eq_some_iff.1 hcut
    refine ⟨String.toList_inj.1 (by simpa using hs), fun x y h => String.toList_inj.1 ?_⟩
    exact hfirst x.toList y.toList (by simpa using congrArg String.toList h)
  · rintro ⟨rfl, hfirst⟩
    refine ⟨before.toList, after.toList, ?_, by simp, by simp⟩
    refine splitFirst?_eq_some_iff.2 ⟨by simp, fun x y h => ?_⟩
    have hy := hfirst (String.ofList x) (String.ofList y) (String.toList_inj.1 (by simpa using h))
    simpa using congrArg String.toList hy

theorem cut?_eq_none_iff {marker s : String} :
    cut? marker s = none ↔ ∀ before after, s ≠ before ++ marker ++ after := by
  simp only [cut?, Option.map_eq_none_iff, splitFirst?_eq_none_iff]
  constructor
  · intro h before after hs
    exact h before.toList after.toList (by simp [hs])
  · intro h before after hs
    exact h (String.ofList before) (String.ofList after) (String.toList_inj.1 (by simpa using hs))

theorem stripPrefix?_eq_some_iff {p s r : String} : stripPrefix? p s = some r ↔ s = p ++ r := by
  simp only [stripPrefix?, Option.map_eq_some_iff, dropPrefix?_eq_some_iff]
  constructor
  · rintro ⟨a, ha, rfl⟩
    apply String.toList_inj.1
    simpa using ha
  · rintro rfl
    exact ⟨r.toList, by simp, by simp⟩

/-- A text whose characters all satisfy a test is taken whole by it. -/
theorem takeWhile_append_of_all {test : Char → Bool} {s : List Char} (rest : List Char)
    (hs : ∀ c ∈ s, test c = true) (hrest : ∀ c ∈ rest.head?, test c = false) :
    (s ++ rest).takeWhile test = s ∧ (s ++ rest).dropWhile test = rest := by
  rw [List.takeWhile_append_of_pos hs, List.dropWhile_append_of_pos hs]
  cases rest with
  | nil => exact ⟨List.append_nil s, rfl⟩
  | cons c rest =>
    have hc : test c = false := hrest c rfl
    rw [List.takeWhile_cons, List.dropWhile_cons, hc]
    exact ⟨List.append_nil s, rfl⟩

end ComposingProxy.Text
