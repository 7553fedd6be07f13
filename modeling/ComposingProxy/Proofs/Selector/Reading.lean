import Mathlib.Data.List.TakeWhile
import ComposingProxy.Proofs.Selector.Grammar
import ComposingProxy.Text.Search

/-!
# Reading selectors by their grammar

The reader takes each part of a selector from the front of a text. What it takes is that part
by the grammar (`isCompound_of_compound` and the like), and a part by the grammar is what it
takes, as long as the rest does not begin with more of it (`compound_append` and the like).

> `isSelector_of_selector`, `selector_of_isSelector`: a text is read as a selector exactly if the
> grammar says that it is that selector.
-/

namespace ComposingProxy.Markup

open Text (isBlank isLetter takeWhile_append_of_all)

namespace Selector.Parser

open Grammar

/-! ## What is read is written so -/

/-- Skipping takes blanks off a text. -/
theorem exists_skip (s : List Char) : ∃ blanks, IsBlanks blanks ∧ s = blanks ++ skip s :=
  ⟨s.takeWhile isBlank, fun _ hc => List.mem_takeWhile_imp hc,
    List.takeWhile_append_dropWhile.symm⟩

/-- The characters that are taken for a name are name characters. -/
theorem isNameText_takeWhile (s : List Char) : IsNameText (s.takeWhile isNameChar) :=
  fun _ hc => List.mem_takeWhile_imp hc

/-- A name that is read is written there. -/
theorem isName_of_someName {s rest : List Char} {n : String} (h : someName s = .ok (n, rest)) :
    ∃ t, IsName t ∧ n = String.ofList t ∧ s = t ++ rest := by
  unfold someName at h
  split at h
  · exact absurd h (by simp)
  · next hne =>
    obtain ⟨rfl, rfl⟩ := Prod.mk.inj (Except.ok.inj h)
    exact ⟨_, ⟨by simpa using hne, isNameText_takeWhile s⟩, rfl,
      List.takeWhile_append_dropWhile.symm⟩

/-- A value that is read is written there, in quotes or bare. -/
theorem isValue_of_value {s rest : List Char} {v : String} (h : value s = .ok (v, rest)) :
    ∃ t, IsValue t v ∧ s = t ++ rest := by
  have hbare : ∀ s : List Char, Except.ok (name s) = (.ok (v, rest) : Except Fault _) →
      ∃ t, IsValue t v ∧ s = t ++ rest := by
    intro s hname
    obtain ⟨rfl, rfl⟩ := Prod.mk.inj (Except.ok.inj hname)
    exact ⟨_, .bare (isNameText_takeWhile s), List.takeWhile_append_dropWhile.symm⟩
  unfold value at h
  split at h
  · next c tail =>
    split at h
    · next hquote =>
      split at h
      · exact absurd h (by simp)
      · next d after hafter =>
        obtain ⟨rfl, rfl⟩ := Prod.mk.inj (Except.ok.inj h)
        -- what stopped the walk is the quote
        have hd : d = c := by
          have hstop := List.head_dropWhile_not (· != c) (l := tail) (by simp [hafter])
          simpa [hafter] using hstop
        have hinside : c ∉ tail.takeWhile (· != c) := fun hmem => by
          simpa using List.mem_takeWhile_imp hmem
        refine ⟨_, .quoted hquote hinside, ?_⟩
        · have hsplit := List.takeWhile_append_dropWhile (p := (· != c)) (l := tail)
          rw [hafter, hd] at hsplit
          rw [List.cons_append, List.append_assoc, List.singleton_append, hsplit]
    · exact hbare _ h
  · exact hbare _ h

/-- A condition on an attribute that is read is written there with its closing bracket. -/
theorem isAttribute_of_attrCondition {s rest : List Char} {condition : Condition}
    (h : attrCondition s = .ok (condition, rest)) :
    ∃ t, IsAttribute t condition ∧ s = t ++ rest := by
  obtain ⟨before, hbefore, hs⟩ := exists_skip s
  obtain ⟨after, hafter, hname⟩ := exists_skip ((skip s).dropWhile isNameChar)
  have hsplit := List.takeWhile_append_dropWhile (p := isNameChar) (l := skip s)
  unfold attrCondition at h
  dsimp only [name] at h
  split at h
  · exact absurd h (by simp)
  · next hne =>
    have hident : IsName ((skip s).takeWhile isNameChar) :=
      ⟨by simpa using hne, isNameText_takeWhile _⟩
    split at h
    · next tail htail =>
      obtain ⟨rfl, rfl⟩ := Prod.mk.inj (Except.ok.inj h)
      refine ⟨_, .hasAttr hbefore hident hafter, ?_⟩
      rw [htail] at hname
      simp only [List.append_assoc, List.singleton_append]
      rw [← hname, hsplit, ← hs]
    · next tail htail =>
      rw [htail] at hname
      split at h
      · exact absurd h (by simp)
      · next v behind hvalue =>
        obtain ⟨lead, hlead, htext⟩ := exists_skip tail
        obtain ⟨text, hv, hbehind⟩ := isValue_of_value hvalue
        obtain ⟨trail, htrail, hlast⟩ := exists_skip behind
        split at h
        · next last hclose =>
          obtain ⟨rfl, rfl⟩ := Prod.mk.inj (Except.ok.inj h)
          refine ⟨_, .attrEquals hbefore hident hafter hlead hv htrail, ?_⟩
          rw [hclose] at hlast
          simp only [List.append_assoc, List.cons_append, List.nil_append]
          rw [← hlast, ← hbehind, ← htext, ← hname, hsplit, ← hs]
        · exact absurd h (by simp)
    · exact absurd h (by simp)
    · exact absurd h (by simp)

/-- All conditions that are read are written one directly behind the other. -/
theorem isConditions_of_conditions {s last : List Char} {found : List Condition}
    (h : conditions s = .ok (found, last)) : ∃ t, IsConditions t found ∧ s = t ++ last := by
  fun_induction conditions s generalizing found last with
  | case1 | case2 | case4 | case5 | case7 | case8 => exact absurd h (by simp)
  | case3 rest n after hname more last' hmore ih =>
    obtain ⟨rfl, rfl⟩ := Prod.mk.inj (Except.ok.inj h)
    obtain ⟨name, hident, rfl, rfl⟩ := isName_of_someName hname
    obtain ⟨t, ht, rfl⟩ := ih hmore
    exact ⟨_, .cons (.hasId hident) ht, by simp⟩
  | case6 rest n after hname more last' hmore ih =>
    obtain ⟨rfl, rfl⟩ := Prod.mk.inj (Except.ok.inj h)
    obtain ⟨name, hident, rfl, rfl⟩ := isName_of_someName hname
    obtain ⟨t, ht, rfl⟩ := ih hmore
    exact ⟨_, .cons (.hasClass hident) ht, by simp⟩
  | case9 rest condition after hattr more last' hmore ih =>
    obtain ⟨rfl, rfl⟩ := Prod.mk.inj (Except.ok.inj h)
    obtain ⟨text, hcondition, rfl⟩ := isAttribute_of_attrCondition hattr
    obtain ⟨t, ht, rfl⟩ := ih hmore
    exact ⟨_, .cons (.bracketed hcondition) ht, by simp⟩
  | case10 =>
    obtain ⟨rfl, rfl⟩ := Prod.mk.inj (Except.ok.inj h)
    exact ⟨[], .nil, rfl⟩

/-- A star or name is taken off a text, or nothing is. -/
theorem isTypeName_of_typeName (s : List Char) :
    (∃ t, (typeName s).1 = true ∧ IsTypeName t (typeName s).2.1 ∧ s = t ++ (typeName s).2.2) ∨
      typeName s = (false, none, s) := by
  unfold typeName
  split
  · exact Or.inl ⟨['*'], rfl, .star, rfl⟩
  · next c rest _ =>
    split
    · next hletter =>
      have htake : (c :: rest).takeWhile isNameChar = c :: rest.takeWhile isNameChar := by
        rw [List.takeWhile_cons, isNameChar_of_isLetter hletter, if_pos rfl]
      refine Or.inl ⟨(c :: rest).takeWhile isNameChar, rfl, ?_,
        List.takeWhile_append_dropWhile.symm⟩
      dsimp only [name]
      rw [htake]
      exact .named hletter (isNameText_takeWhile rest)
    · exact Or.inr rfl
  · exact Or.inr rfl

/-- A compound that is read is written there, and has something in it. -/
theorem isCompound_of_compound {s last : List Char} {found : Compound}
    (h : compound s = .ok (found, last)) : ∃ t, IsCompound t found ∧ s = t ++ last := by
  unfold compound at h
  dsimp only at h
  split at h
  · exact absurd h (by simp)
  · next conditions rest hconditions =>
    obtain ⟨t, ht, hrest⟩ := isConditions_of_conditions hconditions
    split at h
    · exact absurd h (by simp)
    · next hsome =>
      obtain ⟨rfl, rfl⟩ := Prod.mk.inj (Except.ok.inj h)
      rcases isTypeName_of_typeName s with ⟨u, -, hu, hs⟩ | hnone
      · refine ⟨u ++ t, .typed hu ht, ?_⟩
        rw [List.append_assoc, ← hrest, ← hs]
      · rw [hnone] at hsome hrest ⊢
        exact ⟨t, .untyped (by simpa using hsome) ht, hrest⟩

theorem isBlanks_of_combinator {s : List Char} (h : combinator s = .ok none) : IsBlanks s := by
  obtain ⟨blanks, hblanks, hs⟩ := exists_skip s
  unfold combinator at h
  split at h
  · next hnil =>
    rw [hnil, List.append_nil] at hs
    exact hs ▸ hblanks
  · exact absurd h (by simp)
  · split at h <;> exact absurd h (by simp)

/-- A combinator that is read is a `>` or some blanks. -/
theorem isCombinator_of_combinator {s rest : List Char} {found : Combinator}
    (h : combinator s = .ok (some (found, rest))) :
    ∃ t, IsCombinator t found ∧ s = t ++ rest := by
  obtain ⟨blanks, hblanks, hs⟩ := exists_skip s
  unfold combinator at h
  split at h
  · exact absurd h (by simp)
  · next tail htail =>
    obtain ⟨rfl, rfl⟩ := Prod.mk.inj (Option.some.inj (Except.ok.inj h))
    obtain ⟨after, hafter, htext⟩ := exists_skip tail
    refine ⟨_, .child hblanks hafter, ?_⟩
    rw [List.append_assoc, List.cons_append, ← htext, ← htail, ← hs]
  · next c tail _ htail =>
    split at h
    · next hshorter =>
      obtain ⟨rfl, rfl⟩ := Prod.mk.inj (Option.some.inj (Except.ok.inj h))
      rw [htail] at hs
      refine ⟨blanks, .descendant ?_ hblanks, hs⟩
      -- the text is longer than what is left after the blanks
      rintro rfl
      rw [hs, List.nil_append, List.length_cons] at hshorter
      exact absurd hshorter (Nat.lt_irrefl _)
    · exact absurd h (by simp)

/-- Steps are read up to the blanks at the end. -/
theorem isSteps_of_steps {s : List Char} {found : List Step} (h : steps s = .ok found) :
    ∃ t after, IsSteps t found ∧ IsBlanks after ∧ s = t ++ after := by
  fun_induction steps s generalizing found with
  | case1 | case3 | case4 | case5 => exact absurd h (by simp)
  | case2 s hnone =>
    obtain rfl := Except.ok.inj h
    exact ⟨[], s, .nil, isBlanks_of_combinator hnone, rfl⟩
  | case6 s combinator rest hcombinator _ compound after hcompound more hmore ih =>
    obtain rfl := Except.ok.inj h
    obtain ⟨t, ht, rfl⟩ := isCombinator_of_combinator hcombinator
    obtain ⟨u, hu, rfl⟩ := isCompound_of_compound hcompound
    obtain ⟨v, blanks, hv, hblanks, rfl⟩ := ih hmore
    exact ⟨_, blanks, .cons ht hu hv, hblanks, by simp only [List.append_assoc]⟩

/-- A selector that is read is the whole text. -/
theorem isSelector_of_selector {s : List Char} {found : Selector} (h : selector s = .ok found) :
    IsSelector s found := by
  obtain ⟨before, hbefore, hs⟩ := exists_skip s
  unfold selector at h
  dsimp only at h
  split at h
  · exact absurd h (by simp)
  · split at h
    · exact absurd h (by simp)
    · next first rest hfirst =>
      split at h
      · exact absurd h (by simp)
      · next more hmore =>
        obtain rfl := Except.ok.inj h
        obtain ⟨t, ht, htext⟩ := isCompound_of_compound hfirst
        obtain ⟨u, after, hu, hafter, rfl⟩ := isSteps_of_steps hmore
        rw [hs, htext]
        exact .intro hbefore ht hu hafter

/-! ## What is written so is read -/

/-- Blanks before a text that does not begin with one are skipped. -/
theorem skip_append {blanks s : List Char} (h : IsBlanks blanks)
    (hs : ∀ c ∈ s.head?, isBlank c = false) : skip (blanks ++ s) = s :=
  (takeWhile_append_of_all s h hs).2

theorem skip_eq_self {s : List Char} (hs : ∀ c ∈ s.head?, isBlank c = false) : skip s = s :=
  @skip_append [] s (fun _ hc => absurd hc List.not_mem_nil) hs

/-- A mark is no blank. -/
theorem skip_append_mark {blanks s : List Char} {mark : Char} (h : IsBlanks blanks)
    (hmark : mark ∈ marks) : skip (blanks ++ mark :: s) = mark :: s :=
  skip_append h fun _ hc => Option.some.inj hc ▸ isBlank_of_mem_marks hmark

/-- Neither blanks nor a mark behind them continue a name. -/
theorem isNameChar_head_append {blanks s : List Char} {mark : Char} (h : IsBlanks blanks)
    (hmark : mark ∈ marks) : ∀ c ∈ (blanks ++ mark :: s).head?, isNameChar c = false := by
  intro c hc
  cases blanks with
  | nil => exact Option.some.inj hc ▸ isNameChar_of_mem_marks hmark
  | cons b blanks => exact Option.some.inj hc ▸ isNameChar_of_isBlank (h b List.mem_cons_self)

/-- A name is read up to the first character that is none of a name. -/
theorem name_append {t rest : List Char} (h : IsNameText t)
    (hrest : ∀ c ∈ rest.head?, isNameChar c = false) :
    name (t ++ rest) = (String.ofList t, rest) := by
  obtain ⟨htake, hdrop⟩ := takeWhile_append_of_all rest h hrest
  rw [name, htake, hdrop]

theorem someName_append {t rest : List Char} (h : IsName t)
    (hrest : ∀ c ∈ rest.head?, isNameChar c = false) :
    someName (t ++ rest) = .ok (String.ofList t, rest) := by
  obtain ⟨htake, -⟩ := takeWhile_append_of_all rest h.2 hrest
  rw [someName, htake, if_neg (by simpa using h.1), name_append h.2 hrest]

/-- A value is read up to the blanks and the bracket behind it. -/
theorem value_append {t blanks s : List Char} {v : String} (h : IsValue t v)
    (hblanks : IsBlanks blanks) :
    value (t ++ (blanks ++ ']' :: s)) = .ok (v, blanks ++ ']' :: s) := by
  cases h with
  | @quoted quote text hquote htext =>
    have hinside : ∀ c ∈ text, (c != quote) = true := fun c hc =>
      bne_iff_ne.mpr fun heq => htext (heq ▸ hc)
    obtain ⟨htake, hdrop⟩ := @takeWhile_append_of_all (· != quote) text
      (quote :: (blanks ++ ']' :: s)) hinside fun c hc => by simp [← Option.some.inj hc]
    rw [List.cons_append, List.append_assoc, List.singleton_append, value, if_pos hquote, htake,
      hdrop]
  | bare hname =>
    have hrest := @isNameChar_head_append blanks s ']' hblanks (by decide)
    have hnot : ∀ c ∈ (t ++ (blanks ++ ']' :: s)).head?, ¬(c = '"' ∨ c = '\'') := by
      intro c hc hquote
      have hmark : c ∈ marks := by rcases hquote with rfl | rfl <;> decide
      cases t with
      | cons d t =>
        obtain rfl := Option.some.inj hc
        exact not_mem_marks_of_isNameChar (hname d List.mem_cons_self) hmark
      | nil =>
        cases blanks with
        | nil =>
          obtain rfl := Option.some.inj hc
          exact absurd hquote (by decide)
        | cons b blanks =>
          obtain rfl := Option.some.inj hc
          have hblank := hblanks b List.mem_cons_self
          exact absurd (hblank.symm.trans (isBlank_of_mem_marks hmark)) (by simp)
    have hread := name_append hname hrest
    revert hnot hread
    cases t ++ (blanks ++ ']' :: s) with
    | nil => intro _ hread; rw [value, hread]
    | cons c rest => intro hnot hread; rw [value, if_neg (hnot c rfl), hread]

/-- The blanks before a value are skipped, and those behind it are left. If there is no value all
of them are skipped. -/
theorem exists_value_skip {t blanks s : List Char} {v : String} (h : IsValue t v)
    (hblanks : IsBlanks blanks) :
    ∃ rest, value (skip (t ++ (blanks ++ ']' :: s))) = .ok (v, rest) ∧ skip rest = ']' :: s := by
  cases t with
  | nil =>
    have hread := @value_append [] [] s v h fun _ hc => absurd hc List.not_mem_nil
    refine ⟨']' :: s, ?_, skip_eq_self fun c hc => Option.some.inj hc ▸ by decide⟩
    rw [List.nil_append, skip_append_mark hblanks (by decide)]
    exact hread
  | cons c t =>
    have hhead : isBlank c = false := by
      cases h with
      | quoted hquote _ => rcases hquote with rfl | rfl <;> decide
      | bare hname => exact isBlank_of_isNameChar (hname c List.mem_cons_self)
    have hself : skip (c :: (t ++ (blanks ++ ']' :: s))) = c :: (t ++ (blanks ++ ']' :: s)) :=
      skip_eq_self fun d hd => Option.some.inj hd ▸ hhead
    refine ⟨_, ?_, skip_append_mark hblanks (by decide)⟩
    rw [List.cons_append, hself]
    exact value_append h hblanks

/-- A condition on an attribute is read up to its closing bracket, whatever follows. -/
theorem attrCondition_append {t rest : List Char} {condition : Condition}
    (h : IsAttribute t condition) : attrCondition (t ++ rest) = .ok (condition, rest) := by
  -- what stands before the name is skipped, and then the name is taken
  have hfront : ∀ {before name : List Char} (behind : List Char), IsBlanks before →
      IsName name → (∀ c ∈ behind.head?, isNameChar c = false) →
        skip (before ++ (name ++ behind)) = name ++ behind ∧
          (name ++ behind).takeWhile isNameChar = name ∧
          (name ++ behind).dropWhile isNameChar = behind := by
    intro before name behind hbefore hname hbehind
    refine ⟨skip_append hbefore fun c hc => ?_, takeWhile_append_of_all behind hname.2 hbehind⟩
    obtain ⟨d, more, rfl⟩ := List.exists_cons_of_ne_nil hname.1
    exact Option.some.inj hc ▸ isBlank_of_isNameChar (hname.2 d List.mem_cons_self)
  cases h with
  | @hasAttr before name after hbefore hname hafter =>
    obtain ⟨hskip, htake, hdrop⟩ := hfront (after ++ ']' :: rest) hbefore hname
      (isNameChar_head_append hafter (by decide))
    simp only [List.append_assoc, List.singleton_append]
    unfold attrCondition
    dsimp only [Parser.name]
    rw [hskip, htake, hdrop, if_neg (by simpa using hname.1),
      skip_append_mark hafter (by decide)]
    rfl
  | @attrEquals before name after lead text trail v hbefore hname hafter hlead hvalue htrail =>
    obtain ⟨hskip, htake, hdrop⟩ :=
      hfront (after ++ '=' :: (lead ++ (text ++ (trail ++ ']' :: rest)))) hbefore hname
        (isNameChar_head_append hafter (by decide))
    obtain ⟨behind, hread, hclose⟩ := exists_value_skip (s := rest) hvalue htrail
    have hlead' : skip (lead ++ (text ++ (trail ++ ']' :: rest))) =
        skip (text ++ (trail ++ ']' :: rest)) := List.dropWhile_append_of_pos hlead
    simp only [List.append_assoc, List.cons_append, List.nil_append]
    unfold attrCondition
    dsimp only [Parser.name]
    rw [hskip, htake, hdrop, if_neg (by simpa using hname.1),
      skip_append_mark hafter (by decide)]
    simp only [hlead', hread, hclose]

/-- A name ends in front of conditions as it does at the end of a compound. -/
theorem isNameChar_head_conditions {t rest : List Char} {found : List Condition}
    (h : IsConditions t found) (hrest : EndsCompound rest) :
    ∀ c ∈ (t ++ rest).head?, isNameChar c = false := by
  intro c hc
  cases found with
  | nil =>
    cases h
    exact hrest.isNameChar c hc
  | cons condition more =>
    obtain ⟨d, tail, rfl, hd⟩ := h.head (List.cons_ne_nil _ _)
    obtain rfl := Option.some.inj hc
    rcases hd with rfl | rfl | rfl <;> exact isNameChar_of_mem_marks (by decide)

/-- Conditions are read as far as they go. -/
theorem conditions_append {t rest : List Char} {found : List Condition}
    (h : IsConditions t found) (hrest : EndsCompound rest) :
    conditions (t ++ rest) = .ok (found, rest) := by
  induction h with
  | nil =>
    -- behind a compound no mark begins another condition
    have hnone : ∀ mark ∈ marks, mark ≠ '>' → rest.head? ≠ some mark := by
      intro mark hmark hne hhead
      rcases hrest mark hhead with hblank | heq
      · exact absurd (hblank.symm.trans (isBlank_of_mem_marks hmark)) (by simp)
      · exact hne heq
    rw [List.nil_append]
    unfold conditions
    split
    · exact absurd rfl (hnone '#' (by decide) (by decide))
    · exact absurd rfl (hnone '.' (by decide) (by decide))
    · exact absurd rfl (hnone '[' (by decide) (by decide))
    · rfl
  | @cons s t condition more hcondition hmore ih =>
    have hhead := isNameChar_head_conditions hmore hrest
    rw [List.append_assoc]
    cases hcondition with
    | hasId hname =>
      have hread := someName_append hname hhead
      rw [List.cons_append, conditions]
      split
      · next hfault => exact absurd (hread.symm.trans hfault) (by simp)
      · next hok =>
        obtain ⟨rfl, rfl⟩ := Prod.mk.inj (Except.ok.inj (hread.symm.trans hok))
        rw [ih]
    | hasClass hname =>
      have hread := someName_append hname hhead
      rw [List.cons_append, conditions]
      split
      · next hfault => exact absurd (hread.symm.trans hfault) (by simp)
      · next hok =>
        obtain ⟨rfl, rfl⟩ := Prod.mk.inj (Except.ok.inj (hread.symm.trans hok))
        rw [ih]
    | bracketed hattr =>
      have hread := @attrCondition_append _ (t ++ rest) _ hattr
      rw [List.cons_append, conditions]
      split
      · next hfault => exact absurd (hread.symm.trans hfault) (by simp)
      · next hok =>
        obtain ⟨rfl, rfl⟩ := Prod.mk.inj (Except.ok.inj (hread.symm.trans hok))
        rw [ih]

/-- A text that begins with conditions, or with what may stand behind a compound, begins with
neither a star nor a letter. -/
theorem typeName_conditions {t rest : List Char} {found : List Condition}
    (h : IsConditions t found) (hrest : EndsCompound rest) :
    typeName (t ++ rest) = (false, none, t ++ rest) := by
  have hname := isNameChar_head_conditions h hrest
  have hstar : (t ++ rest).head? ≠ some '*' := by
    intro hhead
    cases found with
    | nil =>
      cases h
      exact absurd (hrest '*' hhead) (by decide)
    | cons condition more =>
      obtain ⟨d, tail, rfl, hd⟩ := h.head (List.cons_ne_nil _ _)
      obtain rfl := Option.some.inj hhead
      exact absurd hd (by decide)
  unfold typeName
  split
  · next heq => exact absurd (congrArg List.head? heq) hstar
  · next c tail _ heq =>
    rw [if_neg]
    intro hletter
    have hc := hname c (heq ▸ rfl)
    exact absurd (hc.symm.trans (isNameChar_of_isLetter hletter)) (by simp)
  · rfl

/-- A star or an element name is read up to where its name ends. -/
theorem typeName_append {s rest : List Char} {tag : Option String} (h : IsTypeName s tag)
    (hrest : ∀ c ∈ rest.head?, isNameChar c = false) :
    typeName (s ++ rest) = (true, tag, rest) := by
  cases h with
  | star => rfl
  | @named c tail hc htail =>
    have hread := name_append (t := c :: tail) (List.forall_mem_cons.mpr
      ⟨isNameChar_of_isLetter hc, htail⟩) hrest
    have hstar : c ≠ '*' := by
      rintro rfl
      exact not_mem_marks_of_isNameChar (isNameChar_of_isLetter hc) (by decide)
    rw [List.cons_append] at hread ⊢
    unfold typeName
    split
    · next heq => exact absurd (List.cons.inj heq).1 hstar
    · next d more _ heq =>
      obtain ⟨rfl, rfl⟩ := List.cons.inj heq
      rw [if_pos hc, hread]
    · next heq => exact absurd heq (List.cons_ne_nil _ _)

/-- A compound is read up to its end. -/
theorem compound_append {t rest : List Char} {found : Compound} (h : IsCompound t found)
    (hrest : EndsCompound rest) : compound (t ++ rest) = .ok (found, rest) := by
  unfold compound
  cases h with
  | typed hname hconditions =>
    rw [List.append_assoc, typeName_append hname (isNameChar_head_conditions hconditions hrest)]
    dsimp only
    rw [conditions_append hconditions hrest]
    rfl
  | @untyped _ found hne hconditions =>
    rw [typeName_conditions hconditions hrest]
    dsimp only
    rw [conditions_append hconditions hrest]
    dsimp only
    rw [if_neg (by simpa using hne)]

/-- A combinator is read where something that begins like a compound stands behind it. -/
theorem combinator_append {t rest : List Char} {c : Char} {found : Combinator}
    (h : IsCombinator t found) (hblank : isBlank c = false) (hc : c ≠ '>') :
    combinator (t ++ c :: rest) = .ok (some (found, c :: rest)) := by
  have hself : ∀ d ∈ (c :: rest).head?, isBlank d = false := fun d hd =>
    Option.some.inj hd ▸ hblank
  unfold combinator
  cases h with
  | @child before after hbefore hafter =>
    rw [List.append_assoc, List.cons_append, skip_append_mark hbefore (by decide)]
    show Except.ok (some (_, skip (after ++ c :: rest))) = _
    rw [skip_append hafter hself]
  | descendant hne hblanks =>
    rw [skip_append hblanks hself]
    have hpos := List.length_pos_iff.mpr hne
    split
    · next heq => exact absurd heq (List.cons_ne_nil _ _)
    · next heq => exact absurd (List.cons.inj heq).1 hc
    · next d more _ heq =>
      obtain ⟨rfl, rfl⟩ := List.cons.inj heq
      rw [if_pos (by rw [List.length_append, List.length_cons]; omega)]

/-- At the end of a text blanks are no combinator. -/
theorem combinator_blanks {blanks : List Char} (h : IsBlanks blanks) :
    combinator blanks = .ok none := by
  have hskip : skip blanks = [] := Text.dropWhile_eq_nil_iff.mpr h
  rw [combinator, hskip]

/-- Steps are read with the blanks that end the text. -/
theorem steps_append {t after : List Char} {found : List Step} (h : IsSteps t found)
    (hafter : IsBlanks after) : steps (t ++ after) = .ok found := by
  induction h with
  | nil =>
    have hnone := combinator_blanks hafter
    rw [List.nil_append, steps]
    split
    · next hfault => exact absurd (hnone.symm.trans hfault) (by simp)
    · rfl
    · next hsome => exact absurd (hnone.symm.trans hsome) (by simp)
  | @cons s t u sign _ more hsign hcompound hmore ih =>
    obtain ⟨c, tail, rfl, hblank, hc⟩ := hcompound.head
    have hread := compound_append hcompound (.of_isSteps hmore hafter)
    have hstep := @combinator_append _ (tail ++ (u ++ after)) _ _ hsign hblank hc
    simp only [List.append_assoc, List.cons_append] at hread ⊢
    rw [steps]
    split
    · next hfault => exact absurd (hstep.symm.trans hfault) (by simp)
    · next hnone => exact absurd (hstep.symm.trans hnone) (by simp)
    · next hsome =>
      obtain ⟨rfl, rfl⟩ := Prod.mk.inj (Option.some.inj (Except.ok.inj (hstep.symm.trans hsome)))
      rw [if_neg (by simp)]
      split
      · next hfault => exact absurd (hread.symm.trans hfault) (by simp)
      · next hok =>
        obtain ⟨rfl, rfl⟩ := Prod.mk.inj (Except.ok.inj (hread.symm.trans hok))
        rw [ih]

/-- What is written by the grammar is read as what it says. -/
theorem selector_of_isSelector {s : List Char} {found : Selector} (h : IsSelector s found) :
    selector s = .ok found := by
  cases h with
  | @intro before t u after first more hbefore hfirst hsteps hafter =>
    obtain ⟨c, tail, rfl, hblank, -⟩ := hfirst.head
    have hread := compound_append hfirst (.of_isSteps hsteps hafter)
    have hskip : skip (before ++ (c :: tail ++ (u ++ after))) = c :: tail ++ (u ++ after) :=
      skip_append hbefore fun d hd => Option.some.inj hd ▸ hblank
    unfold selector
    dsimp only
    rw [hskip, if_neg (by simp), hread]
    dsimp only
    rw [steps_append hsteps hafter]

end Selector.Parser

end ComposingProxy.Markup
