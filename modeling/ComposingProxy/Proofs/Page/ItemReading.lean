import ComposingProxy.Page.ItemTemplate
import Mathlib.Data.List.Forall2

/-!
# How the text of a template is divided

A template is read from left to right: the first opening braces of what is left begin a
placeholder, and the first closing braces behind them end it. `Passes` is one such step after
the other, with the text that is left after them; it says nothing of segments or of places.
What reading does with a placeholder it does wherever the placeholder stands (`scan_of_named`),
so it does it for all that are passed (`scan_of_passes`), and how it ends is told by what is left
then: no more braces, a placeholder without end, or one without name (`exists_passes`).

> `ItemTemplate.parse_divides`: reading refuses a blank text and otherwise the first faulty
> placeholder, at its place in bytes; a text without faults is divided into segments that stand
> for all of it.
-/

namespace ComposingProxy

open Text

namespace Text

variable {α : Type} {marker before after s : List α}

/-- The text is `before`, the marker and `after`, and the marker stands nowhere further left. -/
structure FirstCut (marker before after s : List α) : Prop where
  text : s = before ++ marker ++ after
  first : ∀ b a, s = b ++ marker ++ a → before.length ≤ b.length

/-- The text is split where the marker stands first. -/
theorem splitFirst?_eq_some_iff_firstCut [DecidableEq α] :
    splitFirst? marker s = some (before, after) ↔ FirstCut marker before after s := by
  rw [splitFirst?_eq_some_iff]
  constructor
  · rintro ⟨htext, hfirst⟩
    refine ⟨htext, fun b a hs => ?_⟩
    by_contra hlt
    -- a marker further left would end inside of the first part with the marker behind it
    have hprefix : b ++ marker <+: before ++ marker := by
      refine List.prefix_of_prefix_length_le ⟨a, hs.symm⟩ ⟨after, htext.symm⟩ ?_
      simp only [List.length_append]
      omega
    obtain ⟨y, hy⟩ := hprefix
    have hlength := congrArg List.length hy
    rw [hfirst b y hy.symm] at hlength
    simp only [List.length_append, List.length_nil] at hlength
    omega
  · rintro ⟨htext, hfirst⟩
    refine ⟨htext, fun x y hxy => ?_⟩
    have hle := hfirst x (y ++ after) (by rw [htext, hxy, List.append_assoc])
    have hlength := congrArg List.length hxy
    simp only [List.length_append] at hlength
    exact List.length_eq_zero_iff.1 (by omega)

theorem splitFirst?_eq_none_iff_isInfix [DecidableEq α] :
    splitFirst? marker s = none ↔ ¬marker <:+: s := by
  rw [splitFirst?_eq_none_iff]
  constructor
  · rintro h ⟨b, a, hs⟩
    exact h b a hs.symm
  · intro h b a hs
    exact h ⟨b, a, hs.symm⟩

/-- What stands before the first marker has none in it. -/
theorem FirstCut.not_isInfix (h : FirstCut marker before after s) (hmarker : marker ≠ []) :
    ¬marker <:+: before := by
  rintro ⟨b, a, hbefore⟩
  have hle := h.first b (a ++ marker ++ after) (by rw [h.text, ← hbefore]; simp)
  have hpos := List.length_pos_iff.2 hmarker
  have hlength := congrArg List.length hbefore
  simp only [List.length_append] at hlength
  omega

/-- Neither end of the text is blank. -/
structure IsTrimmed (s : List Char) : Prop where
  first : ∀ c, s.head? = some c → isBlank c = false
  last : ∀ c, s.getLast? = some c → isBlank c = false

theorem head?_dropWhile {p : α → Bool} {l : List α} {c : α} (h : (l.dropWhile p).head? = some c) :
    p c = false := by
  have hnot := List.head?_dropWhile_not p l
  rw [h] at hnot
  exact hnot

/-- Trimming takes something off at both ends. -/
theorem exists_append_trim (s : List Char) : ∃ front back, s = front ++ trim s ++ back := by
  obtain ⟨front, back, hs, -⟩ := exists_trim_eq s
  exact ⟨front, back, hs⟩

/-- A trimmed text has no white space at its ends. -/
theorem isTrimmed_trim (s : List Char) : IsTrimmed (trim s) := by
  constructor
  · intro c hc
    -- what is trimmed at the end begins as it began before, unless it is empty
    rw [trim, trimOf, List.head?_reverse] at hc
    have hsuffix : (s.dropWhile isBlank).reverse.dropWhile isBlank <:+
        (s.dropWhile isBlank).reverse := List.dropWhile_suffix _
    obtain ⟨front, hfront⟩ := hsuffix
    have hlast : (s.dropWhile isBlank).reverse.getLast? = some c := by
      rw [← hfront, List.getLast?_append, hc]
      rfl
    rw [List.getLast?_reverse] at hlast
    exact head?_dropWhile hlast
  · intro c hc
    rw [trim, trimOf, List.getLast?_reverse] at hc
    exact head?_dropWhile hc

end Text

namespace ItemTemplate

/-! ## Placeholders -/

/-- A placeholder and the text in front of it that is in no placeholder. -/
structure Placeholder where
  before : List Char
  /-- What is between the braces. -/
  inner : List Char

namespace Placeholder

/-- The text and the placeholder as they are written. -/
def source (placeholder : Placeholder) : List Char :=
  placeholder.before ++ opening ++ placeholder.inner ++ closing

/-- The segments that they are read as. -/
def segments (placeholder : Placeholder) : List Segment :=
  literal placeholder.before ++ [.field (String.ofList (trim placeholder.inner))]

/-- Nothing but white space is between the braces. -/
def IsNameless (placeholder : Placeholder) : Prop := ∀ c ∈ placeholder.inner, isBlank c = true

/-- The placeholder is the first one of a text: the first opening braces begin it, and the first
closing braces behind these end it. The text goes on with `rest`. -/
def IsFirst (placeholder : Placeholder) (s rest : List Char) : Prop :=
  ∃ after, FirstCut opening placeholder.before after s ∧
    FirstCut closing placeholder.inner rest after

/-- A text begins with its first placeholder as it is written. -/
theorem IsFirst.eq_source_append {placeholder : Placeholder} {s rest : List Char}
    (h : placeholder.IsFirst s rest) : s = placeholder.source ++ rest := by
  obtain ⟨after, hopen, hclose⟩ := h
  rw [hopen.text, hclose.text, source]
  simp only [List.append_assoc]

/-- A placeholder has no name if nothing is left of it when it is trimmed. -/
theorem isNameless_iff {placeholder : Placeholder} :
    placeholder.IsNameless ↔ (trim placeholder.inner).isEmpty = true := by
  rw [List.isEmpty_iff, trim, trimOf_eq_nil_iff]
  rfl

end Placeholder

/-- From left to right, placeholders with names are passed, each of which is the first one of the
text that the ones in front of it leave. After the last one `left` is left. -/
inductive Passes : List Char → List Placeholder → List Char → Prop
  | done (s : List Char) : Passes s [] s
  | next {s rest left : List Char} {placeholder : Placeholder} {more : List Placeholder}
      (first : placeholder.IsFirst s rest) (named : ¬placeholder.IsNameless)
      (passes : Passes rest more left) : Passes s (placeholder :: more) left

/-- A text begins with the placeholders that are passed as they are written. -/
theorem Passes.eq_source_append {s left : List Char} {passed : List Placeholder}
    (h : Passes s passed left) : s = passed.flatMap Placeholder.source ++ left := by
  induction h with
  | done s => rfl
  | next hfirst _ _ ih =>
    rw [hfirst.eq_source_append, ih, List.flatMap_cons, List.append_assoc]

/-- How many bytes a text takes. -/
def byteLength (s : List Char) : Nat := (String.ofList s).utf8ByteSize

/-- After some placeholders, braces open at this byte and are never closed. -/
def IsUnclosedAt (s : List Char) (offset : Nat) : Prop :=
  ∃ passed left before after, Passes s passed left ∧ FirstCut opening before after left ∧
    ¬closing <:+: after ∧ offset = byteLength (passed.flatMap Placeholder.source ++ before)

/-- After some placeholders, one that has no name begins at this byte. -/
def IsNamelessAt (s : List Char) (offset : Nat) : Prop :=
  ∃ passed left rest, ∃ placeholder : Placeholder, Passes s passed left ∧
    placeholder.IsFirst left rest ∧ placeholder.IsNameless ∧
    offset = byteLength (passed.flatMap Placeholder.source ++ placeholder.before)

/-- After some placeholders, no more braces open. -/
def IsSound (s : List Char) (passed : List Placeholder) (last : List Char) : Prop :=
  Passes s passed last ∧ ¬opening <:+: last

/-! ## One placeholder -/

theorem byteLength_append (s t : List Char) :
    byteLength (s ++ t) = byteLength s + byteLength t := by
  rw [byteLength, String.ofList_append, String.utf8ByteSize_append]
  rfl

/-- The length of a text in bytes is that of its encoding. -/
theorem length_encode (s : List Char) : (Utf8.encode s).length = byteLength s := by
  rw [byteLength, ← String.size_toByteArray]
  exact List.size_toByteArray.symm

theorem byteLength_braces : byteLength opening = 2 ∧ byteLength closing = 2 := by
  decide +kernel

/-- Where no braces open, the text is one literal. -/
theorem scan_of_not_isInfix {s : List Char} (h : ¬opening <:+: s) (offset : Nat) :
    scan offset s = .ok (literal s) := by
  rw [scan, splitFirst?_eq_none_iff_isInfix.2 h]

/-- Braces that are not closed are a fault at the byte where they open. -/
theorem scan_of_unclosed {s before after : List Char} (hopen : FirstCut opening before after s)
    (hclose : ¬closing <:+: after) (offset : Nat) :
    scan offset s = .error (.unclosed (offset + byteLength before)) := by
  rw [scan, splitFirst?_eq_some_iff_firstCut.2 hopen]
  dsimp only
  rw [splitFirst?_eq_none_iff_isInfix.2 hclose, length_encode]

/-- A placeholder without a name is a fault at the byte where it begins. -/
theorem scan_of_nameless {s rest : List Char} {placeholder : Placeholder}
    (hfirst : placeholder.IsFirst s rest) (hname : placeholder.IsNameless) (offset : Nat) :
    scan offset s = .error (.emptyField (offset + byteLength placeholder.before)) := by
  obtain ⟨after, hopen, hclose⟩ := hfirst
  rw [scan, splitFirst?_eq_some_iff_firstCut.2 hopen]
  dsimp only
  rw [splitFirst?_eq_some_iff_firstCut.2 hclose]
  dsimp only
  rw [if_pos (Placeholder.isNameless_iff.1 hname), length_encode]

/-- A placeholder with a name is read where it stands, and what is behind it is read as if it
stood at the place where it stands. -/
theorem scan_of_named {s rest : List Char} {placeholder : Placeholder}
    (hfirst : placeholder.IsFirst s rest) (hname : ¬placeholder.IsNameless) (offset : Nat) :
    scan offset s = (scan (offset + byteLength placeholder.source) rest).map
      (placeholder.segments ++ ·) := by
  obtain ⟨after, hopen, hclose⟩ := hfirst
  have hplace : offset + byteLength placeholder.before + byteLength placeholder.inner + 4 =
      offset + byteLength placeholder.source := by
    obtain ⟨htwo, htwo'⟩ := byteLength_braces
    rw [Placeholder.source, byteLength_append, byteLength_append, byteLength_append, htwo, htwo']
    omega
  rw [scan, splitFirst?_eq_some_iff_firstCut.2 hopen]
  dsimp only
  rw [splitFirst?_eq_some_iff_firstCut.2 hclose]
  dsimp only
  rw [if_neg (fun hblank => hname (Placeholder.isNameless_iff.2 hblank)), length_encode,
    length_encode, hplace, Placeholder.segments]
  cases scan (offset + byteLength placeholder.source) rest with
  | error e => rfl
  | ok more => simp [Except.map]

/-! ## All placeholders -/

/-- Placeholders that are passed are read as their segments, and the rest is read as if it came
first. -/
theorem scan_of_passes {s left : List Char} {passed : List Placeholder}
    (h : Passes s passed left) : ∀ offset, scan offset s =
      (scan (offset + byteLength (passed.flatMap Placeholder.source)) left).map
        (passed.flatMap Placeholder.segments ++ ·) := by
  induction h with
  | done s =>
    intro offset
    have hzero : byteLength [] = 0 := by decide +kernel
    rw [List.flatMap_nil, List.flatMap_nil, hzero, Nat.add_zero]
    cases scan offset s <;> rfl
  | next hfirst hname _ ih =>
    intro offset
    rw [scan_of_named hfirst hname, ih, List.flatMap_cons, List.flatMap_cons, byteLength_append,
      ← Nat.add_assoc]
    cases scan _ _ with
    | error e => rfl
    | ok more => simp [Except.map]

/-- Placeholders are passed until no braces open any more or one has a fault. -/
theorem exists_passes (s : List Char) :
    (∃ passed last, IsSound s passed last) ∨ (∃ offset, IsUnclosedAt s offset) ∨
      ∃ offset, IsNamelessAt s offset := by
  -- on the length of what is left
  induction hlength : s.length using Nat.strongRecOn generalizing s with
  | _ length ih =>
    by_cases hopen : opening <:+: s
    · obtain ⟨⟨before, after⟩, hcut⟩ : ∃ cut, splitFirst? opening s = some cut := by
        rw [← Option.isSome_iff_exists, Option.isSome_iff_ne_none]
        exact fun hnone => splitFirst?_eq_none_iff_isInfix.1 hnone hopen
      have hopens := splitFirst?_eq_some_iff_firstCut.1 hcut
      cases hclosed : splitFirst? closing after with
      | none =>
        have hnever := splitFirst?_eq_none_iff_isInfix.1 hclosed
        exact Or.inr (Or.inl ⟨_, [], s, before, after, .done s, hopens, hnever, rfl⟩)
      | some cut =>
        obtain ⟨inner, rest⟩ := cut
        have hfirst : Placeholder.IsFirst ⟨before, inner⟩ s rest :=
          ⟨after, hopens, splitFirst?_eq_some_iff_firstCut.1 hclosed⟩
        by_cases hname : Placeholder.IsNameless ⟨before, inner⟩
        · exact Or.inr (Or.inr ⟨_, [], s, rest, ⟨before, inner⟩, .done s, hfirst, hname, rfl⟩)
        · have hshorter : rest.length < length := by
            rw [← hlength, hfirst.eq_source_append, Placeholder.source]
            simp [opening]
            omega
          rcases ih rest.length hshorter rest rfl with
            ⟨passed, last, hpasses, hlast⟩ | ⟨_, passed, left, front, back, hpasses, hrest⟩ |
              ⟨_, passed, left, more, faulty, hpasses, hrest⟩
          · exact Or.inl ⟨_, last, .next hfirst hname hpasses, hlast⟩
          · exact Or.inr (Or.inl ⟨_, _, left, front, back, .next hfirst hname hpasses,
              hrest.1, hrest.2.1, rfl⟩)
          · exact Or.inr (Or.inr ⟨_, _, left, more, faulty, .next hfirst hname hpasses,
              hrest.1, hrest.2.1, rfl⟩)
    · exact Or.inl ⟨[], s, .done s, hopen⟩

/-! ## Segments -/

/-- What a segment stands for: a literal for itself, a field for its name in braces, with white
space around it. -/
inductive StandsFor : Segment → List Char → Prop
  | literal (text : String) : StandsFor (.literal text) text.toList
  | field (inner : List Char) :
    StandsFor (.field (String.ofList (trim inner))) (opening ++ inner ++ closing)

/-- Whether a segment is a field. -/
def isField : Segment → Bool
  | .literal _ => false
  | .field _ => true

/-- The segments stand for the whole text, and none of them could be divided further. -/
structure IsDivisionOf (segments : List Segment) (source : List Char) : Prop where
  whole : ∃ parts, parts.flatten = source ∧ List.Forall₂ StandsFor segments parts
  literals : ∀ text, .literal text ∈ segments → text ≠ "" ∧ ¬opening <:+: text.toList
  fields : ∀ name, .field name ∈ segments →
    name ≠ "" ∧ IsTrimmed name.toList ∧ ¬closing <:+: name.toList
  /-- No literal follows another one. -/
  apart : segments.IsChain fun a b => isField a = true ∨ isField b = true

/-- A text without braces is divided by standing for itself. -/
theorem isDivisionOf_literal {s : List Char} (h : ¬opening <:+: s) :
    IsDivisionOf (literal s) s := by
  cases s with
  | nil =>
    refine ⟨⟨[], rfl, .nil⟩, fun text hmem => ?_, fun name hmem => ?_, .nil⟩
    · exact absurd hmem List.not_mem_nil
    · exact absurd hmem List.not_mem_nil
  | cons c s =>
    refine ⟨⟨[c :: s], by simp, .cons ?_ .nil⟩, fun text hmem => ?_, fun name hmem => ?_,
      .singleton _⟩
    · have hself := StandsFor.literal (String.ofList (c :: s))
      rwa [String.toList_ofList] at hself
    · obtain rfl : text = String.ofList (c :: s) := by simpa [literal] using hmem
      rw [String.toList_ofList]
      exact ⟨fun hempty => absurd (String.ofList_eq_empty_iff.1 hempty) (by simp), h⟩
    · exact absurd hmem (by simp [literal])

/-- A field may stand next to anything. -/
theorem isChain_field_cons {name : String} {segments : List Segment}
    (h : segments.IsChain fun a b => isField a = true ∨ isField b = true) :
    (Segment.field name :: segments).IsChain fun a b => isField a = true ∨ isField b = true := by
  cases segments with
  | nil => exact .singleton _
  | cons segment rest => exact .cons_cons (Or.inl rfl) h

/-- The text in front of a placeholder, if any, and the placeholder are divided off. -/
theorem IsDivisionOf.cons {s rest : List Char} {placeholder : Placeholder}
    {segments : List Segment} (h : IsDivisionOf segments rest)
    (hfirst : placeholder.IsFirst s rest) (hname : ¬placeholder.IsNameless) :
    IsDivisionOf (placeholder.segments ++ segments) s := by
  have hs := hfirst.eq_source_append
  obtain ⟨after, hopen, hclose⟩ := hfirst
  -- no braces open in front of the first placeholder
  have hbefore := isDivisionOf_literal (hopen.not_isInfix (by decide))
  obtain ⟨parts, hparts, hall⟩ := h.whole
  obtain ⟨front, hfront, hliteral⟩ := hbefore.whole
  rw [Placeholder.segments, List.append_assoc, List.singleton_append]
  constructor
  case whole =>
    refine ⟨front ++ (opening ++ placeholder.inner ++ closing) :: parts, ?_, ?_⟩
    · rw [List.flatten_append, List.flatten_cons, hfront, hparts, hs, Placeholder.source]
      simp only [List.append_assoc]
    · exact List.rel_append hliteral (.cons (.field placeholder.inner) hall)
  case literals =>
    intro text hmem
    rcases List.mem_append.1 hmem with hmem | hmem
    · exact hbefore.literals text hmem
    · rcases List.mem_cons.1 hmem with heq | hmem
      · exact absurd heq (by simp)
      · exact h.literals text hmem
  case fields =>
    intro name hmem
    rcases List.mem_append.1 hmem with hmem | hmem
    · exact hbefore.fields name hmem
    · rcases List.mem_cons.1 hmem with heq | hmem
      · obtain rfl := Segment.field.inj heq
        rw [String.toList_ofList]
        refine ⟨fun hempty => hname ?_, isTrimmed_trim _, fun hpart => ?_⟩
        · rw [Placeholder.isNameless_iff, List.isEmpty_iff]
          exact String.ofList_eq_empty_iff.1 hempty
        · -- what is in the name is between the braces
          obtain ⟨front, back, hinner⟩ := exists_append_trim placeholder.inner
          refine hclose.not_isInfix (by decide) (hpart.trans ⟨front, back, hinner.symm⟩)
      · exact h.fields name hmem
  case apart =>
    cases hc : placeholder.before with
    | nil => exact isChain_field_cons h.apart
    | cons c rest => exact .cons_cons (Or.inr rfl) (isChain_field_cons h.apart)

/-- The segments of all placeholders and of the last literal divide the text. -/
theorem isDivisionOf_of_isSound {s last : List Char} {passed : List Placeholder}
    (h : IsSound s passed last) :
    IsDivisionOf (passed.flatMap Placeholder.segments ++ literal last) s := by
  obtain ⟨hpasses, hlast⟩ := h
  induction hpasses with
  | done s => exact isDivisionOf_literal hlast
  | next hfirst hname _ ih =>
    rw [List.flatMap_cons, List.append_assoc]
    exact (ih hlast).cons hfirst hname

/-! ## The whole text -/

/-- A text with braces is not blank. -/
theorem not_blank_of_isInfix {s : List Char} (h : opening <:+: s) :
    ¬∀ c ∈ s, isBlank c = true := by
  intro hall
  have hbrace := hall '\x7b' (h.subset (by decide))
  exact absurd hbrace (by decide)

/-- Braces that open behind some placeholders open in the text. -/
theorem Passes.isInfix {s left : List Char} {passed : List Placeholder}
    (h : Passes s passed left) (hleft : opening <:+: left) : opening <:+: s := by
  rw [h.eq_source_append]
  exact hleft.trans (List.suffix_append _ _).isInfix

/-- A blank text is no template. -/
theorem parse_of_blank {source : String} (h : ∀ c ∈ source.toList, isBlank c = true) :
    parse source = .error .empty := by
  rw [parse, if_pos]
  rw [List.isEmpty_iff, trim, trimOf_eq_nil_iff]
  exact h

/-- Any other text is scanned from its first byte. -/
theorem parse_of_not_blank {source : String} (h : ¬∀ c ∈ source.toList, isBlank c = true) :
    parse source = (scan 0 source.toList).map ItemTemplate.mk := by
  rw [parse, if_neg]
  rw [List.isEmpty_iff, trim, trimOf_eq_nil_iff]
  exact h

/-- A text whose placeholders all have names is read as their segments. -/
theorem parse_of_isSound {source : String} {passed : List Placeholder} {last : List Char}
    (hsource : ¬∀ c ∈ source.toList, isBlank c = true) (h : IsSound source.toList passed last) :
    parse source = .ok ⟨passed.flatMap Placeholder.segments ++ literal last⟩ := by
  rw [parse_of_not_blank hsource, scan_of_passes h.1, scan_of_not_isInfix h.2]
  rfl

/-- The place of braces that are not closed is reported. -/
theorem parse_of_isUnclosedAt {source : String} {offset : Nat}
    (h : IsUnclosedAt source.toList offset) : parse source = .error (.unclosed offset) := by
  obtain ⟨passed, left, before, after, hpasses, hopen, hclose, rfl⟩ := h
  have hleft : opening <:+: left := ⟨before, after, hopen.text.symm⟩
  rw [parse_of_not_blank (not_blank_of_isInfix (hpasses.isInfix hleft)), scan_of_passes hpasses,
    scan_of_unclosed hopen hclose, Nat.zero_add, ← byteLength_append]
  rfl

/-- The place of a placeholder without a name is reported. -/
theorem parse_of_isNamelessAt {source : String} {offset : Nat}
    (h : IsNamelessAt source.toList offset) : parse source = .error (.emptyField offset) := by
  obtain ⟨passed, left, rest, placeholder, hpasses, hfirst, hname, rfl⟩ := h
  have hleft : opening <:+: left := by
    obtain ⟨after, hopen, -⟩ := hfirst
    exact ⟨placeholder.before, after, hopen.text.symm⟩
  rw [parse_of_not_blank (not_blank_of_isInfix (hpasses.isInfix hleft)), scan_of_passes hpasses,
    scan_of_nameless hfirst hname, Nat.zero_add, ← byteLength_append]
  rfl

/-- There are four ways for reading to go: the text is blank, a placeholder has one of two faults,
or all is divided. -/
inductive Reads (source : String) : Except TemplateError ItemTemplate → Prop
  | blank (hblank : ∀ c ∈ source.toList, isBlank c = true) : Reads source (.error .empty)
  | unclosed {offset : Nat} (h : IsUnclosedAt source.toList offset) :
    Reads source (.error (.unclosed offset))
  | nameless {offset : Nat} (h : IsNamelessAt source.toList offset) :
    Reads source (.error (.emptyField offset))
  | divided {passed : List Placeholder} {last : List Char}
    (hsource : ¬∀ c ∈ source.toList, isBlank c = true) (h : IsSound source.toList passed last) :
    Reads source (.ok ⟨passed.flatMap Placeholder.segments ++ literal last⟩)

/-- Every text is read in one of the four ways. -/
theorem reads_parse (source : String) : Reads source (parse source) := by
  by_cases hblank : ∀ c ∈ source.toList, isBlank c = true
  · rw [parse_of_blank hblank]
    exact .blank hblank
  · rcases exists_passes source.toList with ⟨passed, last, h⟩ | ⟨offset, h⟩ | ⟨offset, h⟩
    · rw [parse_of_isSound hblank h]
      exact .divided hblank h
    · rw [parse_of_isUnclosedAt h]
      exact .unclosed h
    · rw [parse_of_isNamelessAt h]
      exact .nameless h

/-- A blank text is no template. In any other text the first faulty placeholder is refused at the
byte where it begins, the first opening braces of what is left being closed by the first closing
braces behind them. If none is faulty, the text is divided into the literals and fields that the
placeholders make, these stand for the whole text, no literal is empty, has opening braces in it or
follows another one, and no field is without name or has a name with closing braces in it or white
space at an end. -/
theorem parse_divides (source : String) :
    (parse source = .error .empty ↔ ∀ c ∈ source.toList, isBlank c = true) ∧
    (∀ offset, parse source = .error (.unclosed offset) ↔ IsUnclosedAt source.toList offset) ∧
    (∀ offset, parse source = .error (.emptyField offset) ↔ IsNamelessAt source.toList offset) ∧
    (∀ template, parse source = .ok template ↔ (¬∀ c ∈ source.toList, isBlank c = true) ∧
      ∃ passed last, IsSound source.toList passed last ∧
        template.segments = passed.flatMap Placeholder.segments ++ literal last) ∧
    ∀ template, parse source = .ok template →
      IsDivisionOf template.segments source.toList := by
  have hreads := reads_parse source
  refine ⟨⟨fun h => ?_, parse_of_blank⟩, fun offset => ⟨fun h => ?_, parse_of_isUnclosedAt⟩,
    fun offset => ⟨fun h => ?_, parse_of_isNamelessAt⟩, fun template => ⟨fun h => ?_, ?_⟩,
    fun template h => ?_⟩
  · rw [h] at hreads
    cases hreads with
    | blank hblank => exact hblank
  · rw [h] at hreads
    cases hreads with
    | unclosed hunclosed => exact hunclosed
  · rw [h] at hreads
    cases hreads with
    | nameless hnameless => exact hnameless
  · rw [h] at hreads
    cases hreads with
    | divided hsource hsound => exact ⟨hsource, _, _, hsound, rfl⟩
  · rintro ⟨hsource, passed, last, hsound, hsegments⟩
    rw [parse_of_isSound hsource hsound, ← hsegments]
  · rw [h] at hreads
    cases hreads with
    | divided _ hsound => exact isDivisionOf_of_isSound hsound

/-- Three opening braces and three closing ones: the last opening one is in the name that is
trimmed, and the last closing one is in the next literal. -/
theorem parse_divides_braces :
    parse "é\x7b\x7b\x7b a\x7d\x7d\x7d\x7b\x7bb\x7d\x7d" =
        .ok ⟨[.literal "é", .field "\x7b a", .literal "\x7d", .field "b"]⟩ ∧
      IsDivisionOf [.literal "é", .field "\x7b a", .literal "\x7d", .field "b"]
        "é\x7b\x7b\x7b a\x7d\x7d\x7d\x7b\x7bb\x7d\x7d".toList ∧
      parse "é\x7b\x7ba\x7d\x7d\x7b\x7b \x7d\x7d" = .error (.emptyField 7) ∧
      IsNamelessAt "é\x7b\x7ba\x7d\x7d\x7b\x7b \x7d\x7d".toList 7 := by
  have hparse : parse "é\x7b\x7b\x7b a\x7d\x7d\x7d\x7b\x7bb\x7d\x7d" =
      .ok ⟨[.literal "é", .field "\x7b a", .literal "\x7d", .field "b"]⟩ := by decide +kernel
  have hrefused : parse "é\x7b\x7ba\x7d\x7d\x7b\x7b \x7d\x7d" = .error (.emptyField 7) := by
    decide +kernel
  obtain ⟨-, -, -, -, hdivided⟩ := parse_divides "é\x7b\x7b\x7b a\x7d\x7d\x7d\x7b\x7bb\x7d\x7d"
  obtain ⟨-, -, hnameless, -⟩ := parse_divides "é\x7b\x7ba\x7d\x7d\x7b\x7b \x7d\x7d"
  exact ⟨hparse, hdivided _ hparse, hrefused, (hnameless 7).1 hrefused⟩

end ItemTemplate

end ComposingProxy
