import ComposingProxy.Proofs.Json.RoundTrip

/-!
# Marks in the text of a value

A *mark* begins with `<` and has no punctuation of JSON, no control character and no backslash in
it. Writing a value neither makes a mark nor breaks one up:

> `isMarked_write_iff`: the text of a value has a mark in it exactly if one of its strings or
> names has.

Punctuation and the backslash of an escape stand in no mark, so a mark lies on one side of each
(`infix_append_cons_iff`); and behind a backslash no mark begins in the escape, which has no `<`
in it (`cons_infix_append_iff`). Letters count in any case.
-/

namespace ComposingProxy.Json

/-! ## Parts of a row -/

section Rows

variable {α : Type} {mark front back : List α} {x : α}

/-- What does not hold `x` lies on one side of it. -/
theorem infix_append_cons_iff (hmark : mark ≠ []) (hx : x ∉ mark) :
    mark <:+: front ++ x :: back ↔ mark <:+: front ∨ mark <:+: back := by
  have hbegin : ∀ part, part <+: x :: back → x ∉ part → part = [] := by
    intro part hpart hnot
    cases part with
    | nil => rfl
    | cons y part =>
      obtain ⟨rfl, -⟩ := List.cons_prefix_cons.mp hpart
      exact absurd List.mem_cons_self hnot
  rw [List.infix_append_iff, List.infix_cons_iff]
  constructor
  · rintro (hfront | (hcons | hback) | ⟨left, right, rfl, hleft, hright⟩)
    · exact Or.inl hfront
    · exact absurd (hbegin mark hcons hx) hmark
    · exact Or.inr hback
    · -- what lies across the border would go on with `x`
      rw [hbegin right hright fun hmem => hx (List.mem_append_right left hmem), List.append_nil]
      exact Or.inl hleft.isInfix
  · rintro (hfront | hback)
    · exact Or.inl hfront
    · exact Or.inr (Or.inl (Or.inr hback))

/-- What begins with `x` does not begin in a row without `x`. -/
theorem cons_infix_append_iff (hx : x ∉ front) :
    x :: mark <:+: front ++ back ↔ x :: mark <:+: back := by
  induction front with
  | nil => rfl
  | cons y front ih =>
    rw [List.mem_cons, not_or] at hx
    obtain ⟨hne, hfront⟩ := hx
    rw [List.cons_append, List.infix_cons_iff, ih hfront]
    constructor
    · rintro (hbegin | hback)
      · exact absurd (List.cons_prefix_cons.mp hbegin).1 hne
      · exact hback
    · exact Or.inr

end Rows

/-! ## Marks -/

/-- A row of small characters that can stand in a string of JSON only. -/
structure IsMark (mark : List Char) : Prop where
  head : ∃ rest, mark = '<' :: rest
  plain : ∀ c ∈ mark, 0x20 ≤ c.toNat ∧ c ∉ ['"', '\\', '\x7b', '\x7d', ':', ',']

/-- A text has a mark in it, its letters in any case. -/
def IsMarked (mark s : List Char) : Prop := mark <:+: s.map Char.toLower

namespace IsMark

variable {mark : List Char}

/-- The characters of a mark are looked at one by one. -/
theorem of_all {rest : List Char} (h : ('<' :: rest).all (fun c =>
    decide (0x20 ≤ c.toNat ∧ c ∉ ['"', '\\', '\x7b', '\x7d', ':', ','])) = true) :
    IsMark ('<' :: rest) :=
  ⟨⟨rest, rfl⟩, fun c hc => of_decide_eq_true (List.all_eq_true.mp h c hc)⟩

theorem ne_nil (h : IsMark mark) : mark ≠ [] := by
  obtain ⟨rest, rfl⟩ := h.head
  exact List.cons_ne_nil _ _

/-- An empty text has no mark in it. -/
theorem not_isMarked_nil (h : IsMark mark) : ¬IsMarked mark [] := fun hnil =>
  h.ne_nil (List.eq_nil_of_infix_nil hnil)

/-- A control character has no small form. -/
theorem toLower_of_control {c : Char} (h : c.toNat < 0x20) : c.toLower = c := by
  unfold Char.toLower
  rw [dif_neg]
  rintro ⟨hcapital, -⟩
  rw [ge_iff_le, UInt32.le_iff_toNat_le] at hcapital
  have hsmall : 65 ≤ c.toNat := hcapital
  omega

/-- No character that is written around strings is in a mark. -/
theorem toLower_not_mem (h : IsMark mark) {x : Char}
    (hx : x.toNat < 0x20 ∨ x ∈ ['"', '\\', '\x7b', '\x7d', ':', ',']) : x.toLower ∉ mark := by
  intro hmem
  obtain ⟨hlow, hpunctuation⟩ := h.plain _ hmem
  rcases hx with hcontrol | hpunct
  · rw [toLower_of_control hcontrol] at hlow
    omega
  · have hstays : x.toLower = x := by
      have hcases := hpunct
      simp only [List.mem_cons, List.not_mem_nil, or_false] at hcases
      rcases hcases with rfl | rfl | rfl | rfl | rfl | rfl <;> rfl
    rw [hstays] at hpunctuation
    exact hpunctuation hpunct

/-- A mark lies on one side of a character that stands in none. -/
theorem isMarked_append_cons_iff (h : IsMark mark) {x : Char}
    (hx : x.toNat < 0x20 ∨ x ∈ ['"', '\\', '\x7b', '\x7d', ':', ',']) (front back : List Char) :
    IsMarked mark (front ++ x :: back) ↔ IsMarked mark front ∨ IsMarked mark back := by
  rw [IsMarked, List.map_append, List.map_cons,
    infix_append_cons_iff h.ne_nil (h.toLower_not_mem hx)]
  rfl

/-- Such a character in front of a text makes no mark with it. -/
theorem isMarked_cons_iff (h : IsMark mark) {x : Char}
    (hx : x.toNat < 0x20 ∨ x ∈ ['"', '\\', '\x7b', '\x7d', ':', ',']) (back : List Char) :
    IsMarked mark (x :: back) ↔ IsMarked mark back := by
  have hcons := h.isMarked_append_cons_iff hx [] back
  rw [List.nil_append] at hcons
  rw [hcons]
  exact or_iff_right h.not_isMarked_nil

/-! ## Strings -/

/-- A character that is not written as it is stands in no mark, and it is written as a backslash
and characters other than the one that begins a mark. -/
theorem escapeChar_cases (c : Char) :
    escapeChar c = [c] ∨ ∃ escape, escapeChar c = '\\' :: escape ∧
      '<' ∉ escape.map Char.toLower ∧
        (c.toNat < 0x20 ∨ c ∈ ['"', '\\', '\x7b', '\x7d', ':', ',']) := by
  unfold escapeChar
  split
  all_goals first
    | exact Or.inr ⟨_, rfl, by decide, by decide⟩
    | skip
  split
  · next hcontrol =>
    refine Or.inr ⟨_, rfl, ?_, Or.inl hcontrol⟩
    have hdigits : ∀ n < 0x20, '<' ∉ ['u', '0', '0', Text.hexChar (n / 16),
        Text.hexChar (n % 16)].map Char.toLower := by decide
    exact hdigits c.toNat hcontrol
  · exact Or.inl rfl

/-- Escapes neither make a mark nor break one up. -/
theorem isMarked_escaped_iff (h : IsMark mark) (s : List Char) :
    ∀ front, IsMarked mark (front ++ s.flatMap escapeChar) ↔ IsMarked mark (front ++ s) := by
  induction s with
  | nil => intro front; rfl
  | cons c s ih =>
    intro front
    rw [List.flatMap_cons]
    rcases escapeChar_cases c with hplain | ⟨escape, hescape, hhead, hc⟩
    · rw [hplain, ← List.append_assoc, ih, List.append_assoc]
      rfl
    · obtain ⟨rest, rfl⟩ := h.head
      have hbehind : IsMarked ('<' :: rest) (escape ++ s.flatMap escapeChar) ↔
          IsMarked ('<' :: rest) s := by
        rw [IsMarked, List.map_append, cons_infix_append_iff hhead]
        exact ih []
      rw [hescape, List.cons_append, h.isMarked_append_cons_iff (Or.inr (by decide)), hbehind,
        h.isMarked_append_cons_iff hc]

/-- A quoted text has the marks of the text. -/
theorem isMarked_quote_append_iff (h : IsMark mark) (text : String) (s : List Char) :
    IsMarked mark (quote text ++ s) ↔ IsMarked mark text.toList ∨ IsMarked mark s := by
  rw [quote, List.cons_append, List.cons_append, List.append_assoc, List.cons_append,
    h.isMarked_cons_iff (Or.inr (by decide)), h.isMarked_append_cons_iff (Or.inr (by decide)),
    List.nil_append]
  have hescaped := h.isMarked_escaped_iff text.toList []
  rw [List.nil_append, List.nil_append] at hescaped
  rw [hescaped]

end IsMark

/-! ## Values -/

/-- The strings in a value and the names of its fields. -/
inductive HasText : Json → String → Prop
  | string (text : String) : HasText (.string text) text
  | name {fields : List (String × Json)} {field : String × Json} (h : field ∈ fields) :
    HasText (.object fields) field.1
  | value {fields : List (String × Json)} {field : String × Json} {text : String}
    (h : field ∈ fields) (htext : HasText field.2 text) : HasText (.object fields) text

/-- A mark in the fields of an object is in one of their names or values. -/
theorem IsMark.isMarked_writeFields_iff {mark : List Char} (h : IsMark mark)
    (fields : List (String × Json)) :
    IsMarked mark (writeFields fields) ↔
      ∃ field ∈ fields, IsMarked mark field.1.toList ∨ IsMarked mark field.2.write := by
  induction fields with
  | nil =>
    rw [writeFields]
    constructor
    · intro hnil
      exact absurd hnil h.not_isMarked_nil
    · rintro ⟨_, hfield, -⟩
      exact absurd hfield List.not_mem_nil
  | cons field fields ih =>
    have hfirst : ∀ back, IsMarked mark (quote field.1 ++ ':' :: (field.2.write ++ back)) ↔
        IsMarked mark field.1.toList ∨ IsMarked mark (field.2.write ++ back) := by
      intro back
      rw [h.isMarked_quote_append_iff, h.isMarked_cons_iff (Or.inr (by decide))]
    obtain ⟨name, value⟩ := field
    cases fields with
    | nil =>
      have hwhole := hfirst []
      rw [List.append_nil] at hwhole
      rw [writeFields, hwhole]
      simp only [List.mem_singleton, exists_eq_left]
    | cons next fields =>
      rw [writeFields.eq_3 _ _ _ (by simp), List.append_assoc, List.cons_append, hfirst,
        h.isMarked_append_cons_iff (Or.inr (by decide)), ih]
      simp only [List.mem_cons, exists_eq_or_imp, or_assoc]

/-- The strings of an object are the names of its fields and the strings of their values. -/
theorem hasText_object_iff {fields : List (String × Json)} {text : String} :
    HasText (.object fields) text ↔
      ∃ field ∈ fields, text = field.1 ∨ HasText field.2 text := by
  constructor
  · intro h
    cases h with
    | name hfield => exact ⟨_, hfield, Or.inl rfl⟩
    | value hfield htext => exact ⟨_, hfield, Or.inr htext⟩
  · rintro ⟨field, hfield, rfl | htext⟩
    · exact .name hfield
    · exact .value hfield htext

/-- The text of a value has the marks that its strings and names have. -/
theorem isMarked_write_iff {mark : List Char} (hmark : IsMark mark) {value : Json}
    (h : IsTextual value) :
    IsMarked mark value.write ↔ ∃ text, HasText value text ∧ IsMarked mark text.toList := by
  induction h with
  | string text =>
    have hquote := hmark.isMarked_quote_append_iff text []
    rw [List.append_nil, or_iff_left hmark.not_isMarked_nil] at hquote
    rw [write, hquote]
    constructor
    · intro htext
      exact ⟨text, .string text, htext⟩
    · rintro ⟨_, ⟨⟩, htext⟩
      exact htext
  | @object fields _ ih =>
    -- braces, quotes, colons and commas are in no mark, so it lies in one name or one value
    rw [write, List.cons_append, hmark.isMarked_cons_iff (Or.inr (by decide)),
      hmark.isMarked_append_cons_iff (Or.inr (by decide)), or_iff_left hmark.not_isMarked_nil,
      hmark.isMarked_writeFields_iff]
    constructor
    · rintro ⟨field, hfield, hname | hvalue⟩
      · exact ⟨field.1, .name hfield, hname⟩
      · obtain ⟨text, htext, hmarked⟩ := (ih field hfield).mp hvalue
        exact ⟨text, .value hfield htext, hmarked⟩
    · rintro ⟨text, htext, hmarked⟩
      obtain ⟨field, hfield, rfl | hvalue⟩ := hasText_object_iff.mp htext
      · exact ⟨field, hfield, Or.inl hmarked⟩
      · exact ⟨field, hfield, Or.inr ((ih field hfield).mpr ⟨text, hvalue, hmarked⟩)⟩

/-! ## Control characters -/

/-- A row without control characters. -/
def IsPrintable (s : List Char) : Prop := ∀ c ∈ s, 0x20 ≤ c.toNat

instance (s : List Char) : Decidable (IsPrintable s) :=
  List.decidableBAll (fun c : Char => 0x20 ≤ c.toNat) s

theorem isPrintable_append {front back : List Char} :
    IsPrintable (front ++ back) ↔ IsPrintable front ∧ IsPrintable back :=
  List.forall_mem_append

theorem isPrintable_cons {c : Char} {s : List Char} :
    IsPrintable (c :: s) ↔ 0x20 ≤ c.toNat ∧ IsPrintable s :=
  List.forall_mem_cons

/-- What is written for a character in a string is printable. -/
theorem isPrintable_escapeChar (c : Char) : IsPrintable (escapeChar c) := by
  unfold escapeChar
  split
  all_goals first
    | decide
    | skip
  split
  · next hcontrol =>
    have hdigits : ∀ n < 0x20, IsPrintable ['\\', 'u', '0', '0', Text.hexChar (n / 16),
        Text.hexChar (n % 16)] := by decide
    exact hdigits c.toNat hcontrol
  · next hplain =>
    intro x hx
    rw [List.mem_singleton.mp hx]
    omega

theorem isPrintable_quote (text : String) : IsPrintable (quote text) := by
  rw [quote, List.cons_append, isPrintable_cons, isPrintable_append]
  refine ⟨by decide, fun c hc => ?_, by decide⟩
  obtain ⟨x, -, hx⟩ := List.mem_flatMap.mp hc
  exact isPrintable_escapeChar x c hx

theorem isPrintable_writeFields {fields : List (String × Json)}
    (h : ∀ field ∈ fields, IsPrintable field.2.write) : IsPrintable (writeFields fields) := by
  induction fields with
  | nil => exact List.forall_mem_nil _
  | cons field fields ih =>
    obtain ⟨hvalue, hfields⟩ := List.forall_mem_cons.mp h
    obtain ⟨name, value⟩ := field
    have hfirst : IsPrintable (quote name ++ ':' :: value.write) := by
      rw [isPrintable_append, isPrintable_cons]
      exact ⟨isPrintable_quote name, by decide, hvalue⟩
    cases fields with
    | nil => exact hfirst
    | cons next fields =>
      rw [writeFields.eq_3 _ _ _ (by simp), isPrintable_append, isPrintable_cons]
      exact ⟨hfirst, by decide, ih hfields⟩

/-- Control characters are written as escapes. -/
theorem isPrintable_write {value : Json} (h : IsTextual value) : IsPrintable value.write := by
  induction h with
  | string text =>
    rw [write]
    exact isPrintable_quote text
  | object _ ih =>
    rw [write, List.cons_append, isPrintable_cons, isPrintable_append]
    exact ⟨by decide, isPrintable_writeFields ih, by decide⟩

end ComposingProxy.Json
