import ComposingProxy.Proofs.Text.Percent
import ComposingProxy.Text.Search

/-!
# Reading escapes piece by piece

A text with escapes may be cut at a slash, and its two sides read apart:

> `decodeText_slash`: reading the whole is reading both sides, whatever stands in them.

That holds of cut off escapes and of broken sequences too, since a slash takes part in neither: it
is no digit of an escape (`decode_seam`) and no byte that continues a sequence
(`Utf8.decodeLossy_seam`), so nothing that begins on the left of it can go on behind it.

> `decodeText_of_hasNoEscape`: a text without escapes reads as it stands, single percent signs
> included.
-/

namespace ComposingProxy.Text

/-! ## Sequences of bytes -/

namespace Utf8

/-- An ASCII byte goes on no sequence. -/
theorem isContinuation_of_lt {b : UInt8} (h : b.toNat < 0x80) : isContinuation b = false := by
  rw [← Bool.not_eq_true, isContinuation_iff]
  omega

theorem secondInRange_of_lt (lead : UInt8) {b : UInt8} (h : b.toNat < 0x80) :
    secondInRange lead b = false := by
  rw [← Bool.not_eq_true, secondInRange_iff]
  omega

/-- A sequence takes no more bytes than there are, and none from a byte of ASCII on. -/
theorem scan_seam {b : UInt8} (hb : b.toNat < 0x80) (lead : UInt8) (front back : List UInt8) :
    scan lead (front ++ b :: back) = scan lead front ∧ (scan lead front).2 ≤ front.length := by
  have hcontinues := isContinuation_of_lt hb
  have hsecond := secondInRange_of_lt lead hb
  -- at most three bytes are looked at, so the seam is met in one of the first places or never
  match front with
  | [] => unfold scan; grind
  | [_] => unfold scan; grind
  | [_, _] => unfold scan; grind
  | _ :: _ :: _ :: _ => unfold scan; grind

/-- Bytes are read up to a byte of ASCII as if nothing followed, and from there on anew. -/
theorem decodeLossy_seam {b : UInt8} (hb : b.toNat < 0x80) (front back : List UInt8) :
    decodeLossy (front ++ b :: back) =
      decodeLossy front ++ Char.ofNat b.toNat :: decodeLossy back := by
  induction hn : front.length using Nat.strongRecOn generalizing front with
  | ind n ih =>
    cases front with
    | nil =>
      have hscan : scan b back = (some (Char.ofNat b.toNat), 0) := scan_one hb
      simp only [List.nil_append, decodeLossy, hscan, Option.getD_some, List.drop_zero]
    | cons lead rest =>
      obtain ⟨hscan, hlength⟩ := scan_seam hb lead rest back
      rw [List.length_cons] at hn
      have hshorter : (rest.drop (scan lead rest).2).length < n := by
        rw [List.length_drop]
        omega
      rw [List.cons_append, decodeLossy, hscan, List.drop_append_of_le_length hlength,
        ih _ hshorter _ rfl, decodeLossy.eq_def (lead :: rest), List.cons_append]

/-- A byte of ASCII stands for its own character and in no other one. -/
theorem eq_of_mem_utf8EncodeChar {b : UInt8} (hb : b.toNat < 0x80) {c : Char}
    (h : b ∈ String.utf8EncodeChar c) :
    c = Char.ofNat b.toNat ∧ String.utf8EncodeChar c = [b] := by
  have hchar := Char.ofNat_toNat c
  rw [Char.toNat] at hchar
  have hbytes : String.utf8EncodeChar c = [b] ∧ b.toNat = c.val.toNat := by
    unfold String.utf8EncodeChar at h ⊢
    dsimp only at h ⊢
    generalize c.val.toNat = v at h
    by_cases hone : v ≤ 0x7F
    · rw [if_pos hone, List.mem_singleton] at h
      rw [if_pos hone, h, toNat_ofNat_of_lt (by omega)]
      exact ⟨rfl, rfl⟩
    · -- in a longer sequence all bytes are above those of ASCII
      have hhigh : ∀ n, 0x80 ≤ n → n < 256 → b ≠ UInt8.ofNat n := by
        rintro n hlow hlt rfl
        rw [toNat_ofNat_of_lt hlt] at hb
        omega
      rw [if_neg hone] at h
      exfalso
      split at h
      · simp only [List.mem_cons, List.not_mem_nil, or_false] at h
        rcases h with h | h <;> exact hhigh _ (by omega) (by omega) h
      split at h
      · simp only [List.mem_cons, List.not_mem_nil, or_false] at h
        rcases h with h | h | h <;> exact hhigh _ (by omega) (by omega) h
      · simp only [List.mem_cons, List.not_mem_nil, or_false] at h
        rcases h with h | h | h | h <;> exact hhigh _ (by omega) (by omega) h
  exact ⟨by rw [hbytes.2, hchar], hbytes.1⟩

end Utf8

/-! ## Escapes -/

namespace Percent

open Utf8 (decodeLossy_encode)

/-- Two digits stand at the front. -/
def BeginsWithDigits (bytes : List UInt8) : Prop :=
  ∃ high low rest, bytes = high :: low :: rest ∧
    (hexValue? high).isSome = true ∧ (hexValue? low).isSome = true

/-- A byte stays unless it is a percent sign with two digits after it. -/
theorem decode_cons {b : UInt8} {rest : List UInt8} (h : b = 0x25 → ¬BeginsWithDigits rest) :
    decode (b :: rest) = b :: decode rest := by
  by_cases hb : b = 0x25
  · match rest with
    | [] => rfl
    | [_] => rfl
    | high :: low :: rest =>
      rw [decode, if_pos hb]
      split
      · next hhigh hlow =>
        refine absurd ⟨high, low, rest, rfl, ?_, ?_⟩ (h hb)
        · rw [hhigh]; rfl
        · rw [hlow]; rfl
      · rfl
  · exact decode_cons_of_ne hb rest

/-- An escape is read as the byte of its two digits. -/
theorem decode_escape {high low : UInt8} {h l : Nat} (hhigh : hexValue? high = some h)
    (hlow : hexValue? low = some l) (rest : List UInt8) :
    decode (0x25 :: high :: low :: rest) = UInt8.ofNat (16 * h + l) :: decode rest := by
  rw [decode, if_pos rfl, hhigh, hlow]

/-- Two digits in front of a byte that is none stand before it. -/
theorem BeginsWithDigits.of_seam {b : UInt8} (hdigit : hexValue? b = none)
    {front back : List UInt8} (h : BeginsWithDigits (front ++ b :: back)) :
    BeginsWithDigits front := by
  obtain ⟨high, low, rest, hbytes, hhigh, hlow⟩ := h
  match front with
  | [] =>
    obtain ⟨rfl, -⟩ := List.cons.inj hbytes
    rw [hdigit] at hhigh
    exact absurd hhigh (by simp)
  | [_] =>
    obtain ⟨-, htail⟩ := List.cons.inj hbytes
    obtain ⟨rfl, -⟩ := List.cons.inj htail
    rw [hdigit] at hlow
    exact absurd hlow (by simp)
  | _ :: _ :: front =>
    obtain ⟨rfl, htail⟩ := List.cons.inj hbytes
    obtain ⟨rfl, -⟩ := List.cons.inj htail
    exact ⟨_, _, front, rfl, hhigh, hlow⟩

/-- A byte that is no digit ends whatever might have become an escape. -/
theorem decode_seam {b : UInt8} (hb : b ≠ 0x25) (hdigit : hexValue? b = none)
    (front back : List UInt8) :
    decode (front ++ b :: back) = decode front ++ b :: decode back := by
  induction hn : front.length using Nat.strongRecOn generalizing front with
  | ind n ih =>
    match front with
    | [] => exact decode_cons_of_ne hb back
    | first :: rest =>
      by_cases hescape : first = 0x25 ∧ BeginsWithDigits rest
      · obtain ⟨rfl, high, low, rest, rfl, hhigh, hlow⟩ := hescape
        obtain ⟨h, hhigh⟩ := Option.isSome_iff_exists.mp hhigh
        obtain ⟨l, hlow⟩ := Option.isSome_iff_exists.mp hlow
        simp only [List.length_cons] at hn
        rw [List.cons_append, List.cons_append, List.cons_append, decode_escape hhigh hlow,
          decode_escape hhigh hlow, ih rest.length (by omega) rest rfl, List.cons_append]
      · rw [not_and] at hescape
        rw [List.length_cons] at hn
        rw [List.cons_append, decode_cons fun hfirst h => hescape hfirst (h.of_seam hdigit),
          decode_cons hescape, ih rest.length (by omega) rest rfl, List.cons_append]

/-! ## Texts -/

/-- The sides of a slash are read apart. -/
theorem decodeText_slash (front back : String) :
    decodeText (front ++ "/" ++ back) = decodeText front ++ "/" ++ decodeText back := by
  have hbytes : Utf8.encode (front ++ "/" ++ back).toList =
      Utf8.encode front.toList ++ 0x2F :: Utf8.encode back.toList := by
    rw [String.toList_append, String.toList_append, Utf8.encode_append, Utf8.encode_append,
      List.append_assoc]
    rfl
  apply String.toList_inj.mp
  rw [decodeText, hbytes, decode_seam (by decide) (by decide), Utf8.decodeLossy_seam (by decide)]
  simp only [decodeText, String.toList_append, String.toList_ofList, List.append_assoc]
  rfl

/-- Nowhere do two hexadecimal digits follow a percent sign. -/
def HasNoEscape (s : List Char) : Prop :=
  ∀ before high low after, s = before ++ '%' :: high :: low :: after →
    hexDigit? high = none ∨ hexDigit? low = none

/-- A part of a text without escapes has none. -/
theorem HasNoEscape.tail {c : Char} {s : List Char} (h : HasNoEscape (c :: s)) : HasNoEscape s :=
  fun before high low after hs => h (c :: before) high low after (by rw [hs, List.cons_append])

/-- A text without percent signs has no escapes. -/
theorem hasNoEscape_of_not_mem {s : List Char} (h : '%' ∉ s) : HasNoEscape s := by
  rintro before high low after rfl
  exact absurd (List.mem_append_right before List.mem_cons_self) h

/-- A hexadecimal digit is ASCII. -/
theorem toNat_lt_of_hexValue? {b : UInt8} (h : (hexValue? b).isSome = true) : b.toNat < 0x80 := by
  have hall : ∀ n < 256, (hexValue? (UInt8.ofNat n)).isSome = true → n < 0x80 := by
    decide +kernel
  exact hall b.toNat b.toNat_lt (UInt8.ofNat_toNat ▸ h)

/-- A digit in the bytes of a text is one of the text. -/
theorem exists_of_encode_eq_cons {s : List Char} {b : UInt8} {rest : List UInt8}
    (h : Utf8.encode s = b :: rest) (hdigit : (hexValue? b).isSome = true) :
    ∃ c s', s = c :: s' ∧ (hexDigit? c).isSome = true ∧ Utf8.encode s' = rest := by
  have hascii := toNat_lt_of_hexValue? hdigit
  cases s with
  | nil => exact absurd h (by simp [Utf8.encode])
  | cons c s =>
    obtain ⟨lead, tail, hlead, -⟩ := Utf8.scan_utf8EncodeChar c
    rw [Utf8.encode_cons, hlead, List.cons_append] at h
    obtain ⟨rfl, hrest⟩ := List.cons.inj h
    obtain ⟨hc, hbytes⟩ := Utf8.eq_of_mem_utf8EncodeChar hascii (hlead ▸ List.mem_cons_self)
    rw [hlead, List.cons.injEq] at hbytes
    rw [hbytes.2, List.nil_append] at hrest
    exact ⟨c, s, rfl, hc ▸ hdigit, hrest⟩

/-- Bytes without a percent sign stay. -/
theorem decode_append_of_forall_ne {bytes : List UInt8} (h : ∀ b ∈ bytes, b ≠ 0x25)
    (rest : List UInt8) : decode (bytes ++ rest) = bytes ++ decode rest := by
  induction bytes with
  | nil => rfl
  | cons b bytes ih =>
    obtain ⟨hb, hbytes⟩ := List.forall_mem_cons.mp h
    rw [List.cons_append, decode_cons_of_ne hb, ih hbytes, List.cons_append]

/-- Without escapes nothing is replaced. -/
theorem decode_encode_of_hasNoEscape {s : List Char} (h : HasNoEscape s) :
    decode (Utf8.encode s) = Utf8.encode s := by
  induction s with
  | nil => rfl
  | cons c s ih =>
    by_cases hc : c = '%'
    · subst hc
      have hdigits : ¬BeginsWithDigits (Utf8.encode s) := by
        rintro ⟨high, low, rest, hbytes, hhigh, hlow⟩
        obtain ⟨c, s, rfl, hc, hs⟩ := exists_of_encode_eq_cons hbytes hhigh
        obtain ⟨d, s, rfl, hd, -⟩ := exists_of_encode_eq_cons hs hlow
        rcases h [] c d s rfl with hnone | hnone
        · rw [hnone] at hc
          exact absurd hc (by simp)
        · rw [hnone] at hd
          exact absurd hd (by simp)
      have hbytes : Utf8.encode ('%' :: s) = 0x25 :: Utf8.encode s := Utf8.encode_cons '%' s
      rw [hbytes, decode_cons fun _ => hdigits, ih h.tail]
    · have hne : ∀ b ∈ String.utf8EncodeChar c, b ≠ 0x25 := by
        rintro b hb rfl
        exact hc (Utf8.eq_of_mem_utf8EncodeChar (by decide) hb).1
      rw [Utf8.encode_cons, decode_append_of_forall_ne hne, ih h.tail]

/-- A text without escapes reads as it stands. -/
theorem decodeText_of_hasNoEscape {s : String} (h : HasNoEscape s.toList) : decodeText s = s := by
  rw [decodeText, decode_encode_of_hasNoEscape h, decodeLossy_encode, String.ofList_toList]

end Percent

end ComposingProxy.Text
