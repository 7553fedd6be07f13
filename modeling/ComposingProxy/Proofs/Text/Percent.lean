import ComposingProxy.Proofs.Text.Utf8
import ComposingProxy.Text.Percent

/-!
# Escapes and back

A text that was escaped reads back as it was, as long as the percent sign is one of the
escaped characters:

> `decodeText_encodeText`: reading after writing changes no text.

Writing turns each character into ASCII: itself, or the escapes of its bytes. Reading passes over
the former (`decode_cons_of_ne`) and undoes the latter byte by byte
(`decode_escapeByte`), so what is read is the UTF-8 of the text (`decode_encode`).
-/

namespace ComposingProxy.Text.Percent

open Utf8 (decodeLossy_encode)

/-! ## Bytes that are no escape -/

theorem decode_cons_of_ne {b : UInt8} (h : b ≠ 0x25) (rest : List UInt8) :
    decode (b :: rest) = b :: decode rest := by
  match rest with
  | [] => rfl
  | [_] => rfl
  | high :: low :: rest => rw [decode, if_neg h]

/-- An ASCII character is one byte. -/
theorem utf8EncodeChar_of_lt {c : Char} (h : c.toNat < 0x80) :
    String.utf8EncodeChar c = [UInt8.ofNat c.toNat] := by
  rw [Char.toNat] at h
  unfold String.utf8EncodeChar
  rw [if_pos (by omega)]
  rfl

/-- A percent sign is the only character whose byte begins an escape. -/
theorem ofNat_toNat_ne {c : Char} (hascii : c.toNat < 0x80) (hne : c ≠ '%') :
    UInt8.ofNat c.toNat ≠ 0x25 := by
  intro heq
  have htoNat := congrArg UInt8.toNat heq
  rw [Utf8.toNat_ofNat_of_lt (by omega)] at htoNat
  refine hne (Char.toNat_inj.mp ?_)
  rw [htoNat]
  rfl

/-! ## Escapes -/

theorem upperHexChar_lt : ∀ n < 16, (upperHexChar n).toNat < 0x80 := by decide

/-- A hexadecimal digit is read back. -/
theorem hexValue?_upperHexChar :
    ∀ n < 16, hexValue? (UInt8.ofNat (upperHexChar n).toNat) = some n := by decide

/-- The escape of a byte reads as the byte, whatever follows it. -/
theorem decode_escapeByte (b : UInt8) (rest : List UInt8) :
    decode (Utf8.encode (escapeByte b) ++ rest) = b :: decode rest := by
  have hb := b.toNat_lt
  have hhigh : b.toNat / 16 < 16 := by omega
  have hlow : b.toNat % 16 < 16 := by omega
  have hbytes : Utf8.encode (escapeByte b) =
      [0x25, UInt8.ofNat (upperHexChar (b.toNat / 16)).toNat,
        UInt8.ofNat (upperHexChar (b.toNat % 16)).toNat] := by
    rw [escapeByte, Utf8.encode_cons, Utf8.encode_cons, Utf8.encode_cons,
      utf8EncodeChar_of_lt (upperHexChar_lt _ hhigh), utf8EncodeChar_of_lt (upperHexChar_lt _ hlow)]
    rfl
  rw [hbytes]
  show decode (0x25 :: _ :: _ :: rest) = b :: decode rest
  rw [decode, if_pos rfl, hexValue?_upperHexChar _ hhigh, hexValue?_upperHexChar _ hlow]
  dsimp only
  rw [show 16 * (b.toNat / 16) + b.toNat % 16 = b.toNat by omega, UInt8.ofNat_toNat]

/-- Escaped bytes are read back. -/
theorem decode_escapeBytes (bytes rest : List UInt8) :
    decode (Utf8.encode (bytes.flatMap escapeByte) ++ rest) = bytes ++ decode rest := by
  induction bytes with
  | nil => rfl
  | cons b bytes ih =>
    rw [List.flatMap_cons, Utf8.encode_append, List.append_assoc, decode_escapeByte, ih,
      List.cons_append]

/-! ## Texts -/

variable {escaped : Char → Bool}

/-- Reading the escapes of a text gives its UTF-8. -/
theorem decode_encode (hpercent : escaped '%' = true) (s : List Char) :
    decode (Utf8.encode (encode escaped s)) = Utf8.encode s := by
  induction s with
  | nil => rfl
  | cons c s ih =>
    rw [encode, List.flatMap_cons, ← encode, Utf8.encode_append, Utf8.encode_cons]
    split
    · rw [decode_escapeBytes, ih]
    · next hplain =>
      simp only [Bool.or_eq_true, decide_eq_true_eq, not_or] at hplain
      obtain ⟨hascii, hescaped⟩ := hplain
      have hne : c ≠ '%' := by
        rintro rfl
        exact hescaped hpercent
      rw [Utf8.encode_cons, utf8EncodeChar_of_lt (by omega)]
      show decode (UInt8.ofNat c.toNat :: Utf8.encode (encode escaped s)) =
        UInt8.ofNat c.toNat :: Utf8.encode s
      rw [decode_cons_of_ne (ofNat_toNat_ne (by omega) hne), ih]

/-- What was escaped reads back as it was. -/
theorem decodeText_encodeText (hpercent : escaped '%' = true) (s : String) :
    decodeText (encodeText escaped s) = s := by
  rw [decodeText, encodeText, String.toList_ofList, decode_encode hpercent, decodeLossy_encode,
    String.ofList_toList]

/-- Reading leaves a first character that begins no escape where it is. -/
theorem head?_decodeText {c : Char} (hascii : c.toNat < 0x80) (hne : c ≠ '%') {s : String}
    (h : s.toList.head? = some c) : (decodeText s).toList.head? = some c := by
  obtain ⟨rest, hs⟩ := List.head?_eq_some_iff.mp h
  have htoNat : (UInt8.ofNat c.toNat).toNat = c.toNat := Utf8.toNat_ofNat_of_lt (by omega)
  have hbytes : decode (Utf8.encode (c :: rest)) =
      UInt8.ofNat c.toNat :: decode (Utf8.encode rest) := by
    rw [Utf8.encode_cons, utf8EncodeChar_of_lt hascii, List.singleton_append,
      decode_cons_of_ne (ofNat_toNat_ne hascii hne)]
  rw [decodeText, String.toList_ofList, hs, hbytes, Utf8.decodeLossy,
    Utf8.scan_one (by omega), htoNat, Char.ofNat_toNat]
  rfl

/-- What holds of the characters that stay and of those that escapes are made of holds of every
character of an escaped text. -/
theorem forall_mem_encode {P : Char → Prop}
    (hkept : ∀ c : Char, c.toNat < 0x80 → escaped c = false → P c) (hpercent : P '%')
    (hdigit : ∀ n < 16, P (upperHexChar n)) (s : List Char) : ∀ c ∈ encode escaped s, P c := by
  intro c hc
  obtain ⟨source, -, hc⟩ := List.mem_flatMap.mp hc
  split at hc
  · obtain ⟨b, -, hc⟩ := List.mem_flatMap.mp hc
    have hb := b.toNat_lt
    simp only [escapeByte, List.mem_cons, List.not_mem_nil, or_false] at hc
    rcases hc with rfl | rfl | rfl
    · exact hpercent
    · exact hdigit _ (by omega)
    · exact hdigit _ (by omega)
  · next hplain =>
    simp only [Bool.or_eq_true, decide_eq_true_eq, not_or, Bool.not_eq_true] at hplain
    rw [List.mem_singleton.mp hc]
    exact hkept source (by omega) hplain.2

end ComposingProxy.Text.Percent
