import ComposingProxy.Text.Utf8

/-!
# Texts as bytes and back

What was written as UTF-8 reads back, strictly and with replacement:

> `decode?_encode`, `decodeLossy_encode`: reading the bytes of a text gives the text.

One character at a time: each lead byte together with the bytes after it that `scan` takes
is the encoding of one scalar value (`scan_utf8EncodeChar`). The bounds of the second byte
are the ones that the encoding keeps because it is the shortest one, because surrogates
are no characters, and because the last plane ends at `0x10FFFF`.
-/

namespace ComposingProxy.Text.Utf8

/-! ## Bytes as numbers -/

/-- The bytes that go on a sequence. -/
theorem isContinuation_iff {b : UInt8} :
    isContinuation b = true ↔ 0x80 ≤ b.toNat ∧ b.toNat ≤ 0xBF := by
  rw [isContinuation, Bool.and_eq_true, decide_eq_true_eq, decide_eq_true_eq,
    UInt8.le_iff_toNat_le, UInt8.le_iff_toNat_le]
  rfl

/-- The bytes that come second in a sequence: some first bytes leave out overlong forms,
surrogates, or what is past the last character. -/
theorem secondInRange_iff {lead second : UInt8} :
    secondInRange lead second = true ↔ 0x80 ≤ second.toNat ∧ second.toNat ≤ 0xBF ∧
      (lead.toNat = 0xE0 → 0xA0 ≤ second.toNat) ∧ (lead.toNat = 0xED → second.toNat ≤ 0x9F) ∧
      (lead.toNat = 0xF0 → 0x90 ≤ second.toNat) ∧ (lead.toNat = 0xF4 → second.toNat ≤ 0x8F) := by
  unfold secondInRange
  simp only [beq_iff_eq, ← UInt8.toNat_inj, UInt8.reduceToNat, UInt8.le_iff_toNat_le]
  split
  · simp only [Bool.and_eq_true, decide_eq_true_eq]; omega
  split
  · simp only [Bool.and_eq_true, decide_eq_true_eq]; omega
  split
  · simp only [Bool.and_eq_true, decide_eq_true_eq]; omega
  split
  · simp only [Bool.and_eq_true, decide_eq_true_eq]; omega
  · rw [isContinuation_iff]; omega

/-! ## One sequence -/

/-- An ASCII byte is a sequence of its own. -/
theorem scan_one {a : UInt8} {rest : List UInt8} (ha : a.toNat < 0x80) :
    scan a rest = (some (Char.ofNat a.toNat), 0) := by
  unfold scan
  rw [if_pos (UInt8.lt_iff_toNat_lt.mpr ha)]

theorem scan_two {a b : UInt8} {rest : List UInt8} (hlow : 0xC2 ≤ a.toNat)
    (hhigh : a.toNat < 0xE0) (hb : isContinuation b = true) :
    scan a (b :: rest) = (some (Char.ofNat (a.toNat % 32 * 64 + payload b)), 1) := by
  unfold scan
  simp only [UInt8.lt_iff_toNat_lt, UInt8.reduceToNat]
  rw [if_neg (by omega), if_neg (by omega), if_pos hhigh, if_pos hb]

theorem scan_three {a b c : UInt8} {rest : List UInt8} (hlow : 0xE0 ≤ a.toNat)
    (hhigh : a.toNat < 0xF0) (hb : secondInRange a b = true) (hc : isContinuation c = true) :
    scan a (b :: c :: rest) =
      (some (Char.ofNat ((a.toNat % 16 * 64 + payload b) * 64 + payload c)), 2) := by
  unfold scan
  simp only [UInt8.lt_iff_toNat_lt, UInt8.reduceToNat]
  rw [if_neg (by omega), if_neg (by omega), if_neg (by omega), if_pos hhigh, if_pos hb, if_pos hc]

theorem scan_four {a b c d : UInt8} {rest : List UInt8} (hlow : 0xF0 ≤ a.toNat)
    (hhigh : a.toNat < 0xF5) (hb : secondInRange a b = true) (hc : isContinuation c = true)
    (hd : isContinuation d = true) :
    scan a (b :: c :: d :: rest) =
      (some (Char.ofNat
        (((a.toNat % 8 * 64 + payload b) * 64 + payload c) * 64 + payload d)), 3) := by
  unfold scan
  simp only [UInt8.lt_iff_toNat_lt, UInt8.reduceToNat]
  rw [if_neg (by omega), if_neg (by omega), if_neg (by omega), if_neg (by omega), if_pos hhigh,
    if_pos hb, if_pos hc, if_pos hd]

theorem toNat_ofNat_of_lt {n : Nat} (h : n < 256) : (UInt8.ofNat n).toNat = n := by
  rw [UInt8.toNat_ofNat']
  exact Nat.mod_eq_of_lt h

/-! ## One character -/

theorem isContinuation_tail (n : Nat) : isContinuation (UInt8.ofNat (n % 64 + 0x80)) = true := by
  rw [isContinuation_iff, toNat_ofNat_of_lt (by omega)]
  omega

/-- A byte that goes on a sequence carries six bits. -/
theorem payload_tail (n : Nat) : payload (UInt8.ofNat (n % 64 + 0x80)) = n % 64 := by
  rw [payload, toNat_ofNat_of_lt (by omega)]
  omega

/-- A character outside the surrogates and below the end of the last plane. -/
theorem toNat_bounds (c : Char) :
    c.val.toNat < 0xD800 ∨ (0xDFFF < c.val.toNat ∧ c.val.toNat < 0x110000) := c.valid

/-- The encoding of a character is one sequence, whatever follows it. -/
theorem scan_utf8EncodeChar (c : Char) :
    ∃ lead tail, String.utf8EncodeChar c = lead :: tail ∧
      ∀ rest, scan lead (tail ++ rest) = (some c, tail.length) := by
  have hbounds := toNat_bounds c
  have hchar : ∀ n, n = c.val.toNat → Char.ofNat n = c := by
    rintro _ rfl
    exact Char.ofNat_toNat c
  unfold String.utf8EncodeChar
  dsimp only
  generalize c.val.toNat = v at hbounds hchar
  -- one case for each length; that no shorter one does for `v` keeps the second byte in its range
  split
  · next hone =>
    refine ⟨_, _, rfl, fun rest => ?_⟩
    have hlead := toNat_ofNat_of_lt (n := v) (by omega)
    rw [List.nil_append, scan_one (by omega), hlead, hchar v rfl]
    rfl
  split
  · next htwo =>
    refine ⟨_, _, rfl, fun rest => ?_⟩
    have hlead := toNat_ofNat_of_lt (n := v / 64 % 32 + 0xC0) (by omega)
    rw [List.cons_append, List.nil_append,
      scan_two (by omega) (by omega) (isContinuation_tail v), hlead, payload_tail,
      hchar _ (by omega)]
    rfl
  split
  · next hthree =>
    refine ⟨_, _, rfl, fun rest => ?_⟩
    have hlead := toNat_ofNat_of_lt (n := v / 4096 % 16 + 0xE0) (by omega)
    have hsecond := toNat_ofNat_of_lt (n := v / 64 % 64 + 0x80) (by omega)
    have hrange : secondInRange (UInt8.ofNat (v / 4096 % 16 + 0xE0))
        (UInt8.ofNat (v / 64 % 64 + 0x80)) = true := by
      rw [secondInRange_iff, hlead, hsecond]
      omega
    rw [List.cons_append, List.cons_append, List.nil_append,
      scan_three (by omega) (by omega) hrange (isContinuation_tail v), hlead, payload_tail,
      payload_tail, hchar _ (by omega)]
    rfl
  · next hfour =>
    refine ⟨_, _, rfl, fun rest => ?_⟩
    have hlead := toNat_ofNat_of_lt (n := v / 262144 % 8 + 0xF0) (by omega)
    have hsecond := toNat_ofNat_of_lt (n := v / 4096 % 64 + 0x80) (by omega)
    have hrange : secondInRange (UInt8.ofNat (v / 262144 % 8 + 0xF0))
        (UInt8.ofNat (v / 4096 % 64 + 0x80)) = true := by
      rw [secondInRange_iff, hlead, hsecond]
      omega
    rw [List.cons_append, List.cons_append, List.cons_append, List.nil_append,
      scan_four (by omega) (by omega) hrange (isContinuation_tail _) (isContinuation_tail v),
      hlead, payload_tail, payload_tail, payload_tail, hchar _ (by omega)]
    rfl

/-! ## Whole texts -/

theorem encode_cons (c : Char) (s : List Char) :
    encode (c :: s) = String.utf8EncodeChar c ++ encode s := List.flatMap_cons

/-- The bytes of two texts come one after the other. -/
theorem encode_append (s t : List Char) : encode (s ++ t) = encode s ++ encode t :=
  List.flatMap_append

/-- Strict reading takes the bytes of every text. -/
theorem decode?_encode (s : List Char) : decode? (encode s) = some s := by
  induction s with
  | nil => simp [encode, decode?]
  | cons c s ih =>
    obtain ⟨lead, tail, henc, hscan⟩ := scan_utf8EncodeChar c
    rw [encode_cons, henc, List.cons_append, decode?, hscan]
    dsimp only
    rw [List.drop_left, ih]
    rfl

/-- Reading with replacement gives back what was written. -/
theorem decodeLossy_encode (s : List Char) : decodeLossy (encode s) = s :=
  decodeLossy_of_decode? (decode?_encode s)

end ComposingProxy.Text.Utf8
