import ComposingProxy.Decimal.Reader
import ComposingProxy.Decimal.Shortest
import ComposingProxy.Text.Blank
import Mathlib.Data.List.TakeWhile
import Mathlib.Order.Monotone.Basic
import Mathlib.Tactic.Ring

/-!
# Whole numbers among the binary ones

Every finite number is a multiple of the smallest one, so magnitudes have a value in `Nat`
(`Binary64.units`). From one magnitude to the next the value grows by one in the last bit
(`Binary64.units_succ`), hence the order of magnitudes is the order of values. A whole number below
`2 ^ 53` is rounded to a magnitude of exactly its value (`Binary64.units_roundFraction`), and one of
at most fifteen digits is below that.

> `Whole.parse?_of_ofText?`: a text of up to fifteen digits with or without a sign is read as the
> number it spells.
> `Whole.key_lt_iff`: such numbers stand in their order, except that a zero with a minus sign stands
> before the other zeros.
-/

namespace ComposingProxy

namespace Binary64

/-! ## Values -/

/-- How often the smallest unit is doubled for the last bit of a magnitude. -/
def doublings (magnitude : Nat) : Nat := magnitude / 2 ^ 52 - 1

/-- The value of a magnitude in units of the smallest one. -/
def units (magnitude : Nat) : Nat := (finite magnitude).significand * 2 ^ doublings magnitude

/-- The exponent of a number is that of the smallest unit and how often this is doubled. -/
theorem exponent_finite (magnitude : Nat) :
    (finite magnitude).exponent = doublings magnitude - 1074 := by
  simp only [finite, doublings, Nat.pow_eq]
  split
  · next h => simp [h]
  · next h =>
    dsimp only [Int.ofNat_eq_natCast]
    omega

/-- Magnitudes are numbered by rows of `2 ^ 52`, each with its own unit; the second row goes on
with the unit of the first. -/
theorem units_eq {row place : Nat} (h : place < 2 ^ 52) : units (2 ^ 52 * row + place) =
    if row = 0 then place else (2 ^ 52 + place) * 2 ^ (row - 1) := by
  have hrow : (2 ^ 52 * row + place) / 2 ^ 52 = row := by omega
  have hplace : (2 ^ 52 * row + place) % 2 ^ 52 = place := by omega
  simp only [units, doublings, finite, Nat.pow_eq, hrow, hplace]
  split
  · next h => simp [h]
  · rfl

/-- A magnitude is a place in a row. -/
theorem exists_row (m : Nat) : ∃ row place, place < 2 ^ 52 ∧ m = 2 ^ 52 * row + place :=
  ⟨m / 2 ^ 52, m % 2 ^ 52, Nat.mod_lt _ (by decide), (Nat.div_add_mod m _).symm⟩

/-- The next magnitude is one unit above, also where a new row begins. -/
theorem units_succ (m : Nat) : units (m + 1) = units m + 2 ^ doublings m := by
  obtain ⟨row, place, hplace, rfl⟩ := exists_row m
  have hrow : doublings (2 ^ 52 * row + place) = row - 1 := by
    rw [doublings]
    omega
  rw [units_eq hplace, hrow]
  by_cases hlast : place + 1 < 2 ^ 52
  · rw [Nat.add_assoc, units_eq hlast]
    cases row with
    | zero => rfl
    | succ row =>
      simp only [Nat.add_one_ne_zero, if_false]
      ring
  · obtain rfl : place = 2 ^ 52 - 1 := by omega
    have hnext : 2 ^ 52 * row + (2 ^ 52 - 1) + 1 = 2 ^ 52 * (row + 1) + 0 := by omega
    rw [hnext, units_eq (by decide)]
    cases row with
    | zero => rfl
    | succ row =>
      simp only [Nat.add_one_ne_zero, if_false, Nat.add_sub_cancel, pow_succ]
      ring

/-- A larger magnitude has a larger value. -/
theorem units_strictMono : StrictMono units :=
  strictMono_nat_of_lt_succ fun m => by
    rw [units_succ]
    exact Nat.lt_add_of_pos_right (Nat.two_pow_pos _)

theorem units_zero : units 0 = 0 := by decide

/-! ## Rounding whole numbers -/

/-- Of the powers with a number and with its opposite as exponents one has the exponent zero. -/
theorem pow_eq_one_of_sign (base : Nat) (exponent : Int) :
    exponent ≥ 0 ∧ base ^ (-exponent).toNat = 1 ∨
      ¬exponent ≥ 0 ∧ base ^ exponent.toNat = 1 := by
  by_cases h : exponent ≥ 0
  · have hzero : (-exponent).toNat = 0 := by omega
    exact .inl ⟨h, by rw [hzero, pow_zero]⟩
  · have hzero : exponent.toNat = 0 := by omega
    exact .inr ⟨h, by rw [hzero, pow_zero]⟩

/-- A shift of either sign multiplies one side of a fraction and leaves the other. -/
theorem scaled_eq (num den : Nat) (shift : Int) :
    scaled num den shift = (num * 2 ^ shift.toNat, den * 2 ^ (-shift).toNat) := by
  rw [scaled]
  rcases pow_eq_one_of_sign 2 shift with ⟨h, hone⟩ | ⟨h, hone⟩
  · rw [if_pos h, hone, Nat.mul_one, Nat.pow_eq]
  · rw [if_neg h, hone, Nat.mul_one, Nat.pow_eq]

/-- The logarithm of a whole number is the usual one. -/
theorem floorLog2_whole {n : Nat} (hn : n ≠ 0) : floorLog2 n 1 = Nat.log2 n := by
  have hlog : Nat.log2 1 = 0 := by decide
  rw [floorLog2, hlog, Int.natCast_zero, Int.sub_zero, scaled_eq]
  exact if_pos (by simpa using Nat.log2_self_le hn)

/-- A whole number is not rounded. -/
theorem roundDiv_one (n : Nat) : roundDiv n 1 = n := by
  simp [roundDiv, Nat.mod_one]

/-- A whole number below `2 ^ 53` has all its digits in one row, so it is rounded to itself. -/
theorem units_roundFraction {n : Nat} (hn : n ≠ 0) (hlt : n < 2 ^ 53) :
    roundFraction n 1 < infinityBits ∧ units (roundFraction n 1) = n * 2 ^ 1074 := by
  have hlog : Nat.log2 n ≤ 52 := Nat.le_of_lt_succ ((Nat.log2_lt hn).mpr hlt)
  obtain ⟨k, hk⟩ : ∃ k, Nat.log2 n + k = 52 := ⟨52 - Nat.log2 n, by omega⟩
  have hlow : 2 ^ 52 ≤ n * 2 ^ k := by
    rw [← hk, pow_add]
    exact Nat.mul_le_mul_right _ (Nat.log2_self_le hn)
  have hhigh : n * 2 ^ k < 2 ^ 53 := by
    have hstep : 2 ^ 53 = 2 ^ (Nat.log2 n + 1) * 2 ^ k := by
      rw [← pow_add]
      congr 1
      omega
    rw [hstep]
    exact Nat.mul_lt_mul_of_pos_right Nat.lt_log2_self (Nat.two_pow_pos k)
  have hunit : max (floorLog2 n 1 - 52) (-1074) = -(k : Int) := by
    rw [floorLog2_whole hn]
    omega
  have hinfinity : infinityBits = 2 ^ 52 * 2047 := by decide
  have hround : roundFraction n 1 = 2 ^ 52 * (1075 - k) + (n * 2 ^ k - 2 ^ 52) := by
    rw [roundFraction, hunit]
    dsimp only
    rw [Int.neg_neg, scaled_eq, Int.toNat_natCast, Int.toNat_neg_natCast, pow_zero, Nat.mul_one,
      roundDiv_one, Nat.pow_eq, hinfinity]
    omega
  have hplace : n * 2 ^ k - 2 ^ 52 < 2 ^ 52 := by omega
  refine ⟨by omega, ?_⟩
  rw [hround, units_eq hplace, if_neg (by omega), Nat.add_sub_cancel' hlow, Nat.mul_assoc,
    ← pow_add]
  congr 2
  omega

/-! ## Bits -/

theorem signBit_eq_two_pow : signBit = 2 ^ 63 := by decide

theorem toNat_ofNat {bits : Nat} (h : bits < 2 ^ 64) : (UInt64.ofNat bits).toNat = bits :=
  UInt64.toNat_ofNat_of_lt' h

/-- A number is its sign and its magnitude. -/
theorem ofMagnitude_magnitude (x : Binary64) : ofMagnitude x.isNegative x.magnitude = x := by
  have hlt : x.bits.toNat < 2 ^ 64 := x.bits.toNat_lt
  obtain ⟨bits⟩ := x
  refine congrArg Binary64.mk (UInt64.toNat_inj.mp ?_)
  simp only [isNegative, magnitude, signBit_eq_two_pow, decide_eq_true_eq] at hlt ⊢
  split
  · rw [toNat_ofNat (by omega)]
    omega
  · rw [toNat_ofNat (by omega)]
    omega

end Binary64

/-! ## Whole numbers as they are written -/

theorem toNat_of_isDigit {c : Char} (h : c.isDigit = true) : 48 ≤ c.toNat ∧ c.toNat ≤ 57 :=
  Char.isDigit_iff_toNat.mp h

theorem toLower_of_isDigit {c : Char} (h : c.isDigit = true) : c.toLower = c := by
  refine dif_neg fun hcapital => ?_
  have hlow : 65 ≤ c.toNat := UInt32.le_iff_toNat_le.mp hcapital.1
  have hdigit := toNat_of_isDigit h
  omega

/-- Digits spell a number of no more digits. -/
theorem Text.ofDecimalDigits_lt {digits : List Char} (h : ∀ c ∈ digits, c.isDigit = true) :
    Text.ofDecimalDigits digits < 10 ^ digits.length := by
  show Nat.ofDigitChars 10 digits 0 < 10 ^ digits.length
  induction digits with
  | nil => decide
  | cons c rest ih =>
    have hrest := ih fun d hd => h d (List.mem_cons_of_mem c hd)
    obtain ⟨-, hdigit⟩ := toNat_of_isDigit (h c List.mem_cons_self)
    have hfirst : 10 * 0 + (c.toNat - '0'.toNat) ≤ 9 := by
      show 10 * 0 + (c.toNat - 48) ≤ 9
      omega
    rw [Nat.ofDigitChars_cons, Nat.ofDigitChars_eq_ofDigitChars_zero, List.length_cons, pow_succ]
    have hstep := Nat.mul_le_mul_left (10 ^ rest.length) hfirst
    omega

/-- A whole number of at most fifteen digits with the sign it is written with, which zero may
have as well. -/
structure Whole where
  negative : Bool
  magnitude : Nat
  lt : magnitude < 10 ^ 15
  deriving DecidableEq, Repr

namespace Whole

/-- Zero without a sign. -/
def zero : Whole := ⟨false, 0, by decide⟩

/-- The number that is meant. -/
def toInt (number : Whole) : Int :=
  if number.negative then -(number.magnitude : Int) else number.magnitude

/-- Whether the number is zero with a minus sign. -/
def isMinusZero (number : Whole) : Bool := number.negative && number.magnitude == 0

/-- The binary number nearest to it. -/
def toBinary64 (number : Whole) : Binary64 :=
  Binary64.ofDecimal number.negative number.magnitude 0

/-- Reads one to fifteen digits behind at most one sign. -/
def ofText? (text : List Char) : Option Whole :=
  let signed := Binary64.cutSign text
  if h : signed.2 ≠ [] ∧ signed.2.length ≤ 15 ∧ signed.2.all Char.isDigit = true then
    some ⟨signed.1, Text.ofDecimalDigits signed.2,
      (Text.ofDecimalDigits_lt (List.all_eq_true.mp h.2.2)).trans_le
        (Nat.pow_le_pow_right (by decide) h.2.1)⟩
  else none

/-- A text that is read as a whole number is a sign and the digits of its magnitude. -/
theorem exists_of_ofText? {text : List Char} {number : Whole} (h : ofText? text = some number) :
    ∃ digits, Binary64.cutSign text = (number.negative, digits) ∧ digits ≠ [] ∧
      (∀ c ∈ digits, c.isDigit = true) ∧ Text.ofDecimalDigits digits = number.magnitude := by
  rw [ofText?] at h
  split at h
  · next hdigits =>
    obtain rfl := Option.some.inj h
    exact ⟨_, rfl, hdigits.1, List.all_eq_true.mp hdigits.2.2, rfl⟩
  · exact absurd h (by simp)

/-- Digits alone are read as a decimal without a place. -/
theorem unsigned?_of_digits (negative : Bool) {digits : List Char} (hne : digits ≠ [])
    (h : ∀ c ∈ digits, c.isDigit = true) : Binary64.unsigned? negative digits =
      some ⟨negative, Text.ofDecimalDigits digits, 0⟩ := by
  have hwhole : digits.takeWhile Char.isDigit = digits := List.takeWhile_eq_self_iff.mpr h
  have hrest : digits.dropWhile Char.isDigit = [] := Text.dropWhile_eq_nil_iff.mpr h
  simp [Binary64.unsigned?, hwhole, hrest, hne, Binary64.exponent?]

/-- A word that begins with a letter is not spelled by digits. -/
theorem toLowerAscii_ne {digits : List Char} (h : ∀ c ∈ digits, c.isDigit = true) {c : Char}
    (hc : c.isDigit = false) (word : List Char) :
    Text.toLowerAscii (String.ofList digits) ≠ String.ofList (c :: word) := by
  intro heq
  rw [Text.toLowerAscii, String.toList_ofList, String.ofList_inj] at heq
  have hmem : c ∈ digits.map Char.toLower := heq ▸ List.mem_cons_self
  obtain ⟨d, hd, rfl⟩ := List.mem_map.mp hmem
  rw [toLower_of_isDigit (h d hd), h d hd] at hc
  exact absurd hc (by decide)

/-- What is written is what is read. -/
theorem parse?_of_ofText? {text : String} {number : Whole}
    (h : ofText? text.toList = some number) : Binary64.parse? text = some number.toBinary64 := by
  obtain ⟨digits, hsign, hne, hdigits, hmagnitude⟩ := exists_of_ofText? h
  rw [Binary64.parse?, hsign]
  dsimp only
  split
  · next hword => exact absurd hword (toLowerAscii_ne hdigits (by decide) _)
  · next hword => exact absurd hword (toLowerAscii_ne hdigits (by decide) _)
  · next hword => exact absurd hword (toLowerAscii_ne hdigits (by decide) _)
  · rw [unsigned?_of_digits _ hne hdigits, hmagnitude]
    rfl

/-! ## The order of whole numbers -/

/-- A whole number is not rounded by making it a binary number: its value in the smallest units is
its own. -/
theorem units_toBinary64 (number : Whole) : ∃ m < Binary64.infinityBits,
    number.toBinary64 = Binary64.ofMagnitude number.negative m ∧
      Binary64.units m = number.magnitude * 2 ^ 1074 := by
  have hlt := number.lt
  have hlength : (Nat.toDigits 10 number.magnitude).length ≤ 15 :=
    (Nat.length_toDigits_le_iff (by decide) (by decide)).mpr hlt
  rw [toBinary64, Binary64.ofDecimal]
  by_cases hzero : number.magnitude = 0
  · rw [if_pos (.inl hzero), hzero, Nat.zero_mul]
    exact ⟨0, by decide, rfl, rfl⟩
  · have hnonneg : (0 : Int) ≥ 0 := le_rfl
    rw [if_neg (by omega), if_neg (by omega), if_pos hnonneg]
    simp only [Int.toNat_zero, Nat.pow_eq, pow_zero, Nat.mul_one]
    obtain ⟨hfinite, hunits⟩ := Binary64.units_roundFraction hzero (hlt.trans (by decide))
    exact ⟨_, hfinite, rfl, hunits⟩

theorem toInt_of_isMinusZero {number : Whole} (h : number.isMinusZero = true) :
    number.toInt = 0 := by
  rw [isMinusZero, Bool.and_eq_true, beq_iff_eq] at h
  rw [toInt, if_pos h.1, h.2]
  rfl

/-- The place of a number among all weights is its magnitude, turned around where there is a minus
sign. -/
theorem key_ofMagnitude (negative : Bool) {m : Nat} (h : m < Binary64.infinityBits) :
    (Binary64.ofMagnitude negative m).key = if negative then -(m : Int) - 1 else m := by
  have hinfinity : Binary64.infinityBits = 2047 * 2 ^ 52 := by decide
  simp only [Binary64.key, Binary64.isNegative, Binary64.magnitude, Binary64.ofMagnitude,
    Binary64.signBit_eq_two_pow]
  cases negative with
  | false =>
    simp only [Bool.false_eq_true, if_false]
    rw [Binary64.toNat_ofNat (by omega), if_neg (by simp; omega), Nat.mod_eq_of_lt (by omega)]
  | true =>
    simp only [if_true]
    rw [Binary64.toNat_ofNat (by omega), if_pos (by simp), Nat.add_mod_left,
      Nat.mod_eq_of_lt (by omega)]

/-- The weights of whole numbers are in the order of the numbers, but for zero with a minus sign,
which comes before zero. -/
theorem key_lt_iff (a b : Whole) : a.toBinary64.key < b.toBinary64.key ↔
    a.toInt < b.toInt ∨ a.toInt = b.toInt ∧ a.isMinusZero = true ∧ b.isMinusZero = false := by
  obtain ⟨m, hm, ha, hunits⟩ := a.units_toBinary64
  obtain ⟨m', hm', hb, hunits'⟩ := b.units_toBinary64
  have hlt : m < m' ↔ a.magnitude < b.magnitude := by
    rw [← Binary64.units_strictMono.lt_iff_lt, hunits, hunits',
      Nat.mul_lt_mul_right (Nat.two_pow_pos 1074)]
  have hgt : m' < m ↔ b.magnitude < a.magnitude := by
    rw [← Binary64.units_strictMono.lt_iff_lt, hunits, hunits',
      Nat.mul_lt_mul_right (Nat.two_pow_pos 1074)]
  clear hunits hunits'
  rw [ha, hb, key_ofMagnitude _ hm, key_ofMagnitude _ hm']
  simp only [toInt, isMinusZero, Bool.and_eq_true, beq_iff_eq, Bool.and_eq_false_iff,
    beq_eq_false_iff_ne]
  cases a.negative <;> cases b.negative <;>
    simp only [Bool.false_eq_true, if_false, if_true, false_and, true_and, and_false, or_false,
      reduceCtorEq, false_or, true_or, and_true]
  case false.false => rw [Int.ofNat_lt, Int.ofNat_lt, hlt]
  case false.true => constructor <;> intro h <;> omega
  case true.false =>
    -- every number with a minus sign stands below, and as numbers at most the zeros are equal
    constructor <;> intro h <;> omega
  case true.true =>
    constructor
    · intro h
      have hmagnitude := hgt.mp (by omega)
      omega
    · intro h
      have hplace := hgt.mpr (by omega)
      omega

end Whole

end ComposingProxy
