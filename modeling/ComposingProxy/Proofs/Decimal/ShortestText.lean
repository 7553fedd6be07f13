import ComposingProxy.Proofs.Decimal.Whole
import Mathlib.Algebra.Order.Field.Power
import Mathlib.Data.Rat.Lemmas
import Mathlib.Tactic.NormNum
import Mathlib.Tactic.Positivity

/-!
# The shortest text is read back

The text of a number is looked for among the decimals of one digit, of two digits and so on, up to
seventeen. That one of them rounds back has to be shown before anything can be said about what is
found: the first digit stands where it should (`ten_zpow_magnitude10_le`), so the seventeenth is
worth less than the last bit (`digit_mul_le`), and the decimal next to the number is nearer to it
than its neighbours are.

> `covers_shortest`: the decimal that is found rounds to the number.

A whole number of fifteen digits has a magnitude of its own, and the intervals of two magnitudes
have nothing but an end in common:

> `eq_of_ofText?_render`: a number with the text of a whole number is that whole number.
-/

namespace ComposingProxy.Binary64

/-! ## Powers of either sign -/

/-- One of the two powers is one, and the other is the one that is meant. -/
theorem pow_div_pow (base : Nat) (exponent : Int) :
    ((base ^ exponent.toNat : Nat) : ℚ) / (base ^ (-exponent).toNat : Nat) =
      (base : ℚ) ^ exponent := by
  rcases Int.eq_nat_or_neg exponent with ⟨k, rfl | rfl⟩ <;> simp

/-- The value of a number as a fraction of two whole numbers. -/
theorem fraction_eq (x : Finite) :
    x.fraction = (x.significand * 2 ^ x.exponent.toNat, 2 ^ (-x.exponent).toNat) := by
  rw [Finite.fraction, scaled_eq, Nat.one_mul]

/-- A power of either sign as a fraction of two whole numbers. -/
theorem power_eq (base : Nat) (exponent : Int) :
    (if exponent ≥ 0 then (Nat.pow base exponent.toNat, 1)
      else (1, Nat.pow base (-exponent).toNat)) =
        (base ^ exponent.toNat, base ^ (-exponent).toNat) := by
  rcases pow_eq_one_of_sign base exponent with ⟨h, hone⟩ | ⟨h, hone⟩
  · rw [if_pos h, hone, Nat.pow_eq]
  · rw [if_neg h, hone, Nat.pow_eq]

/-- One in the last bit of a number, in a unit that a decimal place goes into as well. -/
def Finite.bit (x : Finite) (place : Int) : Nat := 2 ^ x.exponent.toNat * 10 ^ (-place).toNat

/-- One at a decimal place, in the same unit. -/
def Finite.digit (x : Finite) (place : Int) : Nat := 2 ^ (-x.exponent).toNat * 10 ^ place.toNat

theorem Finite.digit_pos (x : Finite) (place : Int) : 0 < x.digit place :=
  Nat.mul_pos (Nat.two_pow_pos _) (Nat.pow_pos (by decide))

/-- A decimal lies in the interval of a number; the ends count if the significand is even. -/
theorem covers_iff {x : Finite} {candidate : Nat} {place : Int} :
    x.covers candidate place = true ↔
      if x.significand % 2 = 0 then
        (4 * x.significand - x.below) * x.bit place ≤ 4 * (candidate * x.digit place) ∧
          4 * (candidate * x.digit place) ≤ (4 * x.significand + 2) * x.bit place
      else
        (4 * x.significand - x.below) * x.bit place < 4 * (candidate * x.digit place) ∧
          4 * (candidate * x.digit place) < (4 * x.significand + 2) * x.bit place := by
  have hvalue : 4 * candidate * 10 ^ place.toNat * 2 ^ (-x.exponent).toNat =
      4 * (candidate * x.digit place) := by
    rw [Finite.digit]
    ring
  have hunit : 10 ^ (-place).toNat * 2 ^ x.exponent.toNat = x.bit place := Nat.mul_comm _ _
  simp only [Finite.covers, power_eq, hvalue, hunit]
  split <;> simp

/-- Between the ends a decimal rounds to the number, whether or not the ends do. -/
theorem covers_of_lt {x : Finite} {candidate : Nat} {place : Int}
    (hlow : (4 * x.significand - x.below) * x.bit place < 4 * (candidate * x.digit place))
    (hhigh : 4 * (candidate * x.digit place) < (4 * x.significand + 2) * x.bit place) :
    x.covers candidate place = true := by
  rw [covers_iff]
  split
  · exact ⟨hlow.le, hhigh.le⟩
  · exact ⟨hlow, hhigh⟩

/-- A decimal in the interval is not outside its ends. -/
theorem le_of_covers {x : Finite} {candidate : Nat} {place : Int}
    (h : x.covers candidate place = true) :
    (4 * x.significand - x.below) * x.bit place ≤ 4 * (candidate * x.digit place) ∧
      4 * (candidate * x.digit place) ≤ (4 * x.significand + 2) * x.bit place := by
  rw [covers_iff] at h
  split at h
  · exact h
  · exact ⟨h.1.le, h.2.le⟩

/-! ## How large a number is -/

/-- Scaling a fraction multiplies it by a power of two. -/
theorem scaled_div (num den : Nat) (shift : Int) :
    ((scaled num den shift).1 : ℚ) / (scaled num den shift).2 = num / den * 2 ^ shift := by
  rw [scaled_eq, Nat.cast_mul, Nat.cast_mul, mul_div_mul_comm, pow_div_pow, Nat.cast_ofNat]

/-- The exponent that is taken for the size of a fraction is not too large. -/
theorem two_zpow_floorLog2_le {num den : Nat} (hnum : 0 < num) (hden : 0 < den) :
    (2 : ℚ) ^ floorLog2 num den ≤ num / den := by
  have hden' : (0 : ℚ) < den := by exact_mod_cast hden
  rw [floorLog2]
  dsimp only
  split
  · next hle =>
    have hpos : 0 < (scaled num den (-((Nat.log2 num : Int) - Nat.log2 den))).2 := by
      rw [scaled_eq]
      exact Nat.mul_pos hden (Nat.two_pow_pos _)
    have heq := scaled_div num den (-((Nat.log2 num : Int) - Nat.log2 den))
    have hone : (1 : ℚ) ≤ num / den * 2 ^ (-((Nat.log2 num : Int) - Nat.log2 den)) := by
      rw [← heq, one_le_div (by exact_mod_cast hpos)]
      exact_mod_cast hle
    rw [zpow_neg, ← div_eq_mul_inv, one_le_div (by positivity)] at hone
    exact hone
  · -- the guess is one too high, and one below it is always low enough
    have hlow : (2 : ℚ) ^ Nat.log2 num ≤ num := by
      exact_mod_cast Nat.log2_self_le hnum.ne'
    have hhigh : (den : ℚ) ≤ 2 ^ (Nat.log2 den + 1) := by
      exact_mod_cast Nat.lt_log2_self.le
    calc (2 : ℚ) ^ ((Nat.log2 num : Int) - Nat.log2 den - 1)
        = 2 ^ Nat.log2 num / 2 ^ (Nat.log2 den + 1) := by
          rw [sub_sub, zpow_sub₀ (by decide)]
          norm_cast
      _ ≤ num / den := div_le_div₀ (by positivity) hlow hden' hhigh

/-- The logarithm of a fraction is known up to one from those of its parts. -/
theorem le_floorLog2 (num den : Nat) :
    (Nat.log2 num : Int) - Nat.log2 den - 1 ≤ floorLog2 num den ∧
      floorLog2 num den ≤ Nat.log2 num - Nat.log2 den := by
  rw [floorLog2]
  split
  all_goals omega

/-- A power of ten below a power of two: the logarithm of two lies between `10 / 33` and
`3 / 10`, with enough room over the exponents that there are. -/
theorem ten_zpow_le_two_zpow {k l : Int} (hlow : -1200 ≤ l) (hhigh : l ≤ 1200)
    (hk : k = l * 30103 / 100000 - 3) : (10 : ℚ) ^ k ≤ 2 ^ l := by
  rcases le_total 0 l with hl | hl
  · have hbase : (10 : ℚ) ^ 3 ≤ 2 ^ 10 := by norm_num
    -- both sides to the tenth power have whole exponents
    refine (pow_le_pow_iff_left₀ (by positivity) (by positivity) (by decide : 10 ≠ 0)).mp ?_
    calc ((10 : ℚ) ^ k) ^ 10 = 10 ^ (k * 10) := by rw [zpow_mul]; norm_cast
      _ ≤ 10 ^ (3 * l) := zpow_le_zpow_right₀ (by norm_num) (by omega)
      _ = (10 ^ 3) ^ l := by rw [zpow_mul]; norm_cast
      _ ≤ (2 ^ 10) ^ l := zpow_le_zpow_left₀ hl (by norm_num) hbase
      _ = (2 ^ l) ^ 10 := by rw [← zpow_natCast, ← zpow_natCast, ← zpow_mul, ← zpow_mul, mul_comm]
  · have hbase : (2 : ℚ) ^ 33 ≤ 10 ^ 10 := by norm_num
    obtain ⟨j, rfl⟩ : ∃ j : Nat, l = -(j : Int) := ⟨(-l).toNat, by omega⟩
    refine (pow_le_pow_iff_left₀ (by positivity) (by positivity) (by decide : 33 ≠ 0)).mp ?_
    calc ((10 : ℚ) ^ k) ^ 33 = 10 ^ (k * 33) := by rw [zpow_mul]; norm_cast
      _ ≤ 10 ^ (-(10 * j : Int)) := zpow_le_zpow_right₀ (by norm_num) (by omega)
      _ = ((10 ^ 10) ^ j)⁻¹ := by rw [zpow_neg, zpow_mul]; norm_cast
      _ ≤ ((2 ^ 33) ^ j)⁻¹ := inv_anti₀ (by positivity) (pow_le_pow_left₀ (by positivity) hbase j)
      _ = (2 ^ (-(j : Int))) ^ 33 := by
        rw [zpow_neg, zpow_natCast, inv_pow, ← pow_mul, ← pow_mul, mul_comm]

/-- The test whether a fraction is below a power of ten. -/
theorem lt_ten_zpow_iff {num den : Nat} (hden : 0 < den) (k : Int) :
    (if k ≥ 0 then decide (num < den * Nat.pow 10 k.toNat)
      else decide (num * Nat.pow 10 (-k).toNat < den)) = true ↔ (num / den : ℚ) < 10 ^ k := by
  have hden' : (0 : ℚ) < den := by exact_mod_cast hden
  rw [div_lt_iff₀ hden']
  split
  · next hk =>
    obtain ⟨j, rfl⟩ := Int.eq_ofNat_of_zero_le hk
    rw [decide_eq_true_iff, Int.toNat_natCast, Nat.pow_eq, zpow_natCast, mul_comm]
    exact_mod_cast Iff.rfl
  · next hk =>
    obtain ⟨j, rfl⟩ : ∃ j : Nat, k = -(j : Int) := ⟨(-k).toNat, by omega⟩
    rw [decide_eq_true_iff, Int.neg_neg, Int.toNat_natCast, Nat.pow_eq, zpow_neg, zpow_natCast,
      lt_inv_mul_iff₀ (by positivity), mul_comm]
    exact_mod_cast Iff.rfl

/-- Raising a power of ten stops before it is more than ten times too large, whatever the number of
steps. -/
theorem raisePower_le {num den : Nat} (hden : 0 < den) : ∀ (steps : Nat) (k : Int),
    (10 : ℚ) ^ (k - 1) ≤ num / den → (10 : ℚ) ^ (raisePower num den steps k - 1) ≤ num / den := by
  intro steps
  induction steps with
  | zero => exact fun _ h => h
  | succ steps ih =>
    intro k h
    by_cases hbelow : (num / den : ℚ) < 10 ^ k
    · have hstop : raisePower num den (steps + 1) k = k :=
        if_pos ((lt_ten_zpow_iff hden k).mpr hbelow)
      rw [hstop]
      exact h
    · have hnext : raisePower num den (steps + 1) k = raisePower num den steps (k + 1) :=
        if_neg (mt (lt_ten_zpow_iff hden k).mp hbelow)
      rw [hnext]
      refine ih (k + 1) ?_
      rw [Int.add_sub_cancel]
      exact not_lt.mp hbelow

/-- What the parts of a finite number other than zero can be. -/
structure Finite.IsRegular (x : Finite) : Prop where
  pos : 0 < x.significand
  lt : x.significand < 2 ^ 53
  /-- The neighbour below is nearer only at the beginning of a row. -/
  below : x.below = 2 ∨ x.below = 1 ∧ x.significand = 2 ^ 52
  low : -1074 ≤ x.exponent
  high : x.exponent ≤ 971

/-- The parts of a finite number are regular, unless it is zero. -/
theorem isRegular_finite {m : Nat} (hpos : 0 < m) (h : m < infinityBits) :
    (finite m).IsRegular := by
  have hinfinity : infinityBits = 2047 * 2 ^ 52 := by decide
  unfold finite
  simp only [Nat.pow_eq]
  split
  · constructor <;> dsimp only <;> omega
  · split
    · constructor <;> dsimp only [Int.ofNat_eq_natCast] <;> omega
    · constructor <;> dsimp only [Int.ofNat_eq_natCast] <;> omega

variable {x : Finite}

/-- The magnitude of a number is not too large: the power of ten below it is no more than the
number. -/
theorem ten_zpow_magnitude10_le (h : x.IsRegular) : (10 : ℚ) ^ (x.magnitude10 - 1) ≤
    (x.significand * 2 ^ x.exponent.toNat : Nat) / (2 ^ (-x.exponent).toNat : Nat) := by
  have hlow := h.low
  have hhigh := h.high
  have hden : 0 < 2 ^ (-x.exponent).toNat := Nat.two_pow_pos _
  have hnum : 0 < x.significand * 2 ^ x.exponent.toNat := Nat.mul_pos h.pos (Nat.two_pow_pos _)
  have hbits : Nat.log2 (x.significand * 2 ^ x.exponent.toNat) < 1024 := by
    rw [Nat.log2_lt hnum.ne']
    calc x.significand * 2 ^ x.exponent.toNat
        < 2 ^ 53 * 2 ^ x.exponent.toNat := Nat.mul_lt_mul_of_pos_right h.lt (Nat.two_pow_pos _)
      _ = 2 ^ (53 + x.exponent.toNat) := (pow_add 2 53 _).symm
      _ ≤ 2 ^ 1024 := Nat.pow_le_pow_right (by decide) (by omega)
  have hbits' : Nat.log2 (2 ^ (-x.exponent).toNat) < 1075 := by
    rw [Nat.log2_two_pow]
    omega
  rw [Finite.magnitude10, fraction_eq]
  generalize x.significand * 2 ^ x.exponent.toNat = num at *
  generalize 2 ^ (-x.exponent).toNat = den at *
  obtain ⟨hfloor, hfloor'⟩ := le_floorLog2 num den
  refine raisePower_le hden 8 _ (le_trans ?_ (two_zpow_floorLog2_le hnum hden))
  exact ten_zpow_le_two_zpow (by omega) (by omega) (by omega)

/-! ## The shortest text -/

/-- The two whole numbers next to a fraction, the nearer one first. -/
def nearest (num den : Nat) : List Nat :=
  if 2 * (num % den) > den ∨ (2 * (num % den) = den ∧ num / den % 2 = 1) then
    [num / den + 1, num / den]
  else [num / den, num / den + 1]

/-- One of them is no more than a half away. -/
theorem exists_mem_nearest (num : Nat) {den : Nat} (hden : 0 < den) : ∃ c ∈ nearest num den,
    2 * num ≤ 2 * (c * den) + den ∧ 2 * (c * den) ≤ 2 * num + den := by
  have hdiv := Nat.div_add_mod num den
  have hlt := Nat.mod_lt num hden
  rw [Nat.mul_comm] at hdiv
  rw [nearest]
  split
  · refine ⟨num / den + 1, List.mem_cons_self, ?_⟩
    rw [Nat.add_mul, Nat.one_mul]
    generalize num / den * den = multiple at *
    generalize num % den = rest at *
    omega
  · refine ⟨num / den, List.mem_cons_self, ?_⟩
    generalize num / den * den = multiple at *
    generalize num % den = rest at *
    omega

/-- Of the two decimals of some length next to a number, the first in its interval is taken. -/
theorem withDigits?_eq (x : Finite) (magnitude10 : Int) (count : Nat) :
    x.withDigits? magnitude10 count =
      ((nearest (x.significand * x.bit (magnitude10 - count)) (x.digit (magnitude10 - count))).find?
        fun c => x.covers c (magnitude10 - count)).map (·, magnitude10 - count) := by
  rw [Finite.withDigits?, fraction_eq]
  generalize magnitude10 - count = place
  have hfraction : (if place ≥ 0
      then (x.significand * 2 ^ x.exponent.toNat, 2 ^ (-x.exponent).toNat * Nat.pow 10 place.toNat)
      else (x.significand * 2 ^ x.exponent.toNat * Nat.pow 10 (-place).toNat,
        2 ^ (-x.exponent).toNat)) = (x.significand * x.bit place, x.digit place) := by
    rw [Finite.bit, Finite.digit, ← Nat.mul_assoc]
    rcases pow_eq_one_of_sign 10 place with ⟨h, hone⟩ | ⟨h, hone⟩
    · rw [if_pos h, hone, Nat.mul_one, Nat.pow_eq]
    · rw [if_neg h, hone, Nat.mul_one, Nat.pow_eq]
  dsimp only
  rw [hfraction]
  rfl

/-- Where the digits begin with the first one of the number, the seventeenth is worth less than a
bit: ten to the sixteenth is more than two to the fifty-third. -/
theorem digit_mul_le (h : x.IsRegular) :
    x.digit (x.magnitude10 - 17) * 10 ^ 16 ≤ x.significand * x.bit (x.magnitude10 - 17) := by
  have hdigit : (0 : ℚ) < x.digit (x.magnitude10 - 17) := by exact_mod_cast x.digit_pos _
  have hpower : (10 : ℚ) ^ 16 = 10 ^ (x.magnitude10 - 1) * 10 ^ (-(x.magnitude10 - 17)) := by
    rw [← zpow_add₀ (by norm_num), show x.magnitude10 - 1 + -(x.magnitude10 - 17) = 16 by ring]
    norm_cast
  have hplace := pow_div_pow 10 (-(x.magnitude10 - 17))
  rw [Int.neg_neg, Nat.cast_ofNat] at hplace
  have hle : (10 : ℚ) ^ 16 ≤
      (x.significand * x.bit (x.magnitude10 - 17) : Nat) / x.digit (x.magnitude10 - 17) := by
    calc (10 : ℚ) ^ 16
        = 10 ^ (x.magnitude10 - 1) * 10 ^ (-(x.magnitude10 - 17)) := hpower
      _ ≤ (x.significand * 2 ^ x.exponent.toNat : Nat) / (2 ^ (-x.exponent).toNat : Nat) *
          10 ^ (-(x.magnitude10 - 17)) :=
        mul_le_mul_of_nonneg_right (ten_zpow_magnitude10_le h) (by positivity)
      _ = (x.significand * x.bit (x.magnitude10 - 17) : Nat) / x.digit (x.magnitude10 - 17) := by
        rw [← hplace, ← mul_div_mul_comm, Finite.bit, Finite.digit]
        push_cast
        rw [mul_assoc]
  rw [le_div_iff₀ hdigit, mul_comm] at hle
  exact_mod_cast hle

/-- Seventeen digits always do. -/
theorem withDigits?_seventeen (h : x.IsRegular) :
    (x.withDigits? x.magnitude10 17).isSome = true := by
  obtain ⟨c, hc, hlow, hhigh⟩ := exists_mem_nearest
    (x.significand * x.bit (x.magnitude10 - 17)) (x.digit_pos (x.magnitude10 - 17))
  rw [withDigits?_eq, Option.isSome_map, List.find?_isSome]
  refine ⟨c, hc, ?_⟩
  have hfine := digit_mul_le h
  have hpos := x.digit_pos (x.magnitude10 - 17)
  have hbit : x.significand * x.bit (x.magnitude10 - 17) ≤ 2 ^ 53 * x.bit (x.magnitude10 - 17) :=
    Nat.mul_le_mul_right _ h.lt.le
  -- a place is less than a bit, and less than half of one where the number begins a row
  have hnear : 2 * x.digit (x.magnitude10 - 17) < x.below * x.bit (x.magnitude10 - 17) := by
    rcases h.below with hbelow | ⟨hbelow, hfirst⟩
    · rw [hbelow]
      omega
    · rw [hfirst] at hfine
      rw [hbelow]
      omega
  refine covers_of_lt ?_ ?_
  · rw [Nat.sub_mul, Nat.mul_assoc]
    push_cast at *
    omega
  · rw [Nat.add_mul, Nat.mul_assoc]
    push_cast at *
    omega

/-- The shortest text is never missing, and it rounds back. -/
theorem covers_shortest (h : x.IsRegular) :
    x.covers x.shortest.1 x.shortest.2 = true := by
  have hsome : ((List.range 17).findSome? fun i => x.withDigits? x.magnitude10 (i + 1)).isSome :=
    List.findSome?_isSome_iff.mpr ⟨16, by decide, withDigits?_seventeen h⟩
  -- whatever number of digits it was found with, it was tried there
  obtain ⟨found, hfound⟩ := Option.isSome_iff_exists.mp hsome
  have hshortest : x.shortest = found := by
    rw [Finite.shortest, hfound, Option.getD_some]
  obtain ⟨i, -, hi⟩ := List.exists_of_findSome?_eq_some hfound
  rw [withDigits?_eq, Option.map_eq_some_iff] at hi
  obtain ⟨c, hc, rfl⟩ := hi
  rw [hshortest]
  have hcovers := List.find?_some hc
  exact hcovers

/-! ## Whole numbers and their texts -/

/-- Downwards the ends of the interval lie halfway to the neighbour too, which is nearer only for
the first number of a row. -/
theorem below_mul_two_pow (m : Nat) :
    (finite (m + 1)).below * 2 ^ doublings (m + 1) = 2 * 2 ^ doublings m := by
  obtain ⟨row, place, hplace, rfl⟩ := exists_row m
  have hbefore : (2 ^ 52 * row + place) / 2 ^ 52 = row := by omega
  simp only [finite, doublings, Nat.pow_eq, hbefore]
  by_cases hlast : place + 1 < 2 ^ 52
  · have hrow : (2 ^ 52 * row + place + 1) / 2 ^ 52 = row := by omega
    have hfraction : (2 ^ 52 * row + place + 1) % 2 ^ 52 = place + 1 := by omega
    simp only [hrow, hfraction, Nat.add_one_ne_zero, false_and, if_false]
    split <;> rfl
  · have hrow : (2 ^ 52 * row + place + 1) / 2 ^ 52 = row + 1 := by omega
    have hfraction : (2 ^ 52 * row + place + 1) % 2 ^ 52 = 0 := by omega
    simp only [hrow, hfraction]
    cases row with
    | zero => rfl
    | succ row => simp [pow_succ, Nat.mul_comm]

/-- What rounds to a number, in units of the smallest one. -/
theorem le_units_of_covers {m n candidate : Nat} {place : Int}
    (hcovers : (finite m).covers candidate place = true)
    (hvalue : candidate * 10 ^ place.toNat = n * 10 ^ (-place).toNat) :
    4 * units m ≤ 4 * (n * 2 ^ 1074) + (finite m).below * 2 ^ doublings m ∧
      4 * (n * 2 ^ 1074) ≤ 4 * units m + 2 * 2 ^ doublings m := by
  obtain ⟨hlow, hhigh⟩ := le_of_covers hcovers
  have hdigit : candidate * (finite m).digit place =
      n * 2 ^ (-(finite m).exponent).toNat * 10 ^ (-place).toNat := by
    calc candidate * (2 ^ (-(finite m).exponent).toNat * 10 ^ place.toNat)
        = candidate * 10 ^ place.toNat * 2 ^ (-(finite m).exponent).toNat := by ring
      _ = n * 10 ^ (-place).toNat * 2 ^ (-(finite m).exponent).toNat := by rw [hvalue]
      _ = n * 2 ^ (-(finite m).exponent).toNat * 10 ^ (-place).toNat := by ring
  have hten : 0 < 10 ^ (-place).toNat := Nat.pow_pos (by decide)
  simp only [hdigit, Finite.bit, ← Nat.mul_assoc, exponent_finite] at hlow hhigh
  replace hlow := Nat.le_of_mul_le_mul_right hlow hten
  replace hhigh := Nat.le_of_mul_le_mul_right hhigh hten
  -- both sides are brought to units of the smallest number
  have hunit : 2 ^ doublings m =
      2 ^ (doublings m - 1074 : Int).toNat * 2 ^ min (doublings m) 1074 := by
    rw [← pow_add]
    congr 1
    omega
  have hone : 2 ^ 1074 = 2 ^ (-(doublings m - 1074 : Int)).toNat * 2 ^ min (doublings m) 1074 := by
    rw [← pow_add]
    congr 1
    omega
  replace hlow := Nat.mul_le_mul_right (2 ^ min (doublings m) 1074) hlow
  replace hhigh := Nat.mul_le_mul_right (2 ^ min (doublings m) 1074) hhigh
  simp only [Nat.mul_assoc, ← hunit, ← hone] at hlow hhigh
  rw [Nat.sub_mul, Nat.mul_assoc] at hlow
  rw [Nat.add_mul, Nat.mul_assoc] at hhigh
  rw [units]
  omega

/-- A whole number whose text rounds to a number is that number. -/
theorem eq_of_covers {m y n candidate : Nat} {place : Int} (hpos : 0 < m)
    (hcovers : (finite m).covers candidate place = true)
    (hvalue : candidate * 10 ^ place.toNat = n * 10 ^ (-place).toNat)
    (hunits : units y = n * 2 ^ 1074) : m = y := by
  obtain ⟨hlow, hhigh⟩ := le_units_of_covers hcovers hvalue
  rw [← hunits] at hlow hhigh
  obtain ⟨k, rfl⟩ : ∃ k, m = k + 1 := ⟨m - 1, by omega⟩
  rw [below_mul_two_pow] at hlow
  have hbit := Nat.two_pow_pos (doublings (k + 1))
  have hbit' := Nat.two_pow_pos (doublings k)
  have hsucc := units_succ k
  have hsucc' := units_succ (k + 1)
  rcases Nat.lt_trichotomy (k + 1) y with hlt | heq | hgt
  · -- the interval ends half a bit above the number, and the next value is a whole bit above it
    have habove := units_strictMono.monotone (Nat.succ_le_of_lt hlt)
    rw [Nat.succ_eq_add_one] at habove
    omega
  · exact heq
  · -- the value below has the bit that the lower end is counted in
    have hunder := units_strictMono.monotone (Nat.le_of_lt_succ hgt)
    omega

/-- Zeros at the end are dropped, and the place is moved by as many. -/
theorem dropZeros_eq (digits : List Char) (place : Int) : ∃ k : Nat,
    digits = List.replicate k '0' ++ (dropZeros digits place).1 ∧
      (dropZeros digits place).2 = place + k := by
  fun_induction dropZeros digits place with
  | case1 place rest ih =>
    obtain ⟨k, hrest, hplace⟩ := ih
    refine ⟨k + 1, ?_, ?_⟩
    · rw [List.replicate_succ, List.cons_append, ← hrest]
    · rw [hplace]
      omega
  | case2 digits place _ => exact ⟨0, rfl, (Int.add_zero place).symm⟩

/-- A text without a point is the digits, with zeros added or taken away at the end. -/
theorem positional_eq (digits : Nat) (place : Int) : ∃ (kept : List Char) (k : Nat),
    Nat.toDigits 10 digits = kept ++ List.replicate k '0' ∧
      (0 ≤ place + k ∧
          (positional digits place).toList = kept ++ List.replicate (place + k).toNat '0' ∨
        '.' ∈ (positional digits place).toList) := by
  obtain ⟨k, hdigits, hplace⟩ := dropZeros_eq (Nat.toDigits 10 digits).reverse place
  refine ⟨(dropZeros (Nat.toDigits 10 digits).reverse place).1.reverse, k, ?_, ?_⟩
  · rw [← List.reverse_inj, List.reverse_append, List.reverse_reverse, List.reverse_replicate,
      ← hdigits]
  · simp only [positional, String.toList_ofList, hplace]
    split
    · next h => exact .inl ⟨h, rfl⟩
    · refine .inr ?_
      split
      · exact List.mem_append_right _ List.mem_cons_self
      · exact List.mem_cons_of_mem _ List.mem_cons_self

/-- A decimal is written in digits with a point at most. -/
theorem mem_positional {digits : Nat} {place : Int} {c : Char}
    (h : c ∈ (positional digits place).toList) : c.isDigit = true ∨ c = '.' := by
  obtain ⟨k, hdigits, -⟩ := dropZeros_eq (Nat.toDigits 10 digits).reverse place
  have hkept : ∀ d ∈ (dropZeros (Nat.toDigits 10 digits).reverse place).1.reverse,
      d.isDigit = true := by
    intro d hd
    refine Nat.isDigit_of_mem_toDigits (b := 10) (n := digits) (by decide) (by decide) ?_
    rw [← List.mem_reverse, hdigits]
    exact List.mem_append_right _ (List.mem_reverse.mp hd)
  have hzero : ∀ {n d}, d ∈ List.replicate n '0' → d.isDigit = true := fun hd => by
    rw [List.eq_of_mem_replicate hd]
    decide
  simp only [positional, String.toList_ofList] at h
  split at h
  · rcases List.mem_append.mp h with hin | hin
    · exact .inl (hkept c hin)
    · exact .inl (hzero hin)
  · split at h
    · rcases List.mem_append.mp h with hin | hin
      · exact .inl (hkept c (List.mem_of_mem_take hin))
      · rcases List.mem_cons.mp hin with rfl | hin
        · exact .inr rfl
        · exact .inl (hkept c (List.mem_of_mem_drop hin))
    · rcases List.mem_append.mp h with hin | hin
      · rcases List.mem_cons.mp hin with rfl | hin
        · exact .inl (by decide)
        · rcases List.mem_cons.mp hin with rfl | hin
          · exact .inr rfl
          · exact .inl (hzero hin)
      · exact .inl (hkept c hin)

/-- Digits without a point spell the decimal that they were made of. -/
theorem ofDecimalDigits_positional {digits : Nat} {place : Int}
    (h : ∀ c ∈ (positional digits place).toList, c.isDigit = true) :
    digits * 10 ^ place.toNat =
      Text.ofDecimalDigits (positional digits place).toList * 10 ^ (-place).toNat := by
  obtain ⟨kept, k, hdigits, ⟨hplace, htext⟩ | hpoint⟩ := positional_eq digits place
  · have hvalue : digits = 10 ^ k * Nat.ofDigitChars 10 kept 0 := by
      rw [← Nat.ofDigitChars_replicate_zero, ← Nat.ofDigitChars_append, ← hdigits,
        Nat.ofDigitChars_toDigits (by decide) (by decide)]
    have hspelled : Text.ofDecimalDigits (positional digits place).toList =
        10 ^ (place + k).toNat * Nat.ofDigitChars 10 kept 0 := by
      rw [htext, ← Nat.ofDigitChars_replicate_zero, ← Nat.ofDigitChars_append]
      rfl
    have hpower : 10 ^ k * 10 ^ place.toNat = 10 ^ (place + k).toNat * 10 ^ (-place).toNat := by
      rw [← pow_add, ← pow_add]
      congr 1
      omega
    rw [hspelled]
    calc digits * 10 ^ place.toNat
        = 10 ^ k * 10 ^ place.toNat * Nat.ofDigitChars 10 kept 0 := by
          rw [hvalue]
          ring
      _ = 10 ^ (place + k).toNat * 10 ^ (-place).toNat * Nat.ofDigitChars 10 kept 0 := by
          rw [hpower]
      _ = 10 ^ (place + k).toNat * Nat.ofDigitChars 10 kept 0 * 10 ^ (-place).toNat := by ring
  · exact absurd (h '.' hpoint) (by decide)

/-! ## Reading a text back -/

/-- What the text of a number can be: a name, or a sign and behind it a name, zero or a decimal
that rounds to the number. -/
theorem render_cases (x : Binary64) : x.render = "NaN" ∨
    ∃ text, x.render = (if x.isNegative then "-" else "") ++ text ∧
      (text = "inf" ∨ (text = "0" ∧ x.magnitude = 0) ∨
        0 < x.magnitude ∧ ∃ digits place, text = positional digits place ∧
          (finite x.magnitude).covers digits place = true) := by
  rw [render]
  split
  · exact .inl rfl
  refine .inr ?_
  split
  · exact ⟨_, rfl, .inl rfl⟩
  split
  · next hzero => exact ⟨_, rfl, .inr (.inl ⟨rfl, hzero⟩)⟩
  · next hnan hinfinite hzero =>
    have hpos : 0 < x.magnitude := Nat.pos_of_ne_zero hzero
    exact ⟨_, rfl, .inr (.inr ⟨hpos, _, _, rfl,
      covers_shortest (isRegular_finite hpos (by omega))⟩)⟩

/-- A sign is cut off where it was put. -/
theorem cutSign_append {negative : Bool} {text : String} (hminus : '-' ∉ text.toList)
    (hplus : '+' ∉ text.toList) :
    cutSign ((if negative then "-" else "") ++ text).toList = (negative, text.toList) := by
  rw [String.toList_append]
  cases negative with
  | true => rfl
  | false =>
    show cutSign text.toList = _
    unfold cutSign
    split
    · next htext => exact absurd (htext ▸ List.mem_cons_self) hminus
    · next htext => exact absurd (htext ▸ List.mem_cons_self) hplus
    · rfl

/-- A text that is the one of a number and spells a whole number spells that number. -/
theorem eq_of_ofText?_render {x : Binary64} {number : Whole}
    (h : Whole.ofText? x.render.toList = some number) : x = number.toBinary64 := by
  obtain ⟨y, -, hnumber, hunits⟩ := number.units_toBinary64
  obtain ⟨spelled, hsign, -, hdigits, hvalue⟩ := Whole.exists_of_ofText? h
  rw [hnumber, ← ofMagnitude_magnitude x]
  rcases render_cases x with hnan | ⟨text, htext, rfl | ⟨rfl, hzero⟩ | ⟨hpos, digits, place, rfl,
    hcovers⟩⟩
  · rw [hnan] at hsign
    obtain rfl := congrArg Prod.snd hsign
    exact absurd (hdigits 'N' List.mem_cons_self) (by decide)
  · rw [htext, cutSign_append (by decide) (by decide)] at hsign
    obtain ⟨-, rfl⟩ := Prod.mk.inj hsign
    exact absurd (hdigits 'i' List.mem_cons_self) (by decide)
  · rw [htext, cutSign_append (by decide) (by decide)] at hsign
    obtain ⟨hnegative, rfl⟩ := Prod.mk.inj hsign
    have hmagnitude : number.magnitude = 0 := hvalue.symm
    rw [hmagnitude, Nat.zero_mul] at hunits
    have hy : y = 0 := units_strictMono.injective (hunits.trans units_zero.symm)
    rw [hnegative, hzero, hy]
  · have hminus : '-' ∉ (positional digits place).toList := fun hin =>
      absurd (mem_positional hin) (by decide)
    have hplus : '+' ∉ (positional digits place).toList := fun hin =>
      absurd (mem_positional hin) (by decide)
    rw [htext, cutSign_append hminus hplus] at hsign
    obtain ⟨hnegative, rfl⟩ := Prod.mk.inj hsign
    have hdecimal := ofDecimalDigits_positional hdigits
    rw [hvalue] at hdecimal
    rw [hnegative, eq_of_covers hpos hcovers hdecimal hunits]

/-- There is always a text: nothing spells zero, and a decimal that is zero rounds to zero alone. -/
theorem render_ne_empty (x : Binary64) : x.render ≠ "" := by
  intro hempty
  rcases render_cases x with hnan | ⟨text, htext, hcases⟩
  · rw [hnan] at hempty
    exact absurd hempty (by decide)
  · rw [htext] at hempty
    obtain ⟨-, rfl⟩ := String.append_eq_empty_iff.mp hempty
    rcases hcases with hinfinity | ⟨hzero, -⟩ | ⟨hpos, digits, place, hpositional, hcovers⟩
    · exact absurd hinfinity (by decide)
    · exact absurd hzero (by decide)
    · have hdecimal : digits * 10 ^ place.toNat =
          Text.ofDecimalDigits (positional digits place).toList * 10 ^ (-place).toNat :=
        ofDecimalDigits_positional (hpositional ▸ List.forall_mem_nil _)
      have hnothing : Text.ofDecimalDigits "".toList = 0 := by decide
      rw [← hpositional, hnothing] at hdecimal
      exact hpos.ne' (eq_of_covers hpos hcovers hdecimal (units_zero.trans (Nat.zero_mul _).symm))

theorem isBlank_of_isDigit {c : Char} (h : c.isDigit = true) : Text.isBlank c = false := by
  have hdigit := toNat_of_isDigit h
  simp [Text.isBlank]
  omega

theorem isBlank_of_all {text : String} (h : text.toList.all (fun c => !Text.isBlank c) = true)
    {c : Char} (hc : c ∈ text.toList) : Text.isBlank c = false := by
  simpa using List.all_eq_true.mp h c hc

/-- Nothing that is written for a number is white space. -/
theorem isBlank_of_mem_render {x : Binary64} {c : Char} (h : c ∈ x.render.toList) :
    Text.isBlank c = false := by
  rcases render_cases x with hnan | ⟨text, htext, hcases⟩
  · rw [hnan] at h
    exact isBlank_of_all (by decide) h
  · rw [htext, String.toList_append] at h
    rcases List.mem_append.mp h with hsign | hin
    · split at hsign
      · exact isBlank_of_all (by decide) hsign
      · exact absurd hsign List.not_mem_nil
    · rcases hcases with rfl | ⟨rfl, -⟩ | ⟨-, digits, place, rfl, -⟩
      · exact isBlank_of_all (by decide) hin
      · exact isBlank_of_all (by decide) hin
      · rcases mem_positional hin with hdigit | rfl
        · exact isBlank_of_isDigit hdigit
        · decide

/-- The text of a number has nothing around it. -/
theorem trim_render (x : Binary64) : Text.trim x.render.toList = x.render.toList := by
  have htrim : Text.trim ([] ++ x.render.toList ++ []) = x.render.toList :=
    Text.trim_append (List.forall_mem_nil _) (fun c hc => isBlank_of_mem_render hc)
      (List.forall_mem_nil _)
  rwa [List.nil_append, List.append_nil] at htrim

end ComposingProxy.Binary64
