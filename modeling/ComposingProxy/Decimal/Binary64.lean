/-!
# Binary numbers of 64 bits

Sort weights are binary floating point numbers. They are kept as their bits, so that
everything about them is exact: `ofDecimal` rounds a decimal number to the nearest
one (a tie goes to the even neighbour), and `key` places all of them, the two zeros,
the infinities and the values that are no numbers included, in one order.
-/

namespace ComposingProxy

/-- A binary floating point number of 64 bits. -/
structure Binary64 where
  bits : UInt64
  deriving DecidableEq, Repr, Inhabited

namespace Binary64

/-- The bit of the sign. -/
def signBit : Nat := Nat.pow 2 63

/-- The bits of the infinity: the first that belong to no finite number. -/
def infinityBits : Nat := 0x7FF * Nat.pow 2 52

/-- The number with the given magnitude bits and sign. -/
def ofMagnitude (negative : Bool) (magnitude : Nat) : Binary64 :=
  ⟨UInt64.ofNat (if negative then signBit + magnitude else magnitude)⟩

/-- Positive zero. -/
def zero : Binary64 := ⟨0⟩

/-- The infinity of a sign. -/
def infinity (negative : Bool) : Binary64 := ofMagnitude negative infinityBits

/-- The value that is no number. -/
def notANumber (negative : Bool) : Binary64 := ofMagnitude negative (infinityBits + Nat.pow 2 51)

/-- Whether the sign is set. -/
def isNegative (x : Binary64) : Bool := x.bits.toNat ≥ signBit

/-- The bits without the sign. -/
def magnitude (x : Binary64) : Nat := x.bits.toNat % signBit

/-! ## Order -/

/-- The place of a number in the total order: negative numbers by falling magnitude below
positive ones by rising magnitude. -/
def key (x : Binary64) : Int :=
  if x.isNegative then - (x.magnitude : Int) - 1 else x.magnitude

/-- Whether a number stands before another one or is it. -/
def le (x y : Binary64) : Bool := x.key ≤ y.key

/-! ## Rounding -/

/-- The whole number nearest to `num / den`; a tie goes to the even one. -/
def roundDiv (num den : Nat) : Nat :=
  let quotient := num / den
  let twice := 2 * (num % den)
  if twice > den ∨ (twice = den ∧ quotient % 2 = 1) then quotient + 1 else quotient

/-- `num * 2 ^ shift` over `den` as a fraction, for a shift of either sign. -/
def scaled (num den : Nat) (shift : Int) : Nat × Nat :=
  if shift ≥ 0 then (num * Nat.pow 2 shift.toNat, den) else (num, den * Nat.pow 2 (-shift).toNat)

/-- The largest exponent of two that is at most `num / den`. -/
def floorLog2 (num den : Nat) : Int :=
  let guess : Int := (Nat.log2 num : Int) - Nat.log2 den
  let (n, d) := scaled num den (-guess)
  if n ≥ d then guess else guess - 1

/-- The magnitude bits of the number nearest to a positive fraction. -/
def roundFraction (num den : Nat) : Nat :=
  let unit : Int := max (floorLog2 num den - 52) (-1074)
  let (n, d) := scaled num den (-unit)
  min ((unit + 1074).toNat * Nat.pow 2 52 + roundDiv n d) infinityBits

/-- The number nearest to `digits * 10 ^ exponent`. -/
def ofDecimal (negative : Bool) (digits : Nat) (exponent : Int) : Binary64 :=
  let places : Int := (Nat.toDigits 10 digits).length
  ofMagnitude negative <|
    if digits = 0 ∨ places + exponent < -330 then 0
    else if places + exponent > 310 then infinityBits
    else if exponent ≥ 0 then roundFraction (digits * Nat.pow 10 exponent.toNat) 1
    else roundFraction digits (Nat.pow 10 (-exponent).toNat)

end Binary64

end ComposingProxy
