import ComposingProxy.Decimal.Binary64
import ComposingProxy.Text.Ascii

/-!
# Shortest decimal texts

The text of a number is the shortest decimal that rounds back to it, the nearest of
those if there are several, written without an exponent. The decimals that round to
a number fill the interval halfway to its two neighbours, ends included when the
number is even; for one, two, … digits the two decimals next to the number are tried.
-/

namespace ComposingProxy.Binary64

/-- A finite number as `significand * 2 ^ exponent`, and the interval that rounds to it in
quarters of that unit. -/
structure Finite where
  significand : Nat
  exponent : Int
  /-- Quarters of a unit down to the lower end of the interval. -/
  below : Nat

/-- The parts of a finite magnitude other than zero. -/
def finite (magnitude : Nat) : Finite :=
  let biased : Nat := magnitude / Nat.pow 2 52
  let fraction : Nat := magnitude % Nat.pow 2 52
  if biased = 0 then ⟨fraction, -1074, 2⟩
  else
    ⟨Nat.pow 2 52 + fraction, Int.ofNat biased - 1075,
      if fraction = 0 ∧ biased > 1 then 1 else 2⟩

/-- Whether `candidate * 10 ^ place` rounds to the number. -/
def Finite.covers (x : Finite) (candidate : Nat) (place : Int) : Bool :=
  -- everything in quarters of a unit, brought to whole numbers
  let (tenNum, tenDen) :=
    if place ≥ 0 then (Nat.pow 10 place.toNat, 1) else (1, Nat.pow 10 (-place).toNat)
  let (twoNum, twoDen) :=
    if x.exponent ≥ 0 then (Nat.pow 2 x.exponent.toNat, 1)
    else (1, Nat.pow 2 (-x.exponent).toNat)
  let value := 4 * candidate * tenNum * twoDen
  let unit := tenDen * twoNum
  let low := (4 * x.significand - x.below) * unit
  let high := (4 * x.significand + 2) * unit
  if x.significand % 2 = 0 then low ≤ value && value ≤ high else low < value && value < high

/-- The exact value as a fraction. -/
def Finite.fraction (x : Finite) : Nat × Nat := scaled x.significand 1 x.exponent

/-- The least `k` with `num / den < 10 ^ k`, found from a guess at or below it. -/
def raisePower (num den : Nat) : Nat → Int → Int
  | 0, k => k
  | steps + 1, k =>
    let below := if k ≥ 0 then decide (num < den * Nat.pow 10 k.toNat)
      else decide (num * Nat.pow 10 (-k).toNat < den)
    if below then k else raisePower num den steps (k + 1)

/-- The number of digits before the point; zero or less for small numbers. -/
def Finite.magnitude10 (x : Finite) : Int :=
  let (num, den) := x.fraction
  let log2 := floorLog2 num den
  raisePower num den 8 (log2 * 30103 / 100000 - 2)

/-- The decimal with the given number of digits nearest to the number, if it rounds back. -/
def Finite.withDigits? (x : Finite) (magnitude10 : Int) (count : Nat) : Option (Nat × Int) :=
  let place := magnitude10 - count
  let (num, den) := x.fraction
  let (n, d) := if place ≥ 0 then (num, den * Nat.pow 10 place.toNat)
    else (num * Nat.pow 10 (-place).toNat, den)
  let lower := n / d
  let upperNearer := 2 * (n % d) > d ∨ (2 * (n % d) = d ∧ lower % 2 = 1)
  let inOrder := if upperNearer then [lower + 1, lower] else [lower, lower + 1]
  (inOrder.find? fun candidate => x.covers candidate place).map (·, place)

/-- The shortest decimal that rounds to the number; seventeen digits always do. -/
def Finite.shortest (x : Finite) : Nat × Int :=
  let magnitude10 := x.magnitude10
  ((List.range 17).findSome? fun i => x.withDigits? magnitude10 (i + 1)).getD (0, 0)

/-- Drops zeros at the end of the digits, which come in reverse. -/
def dropZeros : List Char → Int → List Char × Int
  | '0' :: digits, place => dropZeros digits (place + 1)
  | digits, place => (digits, place)

/-- Digits with their last one at a power of ten, written without an exponent. -/
def positional (digits : Nat) (place : Int) : String :=
  let (reversed, place) := dropZeros (Nat.toDigits 10 digits).reverse place
  let ds := reversed.reverse
  String.ofList <|
    if place ≥ 0 then ds ++ List.replicate place.toNat '0'
    else
      let places := (-place).toNat
      if ds.length > places then
        ds.take (ds.length - places) ++ '.' :: ds.drop (ds.length - places)
      else '0' :: '.' :: List.replicate (places - ds.length) '0' ++ ds

/-- The text of a number. -/
def render (x : Binary64) : String :=
  let sign := if x.isNegative then "-" else ""
  let magnitude := x.magnitude
  if magnitude > infinityBits then "NaN"
  else if magnitude = infinityBits then sign ++ "inf"
  else if magnitude = 0 then sign ++ "0"
  else
    let (digits, place) := (finite magnitude).shortest
    sign ++ positional digits place

end ComposingProxy.Binary64
