/-!
# Punycode

Text of any script written in ASCII letters, digits and hyphens. The characters
outside ASCII are given in order of their values, each as the distance from the one
before in a number of variable length; how long the digits run adapts to the
distances seen so far. No loop needs more than its data: the digits of a distance
shrink it, and every other loop goes over a list.
-/

namespace ComposingProxy.Punycode

/-- The character of a digit: letters first, then figures. -/
def digitChar (d : Nat) : Char :=
  if d < 26 then Char.ofNat (97 + d) else Char.ofNat (22 + d)

/-- The value of a digit, in either case. -/
def digitValue? (c : Char) : Option Nat :=
  let n := c.toNat
  if 97 ≤ n ∧ n ≤ 122 then some (n - 97)
  else if 65 ≤ n ∧ n ≤ 90 then some (n - 65)
  else if 48 ≤ n ∧ n ≤ 57 then some (n - 22)
  else none

/-- The least digit that ends a number at the place of weight index `k`. -/
def threshold (k bias : Nat) : Nat :=
  if k ≤ bias then 1 else if bias + 26 ≤ k then 26 else k - bias

/-- The step by which the bias is scaled back while the distance is large. -/
def scaleBack (delta k : Nat) : Nat × Nat :=
  if h : 455 < delta then scaleBack (delta / 35) (k + 36) else (delta, k)
termination_by delta
decreasing_by exact Nat.div_lt_self (by omega) (by omega)

/-- The bias after a distance, given how many characters there are now. -/
def adapt (delta count : Nat) (first : Bool) : Nat :=
  let delta := if first then delta / 700 else delta / 2
  let (delta, k) := scaleBack (delta + delta / count) 0
  k + 36 * delta / (delta + 38)

/-- The digits of a distance. -/
def distanceDigits (bias k delta : Nat) : List Char :=
  let t := threshold k bias
  if h : delta < t ∨ delta = 0 then [digitChar delta]
  else
    digitChar (t + (delta - t) % (36 - t)) :: distanceDigits bias (k + 36) ((delta - t) / (36 - t))
termination_by delta
decreasing_by
  have h1 : 1 ≤ threshold k bias := by unfold threshold; split <;> (try split) <;> omega
  calc (delta - threshold k bias) / (36 - threshold k bias)
      ≤ delta - threshold k bias := Nat.div_le_self _ _
    _ < delta := by omega

/-- What writing carries along. -/
structure Writer where
  written : List Char
  delta : Nat
  bias : Nat
  handled : Nat

/-- Writes the occurrences of one code point and counts the smaller ones passed over. -/
def Writer.pass (basic value : Nat) (w : Writer) (c : Char) : Writer :=
  if c.toNat < value then { w with delta := w.delta + 1 }
  else if c.toNat = value then
    { written := w.written ++ distanceDigits w.bias 36 w.delta
      delta := 0
      bias := adapt w.delta (w.handled + 1) (w.handled == basic)
      handled := w.handled + 1 }
  else w

/-- Writes the occurrences of every code point of an ascending list. -/
def Writer.run (input : List Char) (basic : Nat) : List Nat → Nat → Writer → Writer
  | [], _, w => w
  | value :: values, next, w =>
    let w := { w with delta := w.delta + (value - next) * (w.handled + 1) }
    let w := input.foldl (Writer.pass basic value) w
    Writer.run input basic values (value + 1) { w with delta := w.delta + 1 }

/-- The ASCII form of a text. -/
def encode (input : List Char) : List Char :=
  let basic := input.filter (·.toNat < 128)
  let values := ((input.map Char.toNat).filter (128 ≤ ·)).mergeSort.eraseDups
  let start := if basic.isEmpty then [] else basic ++ ['-']
  (Writer.run input basic.length values 128 ⟨start, 0, 72, basic.length⟩).written

/-- Inserts characters as the digits say: `i` is the place and value reached, `base` and
`weight` belong to the number being read. -/
def insertAll (out : List Char) (i base weight k bias value : Nat) :
    List Char → Option (List Char)
  | [] => if base = i ∧ weight = 1 then some out else none
  | c :: rest =>
    match digitValue? c with
    | none => none
    | some digit =>
      let t := threshold k bias
      let i := i + digit * weight
      if digit < t then
        let count := out.length + 1
        let value := value + i / count
        if value < 0x110000 ∧ ¬ (0xD800 ≤ value ∧ value < 0xE000) then
          let place := i % count
          let out := out.take place ++ Char.ofNat value :: out.drop place
          insertAll out (place + 1) (place + 1) 1 36 (adapt (i - base) count (base == 0)) value rest
        else none
      else insertAll out i base (weight * (36 - t)) (k + 36) bias value rest

/-- The text that an ASCII form stands for. A hyphen divides plain characters from digits
only where there is a plain character in front of it. -/
def decode? (input : List Char) : Option (List Char) :=
  let tail := (input.reverse.takeWhile (· != '-')).reverse
  let basic := (input.take (input.length - tail.length)).dropLast
  if basic.any (128 ≤ ·.toNat) ∨ (basic.isEmpty ∧ input.head? = some '-') then none
  else insertAll basic 0 0 1 36 72 128 tail

end ComposingProxy.Punycode
