import ComposingProxy.Decimal.Binary64
import ComposingProxy.Text.Ascii

/-!
# Reading decimal numbers

A sign, digits with at most one point among or around them, and an exponent of ten;
or the name of an infinity or of the value that is no number, in any case.
-/

namespace ComposingProxy.Binary64

/-- A number as it is written: sign, digits and the exponent of ten of the last digit. -/
structure Written where
  negative : Bool
  digits : Nat
  exponent : Int
  deriving DecidableEq, Repr

/-- Takes a sign off the front. -/
def cutSign (s : List Char) : Bool × List Char :=
  match s with
  | '-' :: rest => (true, rest)
  | '+' :: rest => (false, rest)
  | _ => (false, s)

/-- The exponent that a text spells; nothing at all is zero. -/
def exponent? (s : List Char) : Option Int :=
  match s with
  | [] => some 0
  | c :: rest =>
    if c == 'e' || c == 'E' then
      let (negative, digits) := cutSign rest
      if digits.isEmpty || !digits.all Char.isDigit then none
      else
        let n : Int := Text.ofDecimalDigits digits
        some (if negative then -n else n)
    else none

/-- The decimal number that a text without sign spells. -/
def unsigned? (negative : Bool) (s : List Char) : Option Written :=
  let whole := s.takeWhile Char.isDigit
  let rest := s.dropWhile Char.isDigit
  let (fraction, rest) := match rest with
    | '.' :: rest => (rest.takeWhile Char.isDigit, rest.dropWhile Char.isDigit)
    | _ => ([], rest)
  if whole.isEmpty && fraction.isEmpty then none
  else
    (exponent? rest).map fun exponent =>
      { negative
        digits := Text.ofDecimalDigits (whole ++ fraction)
        exponent := exponent - fraction.length }

/-- The number nearest to what is written. -/
def Written.round (written : Written) : Binary64 :=
  ofDecimal written.negative written.digits written.exponent

/-- Reads a number. -/
def parse? (text : String) : Option Binary64 :=
  let (negative, s) := cutSign text.toList
  match Text.toLowerAscii (String.ofList s) with
  | "inf" | "infinity" => some (infinity negative)
  | "nan" => some (notANumber negative)
  | _ => (unsigned? negative s).map Written.round

end ComposingProxy.Binary64
