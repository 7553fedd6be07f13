import ComposingProxy.Config.Setting
import ComposingProxy.Decimal.Reader

/-!
# Scalars of TOML

What a word means where a value stands: a truth value, a whole number in one of four
bases, a number with a point or exponent, or a date or time. Digits may be set apart by
single underscores.
-/

namespace ComposingProxy.Toml

/-- The digits of a number without the underscores, each of which stands between two
digits. -/
def plainDigits? (isDigit : Char → Bool) : List Char → Option (List Char)
  | [] => none
  | [c] => if isDigit c then some [c] else none
  | c :: '_' :: rest => if isDigit c then (plainDigits? isDigit rest).map (c :: ·) else none
  | c :: rest => if isDigit c then (plainDigits? isDigit rest).map (c :: ·) else none

/-- Decimal digits that begin with a zero only if that is all there is. -/
def plainDecimal? (s : List Char) : Option (List Char) :=
  (plainDigits? Char.isDigit s).filter fun digits => digits.head? != some '0' || digits.length == 1

/-- The number of digits in a base. -/
def inBase (base : Nat) (digits : List Char) : Nat :=
  digits.foldl (fun n c => base * n + (Text.hexDigit? c).getD 0) 0

/-- A whole number of 64 bits. -/
def ofInteger? (n : Int) : Option Setting :=
  if -0x8000000000000000 ≤ n ∧ n < 0x8000000000000000 then some (.integer n) else none

/-- A whole number. -/
def integer? (word : List Char) : Option Setting :=
  let based (base : Nat) (digits : List Char) : Option Setting :=
    (plainDigits? (fun c => (Text.digitIn? base c).isSome) digits).bind fun digits =>
      ofInteger? (inBase base digits)
  match word with
  | '0' :: 'x' :: digits => based 16 digits
  | '0' :: 'o' :: digits => based 8 digits
  | '0' :: 'b' :: digits => based 2 digits
  | _ =>
    let (negative, digits) := Binary64.cutSign word
    (plainDecimal? digits).bind fun digits =>
      let n : Int := Text.ofDecimalDigits digits
      ofInteger? (if negative then -n else n)

/-- A number with a point or an exponent. -/
def real? (word : List Char) : Option Setting := do
  let (negative, s) := Binary64.cutSign word
  if s = "inf".toList then return .real (.infinity negative)
  if s = "nan".toList then return .real (.notANumber negative)
  let isDigitOrMark (c : Char) : Bool := c.isDigit || c == '_'
  let whole ← plainDecimal? (s.takeWhile isDigitOrMark)
  let (fraction, s) ← match s.dropWhile isDigitOrMark with
    | '.' :: rest => do
      let digits ← plainDigits? Char.isDigit (rest.takeWhile isDigitOrMark)
      some (digits, rest.dropWhile isDigitOrMark)
    | rest => if rest.isEmpty then none else some ([], rest)
  let exponent ← match s with
    | [] => some 0
    | c :: rest =>
      if c == 'e' || c == 'E' then
        let (minus, digits) := Binary64.cutSign rest
        (plainDigits? Char.isDigit digits).map fun digits =>
          let n : Int := Text.ofDecimalDigits digits
          if minus then -n else n
      else none
  let value := Binary64.ofDecimal negative (Text.ofDecimalDigits (whole ++ fraction))
    (exponent - fraction.length)
  if value = Binary64.infinity false then none else some (.real value)

/-! ## Dates and times -/

/-- The days of a month. -/
def daysIn (year month : Nat) : Nat :=
  if month = 2 then
    if year % 4 = 0 ∧ (year % 100 ≠ 0 ∨ year % 400 = 0) then 29 else 28
  else if [4, 6, 9, 11].elem month then 30
  else 31

/-- Whether a text is a date. -/
def isDate (s : List Char) : Bool :=
  match s with
  | [a, b, c, d, '-', e, f, '-', g, h] =>
    [a, b, c, d, e, f, g, h].all Char.isDigit &&
      (let month := Text.ofDecimalDigits [e, f]
       let day := Text.ofDecimalDigits [g, h]
       1 ≤ month && month ≤ 12 && 1 ≤ day &&
         day ≤ daysIn (Text.ofDecimalDigits [a, b, c, d]) month)
  | _ => false

/-- Cuts a time of day off the front; gives its text with a shortened fraction. -/
def cutTime (s : List Char) : Option (List Char × List Char) :=
  match s with
  | a :: b :: ':' :: c :: d :: ':' :: e :: f :: rest =>
    if [a, b, c, d, e, f].all Char.isDigit && Text.ofDecimalDigits [a, b] ≤ 23 &&
        Text.ofDecimalDigits [c, d] ≤ 59 && Text.ofDecimalDigits [e, f] ≤ 60 then
      let clock := [a, b, ':', c, d, ':', e, f]
      match rest with
      | '.' :: rest =>
        let digits := (rest.takeWhile Char.isDigit).take 9
        let digits := (digits.reverse.dropWhile (· == '0')).reverse
        if (rest.takeWhile Char.isDigit).isEmpty then none
        else
          some (clock ++ (if digits.isEmpty then [] else '.' :: digits),
            rest.dropWhile Char.isDigit)
      | _ => some (clock, rest)
    else none
  | _ => none

/-- The text of an offset from universal time; nothing at all is no offset. No offset is
written with a plus sign. -/
def offset? (s : List Char) : Option (List Char) :=
  match s with
  | [] => some []
  | ['Z'] | ['z'] => some ['Z']
  | [sign, a, b, ':', c, d] =>
    if (sign == '+' || sign == '-') && [a, b, c, d].all Char.isDigit &&
        Text.ofDecimalDigits [a, b] ≤ 23 && Text.ofDecimalDigits [c, d] ≤ 59 then
      some (if [a, b, c, d].all (· == '0') then '+' :: s.tail else s)
    else none
  | _ => none

/-- The text of a date, a time, or both. -/
def moment? (word : List Char) : Option String :=
  let date := word.take 10
  if isDate date then
    match word.drop 10 with
    | [] => some (String.ofList date)
    | c :: rest =>
      if c == 'T' || c == 't' || c == ' ' then do
        let (time, rest) ← cutTime rest
        some (String.ofList (date ++ 'T' :: time ++ (← offset? rest)))
      else none
  else
    match cutTime word with
    | some (time, []) => some (String.ofList time)
    | _ => none

/-- A date or time is a table with one field of this name. -/
def momentField : String := "$__toml_private_datetime"

/-- The value of a word. -/
def scalar? (word : List Char) : Option Setting :=
  if word = "true".toList then some (.bool true)
  else if word = "false".toList then some (.bool false)
  else
    (integer? word).or <| (real? word).or <|
      (moment? word).map fun moment => .table [(momentField, .text moment)]

end ComposingProxy.Toml
