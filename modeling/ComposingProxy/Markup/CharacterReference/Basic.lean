import ComposingProxy.Text.Ascii
import ComposingProxy.Text.Search
import ComposingProxy.Markup.CharacterReference.CapitalsToL
import ComposingProxy.Markup.CharacterReference.CapitalsFromM
import ComposingProxy.Markup.CharacterReference.SmallToE
import ComposingProxy.Markup.CharacterReference.SmallToM
import ComposingProxy.Markup.CharacterReference.SmallToR
import ComposingProxy.Markup.CharacterReference.SmallFromS

/-!
# Character references

What stands for a character after an ampersand: a name from the table, the longest one
that fits, or a number. In the value of an attribute a name without a semicolon does not
count before an equals sign, a letter or a digit.
-/

namespace ComposingProxy.Markup

/-- What an ampersand and the characters after it stand for. -/
structure CharacterReference where
  text : List Char
  /-- How many characters after the ampersand belong to it. -/
  length : Nat
  /-- Whether it is a number that breaks the rules. -/
  faulty : Bool := false
  deriving DecidableEq, Repr

namespace CharacterReference

/-! ## Numbers -/

/-- What the numbers 128 to 159 stand for. -/
def highControls : List Nat :=
  [0x20AC, 0x81, 0x201A, 0x0192, 0x201E, 0x2026, 0x2020, 0x2021, 0x02C6, 0x2030, 0x0160,
    0x2039, 0x0152, 0x8D, 0x017D, 0x8F, 0x90, 0x2018, 0x2019, 0x201C, 0x201D, 0x2022, 0x2013,
    0x2014, 0x02DC, 0x2122, 0x0161, 0x203A, 0x0153, 0x9D, 0x017E, 0x0178]

/-- The character of a number: numbers that are no character stand for the replacement
character. -/
def ofNumber (n : Nat) : Char :=
  if n = 0 ∨ 0x10FFFF < n ∨ (0xD800 ≤ n ∧ n ≤ 0xDFFF) then '\uFFFD'
  else if 0x80 ≤ n ∧ n ≤ 0x9F then Char.ofNat (highControls.getD (n - 0x80) n)
  else Char.ofNat n

/-- Whether a number should not be used. -/
def isFaulty (n : Nat) : Bool :=
  n == 0 || 0x10FFFF < n || (0xD800 ≤ n && n ≤ 0xDFFF) || (0x7F ≤ n && n ≤ 0x9F) ||
    (n < 0x20 && !(n == 9 || n == 10 || n == 12)) || (0xFDD0 ≤ n && n ≤ 0xFDEF) ||
    0xFFFE ≤ n % 0x10000

/-- A reference of digits, which follow `marks` characters after the ampersand. -/
def ofDigits? (base marks : Nat) (rest : List Char) : Option CharacterReference :=
  let digits := rest.takeWhile fun c => (Text.digitIn? base c).isSome
  if digits.isEmpty then none
  else
    let n := digits.foldl (fun n c => base * n + (Text.digitIn? base c).getD 0) 0
    let closed := rest[digits.length]? == some ';'
    some {
      text := [ofNumber n]
      length := marks + digits.length + (if closed then 1 else 0)
      faulty := isFaulty n || !closed }

/-! ## Names -/

/-- The names that begin with a letter. -/
def namesOf (first : Char) : List (String × String) :=
  match first with
  | 'A' => capitalA | 'B' => capitalB | 'C' => capitalC | 'D' => capitalD | 'E' => capitalE
  | 'F' => capitalF | 'G' => capitalG | 'H' => capitalH | 'I' => capitalI | 'J' => capitalJ
  | 'K' => capitalK | 'L' => capitalL | 'M' => capitalM | 'N' => capitalN | 'O' => capitalO
  | 'P' => capitalP | 'Q' => capitalQ | 'R' => capitalR | 'S' => capitalS | 'T' => capitalT
  | 'U' => capitalU | 'V' => capitalV | 'W' => capitalW | 'X' => capitalX | 'Y' => capitalY
  | 'Z' => capitalZ
  | 'a' => smallA | 'b' => smallB | 'c' => smallC | 'd' => smallD | 'e' => smallE
  | 'f' => smallF | 'g' => smallG | 'h' => smallH | 'i' => smallI | 'j' => smallJ
  | 'k' => smallK | 'l' => smallL | 'm' => smallM | 'n' => smallN | 'o' => smallO
  | 'p' => smallP | 'q' => smallQ | 'r' => smallR | 's' => smallS | 't' => smallT
  | 'u' => smallU | 'v' => smallV | 'w' => smallW | 'x' => smallX | 'y' => smallY
  | 'z' => smallZ
  | _ => []

/-- The longest name that the text begins with, and what it stands for: a name stands
in the table before those that continue it. -/
def longestName? (first : Char) (rest : List Char) : Option (String × String) :=
  ((namesOf first).filter fun entry =>
    (Text.dropPrefix? entry.1.toList (first :: rest)).isSome).getLast?

/-- Whether a name that ends before `next` does not count in the value of an attribute. -/
def joins (next : Option Char) : Bool :=
  match next with
  | some c => c == '=' || Text.isAsciiAlphanumeric c
  | none => false

/-- A reference by name. -/
def ofName? (inValue : Bool) (first : Char) (rest : List Char) : Option CharacterReference :=
  match longestName? first rest with
  | none => none
  | some (name, text) =>
    let length := name.toList.length
    if inValue && !Text.endsIn ';' name && joins ((first :: rest)[length]?) then none
    else some { text := text.toList, length }

/-! ## References -/

/-- The reference that an ampersand begins, in front of `rest`. -/
def read? (inValue : Bool) (rest : List Char) : Option CharacterReference :=
  match rest with
  | '#' :: 'x' :: rest => ofDigits? 16 2 rest
  | '#' :: 'X' :: rest => ofDigits? 16 2 rest
  | '#' :: rest => ofDigits? 10 1 rest
  | c :: rest => if Text.isAsciiAlphanumeric c then ofName? inValue c rest else none
  | [] => none

end CharacterReference

end ComposingProxy.Markup
