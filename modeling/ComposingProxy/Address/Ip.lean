import ComposingProxy.Text.Ascii
import ComposingProxy.Text.Search

/-!
# IP addresses

Addresses of both versions with their usual texts. An address of version 6 is
written with the longest run of zero groups left out (the first of the longest,
and two groups at least); one that carries an address of version 4 shows that in
decimal.
-/

namespace ComposingProxy

/-- An address of version 4 or 6. -/
inductive IpAddress where
  /-- Version 4, as a number of 32 bits. -/
  | v4 (value : Nat)
  /-- Version 6, as eight groups of 16 bits. -/
  | v6 (groups : List Nat)
  deriving DecidableEq, Repr, Inhabited

namespace IpAddress

/-! ## Writing -/

/-- The four decimal parts of an address of version 4. -/
def renderV4 (value : Nat) : String :=
  String.intercalate "." <|
    [value / 0x1000000, value / 0x10000 % 256, value / 256 % 256, value % 256].map Text.decimal

/-- A group in small hexadecimal digits. -/
def renderGroup (group : Nat) : String :=
  String.ofList (Nat.toDigits 16 group)

/-- The number of zero groups at the front. -/
def zeroRun (groups : List Nat) : Nat := (groups.takeWhile (· == 0)).length

/-- Where the first of the longest runs of zero groups begins, and its length. -/
def longestZeroRun : Nat → List Nat → Nat × Nat
  | _, [] => (0, 0)
  | start, group :: groups =>
    let later := longestZeroRun (start + 1) groups
    let here := zeroRun (group :: groups)
    if here ≥ later.2 ∧ here > 0 then (start, here) else later

/-- The groups in hexadecimal, with the longest run of zeros as two colons. -/
def renderGroups (groups : List Nat) : String :=
  let (start, length) := longestZeroRun 0 groups
  let join (gs : List Nat) : String := String.intercalate ":" (gs.map renderGroup)
  if length ≤ 1 then join groups
  else join (groups.take start) ++ "::" ++ join (groups.drop (start + length))

/-- The text of an address. -/
def render : IpAddress → String
  | v4 value => renderV4 value
  | v6 groups =>
    match groups with
    | [0, 0, 0, 0, 0, 0xFFFF, high, low] => "::ffff:" ++ renderV4 (high * 65536 + low)
    | _ => renderGroups groups

/-! ## Reading -/

/-- A decimal part of an address: at most three digits, no leading zero, below 256. -/
def octet? (s : List Char) : Option Nat :=
  if s.isEmpty || s.length > 3 || !s.all Char.isDigit || (s.length > 1 && s.head? == some '0') then
    none
  else
    let n := Text.ofDecimalDigits s
    if n < 256 then some n else none

/-- The address that four decimal parts spell. -/
def parseV4? (s : List Char) : Option Nat :=
  match (Text.splitAt '.' s).mapM octet? with
  | some [a, b, c, d] => some (((a * 256 + b) * 256 + c) * 256 + d)
  | _ => none

/-- A group of one to four hexadecimal digits. -/
def group? (s : List Char) : Option Nat :=
  if s.isEmpty || s.length > 4 then none
  else (s.mapM Text.hexDigit?).map fun digits => digits.foldl (fun n d => 16 * n + d) 0

/-- Groups between colons; the last may be an address of version 4, which makes two groups. -/
def groups? : List (List Char) → Option (List Nat)
  | [] => some []
  | [last] =>
    match group? last with
    | some group => some [group]
    | none => (parseV4? last).map fun value => [value / 65536, value % 65536]
  | part :: parts => do
    let group ← group? part
    let groups ← groups? parts
    some (group :: groups)

/-- The groups of a text without two colons in a row; nothing at all is no group. -/
def side? (s : List Char) : Option (List Nat) :=
  if s.isEmpty then some [] else groups? (Text.splitAt ':' s)

/-- The eight groups that a text spells. -/
def parseV6? (s : List Char) : Option (List Nat) :=
  match Text.splitFirst? [':', ':'] s with
  | none => (side? s).filter (·.length == 8)
  | some (before, after) => do
    let front ← side? before
    let back ← side? after
    if before.elem '.' || front.length + back.length > 7 then none
    else some (front ++ List.replicate (8 - front.length - back.length) 0 ++ back)

/-- Reads an address of either version. -/
def parse? (text : String) : Option IpAddress :=
  match parseV4? text.toList with
  | some value => some (v4 value)
  | none => (parseV6? text.toList).map v6

end IpAddress

end ComposingProxy
