import ComposingProxy.Address.DomainName
import ComposingProxy.Address.Ip
import ComposingProxy.Text.Percent

/-!
# Host names

A host name in an address is an IP address of version 6 in brackets, a number that
spells one of version 4, or a domain name, which is given in its ASCII form.
-/

namespace ComposingProxy

/-- Why a text is not a web address. -/
inductive AddressError where
  | relative
  | emptyHost
  | invalidPort
  | invalidDomainName
  | invalidDomainCharacter
  | invalidV4
  | invalidV6
  deriving DecidableEq, Repr

/-- The wording of an error. -/
def AddressError.message : AddressError → String
  | .relative => "relative URL without a base"
  | .emptyHost => "empty host"
  | .invalidPort => "invalid port number"
  | .invalidDomainName => "invalid international domain name"
  | .invalidDomainCharacter => "invalid domain character"
  | .invalidV4 => "invalid IPv4 address"
  | .invalidV6 => "invalid IPv6 address"

namespace HostName

/-! ## Numbers -/

/-- The number that a part of an address spells, in base ten, eight or sixteen; `none` for
a number of more than 32 bits. -/
def number? (s : List Char) : Option (Option Nat) :=
  let (base, digits) := match s with
    | '0' :: 'x' :: rest => (16, rest)
    | '0' :: 'X' :: rest => (16, rest)
    | '0' :: c :: rest => (8, c :: rest)
    | _ => (10, s)
  if s.isEmpty then none
  else
    (digits.mapM (Text.digitIn? base)).map fun values =>
      let n := values.foldl (fun n d => base * n + d) 0
      if n < Nat.pow 2 32 then some n else none

/-- The labels of a domain name, without an empty one at the end. -/
def parts (domain : List Char) : List (List Char) :=
  let labels := Text.splitAt '.' domain
  if labels.length > 1 && labels.getLast? == some [] then labels.dropLast else labels

/-- Whether the last label of a domain name is a number, so that the whole must be one. -/
def endsInNumber (domain : List Char) : Bool :=
  match (parts domain).getLast? with
  | some last => !last.isEmpty && (last.all Char.isDigit || (number? last).isSome)
  | none => false

/-- The address of version 4 that numbers between dots spell: the last one fills all the
bytes that the others leave. -/
def numbersToV4? (numbers : List Nat) : Option Nat :=
  match numbers.reverse with
  | [] => none
  | last :: front =>
    if front.length > 3 || front.any (255 < ·) || last ≥ Nat.pow 256 (4 - front.length) then none
    else
      some (front.reverse.zipIdx.foldl
        (fun sum (n, place) => sum + n * Nat.pow 256 (3 - place)) last)

/-- The address of version 4 that a domain name spells. -/
def parseV4? (domain : List Char) : Option Nat := do
  let numbers ← (parts domain).mapM fun part => (number? part).join
  numbersToV4? numbers

/-! ## Hosts -/

/-- The text of a host given in brackets. -/
def parseBracketed (s : List Char) : Except AddressError String :=
  if s.getLast? == some ']' then
    match IpAddress.parseV6? s.dropLast with
    | some groups => .ok ("[" ++ IpAddress.renderGroups groups ++ "]")
    | none => .error .invalidV6
  else .error .invalidV6

/-- The text of a host in an address of a scheme that knows about hosts. -/
def parse (s : List Char) : Except AddressError String :=
  match s with
  | '[' :: rest => parseBracketed rest
  | _ =>
    match DomainName.toAscii? (Text.Percent.decode (Text.Utf8.encode s)) with
    | none => .error .invalidDomainName
    | some [] => .error .emptyHost
    | some domain =>
      if endsInNumber domain then
        match parseV4? domain with
        | some value => .ok (IpAddress.renderV4 value)
        | none => .error .invalidV4
      else .ok (String.ofList domain)

/-- A character that no host of an unknown scheme holds. -/
def isForbiddenOpaque (c : Char) : Bool :=
  ['\x00', '\t', '\n', '\r', ' ', '#', '/', ':', '<', '>', '?', '@', '[', '\\', ']', '^',
    '|'].elem c

/-- The text of a host in an address of an unknown scheme. -/
def parseOpaque (s : List Char) : Except AddressError String :=
  match s with
  | '[' :: rest => parseBracketed rest
  | _ =>
    if s.any isForbiddenOpaque then .error .invalidDomainCharacter
    else .ok (String.ofList (Text.Percent.encode Text.Percent.isControl s))

end HostName

end ComposingProxy
