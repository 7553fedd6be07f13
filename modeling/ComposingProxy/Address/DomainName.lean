import ComposingProxy.Address.DomainName.Joiner
import ComposingProxy.Address.DomainName.Mark
import ComposingProxy.Address.DomainName.Refused
import ComposingProxy.Address.DomainName.StandIn
import ComposingProxy.Address.Punycode
import ComposingProxy.Text.Canonical
import ComposingProxy.Text.Search
import ComposingProxy.Text.Utf8

/-!
# Domain names

Domain names of any script have an ASCII form: characters are replaced by what stands for
them, and a label that is still not ASCII is written as punycode behind a prefix. A label
that is given in this form must be what the same rules make of the text it stands for.
-/

namespace ComposingProxy.DomainName

/-- Whether a text is ASCII. -/
def isAscii (s : List Char) : Bool := s.all (·.toNat < 0x80)

/-- A character that no domain name holds, not even as a part of what stands for another. -/
def isForbidden (c : Char) : Bool :=
  c.toNat ≤ 0x20 || c.toNat == 0x7F ||
    ['#', '/', ':', '<', '>', '?', '@', '[', '\\', ']', '^', '|', '%'].elem c

/-! ## Characters -/

/-- What stands for a character that is not composed of others; `none` for one that is in no
domain name. -/
def standFor? (c : Char) : Option (List Char) :=
  if c.toNat < 0x80 then some [c.toLower]
  else if Text.inRanges leftOut c then some []
  else if Text.inRanges refusedRanges c then none
  else
    match shifted? c <|> letter? c with
    | some letter => some [letter]
    | none => some ((phrase? c).getD [c])

/-- What stands for a text. Its marks are put in order only after they have been replaced,
because letters stand for some. -/
def standForText? (s : List Char) : Option (List Char) :=
  if isAscii s then some (s.map Char.toLower)
  else
    ((Text.Canonical.takeApart s).mapM standFor?).map fun texts =>
      Text.Canonical.normalize texts.flatten

/-! ## Labels -/

/-- The characters that open the ASCII form of a label that is not ASCII. -/
def acePrefix : List Char := "xn--".toList

/-- The most characters of the ASCII form of a label, without the prefix, that is read. -/
def maxDecoded : Nat := 2000

/-- The most characters of a label that is given an ASCII form. -/
def maxEncoded : Nat := 1000

/-- The label that an ASCII form without its prefix stands for. -/
def decodeLabel? (code : List Char) : Option (List Char) :=
  if code.isEmpty || code.getLast? == some '-' || !isAscii code || code.length > maxDecoded then
    none
  else
    (Punycode.decode? code).filter fun label =>
      standForText? label == some label && label.all fun c => !isForbidden c && c != '.'

/-- Whether a label is well formed in itself. -/
def isLabel (label : List Char) : Bool :=
  !label.head?.any isMark && joinersFit [] label &&
    (isAscii label || label.length ≤ maxEncoded)

/-- The label that a text without dots gives, whether in its ASCII form or not. -/
def readLabel? (text : List Char) : Option (List Char) :=
  let label :=
    match Text.dropPrefix? acePrefix text with
    | none => some text
    | some code => decodeLabel? code
  label.filter isLabel

/-- The ASCII form of a label. -/
def writeLabel (label : List Char) : List Char :=
  if isAscii label then label else acePrefix ++ Punycode.encode label

/-! ## Names -/

/-- Whether labels may stand in one name: where one turns the order, all are steady. -/
def goTogether (labels : List (List Char)) : Bool :=
  !labels.any (·.any turnsOrder) || labels.all isSteady

/-- The ASCII form of a domain name given as bytes. -/
def toAscii? (bytes : List UInt8) : Option (List Char) := do
  let s ← Text.Utf8.decode? bytes
  let s ← standForText? s
  if s.any isForbidden then none
  else
    let labels ← (Text.splitAt '.' s).mapM readLabel?
    if goTogether labels then some (List.intercalate ['.'] (labels.map writeLabel)) else none

end ComposingProxy.DomainName
