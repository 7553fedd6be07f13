import ComposingProxy.Json.Value
import ComposingProxy.Text.Ascii

/-!
# Writing JSON

The compact form: nothing between lexemes, and in strings an escape only where one is
needed, which is for the quote, the backslash and control characters.
-/

namespace ComposingProxy.Json

/-- A character as it stands in a string. -/
def escapeChar (c : Char) : List Char :=
  match c with
  | '"' => ['\\', '"']
  | '\\' => ['\\', '\\']
  | '\x08' => ['\\', 'b']
  | '\t' => ['\\', 't']
  | '\n' => ['\\', 'n']
  | '\x0C' => ['\\', 'f']
  | '\r' => ['\\', 'r']
  | c =>
    if c.toNat < 0x20 then
      ['\\', 'u', '0', '0', Text.hexChar (c.toNat / 16), Text.hexChar (c.toNat % 16)]
    else [c]

/-- A text as a string with its quotes. -/
def quote (text : String) : List Char := '"' :: text.toList.flatMap escapeChar ++ ['"']

/-- A number. -/
def writeNumber (n : JsonNumber) : List Char :=
  (if n.negative then ['-'] else []) ++ Nat.toDigits 10 n.digits ++
    (if n.whole then [] else 'e' :: (toString n.exponent).toList)

mutual

/-- The characters of a value. A broken value has no text of its own and is written as
`null`. -/
def write : Json → List Char
  | .null | .broken => "null".toList
  | .bool value => if value then "true".toList else "false".toList
  | .number n => writeNumber n
  | .string text => quote text
  | .array items => '[' :: writeItems items ++ [']']
  | .object fields => '{' :: writeFields fields ++ ['}']

/-- The items of an array, with commas between them. -/
def writeItems : List Json → List Char
  | [] => []
  | [item] => write item
  | item :: items => write item ++ ',' :: writeItems items

/-- The fields of an object, with commas between them. -/
def writeFields : List (String × Json) → List Char
  | [] => []
  | [(name, value)] => quote name ++ ':' :: write value
  | (name, value) :: fields => quote name ++ ':' :: write value ++ ',' :: writeFields fields

end

/-- The compact text of a value. -/
def render (value : Json) : String := String.ofList value.write

end ComposingProxy.Json
