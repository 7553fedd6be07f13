/-!
# JSON values

Values as a text writes them: the fields of an object keep their order and may repeat
a name, and a number keeps its digits. An escape can name half of a surrogate pair,
which is no text; the string that holds it is then `broken`, and so is an object with
such a name. A broken value is a value still, and only a reader that wants its text
has to refuse it.
-/

namespace ComposingProxy

/-- A number as it is written. -/
structure JsonNumber where
  negative : Bool := false
  /-- The digits without point. -/
  digits : Nat
  /-- The power of ten of the last digit. -/
  exponent : Int := 0
  /-- Written with neither point nor exponent. -/
  whole : Bool := true
  deriving DecidableEq, Repr, Inhabited

/-- A JSON value. -/
inductive Json where
  | null
  | bool (value : Bool)
  | number (value : JsonNumber)
  | string (text : String)
  | array (items : List Json)
  | object (fields : List (String × Json))
  | broken
  deriving Repr, Inhabited

namespace Json

/-- The whole number `n`. -/
def ofNat (n : Nat) : Json := .number { digits := n }

/-- The last value of a field of an object. -/
def field? (value : Json) (name : String) : Option Json :=
  match value with
  | .object fields => (fields.reverse.find? (·.1 == name)).map (·.2)
  | _ => none

end Json

end ComposingProxy
