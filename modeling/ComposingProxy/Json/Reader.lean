import ComposingProxy.Json.Lexer

/-!
# Reading JSON

A machine goes over the lexemes once. It keeps the arrays and objects that are open,
innermost first, so values may nest to any depth.
-/

namespace ComposingProxy.Json

/-- An open array or object, what it holds so far in reverse. -/
inductive Frame where
  | array (items : List Json)
  /-- The fields, and the name of the one whose value comes next. A name may be broken. -/
  | object (fields : List (Option String × Json)) (name : Option String)
  deriving Inhabited

/-- What may come next. -/
inductive Phase where
  | value
  | valueOrClose
  | nameOrClose
  | name
  | colon
  /-- A comma, or the end of what is open. -/
  | separator
  /-- Nothing more: the value is complete. -/
  | complete (value : Json)
  deriving Inhabited

/-- Puts a value where it belongs. -/
def place (value : Json) : List Frame → Phase × List Frame
  | [] => (.complete value, [])
  | .array items :: frames => (.separator, .array (value :: items) :: frames)
  | .object fields name :: frames => (.separator, .object ((name, value) :: fields) none :: frames)

/-- The object of fields in reverse. -/
def ofFields (fields : List (Option String × Json)) : Json :=
  match fields.reverse.mapM fun (name, value) => name.map (·, value) with
  | some fields => .object fields
  | none => .broken

/-- Takes a lexeme where a value is due. -/
def stepValue (frames : List Frame) : Lexeme → Option (Phase × List Frame)
  | .openArray => some (.valueOrClose, .array [] :: frames)
  | .openObject => some (.nameOrClose, .object [] none :: frames)
  | .null => some (place .null frames)
  | .bool value => some (place (.bool value) frames)
  | .number value => some (place (.number value) frames)
  | .string text => some (place (.string text) frames)
  | .broken => some (place .broken frames)
  | _ => none

/-- Takes the name of a field. -/
def stepName (fields : List (Option String × Json)) (frames : List Frame) :
    Lexeme → Option (Phase × List Frame)
  | .string text => some (.colon, .object fields (some text) :: frames)
  | .broken => some (.colon, .object fields none :: frames)
  | _ => none

/-- Takes one lexeme. -/
def step (phase : Phase) (frames : List Frame) (lexeme : Lexeme) : Option (Phase × List Frame) :=
  match phase, frames, lexeme with
  | .value, _, _ => stepValue frames lexeme
  | .valueOrClose, .array items :: outer, .closeArray => some (place (.array items.reverse) outer)
  | .valueOrClose, _, _ => stepValue frames lexeme
  | .nameOrClose, .object fields _ :: outer, .closeObject => some (place (ofFields fields) outer)
  | .nameOrClose, .object fields _ :: outer, _ => stepName fields outer lexeme
  | .name, .object fields _ :: outer, _ => stepName fields outer lexeme
  | .colon, _, .colon => some (.value, frames)
  | .separator, .array _ :: _, .comma => some (.value, frames)
  | .separator, .array items :: outer, .closeArray => some (place (.array items.reverse) outer)
  | .separator, .object _ _ :: _, .comma => some (.name, frames)
  | .separator, .object fields _ :: outer, .closeObject => some (place (ofFields fields) outer)
  | _, _, _ => none

/-- Takes all lexemes and gives the value if it is complete. -/
def run : Phase → List Frame → List Lexeme → Option Json
  | .complete value, _, [] => some value
  | _, _, [] => none
  | phase, frames, lexeme :: rest =>
    match step phase frames lexeme with
    | some (phase, frames) => run phase frames rest
    | none => none

/-- Reads a text that holds one value. -/
def parse? (text : String) : Option Json := do
  run .value [] (← lexemes text.toList)

end ComposingProxy.Json
