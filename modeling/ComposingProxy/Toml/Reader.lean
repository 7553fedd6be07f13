import ComposingProxy.Toml.Lexer
import ComposingProxy.Toml.Scalar
import ComposingProxy.Toml.Tree

/-!
# Reading TOML

A machine goes over the lexemes once. Outside values it works line by line: a header, a
key with its value, or nothing. Within a value it keeps the arrays and tables in braces
that are open, innermost first.
-/

namespace ComposingProxy.Toml

/-! ## Keys -/

/-- A part of a dotted key. -/
inductive KeyPart where
  | name (s : String)
  | dot
  deriving DecidableEq

/-- A character of a bare name. -/
def isBareChar (c : Char) : Bool := c.isAlphanum || c == '_' || c == '-'

/-- The parts of a word in a key. -/
def wordParts (word : List Char) : List KeyPart :=
  (((word.splitBy fun a b => a != '.' && b != '.')).map fun part =>
    if part = ['.'] then .dot else .name (String.ofList part))

/-- The parts of a key from its lexemes. -/
def keyParts? : List Lexeme → Option (List KeyPart)
  | [] => some []
  | .blank :: rest => keyParts? rest
  | .word word :: rest =>
    if word.all fun c => isBareChar c || c == '.' then (keyParts? rest).map (wordParts word ++ ·)
    else none
  | .text s false :: rest => (keyParts? rest).map (.name s :: ·)
  | _ => none

/-- The names of a key: one at least, with dots between them. -/
def names? : List KeyPart → Option (List String)
  | [.name s] => some [s]
  | .name s :: .dot :: rest => (names? rest).map (s :: ·)
  | _ => none

/-- The most names of a key, and the most values that may be open at once. -/
def maxDepth : Nat := 79

/-- The key of lexemes given in reverse. -/
def key? (reversed : List Lexeme) : Option (List String) :=
  ((keyParts? reversed.reverse).bind names?).filter fun names => names.length ≤ maxDepth

/-! ## The machine -/

/-- An open array or table in braces. -/
inductive Frame where
  /-- The items in reverse. -/
  | array (items : List Setting)
  /-- The fields, and the key of the one whose value comes next. -/
  | braces (fields : Fields) (key : List String)

/-- What may come next. -/
inductive Phase where
  | lineStart
  /-- After the bracket that opens a line. -/
  | headerStart
  | header (key : List Lexeme)
  | rowHeader (key : List Lexeme)
  /-- The second bracket that closes a row header. -/
  | rowHeaderEnd (key : List Lexeme)
  | key (key : List Lexeme)
  | value
  /-- A value or the end of the array. -/
  | item
  | itemEnd
  /-- A key in braces; the closing brace may come only instead of a first one. -/
  | fieldKey (key : List Lexeme) (first : Bool)
  | fieldEnd
  | lineEnd

/-- What has been read. -/
structure State where
  phase : Phase := .lineStart
  root : Fields := []
  /-- The path of the latest header. -/
  path : List String := []
  /-- The key whose value is being read. -/
  current : List String := []
  frames : List Frame := []

/-- Puts a value where it belongs. -/
def State.place (state : State) (value : Setting) : Option State :=
  match state.frames with
  | [] =>
    (atHeader? (addDotted? value state.current) state.path state.root).map fun root =>
      { state with root, phase := .lineEnd }
  | .array items :: frames =>
    some { state with frames := .array (value :: items) :: frames, phase := .itemEnd }
  | .braces fields key :: frames =>
    (addDotted? value key fields).map fun fields =>
      { state with frames := .braces fields [] :: frames, phase := .fieldEnd }

/-- Opens an array or a table in braces. -/
def State.openFrame (state : State) (frame : Frame) (phase : Phase) : Option State :=
  if state.frames.length < maxDepth then
    some { state with frames := frame :: state.frames, phase }
  else none

/-- Closes the innermost array or table in braces. -/
def State.closeFrame (state : State) : Option State :=
  match state.frames with
  | .array items :: frames => { state with frames }.place (.list items.reverse)
  | .braces fields _ :: frames => { state with frames }.place (.table (fieldSettings fields))
  | [] => none

/-- Takes a lexeme where a value is due. -/
def State.takeValue (state : State) : Lexeme → Option State
  | .word word => (scalar? word).bind state.place
  | .text s _ => state.place (.text s)
  | .openBracket => state.openFrame (.array []) .item
  | .openBrace => state.openFrame (.braces [] []) (.fieldKey [] true)
  | _ => none

/-- Takes the key of a header that is complete. -/
def State.takeHeader (state : State) (rows : Bool) (lexemes : List Lexeme) : Option State := do
  let path ← key? lexemes
  let name ← path.getLast?
  let open? := if rows then openRow? name else openTable? name
  let root ← atHeader? open? path.dropLast state.root
  some { state with root, path, phase := .lineEnd }

/-- Takes one lexeme. -/
def State.step (state : State) (lexeme : Lexeme) : Option State :=
  match state.phase, lexeme with
  | .lineStart, .newline | .lineStart, .blank => some state
  | .lineStart, .openBracket => some { state with phase := .headerStart }
  | .lineStart, _ => some { state with phase := .key [lexeme] }
  | .headerStart, .openBracket => some { state with phase := .rowHeader [] }
  | .headerStart, .closeBracket | .headerStart, .newline => none
  | .headerStart, _ => some { state with phase := .header [lexeme] }
  | .header key, .closeBracket => state.takeHeader false key
  | .header key, _ => some { state with phase := .header (lexeme :: key) }
  | .rowHeader key, .closeBracket => some { state with phase := .rowHeaderEnd key }
  | .rowHeader key, _ => some { state with phase := .rowHeader (lexeme :: key) }
  | .rowHeaderEnd key, .closeBracket => state.takeHeader true key
  | .rowHeaderEnd _, _ => none
  | .key key, .equals => (key? key).map fun current => { state with current, phase := .value }
  | .key key, _ => some { state with phase := .key (lexeme :: key) }
  | .value, .blank => some state
  | .value, _ => state.takeValue lexeme
  | .item, .blank | .item, .newline => some state
  | .item, .closeBracket => state.closeFrame
  | .item, _ => state.takeValue lexeme
  | .itemEnd, .blank | .itemEnd, .newline => some state
  | .itemEnd, .comma => some { state with phase := .item }
  | .itemEnd, .closeBracket => state.closeFrame
  | .itemEnd, _ => none
  | .fieldKey [] true, .closeBrace => state.closeFrame
  | .fieldKey [] _, .blank => some state
  | .fieldKey key _, .equals =>
    match key? key, state.frames with
    | some key, .braces fields _ :: frames =>
      some { state with frames := .braces fields key :: frames, phase := .value }
    | _, _ => none
  | .fieldKey key first, _ => some { state with phase := .fieldKey (lexeme :: key) first }
  | .fieldEnd, .blank => some state
  | .fieldEnd, .comma => some { state with phase := .fieldKey [] false }
  | .fieldEnd, .closeBrace => state.closeFrame
  | .fieldEnd, _ => none
  | .lineEnd, .newline => some { state with phase := .lineStart }
  | .lineEnd, .blank => some state
  | .lineEnd, _ => none

/-- Whether the text may end here. -/
def State.mayEnd (state : State) : Bool :=
  match state.phase with
  | .lineStart | .lineEnd => true
  | _ => false

/-- The mark that may stand before everything. -/
def byteOrderMark : Char := '\uFEFF'

/-- Reads a text. -/
def parse? (text : String) : Option Setting := do
  let s := match text.toList with
    | c :: rest => if c = byteOrderMark then rest else c :: rest
    | [] => []
  let state ← (← lexemes s).foldlM State.step {}
  if state.mayEnd then some (.table (fieldSettings state.root)) else none

end ComposingProxy.Toml
