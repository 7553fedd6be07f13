import ComposingProxy.Json.Reader
import ComposingProxy.Json.Writer
import ComposingProxy.Table
import ComposingProxy.Text.Blank

/-!
# Import maps

What module names stand for in a page: addresses for all of it, integrity hashes, and
addresses for parts of it. Reading takes the JSON object that browsers take, or its
three tables in an array; writing leaves empty tables out. Maps are merged name by
name, and the later one wins.
-/

namespace ComposingProxy

/-- An import map. -/
structure ImportMap where
  imports : Table String := .empty
  integrity : Table String := .empty
  scopes : Table (Table String) := .empty
  deriving DecidableEq, Repr, Inhabited

namespace ImportMap

/-! ## Merging -/

/-- The map with more imports. -/
def mergeImports (map : ImportMap) (entries : Table String) : ImportMap :=
  { map with imports := map.imports.merge entries }

/-- Puts the entries of a scope over those that are there. -/
def mergeScope (scopes : Table (Table String)) (entry : String × Table String) :
    Table (Table String) :=
  scopes.insert entry.1 (((scopes.get? entry.1).getD .empty).merge entry.2)

/-- All entries of two maps, those of the second in place of those of the first. -/
def merge (first second : ImportMap) : ImportMap :=
  { imports := first.imports.merge second.imports
    integrity := first.integrity.merge second.integrity
    scopes := second.scopes.entries.foldl mergeScope first.scopes }

/-! ## Reading -/

/-- A table of texts. -/
def textTable? : Json → Option (Table String)
  | .object fields => do
    let entries ← fields.mapM fun (name, value) =>
      match value with
      | .string text => some (name, text)
      | _ => none
    some (Table.ofList entries)
  | _ => none

/-- A table of tables of texts. -/
def scopeTable? : Json → Option (Table (Table String))
  | .object fields => do
    some (Table.ofList (← fields.mapM fun (name, value) => do some (name, ← textTable? value)))
  | _ => none

/-- A table that may be missing or null, which makes it empty. -/
def orEmpty {α : Type} (read : Json → Option (Table α)) : Option Json → Option (Table α)
  | none | some .null => some .empty
  | some value => read value

/-- The value of a field of which there is at most one; none at all if there are more. -/
def single? (fields : List (String × Json)) (name : String) : Option (Option Json) :=
  match fields.filter (·.1 == name) with
  | [] => some none
  | [field] => some (some field.2)
  | _ => none

/-- The map of its three tables. -/
def ofTables? (imports integrity scopes : Option Json) : Option ImportMap := do
  some
    { imports := ← orEmpty textTable? imports
      integrity := ← orEmpty textTable? integrity
      scopes := ← orEmpty scopeTable? scopes }

/-- The map of a JSON value. -/
def ofJson? : Json → Option ImportMap
  | .object fields => do
    ofTables? (← single? fields "imports") (← single? fields "integrity")
      (← single? fields "scopes")
  | .array items => if items.length > 3 then none else ofTables? items[0]? items[1]? items[2]?
  | _ => none

/-- Reads the text of an import map; a blank text is an empty map. -/
def parse? (text : String) : Option ImportMap :=
  if (Text.trim text.toList).isEmpty then some {}
  else (Json.parse? text).bind ofJson?

/-! ## Writing -/

/-- A table of texts as JSON. -/
def ofTextTable (table : Table String) : Json :=
  .object (table.entries.map fun (name, text) => (name, .string text))

/-- A field of a table, left out when the table is empty. -/
def tableField {α : Type} (name : String) (write : Table α → Json) (table : Table α) :
    List (String × Json) :=
  if table.isEmpty then [] else [(name, write table)]

/-- The JSON value of a map. -/
def toJsonValue (map : ImportMap) : Json :=
  .object <|
    tableField "imports" ofTextTable map.imports ++
      tableField "integrity" ofTextTable map.integrity ++
      tableField "scopes"
        (fun scopes => .object (scopes.entries.map fun (name, table) => (name, ofTextTable table)))
        map.scopes

/-- The text of a map. -/
def toJson (map : ImportMap) : String := map.toJsonValue.render

end ImportMap

end ComposingProxy
