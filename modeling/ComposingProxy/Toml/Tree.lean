import ComposingProxy.Config.Setting

/-!
# Tables under construction

A TOML text names a table in several ways: by a header, on the way to a longer header,
as a row of an array of tables, or on the way to a dotted key. What may still be added
to a table depends on how it was named first, so a table remembers that until the text
is read. Every addition follows a path and fails where a name is taken.
-/

namespace ComposingProxy.Toml

/-- How a table came to be. -/
inductive TableKind where
  /-- By its own header, or as the whole text, or written in braces. -/
  | headed
  /-- On the way to a longer header. -/
  | passed
  /-- On the way to a dotted key. -/
  | dotted
  deriving DecidableEq, Repr

/-- What a name stands for. -/
inductive Item where
  | value (setting : Setting)
  | table (kind : TableKind) (fields : List (String × Item))
  /-- An array of tables, the latest first. -/
  | rows (rows : List (List (String × Item)))
  deriving Inhabited

/-- The fields of a table. -/
abbrev Fields := List (String × Item)

/-- Puts an item in the place of the one that a name stands for, or after all others. -/
def replace (name : String) (item : Item) : Fields → Fields
  | [] => [(name, item)]
  | field :: fields =>
    if field.1 = name then (name, item) :: fields else field :: replace name item fields

/-- Adds an item under a new name. -/
def addNew? (name : String) (item : Item) (fields : Fields) : Option Fields :=
  match fields.lookup name with
  | some _ => none
  | none => some (fields ++ [(name, item)])

/-- Edits the table that a path of headers leads to: through tables of any kind and the
latest row of an array. Tables that are not there come to be on the way. -/
def atHeader? (edit : Fields → Option Fields) : List String → Fields → Option Fields
  | [], fields => edit fields
  | name :: path, fields =>
    match fields.lookup name with
    | none => (atHeader? edit path []).map fun inner => fields ++ [(name, .table .passed inner)]
    | some (.value _) => none
    | some (.table kind inner) =>
      (atHeader? edit path inner).map fun inner => replace name (.table kind inner) fields
    | some (.rows (row :: rows)) =>
      (atHeader? edit path row).map fun row => replace name (.rows (row :: rows)) fields
    | some (.rows []) => none

/-- Names a table by its header. A table may have been passed before, but not more. -/
def openTable? (name : String) (fields : Fields) : Option Fields :=
  match fields.lookup name with
  | none => some (fields ++ [(name, .table .headed [])])
  | some (.table .passed inner) => some (replace name (.table .headed inner) fields)
  | _ => none

/-- Adds a row to an array of tables. -/
def openRow? (name : String) (fields : Fields) : Option Fields :=
  match fields.lookup name with
  | none => some (fields ++ [(name, .rows [[]])])
  | some (.rows rows) => some (replace name (.rows ([] :: rows)) fields)
  | _ => none

/-- Whether a dotted key may lead through a table: one with a header of its own is closed,
and one that headers passed takes no value itself. -/
def admitsDotted (kind : TableKind) (rest : List String) : Bool :=
  match kind with
  | .headed => false
  | .passed => rest.length > 1
  | .dotted => true

/-- Adds a value under a dotted key. In the latest row of an array of tables a dotted key
may name tables of its own, but no value of the row itself. -/
def addDotted? (value : Setting) : List String → Fields → Option Fields
  | [], _ => none
  | [name], fields => addNew? name (.value value) fields
  | name :: path, fields =>
    match fields.lookup name with
    | none => (addDotted? value path []).map fun inner => fields ++ [(name, .table .dotted inner)]
    | some (.table kind inner) =>
      if admitsDotted kind path then
        (addDotted? value path inner).map fun inner => replace name (.table kind inner) fields
      else none
    | some (.rows (row :: rows)) =>
      if path.length > 1 then
        (addDotted? value path row).map fun row => replace name (.rows (row :: rows)) fields
      else none
    | _ => none

/-! ## Finished tables -/

mutual

/-- The setting that an item is. -/
def Item.setting : Item → Setting
  | .value setting => setting
  | .table _ fields => .table (fieldSettings fields)
  | .rows rows => .list (rowSettings rows).reverse

/-- The settings of fields, in their order and under their names. -/
def fieldSettings : List (String × Item) → List (String × Setting)
  | [] => []
  | (name, item) :: fields => (name, item.setting) :: fieldSettings fields

/-- The settings of the tables of an array of tables. -/
def rowSettings : List (List (String × Item)) → List Setting
  | [] => []
  | row :: rows => .table (fieldSettings row) :: rowSettings rows

end

end ComposingProxy.Toml
