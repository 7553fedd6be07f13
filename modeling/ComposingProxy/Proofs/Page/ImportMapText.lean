import ComposingProxy.Page.ImportMap
import ComposingProxy.Proofs.Json.Marks

/-!
# The text of an import map

> `ImportMap.parse?_toJson`: reading the text of a map gives the map.
> `ImportMap.rewriting_keeps`: so rewriting a text loses no entry, and once is enough.
> `ImportMap.isMarked_toJson_iff`: escapes keep no mark out of the text of a map.
-/

namespace ComposingProxy

/-! ## Tables -/

namespace Table

variable {α : Type}

/-- The entries of a table make the table. -/
theorem ofList_entries (table : Table α) : ofList table.entries = table := by
  refine ext_get? fun name => ?_
  rw [ofList, get?_foldl_insert table.sorted]
  show (lookUp name table.entries).or none = lookUp name table.entries
  cases lookUp name table.entries <;> rfl

/-- A table without entries is the empty one. -/
theorem eq_empty_of_isEmpty {table : Table α} (h : table.isEmpty = true) : table = .empty := by
  obtain ⟨entries, sorted⟩ := table
  have hnil : entries = [] := List.isEmpty_iff.mp h
  subst hnil
  rfl

end Table

namespace ImportMap

open Json (IsTextual)

/-! ## The value of a map -/

/-- The value of a table is made of objects and strings. -/
theorem isTextual_ofTextTable (table : Table String) : IsTextual (ofTextTable table) := by
  refine .object fun field hfield => ?_
  obtain ⟨entry, -, rfl⟩ := List.mem_map.mp hfield
  exact .string entry.2

/-- The field of a table is made of objects and strings if its value is. -/
theorem isTextual_of_mem_tableField {α : Type} {name : String} {write : Table α → Json}
    {table : Table α} (hwrite : IsTextual (write table)) :
    ∀ field ∈ tableField name write table, IsTextual field.2 := by
  intro field hfield
  unfold tableField at hfield
  split at hfield
  · exact absurd hfield List.not_mem_nil
  · rw [List.mem_singleton.mp hfield]
    exact hwrite

/-- The value of a table of tables. -/
def ofScopeTable (scopes : Table (Table String)) : Json :=
  .object (scopes.entries.map fun (name, table) => (name, ofTextTable table))

theorem isTextual_ofScopeTable (scopes : Table (Table String)) :
    IsTextual (ofScopeTable scopes) := by
  refine .object fun scope hscope => ?_
  obtain ⟨entry, -, rfl⟩ := List.mem_map.mp hscope
  exact isTextual_ofTextTable entry.2

/-- The fields of the value of a map. -/
def fields (map : ImportMap) : List (String × Json) :=
  tableField "imports" ofTextTable map.imports ++
    tableField "integrity" ofTextTable map.integrity ++
    tableField "scopes" ofScopeTable map.scopes

/-- The value of a map is the object of its fields. -/
theorem toJsonValue_eq (map : ImportMap) : map.toJsonValue = .object map.fields := rfl

/-- A map is written as objects and strings only. -/
theorem isTextual_toJsonValue (map : ImportMap) : IsTextual map.toJsonValue := by
  refine .object fun field hfield => ?_
  rcases List.mem_append.mp hfield with hfront | hscopes
  · rcases List.mem_append.mp hfront with himports | hintegrity
    · exact isTextual_of_mem_tableField (isTextual_ofTextTable _) field himports
    · exact isTextual_of_mem_tableField (isTextual_ofTextTable _) field hintegrity
  · exact isTextual_of_mem_tableField (isTextual_ofScopeTable _) field hscopes

/-! ## Reading it back -/

/-- A table is read back from its value. -/
theorem textTable?_ofTextTable (table : Table String) :
    textTable? (ofTextTable table) = some table := by
  unfold ofTextTable textTable?
  dsimp only
  rw [mapM_map_eq_some]
  · exact congrArg some table.ofList_entries
  · intro entry
    rfl

theorem scopeTable?_ofScopeTable (scopes : Table (Table String)) :
    scopeTable? (ofScopeTable scopes) = some scopes := by
  unfold ofScopeTable scopeTable?
  dsimp only
  rw [mapM_map_eq_some]
  · exact congrArg some scopes.ofList_entries
  · intro entry
    dsimp only
    rw [textTable?_ofTextTable]
    rfl

/-- The field of a table: none where it was left out. -/
theorem single?_tableField {α : Type} (name : String) (write : Table α → Json) (table : Table α)
    {before after : List (String × Json)} (hbefore : ∀ field ∈ before, field.1 ≠ name)
    (hafter : ∀ field ∈ after, field.1 ≠ name) :
    single? (before ++ tableField name write table ++ after) name =
      some (if table.isEmpty then none else some (write table)) := by
  have hnone : ∀ fields : List (String × Json), (∀ field ∈ fields, field.1 ≠ name) →
      fields.filter (·.1 == name) = [] := by
    intro fields hfields
    refine List.filter_eq_nil_iff.mpr fun field hfield => ?_
    rw [beq_iff_eq]
    exact hfields field hfield
  unfold single?
  rw [List.filter_append, List.filter_append, hnone before hbefore, hnone after hafter]
  unfold tableField
  cases table.isEmpty <;> simp

/-- A table that was left out when empty is read as it was. -/
theorem orEmpty_tableField {α : Type} {read : Json → Option (Table α)} {write : Table α → Json}
    (hread : ∀ table, read (write table) = some table) (hnull : ∀ table, write table ≠ .null)
    (table : Table α) :
    orEmpty read (if table.isEmpty then none else some (write table)) = some table := by
  cases hempty : table.isEmpty with
  | true => exact congrArg some (Table.eq_empty_of_isEmpty hempty).symm
  | false =>
    show orEmpty read (some (write table)) = some table
    unfold orEmpty
    split
    · next h => exact absurd h (by simp)
    · next h => exact absurd (Option.some.inj h) (hnull table)
    · next h => rw [← Option.some.inj h, hread]

/-- A table is written in the field of its name, or in none. -/
theorem fst_of_mem_tableField {α : Type} {name : String} {write : Table α → Json}
    {table : Table α} {field : String × Json} (h : field ∈ tableField name write table) :
    field.1 = name := by
  unfold tableField at h
  split at h
  · exact absurd h List.not_mem_nil
  · rw [List.mem_singleton.mp h]

theorem fst_ne_of_mem_tableField {α : Type} (first : String) (write : Table α → Json)
    (table : Table α) {second : String} (h : first ≠ second) :
    ∀ field ∈ tableField first write table, field.1 ≠ second := by
  intro field hfield
  rw [fst_of_mem_tableField hfield]
  exact h

/-- The field of the imports is there once, or missing where there are none. -/
theorem single?_imports (map : ImportMap) :
    single? map.fields "imports" =
      some (if map.imports.isEmpty then none else some (ofTextTable map.imports)) := by
  have h := single?_tableField "imports" ofTextTable map.imports (List.forall_mem_nil _)
    (List.forall_mem_append.mpr
      ⟨fst_ne_of_mem_tableField "integrity" ofTextTable map.integrity (by decide),
        fst_ne_of_mem_tableField "scopes" ofScopeTable map.scopes (by decide)⟩)
  rwa [List.nil_append, ← List.append_assoc] at h

theorem single?_integrity (map : ImportMap) :
    single? map.fields "integrity" =
      some (if map.integrity.isEmpty then none else some (ofTextTable map.integrity)) :=
  single?_tableField "integrity" ofTextTable map.integrity
    (fst_ne_of_mem_tableField "imports" ofTextTable map.imports (by decide))
    (fst_ne_of_mem_tableField "scopes" ofScopeTable map.scopes (by decide))

theorem single?_scopes (map : ImportMap) :
    single? map.fields "scopes" =
      some (if map.scopes.isEmpty then none else some (ofScopeTable map.scopes)) := by
  have h := single?_tableField "scopes" ofScopeTable map.scopes
    (List.forall_mem_append.mpr
      ⟨fst_ne_of_mem_tableField "imports" ofTextTable map.imports (by decide),
        fst_ne_of_mem_tableField "integrity" ofTextTable map.integrity (by decide)⟩)
    (List.forall_mem_nil _)
  rwa [List.append_nil] at h

/-- Reading the value of a map gives the map. -/
theorem ofJson?_toJsonValue (map : ImportMap) : ofJson? map.toJsonValue = some map := by
  have htext := orEmpty_tableField textTable?_ofTextTable fun _ h => Json.noConfusion h
  have hscope := orEmpty_tableField scopeTable?_ofScopeTable fun _ h => Json.noConfusion h
  show (single? map.fields "imports" >>= fun imports =>
    single? map.fields "integrity" >>= fun integrity =>
    single? map.fields "scopes" >>= ofTables? imports integrity) = some map
  rw [single?_imports, single?_integrity, single?_scopes]
  show ofTables? (if map.imports.isEmpty then none else some (ofTextTable map.imports))
    (if map.integrity.isEmpty then none else some (ofTextTable map.integrity))
    (if map.scopes.isEmpty then none else some (ofScopeTable map.scopes)) = some map
  rw [ofTables?, htext map.imports, htext map.integrity, hscope map.scopes]
  rfl

/-! ## The text of a map -/

/-- The text of a map is its fields in braces. -/
theorem toList_toJson (map : ImportMap) :
    map.toJson.toList = '{' :: (Json.writeFields map.fields ++ ['}']) := by
  rw [toJson, Json.render, String.toList_ofList, toJsonValue_eq, Json.write]
  rfl

/-- Reading the text of a map gives the map. -/
theorem parse?_toJson (map : ImportMap) : parse? map.toJson = some map := by
  have hblank : Text.trim map.toJson.toList ≠ [] := by
    intro hnil
    rw [Text.trim, Text.trimOf_eq_nil_iff, toList_toJson] at hnil
    exact absurd (hnil '{' List.mem_cons_self) (by decide)
  rw [parse?, if_neg (by rwa [List.isEmpty_iff]), toJson,
    Json.parse?_render (isTextual_toJsonValue map), Option.bind_some, ofJson?_toJsonValue]

/-- Rewriting a text as the text of its map loses no entry of it. The texts that are written
are the ones that rewriting leaves as they are. -/
theorem rewriting_keeps (map : ImportMap) (text : String) :
    parse? map.toJson = some map ∧
      (parse? text).bind (fun read => parse? read.toJson) = parse? text ∧
      (parse? map.toJson).map toJson = some map.toJson ∧
      ((parse? text).map toJson = some text ↔ ∃ written : ImportMap, written.toJson = text) := by
  have hrewritten : ∀ written : ImportMap,
      (parse? written.toJson).map toJson = some written.toJson := by
    intro written
    rw [parse?_toJson, Option.map_some]
  refine ⟨parse?_toJson map, ?_, hrewritten map, ?_, ?_⟩
  · cases parse? text with
    | none => rfl
    | some read => rw [Option.bind_some, parse?_toJson]
  · intro hfixed
    obtain ⟨read, -, hread⟩ := Option.map_eq_some_iff.mp hfixed
    exact ⟨read, hread⟩
  · rintro ⟨written, rfl⟩
    exact hrewritten written

/-- Control characters in a map are written as escapes. -/
theorem isPrintable_toJson (map : ImportMap) : Json.IsPrintable map.toJson.toList := by
  rw [toJson, Json.render, String.toList_ofList]
  exact Json.isPrintable_write (isTextual_toJsonValue map)

/-! ## Marks in the text -/

/-- The names and values of a table. -/
def tableTexts (table : Table String) : List String :=
  table.entries.flatMap fun entry => [entry.1, entry.2]

/-- All strings of a map: specifiers, addresses, hashes and scopes. -/
def texts (map : ImportMap) : List String :=
  tableTexts map.imports ++ tableTexts map.integrity ++
    map.scopes.entries.flatMap fun scope => scope.1 :: tableTexts scope.2

/-- The strings in the value of a table are its names and values. -/
theorem hasText_ofTextTable_iff {table : Table String} {text : String} :
    Json.HasText (ofTextTable table) text ↔ text ∈ tableTexts table := by
  rw [ofTextTable, Json.hasText_object_iff, tableTexts]
  simp only [List.mem_map, List.mem_flatMap, List.mem_cons, List.not_mem_nil, or_false]
  constructor
  · rintro ⟨_, ⟨entry, hentry, rfl⟩, rfl | htext⟩
    · exact ⟨entry, hentry, Or.inl rfl⟩
    · cases htext
      exact ⟨entry, hentry, Or.inr rfl⟩
  · rintro ⟨entry, hentry, rfl | rfl⟩
    · exact ⟨_, ⟨entry, hentry, rfl⟩, Or.inl rfl⟩
    · exact ⟨_, ⟨entry, hentry, rfl⟩, Or.inr (.string _)⟩

/-- The strings in the value of the scopes are their names and those of their tables. -/
theorem hasText_ofScopeTable_iff {scopes : Table (Table String)} {text : String} :
    Json.HasText (ofScopeTable scopes) text ↔
      text ∈ scopes.entries.flatMap fun scope => scope.1 :: tableTexts scope.2 := by
  rw [ofScopeTable, Json.hasText_object_iff]
  simp only [List.mem_map, List.mem_flatMap, List.mem_cons]
  constructor
  · rintro ⟨_, ⟨scope, hscope, rfl⟩, rfl | htext⟩
    · exact ⟨scope, hscope, Or.inl rfl⟩
    · exact ⟨scope, hscope, Or.inr (hasText_ofTextTable_iff.mp htext)⟩
  · rintro ⟨scope, hscope, rfl | htext⟩
    · exact ⟨_, ⟨scope, hscope, rfl⟩, Or.inl rfl⟩
    · exact ⟨_, ⟨scope, hscope, rfl⟩, Or.inr (hasText_ofTextTable_iff.mpr htext)⟩

section Marks

variable {mark : List Char}

/-- A mark in the text of a table is in one of its strings. -/
theorem isMarked_ofTextTable_iff (hmark : Json.IsMark mark) {table : Table String} :
    Json.IsMarked mark (ofTextTable table).write ↔
      ∃ text ∈ tableTexts table, Json.IsMarked mark text.toList := by
  rw [Json.isMarked_write_iff hmark (isTextual_ofTextTable table)]
  simp only [hasText_ofTextTable_iff]

/-- A mark in the text of the scopes is in one of their strings. -/
theorem isMarked_ofScopeTable_iff (hmark : Json.IsMark mark) {scopes : Table (Table String)} :
    Json.IsMarked mark (ofScopeTable scopes).write ↔
      ∃ text ∈ scopes.entries.flatMap fun scope => scope.1 :: tableTexts scope.2,
        Json.IsMarked mark text.toList := by
  rw [Json.isMarked_write_iff hmark (isTextual_ofScopeTable scopes)]
  simp only [hasText_ofScopeTable_iff]

/-- A table without marks may as well be left out, and no name of a table has a mark. -/
theorem exists_isMarked_tableField_iff (hmark : Json.IsMark mark) {α : Type} {name : String}
    {write : Table α → Json} {table : Table α} (hname : '<' ∉ name.toList.map Char.toLower)
    (hempty : ¬Json.IsMarked mark (write .empty).write) :
    (∃ field ∈ tableField name write table,
        Json.IsMarked mark field.1.toList ∨ Json.IsMarked mark field.2.write) ↔
      Json.IsMarked mark (write table).write := by
  have hfree : ¬Json.IsMarked mark name.toList := by
    obtain ⟨rest, rfl⟩ := hmark.head
    intro hmarked
    exact hname (hmarked.subset List.mem_cons_self)
  unfold tableField
  cases htable : table.isEmpty with
  | true =>
    rw [Table.eq_empty_of_isEmpty htable]
    simp [hempty]
  | false => simp [hfree]

/-- The text of a map has the marks that its strings have. -/
theorem isMarked_toJson_iff (hmark : Json.IsMark mark) (map : ImportMap) :
    Json.IsMarked mark map.toJson.toList ↔
      ∃ text ∈ map.texts, Json.IsMarked mark text.toList := by
  have hnone : ∀ texts : List String, texts = [] →
      ¬∃ text ∈ texts, Json.IsMarked mark text.toList := by
    rintro _ rfl ⟨text, htext, -⟩
    exact List.not_mem_nil htext
  have htext : ¬Json.IsMarked mark (ofTextTable .empty).write := by
    rw [isMarked_ofTextTable_iff hmark]
    exact hnone _ rfl
  have hscope : ¬Json.IsMarked mark (ofScopeTable .empty).write := by
    rw [isMarked_ofScopeTable_iff hmark]
    exact hnone _ rfl
  rw [toList_toJson, hmark.isMarked_cons_iff (Or.inr (by decide)),
    hmark.isMarked_append_cons_iff (Or.inr (by decide)), or_iff_left hmark.not_isMarked_nil,
    hmark.isMarked_writeFields_iff, fields]
  simp only [List.mem_append, or_and_right, exists_or]
  rw [exists_isMarked_tableField_iff hmark (by decide) htext,
    exists_isMarked_tableField_iff hmark (by decide) htext,
    exists_isMarked_tableField_iff hmark (by decide) hscope, isMarked_ofTextTable_iff hmark,
    isMarked_ofTextTable_iff hmark, isMarked_ofScopeTable_iff hmark, texts]
  simp only [List.mem_append, or_and_right, exists_or]

end Marks

end ImportMap

end ComposingProxy
