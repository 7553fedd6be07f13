import ComposingProxy.Page.ImportMap

/-!
# Merging import maps

An import map is told by what its tables answer, so laws of merging are laws of look-ups. In the
two flat tables a look-up answers what the second map says and else what the first one says
(`Table.get?_merge`). The table of scopes is merged in a loop of its own that makes a scope where
there is none; what it comes to is the same one level down: a scope of both maps is the two tables
merged (`get?_scopes_merge`).

> `ImportMap.merge_laws`: merging is associative, and changes nothing for the empty map on either
> side and for the same map twice; all names of both maps are kept, at both levels, and no others;
> and adding imports is merging a map that has nothing else.
-/

namespace ComposingProxy

/-! ## Tables -/

namespace Table

variable {α : Type} {table first second : Table α} {name : String}

/-- The names in a table. -/
def names (table : Table α) : List String := table.entries.map Prod.fst

/-- A name is in a table if it has a value there. -/
theorem mem_names_iff : name ∈ table.names ↔ (table.get? name).isSome = true := by
  rw [get?, lookUp, Option.isSome_map, List.find?_isSome, names, List.mem_map]
  simp only [beq_iff_eq]

theorem get?_eq_none_iff : table.get? name = none ↔ name ∉ table.names := by
  rw [mem_names_iff, Bool.not_eq_true, Option.isSome_eq_false_iff, Option.isNone_iff_eq_none]

/-- All names of both tables are in the table, with the values of the second one where both have
the name. -/
structure IsUnion (first second table : Table α) : Prop where
  names : ∀ name, name ∈ table.names ↔ name ∈ first.names ∨ name ∈ second.names
  later : ∀ name ∈ second.names, table.get? name = second.get? name
  earlier : ∀ name ∉ second.names, table.get? name = first.get? name

/-- A table is a union if every value is the later one, or else the earlier one. -/
theorem isUnion_of_get? (h : ∀ name, table.get? name = (second.get? name).or (first.get? name)) :
    IsUnion first second table where
  names name := by
    rw [mem_names_iff, mem_names_iff, mem_names_iff, h, Option.isSome_or, Bool.or_eq_true, or_comm]
  later name hname := by
    obtain ⟨value, hvalue⟩ := Option.isSome_iff_exists.mp (mem_names_iff.mp hname)
    rw [h, hvalue, Option.some_or]
  earlier name hname := by
    rw [h, get?_eq_none_iff.mpr hname, Option.none_or]

/-- Merging two tables unites them, and later values win. -/
theorem isUnion_merge (first second : Table α) : IsUnion first second (first.merge second) :=
  isUnion_of_get? (get?_merge first second)

/-- It does not matter which of three are merged first. -/
theorem merge_assoc (a b c : Table α) : (a.merge b).merge c = a.merge (b.merge c) := by
  refine ext_get? fun name => ?_
  simp only [get?_merge, Option.or_assoc]

theorem merge_self (table : Table α) : table.merge table = table := by
  refine ext_get? fun name => ?_
  rw [get?_merge, Option.or_self]

theorem empty_merge (table : Table α) : Table.empty.merge table = table := by
  refine ext_get? fun name => ?_
  have hnone : (Table.empty : Table α).get? name = none := rfl
  rw [get?_merge, hnone, Option.or_none]

end Table

namespace ImportMap

/-! ## Scopes -/

/-- The table of a scope; empty if there is none. -/
def scope (map : ImportMap) (name : String) : Table String := (map.scopes.get? name).getD .empty

/-- What one scope becomes. -/
theorem get?_mergeScope (scopes : Table (Table String)) (entry : String × Table String)
    (name : String) : (mergeScope scopes entry).get? name =
      if entry.1 = name then some (((scopes.get? name).getD .empty).merge entry.2)
      else scopes.get? name := by
  rw [mergeScope, Table.get?_insert]
  by_cases heq : entry.1 = name
  · rw [if_pos heq, if_pos heq, heq]
  · rw [if_neg heq, if_neg heq]

/-- What all scopes become, entry by entry. Each name stands in the entries once. -/
theorem get?_foldl_mergeScope {entries : List (String × Table String)}
    (h : entries.Pairwise fun a b => a.1 < b.1) (scopes : Table (Table String)) (name : String) :
    (entries.foldl mergeScope scopes).get? name =
      Option.merge Table.merge (scopes.get? name) (Table.lookUp name entries) := by
  induction entries generalizing scopes with
  | nil => exact (Option.merge_none_right).symm
  | cons entry rest ih =>
    obtain ⟨hentry, hrest⟩ := List.pairwise_cons.1 h
    rw [List.foldl_cons, ih hrest, get?_mergeScope, Table.lookUp_cons]
    by_cases heq : entry.1 = name
    · -- the name does not come again
      have hnone : Table.lookUp name rest = none := heq ▸ Table.lookUp_eq_none hentry
      rw [if_pos heq, if_pos heq, hnone]
      cases scopes.get? name with
      | none => exact congrArg some (Table.empty_merge entry.2)
      | some table => rfl
    · rw [if_neg heq, if_neg heq]

/-- The tables of a scope are merged where both maps have it. -/
theorem get?_scopes_merge (first second : ImportMap) (name : String) :
    (first.merge second).scopes.get? name =
      Option.merge Table.merge (first.scopes.get? name) (second.scopes.get? name) :=
  get?_foldl_mergeScope second.scopes.sorted first.scopes name

/-- The table of a scope is merged, whether it is there or not. -/
theorem scope_merge (first second : ImportMap) (name : String) :
    (first.merge second).scope name = (first.scope name).merge (second.scope name) := by
  rw [scope, scope, scope, get?_scopes_merge]
  cases first.scopes.get? name with
  | none =>
    cases second.scopes.get? name with
    | none => rfl
    | some table => exact (Table.empty_merge table).symm
  | some table =>
    cases second.scopes.get? name with
    | none => rfl
    | some other => rfl

/-- The scopes of both maps are scopes of the merged one. -/
theorem mem_scopes_merge_iff (first second : ImportMap) (name : String) :
    name ∈ (first.merge second).scopes.names ↔
      name ∈ first.scopes.names ∨ name ∈ second.scopes.names := by
  rw [Table.mem_names_iff, Table.mem_names_iff, Table.mem_names_iff, get?_scopes_merge]
  cases first.scopes.get? name <;> cases second.scopes.get? name <;> simp

/-! ## Laws -/

theorem merge_assoc (a b c : ImportMap) : (a.merge b).merge c = a.merge (b.merge c) := by
  have hscopes : ((a.merge b).merge c).scopes = (a.merge (b.merge c)).scopes := by
    refine Table.ext_get? fun name => ?_
    simp only [get?_scopes_merge]
    cases a.scopes.get? name <;> cases b.scopes.get? name <;> cases c.scopes.get? name
    case some.some.some x y z => exact congrArg some (Table.merge_assoc x y z)
    all_goals rfl
  have himports := Table.merge_assoc a.imports b.imports c.imports
  have hintegrity := Table.merge_assoc a.integrity b.integrity c.integrity
  rw [ImportMap.mk.injEq]
  exact ⟨himports, hintegrity, hscopes⟩

theorem merge_self (map : ImportMap) : map.merge map = map := by
  have hscopes : (map.merge map).scopes = map.scopes := by
    refine Table.ext_get? fun name => ?_
    rw [get?_scopes_merge]
    cases map.scopes.get? name with
    | none => rfl
    | some table => exact congrArg some table.merge_self
  rw [ImportMap.mk.injEq]
  exact ⟨map.imports.merge_self, map.integrity.merge_self, hscopes⟩

theorem empty_merge (map : ImportMap) : ImportMap.merge {} map = map := by
  have hscopes : (ImportMap.merge {} map).scopes = map.scopes := by
    refine Table.ext_get? fun name => ?_
    rw [get?_scopes_merge]
    exact Option.merge_none_left
  rw [ImportMap.mk.injEq]
  exact ⟨map.imports.empty_merge, map.integrity.empty_merge, hscopes⟩

/-- All names of both maps are in the map at both levels, with the values of the second one where
both have the name. -/
structure IsUnion (first second map : ImportMap) : Prop where
  imports : Table.IsUnion first.imports second.imports map.imports
  integrity : Table.IsUnion first.integrity second.integrity map.integrity
  scopes : ∀ name, name ∈ map.scopes.names ↔ name ∈ first.scopes.names ∨ name ∈ second.scopes.names
  scope : ∀ name, Table.IsUnion (first.scope name) (second.scope name) (map.scope name)

/-- Merging two maps unites them at both levels. -/
theorem isUnion_merge (first second : ImportMap) : IsUnion first second (first.merge second) where
  imports := first.imports.isUnion_merge second.imports
  integrity := first.integrity.isUnion_merge second.integrity
  scopes := first.mem_scopes_merge_iff second
  scope name := first.scope_merge second name ▸ (first.scope name).isUnion_merge (second.scope name)

/-- Import maps with merging are a monoid in which every map is idempotent, and the empty map is
its neutral element. Merging loses no name and makes no new one, neither of an entry nor of a scope
nor inside a scope, and the second map has its way. Adding imports is merging the map that has no
other table. -/
theorem merge_laws :
    (∀ a b c : ImportMap, (a.merge b).merge c = a.merge (b.merge c)) ∧
    (∀ map : ImportMap, map.merge map = map) ∧
    (∀ map : ImportMap, map.merge {} = map ∧ ImportMap.merge {} map = map) ∧
    (∀ first second : ImportMap, IsUnion first second (first.merge second)) ∧
    ∀ (map : ImportMap) (entries : Table String),
      map.mergeImports entries = map.merge { imports := entries } :=
  ⟨merge_assoc, merge_self, fun map => ⟨rfl, map.empty_merge⟩, isUnion_merge, fun _ _ => rfl⟩

/-- Both maps have the scope `/a`, and each has one that the other has not. -/
example :
    let first : ImportMap :=
      { scopes := .ofList [("/a", .ofList [("x", "1"), ("y", "2")]), ("/b", {})] }
    let second : ImportMap := { scopes := .ofList [("/c", {}), ("/a", .ofList [("y", "3")])] }
    (first.merge second).scopes.entries.map Prod.fst = ["/a", "/b", "/c"] ∧
      ((first.merge second).scope "/a").entries = [("x", "1"), ("y", "3")] := by
  decide +kernel

end ImportMap

end ComposingProxy
