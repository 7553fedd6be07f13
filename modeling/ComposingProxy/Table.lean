/-!
# Tables

Values by name, kept in the order of the names, each name once. A table is determined
by what its look-ups answer (`Table.ext_get?`), so laws about tables are equations.
-/

namespace ComposingProxy

/-- Values by name. -/
structure Table (α : Type) where
  entries : List (String × α) := []
  /-- The names ascend. -/
  sorted : entries.Pairwise (fun a b => a.1 < b.1) := by exact List.Pairwise.nil
  deriving DecidableEq, Repr

namespace Table

variable {α : Type}

/-- The table without entries. -/
def empty : Table α := {}

instance : Inhabited (Table α) := ⟨empty⟩

/-! ## Entries in order -/

/-- Puts a value under a name into entries in order. -/
def insertEntry (name : String) (value : α) : List (String × α) → List (String × α)
  | [] => [(name, value)]
  | entry :: rest =>
    if name < entry.1 then (name, value) :: entry :: rest
    else if entry.1 < name then entry :: insertEntry name value rest
    else (name, value) :: rest

theorem mem_insertEntry {name : String} {value : α} {entries : List (String × α)}
    {entry : String × α} (h : entry ∈ insertEntry name value entries) :
    entry = (name, value) ∨ entry ∈ entries := by
  induction entries with
  | nil => simpa [insertEntry] using h
  | cons head rest ih =>
    unfold insertEntry at h
    split at h
    · simpa using h
    · split at h
      · rcases List.mem_cons.1 h with h | h
        · exact Or.inr (by simp [h])
        · exact (ih h).imp id (List.mem_cons_of_mem _)
      · rcases List.mem_cons.1 h with h | h
        · exact Or.inl h
        · exact Or.inr (List.mem_cons_of_mem _ h)

theorem pairwise_insertEntry {name : String} {value : α} {entries : List (String × α)}
    (h : entries.Pairwise (fun a b => a.1 < b.1)) :
    (insertEntry name value entries).Pairwise (fun a b => a.1 < b.1) := by
  induction entries with
  | nil => simp [insertEntry]
  | cons head rest ih =>
    obtain ⟨hhead, hrest⟩ := List.pairwise_cons.1 h
    unfold insertEntry
    split
    · next hlt =>
      refine List.pairwise_cons.2 ⟨fun entry hentry => ?_, h⟩
      rcases List.mem_cons.1 hentry with rfl | hentry
      · exact hlt
      · exact String.lt_trans hlt (hhead entry hentry)
    · next hge =>
      split
      · next hgt =>
        refine List.pairwise_cons.2 ⟨fun entry hentry => ?_, ih hrest⟩
        rcases mem_insertEntry hentry with rfl | hentry
        · exact hgt
        · exact hhead entry hentry
      · next hle =>
        have heq : name = head.1 :=
          String.le_antisymm (String.not_lt.1 hle) (String.not_lt.1 hge)
        exact List.pairwise_cons.2 ⟨fun entry hentry => heq ▸ hhead entry hentry, hrest⟩

/-! ## Operations -/

/-- The value of a name among entries. -/
def lookUp (name : String) (entries : List (String × α)) : Option α :=
  (entries.find? (·.1 == name)).map (·.2)

/-- The value of a name. -/
def get? (table : Table α) (name : String) : Option α := lookUp name table.entries

/-- Puts a value under a name, in place of the one that was there. -/
def insert (table : Table α) (name : String) (value : α) : Table α :=
  ⟨insertEntry name value table.entries, pairwise_insertEntry table.sorted⟩

/-- Whether there is nothing in the table. -/
def isEmpty (table : Table α) : Bool := table.entries.isEmpty

/-- The number of names. -/
def size (table : Table α) : Nat := table.entries.length

/-- The table of a list, later values of a name in place of earlier ones. -/
def ofList (entries : List (String × α)) : Table α :=
  entries.foldl (fun table entry => table.insert entry.1 entry.2) {}

/-- All entries of two tables, those of the second in place of those of the first. -/
def merge (first second : Table α) : Table α :=
  second.entries.foldl (fun table entry => table.insert entry.1 entry.2) first

/-! ## Look-ups -/

theorem lookUp_cons (name : String) (entry : String × α) (entries : List (String × α)) :
    lookUp name (entry :: entries) =
      if entry.1 = name then some entry.2 else lookUp name entries := by
  unfold lookUp
  rw [List.find?_cons]
  split <;> simp_all

theorem lookUp_insertEntry (name other : String) (value : α) (entries : List (String × α)) :
    lookUp other (insertEntry name value entries) =
      if name = other then some value else lookUp other entries := by
  induction entries with
  | nil => simp [insertEntry, lookUp_cons]
  | cons entry rest ih =>
    unfold insertEntry
    split
    · rw [lookUp_cons]
    · next hge =>
      split
      · next hgt =>
        rw [lookUp_cons, lookUp_cons, ih]
        split
        · next heq => rw [if_neg fun h => String.lt_irrefl _ (h ▸ heq ▸ hgt)]
        · rfl
      · next hle =>
        have heq : name = entry.1 :=
          String.le_antisymm (String.not_lt.1 hle) (String.not_lt.1 hge)
        rw [lookUp_cons, lookUp_cons, heq]
        split <;> rfl

theorem lookUp_eq_none {name : String} {entries : List (String × α)}
    (h : ∀ entry ∈ entries, name < entry.1) : lookUp name entries = none := by
  induction entries with
  | nil => rfl
  | cons entry rest ih =>
    have hne : entry.1 ≠ name := fun heq =>
      String.lt_irrefl name (by simpa [heq] using h entry (by simp))
    rw [lookUp_cons, if_neg hne, ih fun entry hentry => h entry (by simp [hentry])]

theorem eq_of_lookUp_eq {first second : List (String × α)}
    (hfirst : first.Pairwise (fun a b => a.1 < b.1))
    (hsecond : second.Pairwise (fun a b => a.1 < b.1))
    (h : ∀ name, lookUp name first = lookUp name second) : first = second := by
  induction first generalizing second with
  | nil =>
    cases second with
    | nil => rfl
    | cons y ys => simpa [lookUp_cons, lookUp] using h y.1
  | cons x xs ih =>
    obtain ⟨hx, hxs⟩ := List.pairwise_cons.1 hfirst
    cases second with
    | nil => simpa [lookUp_cons, lookUp] using h x.1
    | cons y ys =>
      obtain ⟨hy, hys⟩ := List.pairwise_cons.1 hsecond
      have hxy : ¬x.1 < y.1 := fun hlt => by
        have hnone : lookUp x.1 (y :: ys) = none := lookUp_eq_none fun entry hentry => by
          rcases List.mem_cons.1 hentry with rfl | hentry
          · exact hlt
          · exact String.lt_trans hlt (hy entry hentry)
        simpa [hnone, lookUp_cons] using h x.1
      have hyx : ¬y.1 < x.1 := fun hlt => by
        have hnone : lookUp y.1 (x :: xs) = none := lookUp_eq_none fun entry hentry => by
          rcases List.mem_cons.1 hentry with rfl | hentry
          · exact hlt
          · exact String.lt_trans hlt (hx entry hentry)
        simpa [hnone, lookUp_cons] using h y.1
      have hname : x.1 = y.1 := String.le_antisymm (String.not_lt.1 hyx) (String.not_lt.1 hxy)
      have hvalue : x.2 = y.2 := by simpa [lookUp_cons, hname] using h x.1
      have htails : xs = ys := ih hxs hys fun name => by
        by_cases heq : x.1 = name
        · subst heq
          rw [lookUp_eq_none hx, lookUp_eq_none (hname ▸ hy)]
        · simpa [lookUp_cons, heq, ← hname] using h name
      rw [Prod.ext hname hvalue, htails]

theorem get?_insert (table : Table α) (name other : String) (value : α) :
    (table.insert name value).get? other =
      if name = other then some value else table.get? other :=
  lookUp_insertEntry name other value table.entries

theorem get?_foldl_insert {entries : List (String × α)}
    (h : entries.Pairwise (fun a b => a.1 < b.1)) (table : Table α) (name : String) :
    (entries.foldl (fun table entry => table.insert entry.1 entry.2) table).get? name =
      (lookUp name entries).or (table.get? name) := by
  induction entries generalizing table with
  | nil => rfl
  | cons entry rest ih =>
    obtain ⟨hentry, hrest⟩ := List.pairwise_cons.1 h
    rw [List.foldl_cons, ih hrest, get?_insert, lookUp_cons]
    split
    · next heq => rw [← heq, lookUp_eq_none hentry]; rfl
    · rfl

/-- Of several values that are put under one name the last one stays. -/
theorem get?_ofList (entries : List (String × α)) (name : String) :
    (ofList entries).get? name = (entries.reverse.find? (·.1 = name)).map (·.2) := by
  rw [ofList, List.foldl_eq_foldr_reverse]
  induction entries.reverse with
  | nil => rfl
  | cons entry rest ih =>
    rw [List.foldr_cons, get?_insert, ih, List.find?_cons]
    split
    · next heq => simp [heq]
    · next hne => simp [hne]

theorem get?_merge (first second : Table α) (name : String) :
    (first.merge second).get? name = (second.get? name).or (first.get? name) :=
  get?_foldl_insert second.sorted first name

/-- Two tables are the same if all look-ups are. -/
theorem ext_get? {first second : Table α} (h : ∀ name, first.get? name = second.get? name) :
    first = second := by
  cases first
  cases second
  congr
  exact eq_of_lookUp_eq ‹_› ‹_› h

end Table

end ComposingProxy
