import PageTemplates.Text

/-!
# Tables

A table is a list of entries in ascending order of their keys.  It holds the
namespaces and declarations of a page, the parameters of an event and the
queues of a registry.  Walking a table visits its keys in the order in which
listings show them.

`get?_insert` and `get?_erase` say what the two updates do to lookups.  They
hold of every list of entries, sorted or not, since a lookup takes the first
entry with its key.
-/

namespace PageTemplates

/-- Entries by ascending key. -/
abbrev Table (α : Type _) := List (Text × α)

namespace Table

variable {α : Type _}

/-- The value stored under a key. -/
def get? (key : Text) : Table α → Option α
  | [] => none
  | entry :: rest => if entry.1 = key then some entry.2 else get? key rest

/-- Whether a key is present. -/
def has (key : Text) (table : Table α) : Bool := (get? key table).isSome

/-- Stores a value under a key, in place of an earlier one. -/
def insert (key : Text) (value : α) : Table α → Table α
  | [] => [(key, value)]
  | entry :: rest =>
    if entry.1 = key then (key, value) :: rest
    else if key < entry.1 then (key, value) :: entry :: rest
    else entry :: insert key value rest

/-- Drops a key. -/
def erase (key : Text) (table : Table α) : Table α :=
  table.filter fun entry => entry.1 ≠ key

/-- Stores pairs one after the other, so a later pair wins. -/
def insertAll (pairs : List (Text × α)) (table : Table α) : Table α :=
  pairs.foldl (fun table pair => insert pair.1 pair.2 table) table

/-- The table of a list of pairs. -/
def ofPairs (pairs : List (Text × α)) : Table α := insertAll pairs []

/-- The keys, ascending. -/
def keys (table : Table α) : List Text := table.map Prod.fst

@[simp] theorem get?_nil (key : Text) : get? key ([] : Table α) = none := rfl

@[simp] theorem get?_insert (key other : Text) (value : α) (table : Table α) :
    get? other (insert key value table) = if other = key then some value else get? other table := by
  induction table with
  | nil => simp [insert, get?, eq_comm]
  | cons entry rest ih =>
    simp only [insert]
    by_cases hit : other = key
    · subst hit
      split
      · simp [get?]
      · next same => split <;> simp [get?, same, ih]
    · simp only [hit, if_false] at ih ⊢
      split
      · next same => simp [get?, same, Ne.symm hit]
      · split <;> simp [get?, ih, Ne.symm hit]

@[simp] theorem get?_erase (key other : Text) (table : Table α) :
    get? other (erase key table) = if other = key then none else get? other table := by
  induction table with
  | nil => simp [erase]
  | cons entry rest ih =>
    simp only [erase, List.filter_cons] at ih ⊢
    by_cases same : entry.1 = key <;> by_cases hit : other = key <;>
      by_cases here : entry.1 = other <;> simp_all [get?]

/-- A value that is stored later takes the place of the earlier one. -/
theorem insert_insert (key : Text) (first second : α) (table : Table α) :
    insert key second (insert key first table) = insert key second table := by
  induction table with
  | nil => simp [insert]
  | cons entry rest ih =>
    simp only [insert]
    by_cases here : entry.1 = key
    · simp [here, insert]
    · by_cases less : key < entry.1
      · simp [here, less, insert]
      · simp [here, less, insert, ih]

theorem get?_insert_congr {key other : Text} {value : α} {table table' : Table α}
    (same : other ≠ key → table'.get? other = table.get? other) :
    (table'.insert key value).get? other = (table.insert key value).get? other := by
  rw [get?_insert, get?_insert]
  split
  · rfl
  · next apart => exact same apart

theorem get?_erase_congr {key other : Text} {table table' : Table α}
    (same : other ≠ key → table'.get? other = table.get? other) :
    (table'.erase key).get? other = (table.erase key).get? other := by
  rw [get?_erase, get?_erase]
  split
  · rfl
  · next apart => exact same apart

theorem mem_keys_of_get? {key : Text} {value : α} {table : Table α}
    (found : table.get? key = some value) : key ∈ table.keys := by
  induction table with
  | nil => cases found
  | cons entry rest ih =>
    rw [get?] at found
    rw [keys, List.map_cons, List.mem_cons]
    split at found
    · next here => exact .inl here.symm
    · exact .inr (ih found)

theorem get?_eq_none_of_not_mem {key : Text} {table : Table α} (unmet : key ∉ table.keys) :
    table.get? key = none := by
  cases found : table.get? key with
  | none => rfl
  | some value => exact absurd (mem_keys_of_get? found) unmet

end Table

end PageTemplates
