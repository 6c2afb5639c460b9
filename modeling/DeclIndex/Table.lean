/-!
# Tables

Texts as keys, with values, in the order in which keys were first put in. Putting a value under a key that
is there keeps the place of the key.
-/

namespace DeclIndex

/-- The entries after a value is put under a key. -/
def putEntry {α : Type} (key : String) (value : α) : List (String × α) → List (String × α)
  | [] => [(key, value)]
  | (other, old) :: rest =>
    if other = key then (key, value) :: rest else (other, old) :: putEntry key value rest

/-- The value under a key. -/
def valueAt? {α : Type} (key : String) : List (String × α) → Option α
  | [] => none
  | (other, value) :: rest => if other = key then some value else valueAt? key rest

theorem keys_putEntry {α : Type} (key : String) (value : α) (entries : List (String × α)) :
    (putEntry key value entries).map (·.1) =
      if key ∈ entries.map (·.1) then entries.map (·.1) else entries.map (·.1) ++ [key] := by
  induction entries with
  | nil => simp [putEntry]
  | cons entry rest ih =>
    obtain ⟨other, old⟩ := entry
    by_cases same : other = key
    · simp [putEntry, same]
    · by_cases member : key ∈ rest.map (·.1)
      · simp_all [putEntry]
      · simp_all [putEntry, Ne.symm same]

/-- An ordered table. No key has two entries. -/
structure Table (α : Type) where
  entries : List (String × α)
  distinct : (entries.map (·.1)).Nodup
deriving DecidableEq

namespace Table

variable {α β : Type}

def empty : Table α := ⟨[], List.nodup_nil⟩

instance : Inhabited (Table α) := ⟨empty⟩

def keys (table : Table α) : List String :=
  table.entries.map (·.1)

def values (table : Table α) : List α :=
  table.entries.map (·.2)

def size (table : Table α) : Nat :=
  table.entries.length

def get? (table : Table α) (key : String) : Option α :=
  valueAt? key table.entries

def contains (table : Table α) (key : String) : Bool :=
  (table.get? key).isSome

/-- Puts a value under a key. -/
def insert (table : Table α) (key : String) (value : α) : Table α where
  entries := putEntry key value table.entries
  distinct := by
    rw [keys_putEntry]
    split
    · exact table.distinct
    · next fresh =>
      rw [List.nodup_append]
      refine ⟨table.distinct, by simp, fun a member b single => ?_⟩
      simp at single
      subst single
      exact fun same => fresh (same ▸ member)

/-- Every value changed, with its key at hand. -/
def map (change : String → α → β) (table : Table α) : Table β where
  entries := table.entries.map fun (key, value) => (key, change key value)
  distinct := by
    rw [List.map_map]
    exact table.distinct

/-- The entries whose value has a property. -/
def filter (keep : α → Bool) (table : Table α) : List (String × α) :=
  table.entries.filter fun (_, value) => keep value

/-- Puts values in one after the other. -/
def insertAll (table : Table α) (entries : List (String × α)) : Table α :=
  entries.foldl (fun table (key, value) => table.insert key value) table

@[simp] theorem keys_empty : (empty : Table α).keys = [] := rfl

@[simp] theorem get?_empty (key : String) : (empty : Table α).get? key = none := rfl

/-- A new key comes last, one that is there stays where it is. -/
theorem keys_insert (table : Table α) (key : String) (value : α) :
    (table.insert key value).keys = if key ∈ table.keys then table.keys else table.keys ++ [key] :=
  keys_putEntry key value table.entries

theorem valueAt?_putEntry (key other : String) (value : α) (entries : List (String × α)) :
    valueAt? other (putEntry key value entries) =
      if key = other then some value else valueAt? other entries := by
  induction entries with
  | nil => simp [putEntry, valueAt?]
  | cons entry rest ih =>
    obtain ⟨first, old⟩ := entry
    by_cases here : first = key
    · subst here
      by_cases same : first = other <;> simp [putEntry, valueAt?, same]
    · by_cases same : first = other
      · subst same
        simp [putEntry, valueAt?, here, Ne.symm here]
      · simp [putEntry, valueAt?, here, same, ih]

/-- The value that was put in is found, and the others stay. -/
theorem get?_insert (table : Table α) (key other : String) (value : α) :
    (table.insert key value).get? other = if key = other then some value else table.get? other :=
  valueAt?_putEntry key other value table.entries

@[simp] theorem keys_map (change : String → α → β) (table : Table α) :
    (table.map change).keys = table.keys := by
  simp [keys, map, Function.comp_def]

end Table

end DeclIndex
