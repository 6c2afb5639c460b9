import DeclIndex.Table
import Mathlib.Algebra.GroupWithZero.Nat
import Mathlib.Data.List.Nodup

/-!
# Tables by their keys and values

A table is known by its keys in their order and by the value under each of them. What a run of insertions leaves under a key is
the last value that was put there.
-/

namespace DeclIndex

variable {α β : Type}

/-! ## Entries -/

@[simp] theorem valueAt?_nil (key : String) : valueAt? key ([] : List (String × α)) = none := rfl

theorem valueAt?_eq_none_iff {key : String} {entries : List (String × α)} :
    valueAt? key entries = none ↔ key ∉ entries.map (·.1) := by
  induction entries with
  | nil => simp
  | cons entry rest ih =>
    obtain ⟨other, value⟩ := entry
    by_cases same : other = key
    · simp [valueAt?, same]
    · simp [valueAt?, same, ih, Ne.symm same]

theorem mem_of_valueAt? {key : String} {value : α} {entries : List (String × α)}
    (found : valueAt? key entries = some value) : (key, value) ∈ entries := by
  induction entries with
  | nil => simp at found
  | cons entry rest ih =>
    obtain ⟨other, old⟩ := entry
    by_cases same : other = key
    · subst same
      simp only [valueAt?, if_true, Option.some.injEq] at found
      simp [found]
    · simp only [valueAt?, same, if_false] at found
      exact List.mem_cons_of_mem _ (ih found)

theorem valueAt?_of_mem {key : String} {value : α} {entries : List (String × α)} (distinct : (entries.map (·.1)).Nodup)
    (member : (key, value) ∈ entries) : valueAt? key entries = some value := by
  induction entries with
  | nil => cases member
  | cons entry rest ih =>
    obtain ⟨other, old⟩ := entry
    obtain ⟨absent, distinctRest⟩ := List.nodup_cons.mp distinct
    rcases List.mem_cons.mp member with same | later
    · cases same
      simp [valueAt?]
    · have apart : other ≠ key := by
        rintro rfl
        exact absent (List.mem_map.mpr ⟨_, later, rfl⟩)
      simp [valueAt?, apart, ih distinctRest later]

theorem valueAt?_perm {entries others : List (String × α)} (order : entries.Perm others)
    (distinct : (entries.map (·.1)).Nodup) (key : String) : valueAt? key entries = valueAt? key others := by
  have distinctToo : (others.map (·.1)).Nodup := (order.map _).nodup_iff.mp distinct
  cases found : valueAt? key entries with
  | none =>
    rw [valueAt?_eq_none_iff, (order.map (·.1)).mem_iff] at found
    exact (valueAt?_eq_none_iff.mpr found).symm
  | some value => exact (valueAt?_of_mem distinctToo (order.mem_iff.mp (mem_of_valueAt? found))).symm

theorem valueAt?_append (key : String) (front back : List (String × α)) :
    valueAt? key (front ++ back) = (valueAt? key front).or (valueAt? key back) := by
  induction front with
  | nil => simp
  | cons entry rest ih =>
    obtain ⟨other, value⟩ := entry
    by_cases same : other = key <;> simp [valueAt?, same, ih]

theorem valueAt?_map (change : String → α → β) (key : String) (entries : List (String × α)) :
    valueAt? key (entries.map fun (name, value) => (name, change name value)) =
      (valueAt? key entries).map (change key) := by
  induction entries with
  | nil => rfl
  | cons entry rest ih =>
    obtain ⟨other, value⟩ := entry
    by_cases same : other = key
    · subst same
      simp [valueAt?]
    · simpa [valueAt?, same] using ih

theorem putEntry_of_fresh {key : String} {value : α} {entries : List (String × α)}
    (fresh : key ∉ entries.map (·.1)) : putEntry key value entries = entries ++ [(key, value)] := by
  induction entries with
  | nil => rfl
  | cons entry rest ih =>
    obtain ⟨other, old⟩ := entry
    simp only [List.map_cons, List.mem_cons, not_or] at fresh
    simp [putEntry, Ne.symm fresh.1, ih fresh.2]

/-- Entries with distinct keys are known by their keys and the value under each. -/
theorem entries_ext {entries others : List (String × α)} (distinct : (entries.map (·.1)).Nodup)
    (sameKeys : entries.map (·.1) = others.map (·.1))
    (sameValues : ∀ key ∈ entries.map (·.1), valueAt? key entries = valueAt? key others) : entries = others := by
  induction entries generalizing others with
  | nil => simpa using sameKeys.symm
  | cons entry rest ih =>
    obtain ⟨key, value⟩ := entry
    cases others with
    | nil => simp at sameKeys
    | cons first more =>
      obtain ⟨other, old⟩ := first
      simp only [List.map_cons, List.cons.injEq] at sameKeys
      obtain ⟨rfl, sameRest⟩ := sameKeys
      simp only [List.map_cons, List.nodup_cons] at distinct
      have here : value = old := by simpa [valueAt?] using sameValues key (by simp)
      have below : rest = more := by
        apply ih distinct.2 sameRest
        intro name member
        have apart : key ≠ name := fun same => distinct.1 (same ▸ member)
        simpa [valueAt?, apart] using sameValues name (by simp [member])
      rw [here, below]

namespace Table

/-! ## Looking up -/

theorem get?_eq_none_iff {table : Table α} {key : String} : table.get? key = none ↔ key ∉ table.keys :=
  valueAt?_eq_none_iff

theorem mem_keys_of_get? {table : Table α} {key : String} {value : α} (found : table.get? key = some value) :
    key ∈ table.keys := by
  by_contra absent
  rw [get?_eq_none_iff.mpr absent] at found
  cases found

theorem get?_isSome_of_mem {table : Table α} {key : String} (member : key ∈ table.keys) :
    ∃ value, table.get? key = some value := by
  cases found : table.get? key with
  | none => exact absurd member (get?_eq_none_iff.mp found)
  | some value => exact ⟨value, rfl⟩

theorem mem_entries_iff {table : Table α} {key : String} {value : α} :
    (key, value) ∈ table.entries ↔ table.get? key = some value :=
  ⟨valueAt?_of_mem table.distinct, mem_of_valueAt?⟩

theorem eq_of_entries {table other : Table α} (same : table.entries = other.entries) : table = other := by
  cases table
  cases other
  cases same
  rfl

/-- Tables with the same keys in the same order and the same value under each are equal. -/
theorem ext_get? {table other : Table α} (sameKeys : table.keys = other.keys)
    (sameValues : ∀ key ∈ table.keys, table.get? key = other.get? key) : table = other :=
  eq_of_entries (entries_ext table.distinct sameKeys sameValues)

theorem get?_map (change : String → α → β) (table : Table α) (key : String) :
    (table.map change).get? key = (table.get? key).map (change key) :=
  valueAt?_map change key table.entries

theorem map_map {γ : Type} (first : String → α → β) (second : String → β → γ) (table : Table α) :
    (table.map first).map second = table.map fun key value => second key (first key value) := by
  apply eq_of_entries
  simp [map, Function.comp_def]

theorem map_congr {change other : String → α → β} {table : Table α}
    (same : ∀ key value, (key, value) ∈ table.entries → change key value = other key value) :
    table.map change = table.map other := by
  apply eq_of_entries
  simp only [map]
  apply List.map_congr_left
  rintro ⟨key, value⟩ member
  simp [same key value member]

/-- A value that is put in is changed along with the others. -/
theorem map_insert (change : String → α → β) (table : Table α) (key : String) (value : α) :
    (table.insert key value).map change = (table.map change).insert key (change key value) := by
  have sameKeys : ((table.insert key value).map change).keys = ((table.map change).insert key (change key value)).keys := by
    rw [keys_map, keys_insert, keys_insert, keys_map]
  refine ext_get? sameKeys fun other _ => ?_
  rw [get?_map, get?_insert, get?_insert, get?_map]
  by_cases same : key = other
  · simp [same]
  · simp [same]

@[simp] theorem map_id (table : Table α) : (table.map fun _ value => value) = table := by
  apply eq_of_entries
  simp [map]

/-! ## Runs of insertions -/

@[simp] theorem insertAll_nil (table : Table α) : table.insertAll [] = table := rfl

@[simp] theorem insertAll_cons (table : Table α) (key : String) (value : α) (rest : List (String × α)) :
    table.insertAll ((key, value) :: rest) = (table.insert key value).insertAll rest := rfl

theorem insertAll_append (table : Table α) (front back : List (String × α)) :
    table.insertAll (front ++ back) = (table.insertAll front).insertAll back := by
  simp [insertAll]

/-- The last value that was put under a key is found there. -/
theorem get?_insertAll (table : Table α) (entries : List (String × α)) (key : String) :
    (table.insertAll entries).get? key = (valueAt? key entries.reverse).or (table.get? key) := by
  induction entries generalizing table with
  | nil => simp
  | cons entry rest ih =>
    obtain ⟨other, value⟩ := entry
    rw [insertAll_cons, ih, get?_insert, List.reverse_cons, valueAt?_append]
    by_cases same : other = key
    · simp [same, valueAt?]
    · simp [same, valueAt?]

/-- Which keys a table has after a run of insertions, and in which order, does not depend on the values. -/
theorem keys_insertAll {table : Table α} {other : Table β} {entries : List (String × α)} {others : List (String × β)}
    (sameTable : table.keys = other.keys) (sameKeys : entries.map (·.1) = others.map (·.1)) :
    (table.insertAll entries).keys = (other.insertAll others).keys := by
  induction entries generalizing table other others with
  | nil =>
    have none : others = [] := by simpa using sameKeys.symm
    simpa [none] using sameTable
  | cons entry rest ih =>
    cases others with
    | nil => simp at sameKeys
    | cons first more =>
      obtain ⟨key, value⟩ := entry
      obtain ⟨name, old⟩ := first
      simp only [List.map_cons, List.cons.injEq] at sameKeys
      obtain ⟨rfl, sameRest⟩ := sameKeys
      rw [insertAll_cons, insertAll_cons]
      apply ih _ sameRest
      rw [keys_insert, keys_insert, sameTable]

/-- New and distinct keys come behind those that are there. -/
theorem entries_insertAll_of_fresh {table : Table α} {entries : List (String × α)}
    (distinct : (entries.map (·.1)).Nodup) (fresh : ∀ entry ∈ entries, entry.1 ∉ table.keys) :
    (table.insertAll entries).entries = table.entries ++ entries := by
  induction entries generalizing table with
  | nil => simp
  | cons entry rest ih =>
    obtain ⟨key, value⟩ := entry
    simp only [List.map_cons, List.nodup_cons] at distinct
    have absent : key ∉ table.keys := fresh (key, value) (by simp)
    have grown : (table.insert key value).entries = table.entries ++ [(key, value)] :=
      putEntry_of_fresh absent
    rw [insertAll_cons, ih distinct.2, grown, List.append_assoc, List.singleton_append]
    intro other member
    rw [keys_insert, if_neg absent]
    have apart : other.1 ≠ key := fun same => distinct.1 (same ▸ List.mem_map_of_mem member)
    simpa [apart] using fresh other (List.mem_cons_of_mem _ member)

/-- The entries of a run that no later one replaces. -/
def lastEntries : List (String × α) → List (String × α)
  | [] => []
  | (key, value) :: rest => if key ∈ rest.map (·.1) then lastEntries rest else (key, value) :: lastEntries rest

theorem lastEntries_sublist (entries : List (String × α)) : (lastEntries entries).Sublist entries := by
  induction entries with
  | nil => exact .slnil
  | cons entry rest ih =>
    obtain ⟨key, value⟩ := entry
    unfold lastEntries
    split
    · exact ih.cons _
    · exact ih.cons_cons _

theorem nodup_lastEntries (entries : List (String × α)) : ((lastEntries entries).map (·.1)).Nodup := by
  induction entries with
  | nil => exact List.nodup_nil
  | cons entry rest ih =>
    obtain ⟨key, value⟩ := entry
    unfold lastEntries
    split
    · exact ih
    · next fresh =>
      refine List.nodup_cons.mpr ⟨fun member => fresh ?_, ih⟩
      exact ((lastEntries_sublist rest).map _).subset member

theorem mem_lastEntries_iff {entries : List (String × α)} {key : String} {value : α} :
    (key, value) ∈ lastEntries entries ↔ valueAt? key entries.reverse = some value := by
  induction entries with
  | nil => simp [lastEntries]
  | cons entry rest ih =>
    obtain ⟨other, old⟩ := entry
    rw [List.reverse_cons, valueAt?_append]
    have held : valueAt? key rest.reverse = none ↔ key ∉ rest.map (·.1) := by
      rw [valueAt?_eq_none_iff, List.map_reverse, List.mem_reverse]
    by_cases same : other = key
    · subst same
      by_cases replaced : other ∈ rest.map (·.1)
      · obtain ⟨later, found⟩ := Option.ne_none_iff_exists'.mp fun absent => held.mp absent replaced
        rw [lastEntries, if_pos replaced, ih, found, Option.some_or]
      · have absent := held.mpr replaced
        rw [lastEntries, if_neg replaced, List.mem_cons, ih, absent, Option.none_or]
        simp [valueAt?, eq_comm]
    · have unchanged : (key, value) ∈ lastEntries ((other, old) :: rest) ↔ (key, value) ∈ lastEntries rest := by
        rw [lastEntries]
        split
        · rfl
        · simp [Ne.symm same]
      rw [unchanged, ih]
      simp [valueAt?, same]

/-- After a run of insertions a table has those that were not replaced. -/
theorem perm_lastEntries (entries : List (String × α)) :
    (empty.insertAll entries).entries.Perm (lastEntries entries) := by
  refine (List.perm_ext_iff_of_nodup (.of_map _ (Table.distinct _)) (.of_map _ (nodup_lastEntries entries))).mpr ?_
  rintro ⟨key, value⟩
  rw [mem_entries_iff, get?_insertAll, get?_empty, Option.or_none, mem_lastEntries_iff]

/-! ## Counting -/

theorem countP_lastEntries_le (wanted : String × α → Bool) (entries : List (String × α)) :
    (lastEntries entries).countP wanted ≤ entries.countP wanted :=
  (lastEntries_sublist entries).countP_le

/-- As many entries are left as were put in if no wanted one is followed by another under its key. -/
theorem countP_lastEntries_eq_iff {wanted : String × α → Bool} {entries : List (String × α)} :
    (lastEntries entries).countP wanted = entries.countP wanted ↔
      entries.Pairwise fun entry later => wanted entry → entry.1 ≠ later.1 := by
  induction entries with
  | nil => simp [lastEntries]
  | cons entry rest ih =>
    obtain ⟨key, value⟩ := entry
    have fewer := countP_lastEntries_le wanted rest
    rw [List.pairwise_cons, ← ih, lastEntries]
    by_cases replaced : key ∈ rest.map (·.1)
    · obtain ⟨later, member, same⟩ := List.mem_map.mp replaced
      rw [if_pos replaced]
      by_cases counts : wanted (key, value)
      · rw [List.countP_cons_of_pos counts]
        constructor
        · intro equal
          omega
        · rintro ⟨kept, _⟩
          exact absurd same.symm (kept later member counts)
      · rw [List.countP_cons_of_neg counts]
        simp [counts]
    · rw [if_neg replaced]
      have apart : ∀ later ∈ rest, wanted (key, value) → key ≠ later.1 := by
        intro later member _ same
        exact replaced (same ▸ List.mem_map_of_mem member)
      rw [and_iff_right apart, List.countP_cons, List.countP_cons]
      exact Nat.add_right_cancel_iff

/-- A sum over a table changes by what is put in instead of what was there. -/
theorem sum_insert (size : α → Nat) (table : Table α) (key : String) (value : α) :
    ((table.insert key value).values.map size).sum + ((table.get? key).map size).getD 0 =
      (table.values.map size).sum + size value := by
  obtain ⟨entries, distinct⟩ := table
  simp only [insert, values, get?]
  clear distinct
  induction entries with
  | nil => simp [putEntry, valueAt?]
  | cons entry rest ih =>
    obtain ⟨other, old⟩ := entry
    by_cases same : other = key
    · simp [putEntry, valueAt?, same]
      omega
    · simp only [putEntry, valueAt?, same, if_false, List.map_cons, List.sum_cons] at ih ⊢
      omega

end Table

/-! ## Blocks of entries -/

section Blocks

variable {part : β → List (String × α)}

/-- Two blocks of entries have no key in common. -/
def Apart (part : β → List (String × α)) (a b : β) : Prop :=
  ∀ key, key ∈ (part a).map (·.1) → key ∉ (part b).map (·.1)

theorem Apart.symm {a b : β} (apart : Apart part a b) : Apart part b a :=
  fun key second first => apart key first second

/-- If no two blocks have a key in common, what is under a key comes from one block. -/
theorem valueAt?_flatMap_iff {group : List β} (apart : group.Pairwise (Apart part)) {key : String} {value : α} :
    valueAt? key (group.flatMap part).reverse = some value ↔ ∃ a ∈ group, valueAt? key (part a).reverse = some value := by
  induction group generalizing value with
  | nil => simp
  | cons first rest ih =>
    obtain ⟨apartFirst, apartRest⟩ := List.pairwise_cons.mp apart
    rw [List.flatMap_cons, List.reverse_append, valueAt?_append]
    cases later : valueAt? key (rest.flatMap part).reverse with
    | some found =>
      rw [Option.some_or]
      obtain ⟨a, inRest, foundThere⟩ := (ih apartRest).mp later
      -- the key is one of the rest, so the first block does not have it
      have absent : valueAt? key (part first).reverse = none := by
        rw [valueAt?_eq_none_iff, List.map_reverse, List.mem_reverse]
        refine (apartFirst a inRest).symm key ?_
        have held := List.mem_map_of_mem (f := Prod.fst) (mem_of_valueAt? foundThere)
        rwa [List.map_reverse, List.mem_reverse] at held
      rw [← later, ih apartRest]
      simp [absent]
    | none =>
      rw [Option.none_or]
      have absent : ¬ ∃ a ∈ rest, valueAt? key (part a).reverse = some value := by
        rw [← ih apartRest, later]
        exact nofun
      simp [absent]

/-- What is under a key comes from the last block that has it. -/
theorem valueAt?_flatMap_last {group : List β} {key : String} {value : α} :
    valueAt? key (group.flatMap part).reverse = some value ↔
      ∃ before a after, group = before ++ a :: after ∧ valueAt? key (part a).reverse = some value ∧
        ∀ b ∈ after, key ∉ (part b).map (·.1) := by
  induction group with
  | nil => simp
  | cons first rest ih =>
    have held : valueAt? key (rest.flatMap part).reverse = none ↔ ∀ b ∈ rest, key ∉ (part b).map (·.1) := by
      rw [valueAt?_eq_none_iff, List.map_reverse, List.mem_reverse, List.map_flatMap]
      simp
    rw [List.flatMap_cons, List.reverse_append, valueAt?_append]
    constructor
    · intro found
      cases later : valueAt? key (rest.flatMap part).reverse with
      | none =>
        rw [later, Option.none_or] at found
        exact ⟨[], first, rest, rfl, found, held.mp later⟩
      | some other =>
        rw [later, Option.some_or] at found
        obtain ⟨before, a, after, rfl, foundThere, absent⟩ := ih.mp (later.trans found)
        exact ⟨first :: before, a, after, rfl, foundThere, absent⟩
    · rintro ⟨before, a, after, split, found, absent⟩
      cases before with
      | nil =>
        obtain ⟨rfl, rfl⟩ := List.cons.inj split
        rw [held.mpr absent, Option.none_or, found]
      | cons _ before =>
        obtain ⟨rfl, rfl⟩ := List.cons.inj split
        rw [ih.mpr ⟨before, a, after, rfl, found, absent⟩, Option.some_or]

end Blocks

end DeclIndex
