import DeclIndex.Library.Basic
import DeclIndex.Proofs.Table

/-!
# Adding modules

What a run of added modules does to each table of a library, all at once: the declarations of all modules are put in one after
the other, and the counters of a package go through its modules.
-/

namespace DeclIndex.Library

/-- Declarations of a module with their keys. -/
def declared {α : Type} (name : α → String) (part : Module → List α) (m : Module) : List (String × α) :=
  (part m).map fun declaration => (m.keyFor (name declaration), declaration)

/-- The counters after one more module. -/
def countModule (counters : Table Stats) (m : Module) : Table Stats :=
  counters.insert m.source (((counters.get? m.source).getD {}).add m)

/-- Declarations that count only if private ones are asked for. -/
def ifPrivate {α : Type} (includePrivate : Bool) (part : Module → List α) (m : Module) : List α :=
  if includePrivate then part m else []

theorem mem_of_mem_ifPrivate {α : Type} {includePrivate : Bool} {part : Module → List α} {m : Module} {declaration : α}
    (member : declaration ∈ ifPrivate includePrivate part m) : declaration ∈ part m := by
  unfold ifPrivate at member
  split at member
  · exact member
  · cases member

private theorem index_ifPrivate {α : Type} (includePrivate : Bool) (m : Module) (name : α → String) (part : Module → List α)
    (table : Table α) :
    (if includePrivate then index m name (part m) table else table) =
      table.insertAll (declared name (ifPrivate includePrivate part) m) := by
  cases includePrivate <;> rfl

/-- Every table of a library after some modules were added. -/
theorem addModules_eq (includePrivate : Bool) (library : Library) (modules : List Module) :
    library.addModules includePrivate modules =
      { modules := library.modules.insertAll (modules.map fun m => (m.key, m))
        dependencies := library.dependencies.insertAll (modules.map fun m => (m.key, m.dependencies))
        functions := library.functions.insertAll (modules.flatMap (declared (·.name) (·.functions)))
        types := library.types.insertAll (modules.flatMap (declared (·.name) (·.types)))
        constants := library.constants.insertAll (modules.flatMap (declared (·.name) (·.constants)))
        atoms := library.atoms.insertAll (modules.flatMap (declared (·.name) (ifPrivate includePrivate (·.atoms))))
        privateTypes :=
          library.privateTypes.insertAll (modules.flatMap (declared (·.name) (ifPrivate includePrivate (·.privateTypes))))
        privateConstants := library.privateConstants.insertAll
          (modules.flatMap (declared (·.name) (ifPrivate includePrivate (·.privateConstants))))
        sourceStats := modules.foldl countModule library.sourceStats
        lastUpdated := library.lastUpdated } := by
  induction modules generalizing library with
  | nil => rfl
  | cons m rest ih =>
    have first : library.addModules includePrivate (m :: rest) =
        (library.addModule includePrivate m).addModules includePrivate rest := rfl
    rw [first, ih]
    simp only [addModule, index_ifPrivate, List.map_cons, List.flatMap_cons, List.foldl_cons, Table.insertAll_cons,
      Table.insertAll_append]
    rfl

/-! ## Counters -/

theorem mem_keys_countModules (modules : List Module) (counters : Table Stats) (source : String) :
    source ∈ (modules.foldl countModule counters).keys ↔ source ∈ counters.keys ∨ ∃ m ∈ modules, m.source = source := by
  induction modules generalizing counters with
  | nil => simp
  | cons m rest ih =>
    have here : source ∈ (countModule counters m).keys ↔ source ∈ counters.keys ∨ m.source = source := by
      rw [countModule, Table.keys_insert]
      split
      · next known =>
        constructor
        · exact Or.inl
        · rintro (member | rfl)
          · exact member
          · exact known
      · simp [eq_comm]
    rw [List.foldl_cons, ih, here, or_assoc]
    simp

/-- A package that has counters stays in its place. -/
theorem keys_countModules_of_mem {modules : List Module} {counters : Table Stats}
    (known : ∀ m ∈ modules, m.source ∈ counters.keys) : (modules.foldl countModule counters).keys = counters.keys := by
  induction modules generalizing counters with
  | nil => rfl
  | cons m rest ih =>
    have kept : (countModule counters m).keys = counters.keys := by
      rw [countModule, Table.keys_insert, if_pos (known m (by simp))]
    rw [List.foldl_cons, ih, kept]
    intro other member
    rw [kept]
    exact known other (List.mem_cons_of_mem _ member)

/-- The counters of a package go through its own modules. -/
theorem get?_countModules (modules : List Module) (counters : Table Stats) (source : String) :
    ((modules.foldl countModule counters).get? source).getD {} =
      (modules.filter (·.source = source)).foldl Stats.add ((counters.get? source).getD {}) := by
  induction modules generalizing counters with
  | nil => rfl
  | cons m rest ih =>
    rw [List.foldl_cons, ih, countModule, Table.get?_insert]
    by_cases own : m.source = source
    · simp [own]
    · simp [own]

/-- Counters that were made ready for all packages beforehand come out the same. -/
theorem countModules_ready {modules : List Module} {counters ready : Table Stats}
    (sameKeys : ready.keys = (modules.foldl countModule counters).keys)
    (sameStart : ∀ source, (ready.get? source).getD {} = (counters.get? source).getD {}) :
    modules.foldl countModule ready = modules.foldl countModule counters := by
  have known : ∀ m ∈ modules, m.source ∈ ready.keys := by
    intro m member
    rw [sameKeys, mem_keys_countModules]
    exact Or.inr ⟨m, member, rfl⟩
  have keys : (modules.foldl countModule ready).keys = (modules.foldl countModule counters).keys := by
    rw [keys_countModules_of_mem known, sameKeys]
  apply Table.ext_get? keys
  intro source member
  obtain ⟨left, foundLeft⟩ := Table.get?_isSome_of_mem member
  obtain ⟨right, foundRight⟩ := Table.get?_isSome_of_mem (keys ▸ member)
  have same : ((modules.foldl countModule ready).get? source).getD {} =
      ((modules.foldl countModule counters).get? source).getD {} := by
    rw [get?_countModules, get?_countModules, sameStart]
  rw [foundLeft, foundRight] at same ⊢
  exact congrArg some same

/-- A library without modules has nothing counted. -/
theorem get?_blank (lastUpdated : String) (sources : List String) (source : String) :
    ((blank lastUpdated sources).sourceStats.get? source).getD {} = {} := by
  rw [blank, Table.get?_insertAll, Table.get?_empty, Option.or_none]
  cases found : valueAt? source (sources.map fun source => (source, ({} : Stats))).reverse with
  | none => rfl
  | some stats =>
    have member := mem_of_valueAt? found
    simp only [List.mem_reverse, List.mem_map, Prod.mk.injEq] at member
    obtain ⟨_, _, _, same⟩ := member
    exact same.symm

theorem keys_blank {lastUpdated : String} {sources : List String} (distinct : sources.Nodup) :
    (blank lastUpdated sources).sourceStats.keys = sources := by
  have names : (sources.map fun source => (source, ({} : Stats))).map (·.1) = sources := by
    simp [Function.comp_def]
  have entries : (Table.empty.insertAll (sources.map fun source => (source, ({} : Stats)))).entries =
      [] ++ sources.map fun source => (source, ({} : Stats)) :=
    Table.entries_insertAll_of_fresh (names.symm ▸ distinct) (by simp)
  rw [blank, Table.keys, entries, List.nil_append, names]

end DeclIndex.Library
