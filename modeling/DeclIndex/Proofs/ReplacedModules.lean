import DeclIndex.Project
import DeclIndex.Proofs.Collections

/-!
# Declarations of replaced modules

A module that is added under a key that is there already takes the place of the one before, but no entry is taken out of the
tables. So an entry belongs to a module of the library exactly as long as the module that put it in is not replaced, and the
tables hold nothing but declarations of their modules if those of every replaced module were put in again later.
-/

namespace DeclIndex.Library

/-- A module of the library declares an entry. -/
def Declares (library : Library) {kind : Collection} (entry : String × kind.Value) : Prop :=
  ∃ m ∈ library.modules.values, entry ∈ m.declaredFor kind

/-- What a module put into the tables is put in again after the module is replaced. -/
def Redeclared (includePrivate : Bool) (modules : List Module) : Prop :=
  ∀ before m after, modules = before ++ m :: after → m.key ∈ after.map Module.key →
    ∀ kind, ∀ key ∈ (m.indexedFor includePrivate kind).map (·.1),
      ∃ later ∈ after, key ∈ (later.indexedFor includePrivate kind).map (·.1)

section Run

variable {includePrivate : Bool} {lastUpdated : String} {sources : List String} {modules : List Module}

/-- An entry was put in by the last module that has its key. -/
theorem mem_tableOf_iff {kind : Collection} {key : String} {value : kind.Value} :
    (key, value) ∈ (((blank lastUpdated sources).addModules includePrivate modules).tableOf kind).entries ↔
      ∃ before m after, modules = before ++ m :: after ∧
        valueAt? key (m.indexedFor includePrivate kind).reverse = some value ∧
        ∀ later ∈ after, key ∉ (later.indexedFor includePrivate kind).map (·.1) := by
  rw [Table.mem_entries_iff, tableOf_addModules, tableOf_blank, Table.get?_insertAll, Table.get?_empty, Option.or_none,
    valueAt?_flatMap_last]

/-- Under a key is the last module that has it. -/
theorem get?_modules_addModules {key : String} {m : Module} :
    ((blank lastUpdated sources).addModules includePrivate modules).modules.get? key = some m ↔
      ∃ before after, modules = before ++ m :: after ∧ m.key = key ∧ key ∉ after.map Module.key := by
  have own (n : Module) : n.indexedFor includePrivate .modules = [(n.key, n)] := rfl
  have entry := @mem_tableOf_iff includePrivate lastUpdated sources modules .modules key m
  rw [Table.mem_entries_iff] at entry
  refine entry.trans ?_
  simp only [own, List.reverse_singleton, valueAt?, Option.ite_none_right_eq_some, Option.some.injEq, List.map_singleton,
    List.mem_singleton, List.mem_map, not_exists, not_and]
  constructor
  · rintro ⟨before, _, after, split, ⟨same, rfl⟩, last⟩
    exact ⟨before, after, split, same, fun later member again => last later member again.symm⟩
  · rintro ⟨before, after, split, same, last⟩
    exact ⟨before, m, after, split, ⟨same, rfl⟩, fun later member again => last later member again.symm⟩

/-- The modules of a library are those that were not replaced. -/
theorem mem_modules_iff {m : Module} :
    m ∈ ((blank lastUpdated sources).addModules includePrivate modules).modules.values ↔
      ∃ before after, modules = before ++ m :: after ∧ m.key ∉ after.map Module.key := by
  have entry : m ∈ ((blank lastUpdated sources).addModules includePrivate modules).modules.values ↔
      ∃ key, ((blank lastUpdated sources).addModules includePrivate modules).modules.get? key = some m := by
    simp [Table.values, Table.mem_entries_iff]
  simp only [entry, get?_modules_addModules]
  constructor
  · rintro ⟨_, before, after, split, rfl, current⟩
    exact ⟨before, after, split, current⟩
  · rintro ⟨before, after, split, current⟩
    exact ⟨m.key, before, after, split, rfl, current⟩

/-- An entry belongs to a module of the library as long as the module that put it in is not replaced. -/
theorem declares_iff {kind : Collection} {before after : List Module} {m : Module} {entry : String × kind.Value}
    (split : modules = before ++ m :: after) (member : entry ∈ m.indexedFor includePrivate kind)
    (last : ∀ later ∈ after, entry.1 ∉ (later.indexedFor includePrivate kind).map (·.1)) :
    ((blank lastUpdated sources).addModules includePrivate modules).Declares entry ↔ m.key ∉ after.map Module.key := by
  constructor
  · rintro ⟨n, stored, declares⟩ replaced
    have sameKey : n.key = m.key := Module.key_eq_of_declaredFor declares (Module.mem_declaredFor member)
    obtain ⟨front, back, splitToo, current⟩ := mem_modules_iff.mp stored
    rw [sameKey] at current
    -- of the modules under this key the one that is stored came last, so it declared the entry once more
    have later : n ∈ after := by
      rcases List.append_eq_append_iff.mp (splitToo.symm.trans split) with ⟨between, rfl, rest⟩ | ⟨between, rfl, rest⟩
      · cases between with
        | nil =>
          obtain ⟨rfl, rfl⟩ := List.cons.inj rest
          exact absurd replaced current
        | cons _ between =>
          obtain ⟨rfl, rfl⟩ := List.cons.inj rest
          exact absurd (List.mem_map_of_mem (by simp)) current
      · cases between with
        | nil =>
          obtain ⟨rfl, rfl⟩ := List.cons.inj rest
          exact absurd replaced current
        | cons _ between =>
          obtain ⟨rfl, rfl⟩ := List.cons.inj rest
          simp
    rw [← Module.indexedFor_eq member n] at declares
    exact last n later (List.mem_map_of_mem declares)
  · intro current
    exact ⟨m, mem_modules_iff.mpr ⟨before, after, split, current⟩, Module.mem_declaredFor member⟩

end Run

/-- Every entry was put in by an added module, the last one that has its key, and belongs to a module of the library exactly if
that one is not replaced later. All entries belong to modules of the library exactly if what replaced modules declared was put
in again. -/
theorem entries_declared_iff (includePrivate : Bool) (lastUpdated : String) (sources : List String) (modules : List Module) :
    let library := (blank lastUpdated sources).addModules includePrivate modules
    (∀ kind, ∀ entry ∈ (library.tableOf kind).entries, ∃ before m after, modules = before ++ m :: after ∧
      entry ∈ m.indexedFor includePrivate kind ∧
      (∀ later ∈ after, entry.1 ∉ (later.indexedFor includePrivate kind).map (·.1)) ∧
      (library.Declares entry ↔ m.key ∉ after.map Module.key)) ∧
    ((∀ kind, ∀ entry ∈ (library.tableOf kind).entries, library.Declares entry) ↔ Redeclared includePrivate modules) := by
  intro library
  have origin : ∀ kind, ∀ entry ∈ (library.tableOf kind).entries, ∃ before m after, modules = before ++ m :: after ∧
      entry ∈ m.indexedFor includePrivate kind ∧
      (∀ later ∈ after, entry.1 ∉ (later.indexedFor includePrivate kind).map (·.1)) ∧
      (library.Declares entry ↔ m.key ∉ after.map Module.key) := by
    rintro kind ⟨key, value⟩ held
    obtain ⟨before, m, after, split, found, last⟩ := mem_tableOf_iff.mp held
    have member : (key, value) ∈ m.indexedFor includePrivate kind := List.mem_reverse.mp (mem_of_valueAt? found)
    exact ⟨before, m, after, split, member, last, declares_iff split member last⟩
  refine ⟨origin, ?_, ?_⟩
  · intro declared before m after split replaced kind key member
    by_contra! lost
    -- nothing was put in behind the module, so its last declaration under the key is still an entry
    obtain ⟨value, found⟩ : ∃ value, valueAt? key (m.indexedFor includePrivate kind).reverse = some value := by
      rw [← Option.ne_none_iff_exists', ne_eq, valueAt?_eq_none_iff, not_not, List.map_reverse, List.mem_reverse]
      exact member
    have held : (key, value) ∈ (library.tableOf kind).entries :=
      mem_tableOf_iff.mpr ⟨before, m, after, split, found, lost⟩
    have put : (key, value) ∈ m.indexedFor includePrivate kind := List.mem_reverse.mp (mem_of_valueAt? found)
    exact (declares_iff split put lost).mp (declared kind _ held) replaced
  · intro redeclared kind entry held
    obtain ⟨before, m, after, split, member, last, declares⟩ := origin kind entry held
    refine declares.mpr fun replaced => ?_
    obtain ⟨later, behind, again⟩ := redeclared before m after split replaced kind entry.1 (List.mem_map_of_mem member)
    exact last later behind again

/-- Two files that give one module name: the second module replaces the first. -/
def sameName : List Module :=
  let package : Package := { id := "stdlib", name := "Standard Library", path := "packages/aiken-stdlib" }
  [Project.moduleOf Registry.default package "packages/aiken-stdlib/a/b.ak" "a.b"
      "pub fn add(x: Int) -> Int \x7b\n  x\n\x7d\n",
    Project.moduleOf Registry.default package "packages/aiken-stdlib/a.b.ak" "a.b"
      "pub fn sub(x: Int) -> Int \x7b\n  x\n\x7d\n"]

/-- The function of the first file is an entry, though no module of the library declares it. -/
theorem entries_notDeclared :
    let library := (blank "2024" []).addModules true sameName
    library.functions.keys = ["stdlib:a.b.add", "stdlib:a.b.sub"] ∧
      ¬ ∀ kind, ∀ entry ∈ (library.tableOf kind).entries, library.Declares entry := by
  intro library
  have stale : ∃ entry ∈ library.functions.entries, ∀ m ∈ library.modules.values,
      entry ∉ declared (·.name) (·.functions) m := by
    decide +kernel
  refine ⟨by decide +kernel, fun declared => ?_⟩
  obtain ⟨entry, held, absent⟩ := stale
  obtain ⟨m, stored, declares⟩ := declared .functions entry held
  exact absent m stored declares

end DeclIndex.Library
