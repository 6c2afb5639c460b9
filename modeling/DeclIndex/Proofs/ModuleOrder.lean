import DeclIndex.Proofs.Aliases
import DeclIndex.Proofs.DeclaredNames
import DeclIndex.Proofs.Modules
import Mathlib.Data.List.Perm.Basic

/-!
# The order of modules and packages

The library of some modules does not depend on the order in which they are added, nor on that of the packages in the registry,
as far as its tables are taken for finite maps. A key belongs to one module, because no declared name has a dot; aliases come in
the order of the settings and of the text of an aggregator. Types are left out, for generic parameters may bring a dot into
their names.
-/

namespace DeclIndex

/-! ## Tables as finite maps -/

/-- Two tables have the same value under each key, in whatever order. -/
def Table.Agrees {α : Type} (table other : Table α) : Prop :=
  ∀ key, table.get? key = other.get? key

theorem Table.Agrees.map {α β : Type} {table other : Table α} (agrees : table.Agrees other) (change : String → α → β) :
    (table.map change).Agrees (other.map change) := by
  intro key
  rw [Table.get?_map, Table.get?_map, agrees]

section Blocks

variable {α β : Type} {part : β → List (String × α)}

theorem agrees_insertAll_flatMap {group others : List β} (order : group.Perm others) (apart : group.Pairwise (Apart part)) :
    (Table.empty.insertAll (group.flatMap part)).Agrees (Table.empty.insertAll (others.flatMap part)) := by
  intro key
  have apartOthers : others.Pairwise (Apart part) := (order.pairwise_iff Apart.symm).mp apart
  rw [Table.get?_insertAll, Table.get?_insertAll, Table.get?_empty, Option.or_none, Option.or_none]
  ext value
  rw [valueAt?_flatMap_iff apart, valueAt?_flatMap_iff apartOthers]
  simp only [order.mem_iff]

end Blocks

/-! ## Packages -/

theorem find?_perm {α : Type} {group others : List α} (order : group.Perm others) {wanted : α → Bool}
    (unique : ∀ a ∈ group, ∀ b ∈ group, wanted a → wanted b → a = b) : group.find? wanted = others.find? wanted := by
  cases found : group.find? wanted with
  | none =>
    rw [List.find?_eq_none] at found
    exact (List.find?_eq_none.mpr fun a member => found a (order.mem_iff.mpr member)).symm
  | some a =>
    have held : a ∈ group := List.mem_of_find?_eq_some found
    cases foundToo : others.find? wanted with
    | none => exact absurd (List.find?_some found) (List.find?_eq_none.mp foundToo a (order.mem_iff.mp held))
    | some b =>
      have heldToo : b ∈ group := order.mem_iff.mpr (List.mem_of_find?_eq_some foundToo)
      rw [unique a held b heldToo (List.find?_some found) (List.find?_some foundToo)]

theorem Registry.eq_of_id {registry : Registry} {package other : Package} (member : package ∈ registry.packages)
    (memberToo : other ∈ registry.packages) (same : package.id = other.id) : package = other :=
  List.inj_on_of_nodup_map registry.distinct member memberToo same

/-- What a file is read as does not depend on the order of the packages. -/
theorem Project.moduleOf_reordered {registry reordered : Registry} (order : registry.packages.Perm reordered.packages)
    (package : Package) (path name content : String) :
    moduleOf registry package path name content = moduleOf reordered package path name content := by
  have sources : registry.reExportSources.contains package.id = reordered.reExportSources.contains package.id := by
    rw [List.contains_eq_mem, List.contains_eq_mem]
    exact decide_eq_decide.mpr ((order.filter _).map _).mem_iff
  have aggregates : registry.isAggregator name package.id = reordered.isAggregator name package.id := by
    have found : registry.get? package.id = reordered.get? package.id := by
      refine find?_perm order fun one member another memberToo wanted wantedToo => ?_
      rw [beq_iff_eq] at wanted wantedToo
      exact Registry.eq_of_id member memberToo (wanted.trans wantedToo.symm)
    rw [Registry.isAggregator, Registry.isAggregator, found]
  rw [moduleOf, moduleOf, sources, aggregates]

namespace Library

section Modules

variable {modules others : List Module}

theorem agrees_keyed {α : Type} (order : modules.Perm others) (distinct : (modules.map Module.key).Nodup)
    (value : Module → α) :
    (Table.empty.insertAll (modules.map fun m => (m.key, value m))).Agrees
      (Table.empty.insertAll (others.map fun m => (m.key, value m))) := by
  rw [List.map_eq_flatMap, List.map_eq_flatMap]
  refine agrees_insertAll_flatMap order ((List.pairwise_map.mp distinct).imp fun differ key first second => differ ?_)
  rw [List.map_singleton, List.mem_singleton] at first second
  exact first.symm.trans second

/-! ## Counters -/

theorem foldl_add_perm (order : modules.Perm others) (stats : Stats) :
    modules.foldl Stats.add stats = others.foldl Stats.add stats := by
  have commutes : RightCommutative Stats.add := by
    constructor
    intro stats m n
    simp only [Stats.add, Nat.add_right_comm]
  exact order.foldl_eq stats

theorem agrees_countModules (order : modules.Perm others) {counters ready : Table Stats}
    (sameKeys : ∀ source, source ∈ counters.keys ↔ source ∈ ready.keys)
    (sameStart : ∀ source, (counters.get? source).getD {} = (ready.get? source).getD {}) :
    (modules.foldl countModule counters).Agrees (others.foldl countModule ready) := by
  intro source
  have sameCount : ((modules.foldl countModule counters).get? source).getD {} =
      ((others.foldl countModule ready).get? source).getD {} := by
    rw [get?_countModules, get?_countModules, sameStart]
    exact foldl_add_perm (order.filter _) _
  have sameSources : source ∈ (modules.foldl countModule counters).keys ↔ source ∈ (others.foldl countModule ready).keys := by
    simp only [mem_keys_countModules, sameKeys, order.mem_iff]
  cases counted : (modules.foldl countModule counters).get? source with
  | none =>
    rw [Table.get?_eq_none_iff, sameSources, ← Table.get?_eq_none_iff] at counted
    exact counted.symm
  | some stats =>
    obtain ⟨otherStats, otherCounted⟩ := Table.get?_isSome_of_mem (sameSources.mp (Table.mem_keys_of_get? counted))
    rw [counted, otherCounted] at sameCount
    rw [otherCounted]
    exact congrArg some sameCount

end Modules

/-! ## The alias pass -/

theorem aliasesFor_agrees {library other : Library} (agrees : library.modules.Agrees other.modules) :
    library.aliasesFor = other.aliasesFor := by
  funext package key name
  simp only [aliasesFor, agrees _]

theorem renewed_agrees {library other : Library} (agrees : library.modules.Agrees other.modules)
    {registry reordered : Registry} (order : registry.packages.Perm reordered.packages) :
    library.renewed registry.packages = other.renewed reordered.packages := by
  funext key f
  have found : registry.packages.find? (fun package => package.id = f.source && package.reExports) =
      reordered.packages.find? (fun package => package.id = f.source && package.reExports) := by
    refine find?_perm order fun package member another memberToo wanted wantedToo => ?_
    simp only [Bool.and_eq_true, decide_eq_true_eq] at wanted wantedToo
    exact Registry.eq_of_id member memberToo (wanted.1.trans wantedToo.1.symm)
  simp only [renewed, found, aliasesFor_agrees agrees]

theorem changeEntries_agrees {table other : Table Function} (agrees : table.Agrees other)
    (change : String → Function → Function) (m : Module) (list : List Function) :
    changeEntries table change m list = changeEntries other change m list := by
  induction list with
  | nil => rfl
  | cons f later ih => simp only [changeEntries, ih, agrees _]

/-! ## Building -/

/-- Two libraries are the same as finite maps, their types apart. -/
structure SameMaps (library other : Library) : Prop where
  modules : library.modules.Agrees other.modules
  dependencies : library.dependencies.Agrees other.dependencies
  functions : library.functions.Agrees other.functions
  atoms : library.atoms.Agrees other.atoms
  constants : library.constants.Agrees other.constants
  privateConstants : library.privateConstants.Agrees other.privateConstants
  sourceStats : library.sourceStats.Agrees other.sourceStats

theorem SameMaps.changeFunctions {library other : Library} (same : SameMaps library other)
    (change : String → Function → Function) : SameMaps (library.changeFunctions change) (other.changeFunctions change) where
  modules := by
    intro key
    simp only [Library.changeFunctions, Table.get?_map, same.modules key, changeEntries_agrees same.functions,
      changeEntries_agrees same.atoms]
  dependencies := same.dependencies
  functions := same.functions.map change
  atoms := same.atoms.map change
  constants := same.constants
  privateConstants := same.privateConstants
  sourceStats := same.sourceStats

theorem sameMaps_addModules {modules others : List Module} {sources reordered : List String} (order : modules.Perm others)
    (sourceOrder : sources.Perm reordered) (distinctSources : sources.Nodup) (includePrivate : Bool) (lastUpdated : String)
    (distinct : (modules.map Module.key).Nodup) (plain : ∀ m ∈ modules, m.PlainNames)
    (plainConstants : ∀ m ∈ modules, m.PlainConstants) :
    SameMaps ((blank lastUpdated sources).addModules includePrivate modules)
      ((blank lastUpdated reordered).addModules includePrivate others) := by
  rw [addModules_eq, addModules_eq]
  constructor
  · exact agrees_keyed order distinct fun m => m
  · exact agrees_keyed order distinct fun m => m.dependencies
  · refine agrees_insertAll_flatMap order (apart_declared distinct fun m member f declared => ?_)
    exact plain m member f (List.mem_append_left _ declared)
  · refine agrees_insertAll_flatMap order (apart_declared distinct fun m member f declared => ?_)
    exact plain m member f (List.mem_append_right _ (mem_of_mem_ifPrivate declared))
  · refine agrees_insertAll_flatMap order (apart_declared distinct fun m member c declared => ?_)
    exact plainConstants m member c (List.mem_append_left _ declared)
  · refine agrees_insertAll_flatMap order (apart_declared distinct fun m member c declared => ?_)
    exact plainConstants m member c (List.mem_append_right _ (mem_of_mem_ifPrivate declared))
  · refine agrees_countModules order (fun source => ?_) (fun source => ?_)
    · rw [keys_blank distinctSources, keys_blank (sourceOrder.nodup_iff.mp distinctSources), sourceOrder.mem_iff]
    · rw [get?_blank, get?_blank]

/-- Modules that were read from files give the same library in whatever order they come, and so do packages in whatever order
they are registered, which does not change what a file is read as either. -/
theorem build_reordered (registry reordered : Registry) (includePrivate : Bool) (now : String) (modules others : List Module)
    (packages : registry.packages.Perm reordered.packages) (order : modules.Perm others)
    (parsed : ∀ m ∈ modules, ∃ package path name content, m = Project.moduleOf registry package path name content)
    (distinct : (modules.map Module.key).Nodup) :
    SameMaps (build registry includePrivate now modules).1 (build reordered includePrivate now others).1 ∧
      ∀ package path name content,
        Project.moduleOf registry package path name content = Project.moduleOf reordered package path name content := by
  refine ⟨?_, Project.moduleOf_reordered packages⟩
  have plain : ∀ m ∈ modules, m.PlainNames := by
    intro m member
    obtain ⟨package, path, name, content, rfl⟩ := parsed m member
    exact Project.plainNames_moduleOf _ _ _ _ _
  have plainConstants : ∀ m ∈ modules, m.PlainConstants := by
    intro m member
    obtain ⟨package, path, name, content, rfl⟩ := parsed m member
    exact Project.plainConstants_moduleOf _ _ _ _ _
  have added := sameMaps_addModules order (packages.map _) registry.distinct includePrivate now distinct plain plainConstants
  rw [build, build, resolveAliases_eq_changeFunctions, resolveAliases_eq_changeFunctions,
    renewed_agrees added.modules packages]
  exact added.changeFunctions _

/-- A function and two modules that re-export it under new names. -/
def cocktails : List Module :=
  let package : Package := { id := "vodka", name := "Vodka", path := "packages/aiken-vodka/lib" }
  [Project.moduleOf Registry.default package "lib/spirits.ak" "spirits" "pub fn mix(a: Int) \x7b\n  a\n\x7d",
    Project.moduleOf Registry.default package "lib/mocktail.ak" "mocktail" "pub const stir = spirits.mix",
    Project.moduleOf Registry.default package "lib/cocktail.ak" "cocktail" "pub const shake = spirits.mix"]

/-- Aliases come in the order of the settings, whichever aggregator was added first. -/
theorem build_reordered_cocktails :
    let reordered : Registry := ⟨Registry.default.packages.reverse, by decide⟩
    SameMaps (build Registry.default true "2024" cocktails).1 (build reordered true "2024" cocktails.reverse).1 ∧
      ((build reordered true "2024" cocktails.reverse).1.functions.get? "vodka:spirits.mix").map (·.aliases) =
        some ["cocktail.shake", "mocktail.stir"] := by
  intro reordered
  have parsed : ∀ m ∈ cocktails, ∃ package path name content,
      m = Project.moduleOf Registry.default package path name content := by
    simp only [cocktails, List.forall_mem_cons]
    exact ⟨⟨_, _, _, _, rfl⟩, ⟨_, _, _, _, rfl⟩, ⟨_, _, _, _, rfl⟩, List.forall_mem_nil _⟩
  refine ⟨?_, by decide +kernel⟩
  exact (build_reordered Registry.default reordered true "2024" cocktails cocktails.reverse
    (List.reverse_perm _).symm (List.reverse_perm _).symm parsed (by decide +kernel)).1

end Library
end DeclIndex
