import DeclIndex.Command.Run
import DeclIndex.Proofs.AikenScan
import DeclIndex.Proofs.Aliases
import DeclIndex.Proofs.Collections
import DeclIndex.Proofs.Records
import DeclIndex.Proofs.TypeScriptScan
import Mathlib.Algebra.BigOperators.Group.List.Basic

/-!
# Counters and tables

The counters of a package count what its modules declare, and the tables hold what is left of that. A declaration is counted and
yet no entry if private declarations are left out, or if another one is put in under its key later. Apart from these, counters
and tables agree, and the rows of the statistics add up to the totals.
-/

namespace DeclIndex

namespace Collection

/-- The package that a value of a collection comes from. -/
def sourceOf : (kind : Collection) → kind.Value → String
  | .modules => Module.source
  | .functions => Function.source
  | .atoms => Function.source
  | .types => TypeDef.source
  | .privateTypes => TypeDef.source
  | .constants => Constant.source
  | .privateConstants => Constant.source

/-- The counter of a collection. -/
def count : Collection → Stats → Nat
  | .modules => Stats.modules
  | .functions => Stats.functions
  | .atoms => Stats.atoms
  | .types => Stats.types
  | .privateTypes => Stats.privateTypes
  | .constants => Stats.constants
  | .privateConstants => Stats.privateConstants

theorem count_blank (kind : Collection) : kind.count {} = 0 := by
  cases kind <;> rfl

theorem count_add (kind : Collection) (stats : Stats) (m : Module) :
    kind.count (stats.add m) = kind.count stats + (m.declaredFor kind).length := by
  cases kind <;> simp [count, Stats.add, Module.declaredFor, Library.declared]

end Collection

/-! ## The packages of declarations -/

/-- The package that a declaration was read for. -/
def Declaration.source : Declaration → String
  | .imported i => i.source
  | .function f => f.source
  | .type t => t.source
  | .constant c => c.source

theorem Aiken.source_of_mem {origin : Origin} {text : String} {declaration : Declaration}
    (member : declaration ∈ (scan origin text).declarations) : declaration.source = origin.source := by
  obtain ⟨front, line, below, length, _, introduced⟩ := introduced_of_mem member
  cases declaration with
  | imported i =>
    obtain ⟨head, _, rfl, _⟩ := introduced
    rfl
  | function f =>
    obtain ⟨head, _, rfl, _⟩ := introduced
    rfl
  | type t =>
    obtain ⟨head, _, typed⟩ := introduced
    unfold typeAt? at typed
    dsimp only at typed
    split at typed
    · cases typed
    · cases typed
      rfl
  | constant c =>
    obtain ⟨head, _, same⟩ := introduced
    cases same
    rfl

theorem TypeScript.source_of_mem {source text : String} {declaration : Declaration}
    (member : declaration ∈ (scan source text).declarations) : declaration.source = source := by
  obtain ⟨front, line, below, length, _, introduced⟩ := introduced_of_mem member
  cases declaration with
  | imported i =>
    obtain ⟨head, _, rfl⟩ := Option.map_eq_some_iff.mp introduced.1
    rfl
  | function f =>
    obtain ⟨name, _, rfl, _⟩ := introduced
    rfl
  | type t =>
    obtain ⟨head, _, same⟩ := introduced
    cases same
    rfl
  | constant c =>
    obtain ⟨head, _, rfl⟩ := Option.map_eq_some_iff.mp introduced.1
    rfl

/-- All that a module declares bears the package of the module. -/
def Module.Owned (m : Module) : Prop :=
  ∀ kind, ∀ entry ∈ m.declaredFor kind, kind.sourceOf entry.2 = m.source

theorem Module.owned_ofOutline {path name source content : String} {outline : Outline} {isAggregator : Bool}
    (read : ∀ declaration ∈ outline.declarations, declaration.source = source) :
    (ofOutline path name source content outline isAggregator).Owned := by
  have functions : ∀ f ∈ outline.functions, f.source = source := fun f member =>
    read _ ((Outline.mem_declarations (.function f)).mpr member)
  have types : ∀ t ∈ outline.types, t.source = source := fun t member =>
    read _ ((Outline.mem_declarations (.type t)).mpr member)
  have constants : ∀ c ∈ outline.constants, c.source = source := fun c member =>
    read _ ((Outline.mem_declarations (.constant c)).mpr member)
  intro kind
  cases kind <;>
    simp only [declaredFor, Library.declared, ofOutline, Collection.sourceOf, List.forall_mem_map, List.mem_filter,
      List.mem_singleton, forall_eq] <;>
    grind

theorem Project.owned_moduleOf (registry : Registry) (package : Package) (path name content : String) :
    (moduleOf registry package path name content).Owned := by
  unfold moduleOf
  split
  · exact Module.owned_ofOutline fun _ => TypeScript.source_of_mem
  · exact Module.owned_ofOutline fun _ => Aiken.source_of_mem

namespace Library

/-- What the counters of a package say about a collection. -/
def counted (library : Library) (source : String) (kind : Collection) : Nat :=
  kind.count ((library.sourceStats.get? source).getD {})

/-- How many entries of a collection come from a package. -/
def entriesFrom (library : Library) (source : String) (kind : Collection) : Nat :=
  ((library.tableOf kind).values.map kind.sourceOf).count source

/-- The sum of a column of the statistics, with a row for each package that has counters. -/
def columnSum (library : Library) (kind : Collection) : Nat :=
  (library.sourceStats.values.map kind.count).sum

theorem count_totals (library : Library) (kind : Collection) :
    kind.count (Command.OfLibrary.totals library) = ((library.tableOf kind).values.map kind.sourceOf).length := by
  cases kind <;> simp [Collection.count, Command.OfLibrary.totals, tableOf, Table.size, Table.values]

/-! ## What is counted -/

section Counting

variable {kind : Collection}

theorem count_adds (modules : List Module) (stats : Stats) :
    kind.count (modules.foldl Stats.add stats) = kind.count stats + (modules.flatMap (·.declaredFor kind)).length := by
  induction modules generalizing stats with
  | nil => simp
  | cons m rest ih =>
    rw [List.foldl_cons, ih, Collection.count_add, List.flatMap_cons, List.length_append, Nat.add_assoc]

/-- In a module that owns its declarations they are of its package all or none. -/
theorem countP_declaredFor {m : Module} (owned : m.Owned) (source : String) :
    (m.declaredFor kind).countP (fun entry => kind.sourceOf entry.2 = source) =
      if m.source = source then (m.declaredFor kind).length else 0 := by
  split
  · next own =>
    rw [List.countP_eq_length]
    intro entry member
    simp [owned kind entry member, own]
  · next foreign =>
    rw [List.countP_eq_zero]
    intro entry member
    simp [owned kind entry member, foreign]

theorem length_declaredFor_own {modules : List Module} (owned : ∀ m ∈ modules, m.Owned) (source : String) :
    ((modules.filter (·.source = source)).flatMap (·.declaredFor kind)).length =
      (modules.flatMap (·.declaredFor kind)).countP fun entry => kind.sourceOf entry.2 = source := by
  induction modules with
  | nil => rfl
  | cons m rest ih =>
    obtain ⟨here, below⟩ := List.forall_mem_cons.mp owned
    rw [List.flatMap_cons, List.countP_append, countP_declaredFor here, ← ih below, List.filter_cons]
    by_cases own : m.source = source <;> simp [own]

/-- One more module adds what it declares to the sum of a column. -/
theorem sum_countModule (counters : Table Stats) (m : Module) :
    ((countModule counters m).values.map kind.count).sum =
      (counters.values.map kind.count).sum + (m.declaredFor kind).length := by
  have changed := Table.sum_insert kind.count counters m.source (((counters.get? m.source).getD {}).add m)
  have before : ((counters.get? m.source).map kind.count).getD 0 = kind.count ((counters.get? m.source).getD {}) := by
    cases counters.get? m.source with
    | none => simp [Collection.count_blank]
    | some stats => rfl
  rw [before, Collection.count_add] at changed
  rw [countModule]
  omega

theorem sum_countModules (modules : List Module) (counters : Table Stats) :
    ((modules.foldl countModule counters).values.map kind.count).sum =
      (counters.values.map kind.count).sum + (modules.flatMap (·.declaredFor kind)).length := by
  induction modules generalizing counters with
  | nil => simp
  | cons m rest ih =>
    rw [List.foldl_cons, ih, sum_countModule, List.flatMap_cons, List.length_append, Nat.add_assoc]

theorem sum_blank (lastUpdated : String) (sources : List String) : (blank lastUpdated sources).columnSum kind = 0 := by
  apply List.sum_eq_zero
  intro count member
  obtain ⟨stats, held, rfl⟩ := List.mem_map.mp member
  obtain ⟨⟨source, _⟩, entry, rfl⟩ := List.mem_map.mp held
  have found := get?_blank lastUpdated sources source
  rw [Table.mem_entries_iff.mp entry, Option.getD_some] at found
  rw [found, Collection.count_blank]

end Counting

/-! ## What is left in the tables -/

/-- Of what some modules declare for a collection, everything that is wanted is an entry in the end. -/
structure KeepsAll (includePrivate : Bool) (modules : List Module) (kind : Collection) (wanted : kind.Value → Bool) : Prop where
  /-- Nothing that is wanted is left out as private. -/
  shown : ∀ m ∈ modules, ∀ entry ∈ m.declaredFor kind, wanted entry.2 → kind.isPrivate → includePrivate
  /-- Nothing that is wanted is followed by another declaration with its key. -/
  kept : (modules.flatMap (·.declaredFor kind)).Pairwise fun entry later => wanted entry.2 → entry.1 ≠ later.1

section Run

variable {includePrivate : Bool} {lastUpdated : String} {sources : List String} {modules : List Module} {kind : Collection}
  {wanted : kind.Value → Bool}

theorem flatMap_indexedFor :
    modules.flatMap (·.indexedFor includePrivate kind) =
      if kind.isPrivate && !includePrivate then [] else modules.flatMap (·.declaredFor kind) := by
  by_cases hidden : kind.isPrivate && !includePrivate <;> simp [Module.indexedFor, hidden]

theorem countP_tableOf :
    (((blank lastUpdated sources).addModules includePrivate modules).tableOf kind).values.countP wanted =
      (Table.lastEntries (if kind.isPrivate && !includePrivate then [] else modules.flatMap (·.declaredFor kind))).countP
        fun entry => wanted entry.2 := by
  rw [Table.values, List.countP_map, tableOf_addModules, tableOf_blank, flatMap_indexedFor]
  exact (Table.perm_lastEntries _).countP_eq _

theorem countP_tableOf_le :
    (((blank lastUpdated sources).addModules includePrivate modules).tableOf kind).values.countP wanted ≤
      (modules.flatMap (·.declaredFor kind)).countP fun entry => wanted entry.2 := by
  rw [countP_tableOf]
  split
  · exact Nat.zero_le _
  · exact Table.countP_lastEntries_le _ _

theorem countP_tableOf_eq_iff :
    (((blank lastUpdated sources).addModules includePrivate modules).tableOf kind).values.countP wanted =
      (modules.flatMap (·.declaredFor kind)).countP (fun entry => wanted entry.2) ↔
    KeepsAll includePrivate modules kind wanted := by
  rw [countP_tableOf]
  split
  · next hidden =>
    simp only [Bool.and_eq_true, Bool.not_eq_true'] at hidden
    obtain ⟨isPrivate, left⟩ := hidden
    have none : (Table.lastEntries ([] : List (String × kind.Value))).countP (fun entry => wanted entry.2) = 0 := rfl
    rw [none, eq_comm, List.countP_eq_zero]
    constructor
    · intro unwanted
      refine ⟨fun m member entry declares counts => ?_, ?_⟩
      · exact absurd counts (unwanted entry (List.mem_flatMap.mpr ⟨m, member, declares⟩))
      · exact List.pairwise_of_forall_mem_list fun entry member _ _ counts => absurd counts (unwanted entry member)
    · intro keeps entry member counts
      obtain ⟨m, added, declares⟩ := List.mem_flatMap.mp member
      rw [keeps.shown m added entry declares counts isPrivate] at left
      cases left
  · next shown =>
    rw [Table.countP_lastEntries_eq_iff]
    refine ⟨fun kept => ⟨?_, kept⟩, KeepsAll.kept⟩
    intro _ _ _ _ _ isPrivate
    simpa [isPrivate] using shown

/-- The counters of a package count what its modules declare. -/
theorem counted_addModules (owned : ∀ m ∈ modules, m.Owned) (source : String) :
    ((blank lastUpdated sources).addModules includePrivate modules).counted source kind =
      (modules.flatMap (·.declaredFor kind)).countP fun entry => kind.sourceOf entry.2 = source := by
  rw [counted, addModules_eq, get?_countModules, get?_blank, count_adds, Collection.count_blank, Nat.zero_add,
    length_declaredFor_own owned]

/-- The rows of the statistics add up to everything that the modules declare. -/
theorem columnSum_addModules :
    ((blank lastUpdated sources).addModules includePrivate modules).columnSum kind =
      (modules.flatMap (·.declaredFor kind)).countP fun _ => true := by
  have start : ((blank lastUpdated sources).sourceStats.values.map kind.count).sum = 0 := sum_blank lastUpdated sources
  rw [columnSum, addModules_eq, sum_countModules, start, Nat.zero_add, List.countP_true]

theorem totals_addModules :
    kind.count (Command.OfLibrary.totals ((blank lastUpdated sources).addModules includePrivate modules)) =
      (((blank lastUpdated sources).addModules includePrivate modules).tableOf kind).values.countP fun _ => true := by
  rw [count_totals, List.length_map, List.countP_true]

theorem totals_le :
    kind.count (Command.OfLibrary.totals ((blank lastUpdated sources).addModules includePrivate modules)) ≤
      ((blank lastUpdated sources).addModules includePrivate modules).columnSum kind := by
  rw [totals_addModules, columnSum_addModules]
  exact countP_tableOf_le

theorem totals_eq_iff :
    kind.count (Command.OfLibrary.totals ((blank lastUpdated sources).addModules includePrivate modules)) =
      ((blank lastUpdated sources).addModules includePrivate modules).columnSum kind ↔
    KeepsAll includePrivate modules kind fun _ => true := by
  rw [totals_addModules, columnSum_addModules]
  exact countP_tableOf_eq_iff

end Run

theorem keepsAll_iff_sources {includePrivate : Bool} {modules : List Module} {kind : Collection} :
    KeepsAll includePrivate modules kind (fun _ => true) ↔
      ∀ source, KeepsAll includePrivate modules kind fun value => kind.sourceOf value = source := by
  constructor
  · intro keeps source
    exact ⟨fun m member entry declares _ => keeps.shown m member entry declares rfl, keeps.kept.imp fun apart _ => apart rfl⟩
  · intro keeps
    refine ⟨fun m member entry declares _ => ?_, ?_⟩
    · exact (keeps (kind.sourceOf entry.2)).shown m member entry declares (by simp)
    · refine List.pairwise_iff_forall_sublist.mpr fun {entry later} pair _ => ?_
      exact List.pairwise_iff_forall_sublist.mp (keeps (kind.sourceOf entry.2)).kept pair (by simp)

/-! ## The alias pass -/

/-- Changed functions stay entries, and of their packages. -/
theorem sources_changeFunctions {change : String → Function → Function} (keeps : ∀ key f, (change key f).source = f.source)
    (library : Library) (kind : Collection) :
    ((library.changeFunctions change).tableOf kind).values.map kind.sourceOf =
      (library.tableOf kind).values.map kind.sourceOf := by
  cases kind <;>
    simp [tableOf, changeFunctions, Table.values, Table.map, Collection.sourceOf, Function.comp_def, keeps]

theorem source_renewed (library : Library) (packages : List Package) (key : String) (f : Function) :
    (library.renewed packages key f).source = f.source := by
  rcases library.renewed_cases packages key f with same | ⟨_, _, _, _, same⟩ <;> rw [same]

section Build

variable {registry : Registry} {includePrivate : Bool} {now : String} {modules : List Module} {kind : Collection}

theorem sources_build :
    ((build registry includePrivate now modules).1.tableOf kind).values.map kind.sourceOf =
      (((blank now (registry.packages.map (·.id))).addModules includePrivate modules).tableOf kind).values.map
        kind.sourceOf := by
  rw [build, resolveAliases_eq_changeFunctions]
  exact sources_changeFunctions (source_renewed _ _) _ kind

theorem sourceStats_build :
    (build registry includePrivate now modules).1.sourceStats =
      ((blank now (registry.packages.map (·.id))).addModules includePrivate modules).sourceStats := by
  rw [build, resolveAliases_eq_changeFunctions]
  rfl

theorem entriesFrom_build (source : String) :
    (build registry includePrivate now modules).1.entriesFrom source kind =
      (((blank now (registry.packages.map (·.id))).addModules includePrivate modules).tableOf kind).values.countP fun value =>
        kind.sourceOf value = source := by
  rw [entriesFrom, sources_build, List.count, List.countP_map]
  rfl

theorem counted_build (owned : ∀ m ∈ modules, m.Owned) (source : String) :
    (build registry includePrivate now modules).1.counted source kind =
      (modules.flatMap (·.declaredFor kind)).countP fun entry => kind.sourceOf entry.2 = source := by
  rw [counted, sourceStats_build]
  exact counted_addModules owned source

theorem totals_build :
    kind.count (Command.OfLibrary.totals (build registry includePrivate now modules).1) =
      kind.count (Command.OfLibrary.totals
        ((blank now (registry.packages.map (·.id))).addModules includePrivate modules)) := by
  rw [count_totals, count_totals, sources_build]

theorem columnSum_build :
    (build registry includePrivate now modules).1.columnSum kind =
      ((blank now (registry.packages.map (·.id))).addModules includePrivate modules).columnSum kind := by
  rw [columnSum, columnSum, sourceStats_build]

end Build

/-- The counters of a package are never below the number of its entries, and equal to it exactly if all that its modules
declare is kept. The total of a column of the statistics is the sum of its rows exactly if the counters of every package are
equal to the numbers of their entries. For a library that was saved and is loaded again this is settled by the modules that it
stores. -/
theorem counters_exact_iff (registry : Registry) (includePrivate : Bool) (now : String) (modules : List Module)
    (owned : ∀ m ∈ modules, m.Owned) :
    let library := (build registry includePrivate now modules).1
    (∀ source kind, library.entriesFrom source kind ≤ library.counted source kind ∧
      (library.entriesFrom source kind = library.counted source kind ↔
        KeepsAll includePrivate modules kind fun value => kind.sourceOf value = source)) ∧
    (∀ kind, kind.count (Command.OfLibrary.totals library) ≤ library.columnSum kind ∧
      (kind.count (Command.OfLibrary.totals library) = library.columnSum kind ↔
        ∀ source, library.entriesFrom source kind = library.counted source kind)) ∧
    ∀ showPrivate, ∃ loaded, ofDocument showPrivate library.document = .ok (.library loaded) ∧
      ∀ kind, kind.count (Command.OfLibrary.totals loaded) ≤ loaded.columnSum kind ∧
        (kind.count (Command.OfLibrary.totals loaded) = loaded.columnSum kind ↔
          KeepsAll showPrivate library.modules.values kind fun _ => true) := by
  intro library
  have perSource (source : String) (kind : Collection) :
      library.entriesFrom source kind = library.counted source kind ↔
        KeepsAll includePrivate modules kind fun value => kind.sourceOf value = source := by
    rw [entriesFrom_build, counted_build owned]
    exact countP_tableOf_eq_iff
  refine ⟨fun source kind => ⟨?_, perSource source kind⟩, fun kind => ⟨?_, ?_⟩, fun showPrivate => ?_⟩
  · rw [entriesFrom_build, counted_build owned]
    exact countP_tableOf_le
  · rw [totals_build, columnSum_build]
    exact totals_le
  · rw [totals_build, columnSum_build, totals_eq_iff, keepsAll_iff_sources]
    simp only [perSource]
  · exact ⟨library.rebuild showPrivate, ofDocument_document showPrivate library, fun kind => ⟨totals_le, totals_eq_iff⟩⟩

/-- Two files that give one module name. The first has a private function, the second one name for two functions. -/
def overlapping : List Module :=
  let package : Package := { id := "stdlib", name := "Standard Library", path := "packages/aiken-stdlib" }
  [Project.moduleOf Registry.default package "packages/aiken-stdlib/a/b.ak" "a.b"
      "fn half(x: Int) -> Int \x7b\n  x / 2\n\x7d\n",
    Project.moduleOf Registry.default package "packages/aiken-stdlib/a.b.ak" "a.b"
      "pub fn add(x: Int) -> Int \x7b\n  x\n\x7d\n\npub fn add(y: Int) -> Int \x7b\n  y\n\x7d\n"]

theorem owned_overlapping : ∀ m ∈ overlapping, m.Owned := by
  intro m member
  simp only [overlapping, List.mem_cons, List.not_mem_nil, or_false] at member
  rcases member with rfl | rfl <;> apply Project.owned_moduleOf

theorem counters_exact_iff_overlapping :
    (∀ m ∈ overlapping, m.Owned) ∧
      KeepsAll true overlapping .atoms (fun f => f.source = "stdlib") ∧
      ¬ KeepsAll false overlapping .atoms (fun f => f.source = "stdlib") ∧
      ¬ KeepsAll true overlapping .functions (fun f => f.source = "stdlib") := by
  have shown := (counters_exact_iff Registry.default true "2024" overlapping owned_overlapping).1 "stdlib"
  have hidden := (counters_exact_iff Registry.default false "2024" overlapping owned_overlapping).1 "stdlib"
  exact ⟨owned_overlapping, (shown .atoms).2.mp (by decide +kernel), mt (hidden .atoms).2.mpr (by decide +kernel),
    mt (shown .functions).2.mpr (by decide +kernel)⟩

/-- One module, one function and no private function are entries, and the counters say two, two and one. The totals fall short
of the sums of the rows by as much. -/
theorem counters_above_entries :
    let library := (build Registry.default false "2024" overlapping).1
    let shown : List Collection := [.modules, .functions, .atoms]
    (shown.map fun kind => (library.entriesFrom "stdlib" kind, library.counted "stdlib" kind)) = [(1, 2), (1, 2), (0, 1)] ∧
      (shown.map fun kind => (kind.count (Command.OfLibrary.totals library), library.columnSum kind)) =
        [(1, 2), (1, 2), (0, 1)] := by
  decide +kernel

end Library

end DeclIndex
