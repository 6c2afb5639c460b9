import DeclIndex.Proofs.DeclaredNames
import DeclIndex.Proofs.ReplacedModules

/-!
# Declarations of stored modules are found

All modules share one table for each kind of declaration. The name of a function or constant has no dot, so a key of the table
tells the key of its module, whatever dots and colons are in that. A later module under another key leaves the entries of a
stored module alone, and under each of its names is the last declaration of that name.
-/

namespace DeclIndex.Library

/-! ## Declarations of one name -/

section Names

variable {α : Type} {name : α → String}

/-- No declaration behind this one has its name. -/
def LastNamed (name : α → String) (list : List α) (d : α) : Prop :=
  ∃ front back, list = front ++ d :: back ∧ ∀ e ∈ back, name e ≠ name d

theorem exists_lastNamed (name : α → String) {list : List α} {d : α} (member : d ∈ list) :
    ∃ last, name last = name d ∧ LastNamed name list last := by
  induction list generalizing d with
  | nil => cases member
  | cons first rest ih =>
    by_cases again : ∃ e ∈ rest, name e = name d
    · obtain ⟨e, inRest, same⟩ := again
      obtain ⟨last, named, front, back, rfl, final⟩ := ih inRest
      exact ⟨last, named.trans same, first :: front, back, rfl, final⟩
    · push Not at again
      rcases List.mem_cons.mp member with rfl | inRest
      · exact ⟨d, rfl, [], rest, rfl, again⟩
      · exact absurd rfl (again d inRest)

/-- Of the declarations of a module under one key the last is found. -/
theorem valueAt?_declared {part : Module → List α} {m : Module} {d : α} (last : LastNamed name (part m) d) :
    valueAt? (m.keyFor (name d)) (declared name part m).reverse = some d := by
  obtain ⟨front, back, split, final⟩ := last
  have absent : valueAt? (m.keyFor (name d)) (back.map fun e => (m.keyFor (name e), e)).reverse = none := by
    rw [valueAt?_eq_none_iff, List.map_reverse, List.mem_reverse, List.map_map]
    intro held
    obtain ⟨e, behind, same⟩ := List.mem_map.mp held
    exact final e behind (Module.keyFor_right_inj same)
  rw [declared, split, List.map_append, List.map_cons, List.reverse_append, List.reverse_cons, valueAt?_append,
    valueAt?_append, absent]
  simp [valueAt?]

/-- Under the name of each of some declarations of a module is the last declaration of that name. -/
def Finds (table : Table α) (name : α → String) (m : Module) (list : List α) : Prop :=
  ∀ d ∈ list, ∃ last, table.get? (m.keyFor (name d)) = some last ∧ name last = name d ∧ LastNamed name list last

end Names

/-! ## Runs -/

section Run

variable {includePrivate : Bool} {lastUpdated : String} {sources : List String} {modules : List Module}

/-- The declarations of a stored module are found, if names of their kind have no dots. -/
theorem finds_of_plain (kind : Collection) {name : kind.Value → String} {part : Module → List kind.Value}
    (indexed : ∀ m : Module, m.indexedFor includePrivate kind = declared name part m)
    (plain : ∀ m ∈ modules, ∀ d ∈ part m, '.' ∉ (name d).toList) {m : Module}
    (stored : m ∈ ((blank lastUpdated sources).addModules includePrivate modules).modules.values) :
    Finds (((blank lastUpdated sources).addModules includePrivate modules).tableOf kind) name m (part m) := by
  intro d member
  obtain ⟨before, after, split, current⟩ := mem_modules_iff.mp stored
  obtain ⟨last, named, final⟩ := exists_lastNamed name member
  have inModules : m ∈ modules := by rw [split]; exact List.mem_append_right before List.mem_cons_self
  refine ⟨last, ?_, named, final⟩
  rw [← named, ← Table.mem_entries_iff]
  refine mem_tableOf_iff.mpr ⟨before, m, after, split, ?_, ?_⟩
  · rw [indexed]
    exact valueAt?_declared final
  -- a later module with this key would have the key of the stored one
  · intro later behind held
    rw [indexed, declared, List.map_map, List.mem_map] at held
    obtain ⟨e, ofLater, same⟩ := held
    have inModulesToo : later ∈ modules := by
      rw [split]
      exact List.mem_append_right before (List.mem_cons_of_mem m behind)
    have plainLast : '.' ∉ (name last).toList := by rw [named]; exact plain m inModules d member
    have keys := (Module.keyFor_inj (plain later inModulesToo e ofLater) plainLast same).1
    exact current (keys ▸ List.mem_map_of_mem behind)

end Run

/-- One more module brings its dependencies along. -/
theorem dependencies_addModule {library : Library} (along : library.dependencies = library.modules.map fun _ m => m.dependencies)
    (includePrivate : Bool) (m : Module) :
    (library.addModule includePrivate m).dependencies =
      (library.addModule includePrivate m).modules.map fun _ m => m.dependencies := by
  rw [addModule]
  dsimp only
  rw [along, Table.map_insert]

theorem dependencies_addModules {library : Library} (along : library.dependencies = library.modules.map fun _ m => m.dependencies)
    (includePrivate : Bool) (modules : List Module) :
    (library.addModules includePrivate modules).dependencies =
      (library.addModules includePrivate modules).modules.map fun _ m => m.dependencies := by
  induction modules generalizing library with
  | nil => exact along
  | cons m rest ih => exact ih (dependencies_addModule along includePrivate m)

/-- After any run of modules that were read from files, each function and constant of a module of the library, private ones if
they are asked for, is found under its name unless a later one of that module has the name; and the dependencies of the library
are those of its modules, in their order. -/
theorem declarations_found (includePrivate : Bool) (lastUpdated : String) (sources : List String) (modules : List Module)
    (parsed : ∀ m ∈ modules, ∃ registry package path name content, m = Project.moduleOf registry package path name content) :
    let library := (blank lastUpdated sources).addModules includePrivate modules
    (∀ m ∈ library.modules.values,
      Finds library.functions (·.name) m m.functions ∧ Finds library.constants (·.name) m m.constants ∧
      (includePrivate →
        Finds library.atoms (·.name) m m.atoms ∧ Finds library.privateConstants (·.name) m m.privateConstants)) ∧
    library.dependencies = library.modules.map fun _ m => m.dependencies := by
  intro library
  have plain : ∀ m ∈ modules, m.PlainNames := by
    intro m member
    obtain ⟨registry, package, path, name, content, rfl⟩ := parsed m member
    exact Project.plainNames_moduleOf registry package path name content
  have plainConstants : ∀ m ∈ modules, m.PlainConstants := by
    intro m member
    obtain ⟨registry, package, path, name, content, rfl⟩ := parsed m member
    exact Project.plainConstants_moduleOf registry package path name content
  refine ⟨fun m stored => ⟨?_, ?_, fun asked => ⟨?_, ?_⟩⟩, dependencies_addModules rfl includePrivate modules⟩
  · exact finds_of_plain .functions (fun _ => rfl) (fun n member f inside => plain n member f (by simp [inside])) stored
  · exact finds_of_plain .constants (fun _ => rfl) (fun n member c inside => plainConstants n member c (by simp [inside])) stored
  · exact finds_of_plain .atoms (fun _ => by rw [asked]; rfl) (fun n member f inside => plain n member f (by simp [inside])) stored
  · exact finds_of_plain .privateConstants (fun _ => by rw [asked]; rfl)
      (fun n member c inside => plainConstants n member c (by simp [inside])) stored

/-- A module with two functions of one name, and a module that is named like the functions. -/
def sameNames : List Module :=
  let package : Package := { id := "stdlib", name := "Standard Library", path := "packages/aiken-stdlib" }
  [Project.moduleOf Registry.default package "packages/aiken-stdlib/math.ak" "math"
      "pub fn add(x: Int) \x7b\n  x\n\x7d\n\npub fn add(y: Int) \x7b\n  y\n\x7d\n",
    Project.moduleOf Registry.default package "packages/aiken-stdlib/math/add.ak" "math.add"
      "const zero = 0\n\npub fn add(z: Int) \x7b\n  z\n\x7d\n"]

/-- The second function is found, and the module that is named like it is no obstacle. -/
theorem declarations_found_sameNames :
    let library := (blank "2024" []).addModules true sameNames
    library.functions.keys = ["stdlib:math.add", "stdlib:math.add.add"] ∧
      (library.functions.get? "stdlib:math.add").map (·.line) = some 5 ∧
      ∀ m ∈ sameNames, Finds library.functions (·.name) m m.functions ∧
        Finds library.privateConstants (·.name) m m.privateConstants := by
  intro library
  have parsed : ∀ m ∈ sameNames, ∃ registry package path name content,
      m = Project.moduleOf registry package path name content := by
    simp only [sameNames, List.forall_mem_cons]
    exact ⟨⟨_, _, _, _, _, rfl⟩, ⟨_, _, _, _, _, rfl⟩, List.forall_mem_nil _⟩
  have stored : library.modules.values = sameNames := by decide +kernel
  refine ⟨by decide +kernel, by decide +kernel, fun m member => ?_⟩
  have found := (declarations_found true "2024" [] sameNames parsed).1 m (stored.symm ▸ member)
  exact ⟨found.1, (found.2.2 rfl).2⟩

end DeclIndex.Library
