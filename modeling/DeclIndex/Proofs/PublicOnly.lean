import DeclIndex.Command.Run
import DeclIndex.Proofs.Collections
import DeclIndex.Proofs.Persistence

/-!
# Private declarations of a stored library

A library that was built without private declarations still stores its modules whole. Loading indexes them with the settings of
the one who loads, so the private declarations are there again unless those settings leave them out as well.
-/

namespace DeclIndex

theorem Table.entries_insertAll_eq_nil {α : Type} {entries : List (String × α)} :
    (Table.empty.insertAll entries).entries = [] ↔ entries = [] := by
  constructor
  · intro nothing
    by_contra filled
    obtain ⟨⟨key, value⟩, rest, rfl⟩ := List.exists_cons_of_ne_nil filled
    have missing : (Table.empty.insertAll ((key, value) :: rest)).get? key = none := by
      rw [Table.get?_eq_none_iff, Table.keys, nothing]
      exact List.not_mem_nil
    rw [Table.get?_insertAll, Table.get?_empty, Option.or_none, valueAt?_eq_none_iff] at missing
    exact missing (by simp)
  · rintro rfl
    rfl

/-- The private declarations of a module that go into a collection, by their names. -/
def Module.privateNames (m : Module) : Collection → List String
  | .atoms => m.atoms.map (·.name)
  | .privateTypes => m.privateTypes.map (·.name)
  | .privateConstants => m.privateConstants.map (·.name)
  | _ => []

namespace Library

/-! ## Private tables -/

theorem flatMap_declared_eq_nil {α : Type} {name : α → String} {part : Module → List α} {includePrivate : Bool}
    {modules : List Module} :
    modules.flatMap (declared name (ifPrivate includePrivate part)) = [] ↔
      includePrivate = false ∨ ∀ m ∈ modules, (part m).map name = [] := by
  rw [List.flatMap_eq_nil_iff]
  cases includePrivate <;> simp [declared, ifPrivate]

/-- The private collections of some modules are empty if private declarations are left out, or if there are none. -/
theorem entriesOf_addModules_eq_nil {kind : Collection} (isPrivate : kind.isPrivate) (includePrivate : Bool)
    (lastUpdated : String) (sources : List String) (modules : List Module) :
    ((blank lastUpdated sources).addModules includePrivate modules).entriesOf kind = [] ↔
      includePrivate = false ∨ ∀ m ∈ modules, m.privateNames kind = [] := by
  rw [addModules_eq]
  cases kind
  case atoms | privateTypes | privateConstants =>
    exact List.map_eq_nil_iff.trans (Table.entries_insertAll_eq_nil.trans flatMap_declared_eq_nil)
  all_goals exact absurd isPrivate (by decide)

/-! ## Searching -/

/-- No search in a collection has a result. -/
def FindsNothing (library : Library) (kind : Collection) : Prop :=
  ∀ query source scope limit, Command.OfLibrary.search library query kind.name source scope limit =
    .ok (Command.found query kind.name limit 0 [])

theorem entriesNamed_name (library : Library) (kind : Collection) :
    library.entriesNamed kind.name = .ok (library.entriesOf kind) := by
  have named : Collection.ofName? kind.name = some kind := by
    cases kind <;> decide +kernel
  rw [entriesNamed, named]

theorem findsNothing_iff {library : Library} {kind : Collection} :
    library.FindsNothing kind ↔ library.entriesOf kind = [] := by
  constructor
  · intro finds
    -- a blank query shows every entry
    have all := finds "" Search.allSources "" 0
    have whole : Search.rank (·.item) "" Search.allSources "" (library.entriesOf kind) = library.entriesOf kind := by
      simp [Search.rank, Search.isBlankQuery, Search.select, Search.Item.isFrom, Search.Item.isIn]
    simp only [Command.OfLibrary.search, entriesNamed_name, whole] at all
    by_contra filled
    have counted : (library.entriesOf kind).length ≠ 0 := fun empty => filled (List.eq_nil_of_length_eq_zero empty)
    simp only [Command.found, counted, if_true, if_false] at all
    split at all <;> cases all
  · intro nothing query source scope limit
    have noResult : Search.rank (·.item) query source scope ([] : List Entry) = [] := by
      simp [Search.rank, Search.select, Search.scored]
    have noRow : Command.shown limit ([] : List Entry) = [] := by
      simp [Command.shown]
    simp only [Command.OfLibrary.search, entriesNamed_name, nothing, noResult, noRow, List.length_nil, List.map_nil]

/-! ## Building, saving and loading -/

theorem entriesOf_changeFunctions_eq_nil {library : Library} {change : String → Function → Function} {kind : Collection} :
    (library.changeFunctions change).entriesOf kind = [] ↔ library.entriesOf kind = [] := by
  cases kind <;> simp [entriesOf, changeFunctions, Table.map]

/-- A file that a library was saved in holds its modules only; the rest is indexed again with the settings of the reader. -/
theorem load_saved {entries : List (String × Node)} {tree : Node} {library : Library} {path : Path} {depth : Nat}
    (includePrivate : Bool) (saved : Project.save (.folder entries) library path = (tree, .ok ()))
    (inverse : Json.parse depth library.saved = .ok library.document) :
    Project.load tree depth includePrivate path = .ok (some (.library (library.rebuild includePrivate))) := by
  rw [Project.load_save ⟨entries, rfl⟩ saved, load, inverse]
  simp only [ofDocument_document]
  rfl

/-- A library that was built without private declarations has none; loaded again, it has none only if the one who loads leaves
them out too or if no module declares any. -/
theorem findsNothing_publicOnly (registry : Registry) (now : String) (modules : List Module) (includePrivate : Bool) :
    let library := (build registry false now modules).1
    ∃ loaded, ofDocument includePrivate library.document = .ok (.library loaded) ∧
      (∀ depth entries path tree, Json.parse depth library.saved = .ok library.document →
        Project.save (.folder entries) library path = (tree, .ok ()) →
          Project.load tree depth includePrivate path = .ok (some (.library loaded))) ∧
      ∀ kind : Collection, kind.isPrivate → library.FindsNothing kind ∧
        (loaded.FindsNothing kind ↔ includePrivate = false ∨ ∀ m ∈ library.modules.values, m.privateNames kind = []) := by
  intro library
  refine ⟨library.rebuild includePrivate, ofDocument_document includePrivate library, ?_, ?_⟩
  · intro depth entries path tree inverse saved
    exact load_saved includePrivate saved inverse
  · intro kind isPrivate
    constructor
    · rw [findsNothing_iff]
      simp only [library, build, resolveAliases_eq_changeFunctions, entriesOf_changeFunctions_eq_nil]
      exact (entriesOf_addModules_eq_nil isPrivate false now _ modules).mpr (Or.inl rfl)
    · rw [findsNothing_iff]
      exact entriesOf_addModules_eq_nil isPrivate includePrivate _ _ _

/-- A module with a private function and nothing else. -/
def withHelper : Module :=
  Project.moduleOf Registry.default { id := "stdlib", name := "Standard library", path := "packages/aiken-stdlib" }
    "packages/aiken-stdlib/math.ak" "math" "fn helper(a: Int) -> Int \x7b\n  a\n\x7d\n"

/-- The settings of a project that say nothing of private declarations bring those of a public-only library back. -/
theorem publicOnly_forgotten :
    let library := (build Registry.default false "2024" [withHelper]).1
    let settings : Settings := { projectDir := ⟨"/", []⟩ }
    library.atoms.keys = [] ∧
      ∃ loaded, Project.load (.folder [("library.json", .file library.saved.toUTF8)]) 100 settings.includePrivate
          ⟨"/", ["library.json"]⟩ = .ok (some (.library loaded)) ∧
        loaded.atoms.keys = ["stdlib:math.helper"] := by
  intro library settings
  refine ⟨by decide +kernel, library.rebuild true, ?_, by decide +kernel⟩
  exact load_saved true (save_newFile library) (Json.parse_pretty (by decide +kernel))

theorem findsNothing_publicOnly_withHelper :
    let library := (build Registry.default false "2024" [withHelper]).1
    ∃ loaded, Project.load (.folder [("library.json", .file library.saved.toUTF8)]) 100 true ⟨"/", ["library.json"]⟩ =
        .ok (some (.library loaded)) ∧
      library.FindsNothing .atoms ∧ ¬ loaded.FindsNothing .atoms ∧ loaded.FindsNothing .privateTypes := by
  intro library
  obtain ⟨loaded, _, loads, finds⟩ := findsNothing_publicOnly Registry.default "2024" [withHelper] true
  refine ⟨loaded, loads 100 [] _ _ (Json.parse_pretty (by decide +kernel)) (save_newFile _), (finds .atoms rfl).1, ?_, ?_⟩
  · rw [(finds .atoms rfl).2]
    decide +kernel
  · rw [(finds .privateTypes rfl).2]
    decide +kernel

end Library
end DeclIndex
