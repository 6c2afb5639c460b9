import DeclIndex.Proofs.Aliases
import DeclIndex.Proofs.FileTree
import DeclIndex.Proofs.DeclaredNames
import DeclIndex.Proofs.JsonText
import DeclIndex.Proofs.Modules
import DeclIndex.Proofs.Records

/-!
# Loading gives the library that was saved

Only the modules of a stored library are read; everything else is worked out from them again. That gives the same library
because a library stays coherent: its tables are those of its modules, also after the alias pass has changed functions in both.
-/

namespace DeclIndex

theorem Table.insertAll_entries {α : Type} (table : Table α) : Table.empty.insertAll table.entries = table :=
  Table.eq_of_entries (Table.entries_insertAll_of_fresh table.distinct (by simp))

namespace Library

/-! ## Functions in tables and in modules -/

/-- Functions with the keys that they have in a module. -/
def underKeys (m : Module) (list : List Function) : List (String × Function) :=
  list.map fun f => (m.keyFor f.name, f)

theorem mem_underKeys {m : Module} {list : List Function} {key : String} {f : Function} :
    (key, f) ∈ underKeys m list ↔ f ∈ list ∧ m.keyFor f.name = key := by
  simp only [underKeys, List.mem_map, Prod.mk.injEq]
  constructor
  · rintro ⟨g, member, same, rfl⟩
    exact ⟨member, same⟩
  · rintro ⟨member, same⟩
    exact ⟨f, member, same, rfl⟩

theorem keys_underKeys (m : Module) (list : List Function) :
    (underKeys m list).map (·.1) = (list.map (·.name)).map m.keyFor := by
  simp [underKeys, Function.comp_def]

theorem valueAt?_underKeys_cons (key : String) (m : Module) (f : Function) (later : List Function) :
    valueAt? key (underKeys m (f :: later)).reverse =
      (valueAt? key (underKeys m later).reverse).or (if m.keyFor f.name = key then some f else none) := by
  rw [underKeys, List.map_cons, List.reverse_cons, valueAt?_append]
  rfl

/-- If the last function of a module under a key is the entry of the table, the change of the table shows in the module. -/
theorem valueAt?_changeEntries {table : Table Function} {change : String → Function → Function} (keeps : KeepsNames change)
    {m : Module} {list : List Function} {key : String}
    (current : ∀ f, valueAt? key (underKeys m list).reverse = some f → table.get? key = some f) :
    valueAt? key (underKeys m (changeEntries table change m list)).reverse =
      (valueAt? key (underKeys m list).reverse).map (change key) := by
  induction list with
  | nil => rfl
  | cons f later ih =>
    rw [valueAt?_underKeys_cons] at current ⊢
    have laterChanged := ih fun g found => current g (by rw [found, Option.some_or])
    rw [changeEntries_cons, valueAt?_underKeys_cons, laterChanged]
    have named : (if IsEntry table m later f then change (m.keyFor f.name) f else f).name = f.name := by
      split
      · exact keeps _ f
      · rfl
    rw [named]
    cases found : valueAt? key (underKeys m later).reverse with
    | some g => simp
    | none =>
      by_cases same : m.keyFor f.name = key
      · -- no later function has this key, so the function is the entry
        have isEntry : IsEntry table m later f := by
          refine ⟨?_, ?_⟩
          · rw [same]
            exact current f (by rw [found, if_pos same, Option.none_or])
          · intro other member sameName
            have inside : (key, other) ∈ underKeys m later := mem_underKeys.mpr ⟨member, by rw [sameName, same]⟩
            exact valueAt?_eq_none_iff.mp found (List.mem_map_of_mem (List.mem_reverse.mpr inside))
        simp [same, isEntry]
      · simp [same]

section Modules

variable {part : Module → List Function} {modules : List Module}

theorem valueAt?_flatMap_changeEntries {table : Table Function} {change : String → Function → Function}
    (keeps : KeepsNames change) {key : String} (current : ∀ m ∈ modules, ∀ f,
      valueAt? key (underKeys m (part m)).reverse = some f → table.get? key = some f) :
    valueAt? key (modules.flatMap fun m => underKeys m (changeEntries table change m (part m))).reverse =
      (valueAt? key (modules.flatMap fun m => underKeys m (part m)).reverse).map (change key) := by
  induction modules with
  | nil => rfl
  | cons first rest ih =>
    obtain ⟨currentFirst, currentRest⟩ := List.forall_mem_cons.mp current
    rw [List.flatMap_cons, List.flatMap_cons, List.reverse_append, List.reverse_append, valueAt?_append, valueAt?_append,
      ih currentRest, valueAt?_changeEntries keeps currentFirst, Option.map_or]

/-- A table that is indexed from modules stays so when functions are changed in both. -/
theorem insertAll_changeEntries {change : String → Function → Function} (keeps : KeepsNames change)
    (distinct : (modules.map Module.key).Nodup) (plain : ∀ m ∈ modules, ∀ f ∈ part m, '.' ∉ f.name.toList)
    {table : Table Function} (indexed : Table.empty.insertAll (modules.flatMap fun m => underKeys m (part m)) = table) :
    Table.empty.insertAll (modules.flatMap fun m => underKeys m (changeEntries table change m (part m))) =
      table.map change := by
  have held : ∀ key, table.get? key = valueAt? key (modules.flatMap fun m => underKeys m (part m)).reverse := by
    intro key
    rw [← indexed, Table.get?_insertAll, Table.get?_empty, Option.or_none]
  have sameKeys : (modules.flatMap fun m => underKeys m (changeEntries table change m (part m))).map (·.1) =
      (modules.flatMap fun m => underKeys m (part m)).map (·.1) := by
    simp only [List.map_flatMap, keys_underKeys, names_changeEntries keeps]
  apply Table.ext_get?
  · exact (Table.keys_insertAll rfl sameKeys).trans (by rw [indexed, Table.keys_map])
  · intro key _
    rw [Table.get?_map, Table.get?_insertAll, Table.get?_empty, Option.or_none, held]
    apply valueAt?_flatMap_changeEntries keeps
    intro m member f found
    rw [held]
    exact (valueAt?_flatMap_iff (apart_declared distinct plain)).mpr ⟨m, member, found⟩

end Modules

/-! ## Coherent libraries -/

/-- A library whose tables are those of its modules, which stand under their own keys. -/
structure Coherent (includePrivate : Bool) (library : Library) : Prop where
  keyed : library.modules.entries = library.modules.values.map fun m => (m.key, m)
  plain : ∀ m ∈ library.modules.values, m.PlainNames
  rebuilt : library.rebuild includePrivate = library

theorem Coherent.functions {includePrivate : Bool} {library : Library} (coherent : Coherent includePrivate library) :
    Table.empty.insertAll (library.modules.values.flatMap fun m => underKeys m m.functions) = library.functions := by
  have rebuilt := congrArg Library.functions coherent.rebuilt
  rw [rebuild, addModules_eq] at rebuilt
  exact rebuilt

theorem Coherent.atoms {includePrivate : Bool} {library : Library} (coherent : Coherent includePrivate library) :
    Table.empty.insertAll (library.modules.values.flatMap fun m => underKeys m (ifPrivate includePrivate (·.atoms) m)) =
      library.atoms := by
  have rebuilt := congrArg Library.atoms coherent.rebuilt
  rw [rebuild, addModules_eq] at rebuilt
  exact rebuilt

/-- Adding modules one after the other gives a coherent library. -/
theorem coherent_addModules (includePrivate : Bool) (lastUpdated : String) (sources : List String) {modules : List Module}
    (distinct : (modules.map Module.key).Nodup) (plain : ∀ m ∈ modules, m.PlainNames) :
    Coherent includePrivate ((blank lastUpdated sources).addModules includePrivate modules) := by
  have entries : ((blank lastUpdated sources).addModules includePrivate modules).modules.entries =
      modules.map fun m => (m.key, m) := by
    rw [addModules_eq]
    exact @Table.entries_insertAll_of_fresh _ Table.empty (modules.map fun m => (m.key, m))
      (by simpa [Function.comp_def] using distinct) (by simp)
  have values : ((blank lastUpdated sources).addModules includePrivate modules).modules.values = modules := by
    simp [Table.values, entries, Function.comp_def]
  refine ⟨by rw [values, entries], by rwa [values], ?_⟩
  have counted : ((blank lastUpdated sources).addModules includePrivate modules).sourceStats =
      modules.foldl countModule (blank lastUpdated sources).sourceStats := by
    rw [addModules_eq]
  have updated : ((blank lastUpdated sources).addModules includePrivate modules).lastUpdated = lastUpdated := by
    rw [addModules_eq]
    rfl
  rw [rebuild, values, counted, updated, addModules_eq, addModules_eq]
  congr 1
  -- the tables agree as they are; the counters start with a row for every source of the library, not only for `sources`
  apply countModules_ready
  · exact keys_blank (Table.distinct _)
  · intro source
    rw [get?_blank, get?_blank]

/-- A module after functions were changed in the tables of its library. -/
def refresh (library : Library) (change : String → Function → Function) (m : Module) : Module :=
  { m with
    functions := changeEntries library.functions change m m.functions
    atoms := changeEntries library.atoms change m m.atoms }

theorem plainNames_refresh {library : Library} {change : String → Function → Function} (keeps : KeepsNames change)
    {m : Module} (plain : m.PlainNames) : (library.refresh change m).PlainNames := by
  have sameNames : ((library.refresh change m).functions ++ (library.refresh change m).atoms).map (·.name) =
      (m.functions ++ m.atoms).map (·.name) := by
    simp only [refresh, List.map_append, names_changeEntries keeps]
  intro f member
  have named : f.name ∈ (m.functions ++ m.atoms).map (·.name) := sameNames ▸ List.mem_map_of_mem member
  obtain ⟨g, declared, same⟩ := List.mem_map.mp named
  rw [← same]
  exact plain g declared

theorem countModule_refresh (library : Library) (change : String → Function → Function) (counters : Table Stats)
    (m : Module) :
    countModule counters (library.refresh change m) = countModule counters m := by
  simp [countModule, Stats.add, refresh, changeEntries_eq_mapIdx]

/-- Changing functions in the tables and, where they are entries, in the modules keeps a library coherent. -/
theorem Coherent.changeFunctions {includePrivate : Bool} {library : Library} (coherent : Coherent includePrivate library)
    {change : String → Function → Function} (keeps : KeepsNames change) :
    Coherent includePrivate (library.changeFunctions change) := by
  have values : (library.changeFunctions change).modules.values =
      library.modules.values.map (library.refresh change) := by
    simp [Library.changeFunctions, Table.values, Table.map, Function.comp_def, refresh]
  have entries : (library.changeFunctions change).modules.entries =
      (library.changeFunctions change).modules.values.map fun m => (m.key, m) := by
    have mapped : (library.changeFunctions change).modules.entries =
        library.modules.entries.map fun entry => (entry.1, library.refresh change entry.2) := rfl
    rw [values, mapped, coherent.keyed, List.map_map, List.map_map]
    rfl
  have distinct : (library.modules.values.map Module.key).Nodup := by
    have keys : library.modules.values.map Module.key = library.modules.keys := by
      rw [Table.keys, coherent.keyed, List.map_map]
      rfl
    rw [keys]
    exact library.modules.distinct
  refine ⟨entries, ?_, ?_⟩
  · rw [values]
    intro m member
    obtain ⟨old, held, rfl⟩ := List.mem_map.mp member
    exact plainNames_refresh keeps (coherent.plain old held)
  · have same : (library.changeFunctions change).rebuild includePrivate =
        { library.rebuild includePrivate with
          modules := (library.changeFunctions change).modules
          functions := library.functions.map change
          atoms := library.atoms.map change } := by
      rw [rebuild, values, rebuild, addModules_eq, addModules_eq]
      simp only [List.map_map, List.flatMap_map, List.foldl_map, countModule_refresh]
      congr 1
      · rw [← Table.insertAll_entries (library.changeFunctions change).modules, entries, values, List.map_map]
        rfl
      · exact insertAll_changeEntries keeps distinct (fun m held f declared =>
          coherent.plain m held f (List.mem_append_left _ declared)) coherent.functions
      -- without private functions there are no entries on either side
      · have atoms : ∀ m, declared (·.name) (ifPrivate includePrivate (·.atoms)) (library.refresh change m) =
            underKeys m (changeEntries library.atoms change m (ifPrivate includePrivate (·.atoms) m)) := by
          intro m
          cases includePrivate <;> rfl
        simp only [atoms]
        exact insertAll_changeEntries keeps distinct (fun m held f declared =>
          coherent.plain m held f (List.mem_append_right _ (mem_of_mem_ifPrivate declared))) coherent.atoms
    rw [same, coherent.rebuilt]
    rfl

/-- The library of a project is coherent. -/
theorem coherent_build (registry : Registry) (includePrivate : Bool) (lastUpdated : String) {modules : List Module}
    (distinct : (modules.map Module.key).Nodup) (plain : ∀ m ∈ modules, m.PlainNames) :
    Coherent includePrivate (build registry includePrivate lastUpdated modules).1 := by
  rw [build, resolveAliases_eq_changeFunctions]
  exact (coherent_addModules includePrivate lastUpdated _ distinct plain).changeFunctions (keepsNames_renewed _ _)

/-! ## Saving and loading -/

/-- The library of modules that were read from files comes back whole from its document, and so does one that is stored in a file
and loaded from it with the same settings, if JSON reads what it wrote. -/
theorem load_save_build (settings : Settings) (now : String) (modules : List Module)
    (parsed : ∀ m ∈ modules, ∃ package path name content, m = Project.moduleOf settings.registry package path name content)
    (distinct : (modules.map Module.key).Nodup) :
    let library := (build settings.registry settings.includePrivate now modules).1
    ofDocument settings.includePrivate library.document = .ok (.library library) ∧
      ∀ depth entries path tree, Json.parse depth library.saved = .ok library.document →
        Project.save (.folder entries) library path = (tree, .ok ()) →
          Project.load tree depth settings.includePrivate path = .ok (some (.library library)) := by
  intro library
  have plain : ∀ m ∈ modules, m.PlainNames := by
    intro m member
    obtain ⟨package, path, name, content, rfl⟩ := parsed m member
    exact Project.plainNames_moduleOf _ _ _ _ _
  have coherent : Coherent settings.includePrivate library := coherent_build _ _ now distinct plain
  have loaded : ofDocument settings.includePrivate library.document = .ok (.library library) := by
    rw [ofDocument_document, coherent.rebuilt]
  refine ⟨loaded, fun depth entries path tree inverse saved => ?_⟩
  rw [Project.load_save ⟨entries, rfl⟩ saved, load, inverse]
  simp only [loaded]
  rfl

theorem save_newFile (library : Library) :
    Project.save (.folder []) library ⟨"/", ["library.json"]⟩ =
      (.folder [("library.json", .file library.saved.toUTF8)], .ok ()) := by
  have size : "library.json".utf8ByteSize = 12 := rfl
  simp [Project.save, Node.makeFolders, Node.makeFolder, Node.unlessFolder, Node.isFolder, Node.find, Node.write, Node.place,
    Node.walk, Node.hasNul, Node.pathSize, Node.pathLimit, Node.nameLimit, Node.isHere, Node.get?, Node.alter, Node.setEntry,
    Path.parent, putEntry, valueAt?, bind, Except.bind, size]

/-- A function and a module that re-exports it under a new name. -/
private def reExported : List Module :=
  let package : Package := { id := "vodka", name := "Vodka", path := "packages/aiken-vodka/lib" }
  [Project.moduleOf Registry.default package "lib/spirits.ak" "spirits" "pub fn mix(a: Int) \x7b\n  a\n\x7d",
    Project.moduleOf Registry.default package "lib/cocktail.ak" "cocktail" "pub const shake = spirits.mix"]

/-- The alias of a re-exported function is there when the library is loaded. -/
theorem load_save_build_reExported :
    let library := (build Registry.default true "2024" reExported).1
    (library.functions.get? "vodka:spirits.mix").map (·.aliases) = some ["cocktail.shake"] ∧
      Project.load (.folder [("library.json", .file library.saved.toUTF8)]) 100 true ⟨"/", ["library.json"]⟩ =
        .ok (some (.library library)) :=
  ⟨by decide +kernel,
    (load_save_build { projectDir := ⟨"/", []⟩ } "2024" reExported
      (by
        simp only [reExported, List.forall_mem_cons]
        exact ⟨⟨_, _, _, _, rfl⟩, ⟨_, _, _, _, rfl⟩, by simp⟩)
      (by decide +kernel)).2 100 [] _ _ (Json.parse_pretty (by decide +kernel)) (save_newFile _)⟩

end Library
end DeclIndex
