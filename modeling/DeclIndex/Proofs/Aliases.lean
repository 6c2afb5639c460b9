import DeclIndex.Library.Alias
import DeclIndex.Proofs.Table
import Mathlib.Data.List.Induction

/-!
# The alias pass

The pass takes the aliases of the functions of a package away and records those of its aggregators one after the other, and does
so for every package. What a function has in the end depends on its key, its name and the texts of the aggregators alone: packages
do not get in each other's way, nothing that was recorded before is left, and a second pass changes nothing.
-/

namespace DeclIndex
open DeclIndex.Text

theorem Naming.covers_iff (naming : Naming) (key : String) (f : Function) :
    naming.covers key f = true ↔ occurs naming.module key.toList ∧ naming.function = f.name := by
  rw [Naming.covers, Bool.and_eq_true, beq_iff_eq]
  exact ⟨fun both => ⟨both.2, both.1.symm⟩, fun both => ⟨both.2.symm, both.1⟩⟩

theorem Naming.covers_withAliases (naming : Naming) (key : String) (f : Function) (aliases : List String) :
    naming.covers key { f with aliases := aliases } = naming.covers key f := rfl

namespace Library

/-! ## One function -/

theorem eraseDups_concat (names : List String) (name : String) :
    (names ++ [name]).eraseDups = if name ∈ names then names.eraseDups else names.eraseDups ++ [name] := by
  rw [List.eraseDups_append]
  by_cases member : name ∈ names
  · simp [List.removeAll, member]
  · simp [List.removeAll, member, List.eraseDups_cons]

private theorem annotate_withAliases (key : String) (f : Function) (aliases : List String) (naming : Naming) :
    annotate key { f with aliases := aliases } naming =
      { f with aliases :=
          if naming.covers key f ∧ naming.name ∉ aliases then aliases ++ [naming.name] else aliases } := by
  by_cases fresh : naming.covers key f ∧ naming.name ∉ aliases
  · simp [annotate, Naming.covers_withAliases, fresh.1, fresh.2]
  · have refused : ¬ (naming.covers key f && !aliases.contains naming.name) = true := by simpa using fresh
    rw [annotate, Naming.covers_withAliases, if_neg refused, if_neg fresh]

/-- Recording names one after the other leaves each that covers the function once, where it came first. -/
theorem foldl_annotate (key : String) (f : Function) (namings : List Naming) :
    namings.foldl (annotate key) { f with aliases := [] } =
      { f with aliases := ((namings.filter (·.covers key f)).map (·.name)).eraseDups } := by
  induction namings using List.reverseRecOn with
  | nil => simp
  | append_singleton namings naming ih =>
    rw [List.foldl_append, ih, List.foldl_cons, List.foldl_nil, annotate_withAliases]
    congr 1
    by_cases covered : naming.covers key f = true
    · have extended : (namings ++ [naming]).filter (·.covers key f) = namings.filter (·.covers key f) ++ [naming] := by
        simp [covered]
      rw [extended, List.map_append, List.map_singleton, eraseDups_concat]
      by_cases known : naming.name ∈ (namings.filter (·.covers key f)).map (·.name)
      · rw [if_neg (fun both => both.2 (List.mem_eraseDups.mpr known)), if_pos known]
      · rw [if_pos ⟨covered, fun seen => known (List.mem_eraseDups.mp seen)⟩, if_neg known]
    · have kept : (namings ++ [naming]).filter (·.covers key f) = namings.filter (·.covers key f) := by
        simp [covered]
      rw [kept, if_neg (fun both => covered both.1)]

/-- The aliases that a package gives the functions called `name` under a key: the aggregators in their order, for each the
re-exporting lines of its text that refer to such a function, every alias where it comes first. -/
def aliasesFor (library : Library) (package : Package) (key name : String) : List String :=
  (package.aggregators.flatMap fun aggregator =>
    match library.modules.get? (Module.keyOf package.id aggregator) with
    | none => []
    | some m => (reExports m.content).values.filterMap fun line =>
        if occurs line.module key.toList ∧ String.ofList line.function = name then
          some (aggregator ++ "." ++ String.ofList line.exported)
        else none).eraseDups

private theorem filterMap_covers (aggregator key : String) (f : Function) (group : List ReExport) :
    (((group.map fun line => (⟨line.module, String.ofList line.function,
        aggregator ++ "." ++ String.ofList line.exported⟩ : Naming)).filter (·.covers key f)).map (·.name)) =
      group.filterMap fun line =>
        if occurs line.module key.toList ∧ String.ofList line.function = f.name then
          some (aggregator ++ "." ++ String.ofList line.exported)
        else none := by
  induction group with
  | nil => rfl
  | cons line rest ih =>
    simp only [List.map_cons, List.filter_cons, List.filterMap_cons, Naming.covers_iff]
    by_cases covered : occurs line.module key.toList ∧ String.ofList line.function = f.name
    · simp only [if_pos covered, List.map_cons, ih]
    · simp only [if_neg covered, ih]

/-- The aliases of a package are the names of the namings that cover the function. -/
private theorem aliasesFor_eq (library : Library) (package : Package) (key : String) (f : Function) :
    library.aliasesFor package key f.name =
      (((library.namings package.id package.aggregators).filter (·.covers key f)).map (·.name)).eraseDups := by
  unfold aliasesFor namings
  rw [List.filter_flatMap, List.map_flatMap]
  congr 2
  funext aggregator
  cases library.modules.get? (Module.keyOf package.id aggregator) with
  | none => rfl
  | some m => exact (filterMap_covers aggregator key f (reExports m.content).values).symm

/-- A function of the package gets the aliases of the package, and another one keeps its own. -/
theorem rename_namings (library : Library) (package : Package) (key : String) (f : Function) :
    rename package.id (library.namings package.id package.aggregators) key f =
      if f.source = package.id then { f with aliases := library.aliasesFor package key f.name } else f := by
  rw [rename, foldl_annotate, aliasesFor_eq]

/-- What the pass makes of the function under a key, for some packages. -/
def renewed (library : Library) (packages : List Package) (key : String) (f : Function) : Function :=
  match packages.find? fun package => package.id = f.source && package.reExports with
  | some package => { f with aliases := library.aliasesFor package key f.name }
  | none => f

theorem renewed_cases (library : Library) (packages : List Package) (key : String) (f : Function) :
    library.renewed packages key f = f ∨ ∃ package ∈ packages, package.id = f.source ∧ package.reExports = true ∧
      library.renewed packages key f = { f with aliases := library.aliasesFor package key f.name } := by
  cases found : packages.find? fun package => package.id = f.source && package.reExports with
  | none => exact Or.inl (by simp [renewed, found])
  | some package =>
    have member := List.mem_of_find?_eq_some found
    have chosen := List.find?_some found
    simp only [Bool.and_eq_true, decide_eq_true_eq] at chosen
    exact Or.inr ⟨package, member, chosen.1, chosen.2, by simp [renewed, found]⟩

/-! ## The functions of a module -/

/-- A function of a module, with the later ones in its list at hand, is the entry of a table under its key: the table holds it
there, and no later one has its name. -/
def IsEntry (table : Table Function) (m : Module) (later : List Function) (f : Function) : Prop :=
  table.get? (m.keyFor f.name) = some f ∧ ∀ other ∈ later, other.name ≠ f.name

instance (table : Table Function) (m : Module) (later : List Function) (f : Function) :
    Decidable (IsEntry table m later f) :=
  inferInstanceAs (Decidable (_ ∧ _))

theorem changeEntries_cons (table : Table Function) (change : String → Function → Function) (m : Module) (f : Function)
    (later : List Function) :
    changeEntries table change m (f :: later) =
      (if IsEntry table m later f then change (m.keyFor f.name) f else f) :: changeEntries table change m later := by
  have same : (later.all (·.name != f.name) && decide (table.get? (m.keyFor f.name) = some f)) = true ↔
      IsEntry table m later f := by
    simp [IsEntry, and_comm]
  simp only [changeEntries, same]

/-- Of the module only its key matters. -/
theorem changeEntries_sameKey {m other : Module} (same : m.key = other.key) (table : Table Function)
    (change : String → Function → Function) (list : List Function) :
    changeEntries table change m list = changeEntries table change other list := by
  have sameFor : m.keyFor = other.keyFor := by
    funext name
    rw [Module.keyFor, Module.keyFor, same]
  induction list with
  | nil => rfl
  | cons f later ih => simp only [changeEntries, ih, sameFor]

/-- Exactly the functions that are entries are changed, and all stay in their places. -/
theorem changeEntries_eq_mapIdx (table : Table Function) (change : String → Function → Function) (m : Module)
    (list : List Function) :
    changeEntries table change m list =
      list.mapIdx fun place f =>
        if IsEntry table m (list.drop (place + 1)) f then change (m.keyFor f.name) f else f := by
  induction list with
  | nil => rfl
  | cons f later ih => rw [changeEntries_cons, ih, List.mapIdx_cons]; rfl

/-- A change of functions that keeps their names. -/
def KeepsNames (change : String → Function → Function) : Prop :=
  ∀ key f, (change key f).name = f.name

theorem names_changeEntries {change : String → Function → Function} (keeps : KeepsNames change) (table : Table Function)
    (m : Module) (list : List Function) :
    (changeEntries table change m list).map (·.name) = list.map (·.name) := by
  induction list with
  | nil => rfl
  | cons f later ih =>
    rw [changeEntries_cons, List.map_cons, List.map_cons, ih]
    split
    · rw [keeps]
    · rfl

private theorem laterNames_changeEntries {change : String → Function → Function} (keeps : KeepsNames change)
    (table : Table Function) (m : Module) (list : List Function) (name : String) :
    (∀ other ∈ changeEntries table change m list, other.name ≠ name) ↔ ∀ other ∈ list, other.name ≠ name := by
  have mapped (group : List Function) : (∀ other ∈ group, other.name ≠ name) ↔ name ∉ group.map (·.name) := by
    simp
  rw [mapped, mapped, names_changeEntries keeps]

/-- Two changes one after the other are one, if the second leaves what the first has changed. -/
theorem changeEntries_changeEntries {first second : String → Function → Function} (keeps : KeepsNames first)
    (settled : ∀ key f, first key f = f ∨ second key (first key f) = first key f) (table : Table Function) (m : Module)
    (list : List Function) :
    changeEntries (table.map first) second m (changeEntries table first m list) =
      changeEntries table (fun key f => second key (first key f)) m list := by
  induction list with
  | nil => rfl
  | cons f later ih =>
    rw [changeEntries_cons, changeEntries_cons, changeEntries_cons, ih]
    congr 1
    by_cases isEntry : IsEntry table m later f
    · -- The entry and the function in the list are changed alike, so the function is the entry again.
      have again : IsEntry (table.map first) m (changeEntries table first m later) (first (m.keyFor f.name) f) := by
        refine ⟨?_, ?_⟩
        · rw [keeps, Table.get?_map, isEntry.1]
          rfl
        · rw [keeps]
          exact (laterNames_changeEntries keeps table m later f.name).mpr isEntry.2
      simp only [if_pos isEntry]
      rw [if_pos again, keeps]
    · rw [if_neg isEntry, if_neg isEntry]
      split
      · next became =>
        -- The entry has become what the function in the list is, by a change that the second one leaves.
        obtain ⟨found, last⟩ := became
        rw [Table.get?_map] at found
        obtain ⟨entry, isThere, same⟩ := Option.map_eq_some_iff.mp found
        rcases settled (m.keyFor f.name) entry with unchanged | left
        · have here : entry = f := unchanged.symm.trans same
          exact absurd ⟨here ▸ isThere, (laterNames_changeEntries keeps table m later f.name).mp last⟩ isEntry
        · rw [same] at left
          exact left
      · rfl

/-! ## The library -/

theorem changeFunctions_changeFunctions {first second : String → Function → Function} (keeps : KeepsNames first)
    (settled : ∀ key f, first key f = f ∨ second key (first key f) = first key f) (library : Library) :
    (library.changeFunctions first).changeFunctions second =
      library.changeFunctions fun key f => second key (first key f) := by
  unfold changeFunctions
  simp only [Table.map_map]
  congr 1
  apply Table.map_congr
  intro key m _
  congr 1
  · rw [← changeEntries_changeEntries keeps settled]
    apply changeEntries_sameKey
    rfl
  · rw [← changeEntries_changeEntries keeps settled]
    apply changeEntries_sameKey
    rfl

private theorem changeEntries_id (table : Table Function) (m : Module) (list : List Function) :
    changeEntries table (fun _ f => f) m list = list := by
  induction list with
  | nil => rfl
  | cons f later ih => rw [changeEntries_cons, ih, ite_self]

private theorem changeFunctions_id (library : Library) : (library.changeFunctions fun _ f => f) = library := by
  simp [changeFunctions, changeEntries_id]

/-- No change of functions touches the texts of modules, so the namings stay. -/
theorem aliasesFor_changeFunctions (library : Library) (change : String → Function → Function) :
    (library.changeFunctions change).aliasesFor = library.aliasesFor := by
  funext package key name
  unfold aliasesFor
  congr 2
  funext aggregator
  simp only [changeFunctions, Table.get?_map]
  cases library.modules.get? (Module.keyOf package.id aggregator) <;> rfl

theorem renewed_changeFunctions (library : Library) (change : String → Function → Function) :
    (library.changeFunctions change).renewed = library.renewed := by
  funext packages key f
  unfold renewed
  rw [aliasesFor_changeFunctions]

theorem keepsNames_renewed (library : Library) (packages : List Package) : KeepsNames (library.renewed packages) := by
  intro key f
  rcases renewed_cases library packages key f with same | ⟨package, -, -, -, changed⟩
  · rw [same]
  · rw [changed]

/-- Renewing looks at nothing that it changes. -/
theorem renewed_renewed (library : Library) (packages : List Package) (key : String) (f : Function) :
    library.renewed packages key (library.renewed packages key f) = library.renewed packages key f := by
  unfold renewed
  cases found : packages.find? fun package => package.id = f.source && package.reExports <;> simp [found]

private theorem recordAliases_eq (library : Library) (package : Package) (aggregates : package.reExports = true) :
    (library.recordAliases package.id package.aggregators).1 = library.changeFunctions (library.renewed [package]) := by
  have same : rename package.id (library.namings package.id package.aggregators) = library.renewed [package] := by
    funext key f
    rw [rename_namings]
    by_cases own : f.source = package.id
    · simp [renewed, own, aggregates]
    · simp [renewed, own, Ne.symm own]
  rw [recordAliases, same]

/-- The packages after the first leave what the first has changed, for no two have one id. -/
private theorem renewed_cons (library : Library) {package : Package} {rest : List Package}
    (aggregates : package.reExports = true) (apart : ∀ other ∈ rest, other.id ≠ package.id) (key : String) (f : Function) :
    (library.renewed [package] key f = f ∨
      library.renewed rest key (library.renewed [package] key f) = library.renewed [package] key f) ∧
    library.renewed rest key (library.renewed [package] key f) = library.renewed (package :: rest) key f := by
  by_cases own : package.id = f.source
  · have none : rest.find? (fun other => other.id = f.source && other.reExports) = none := by
      rw [List.find?_eq_none]
      intro other member
      simp [own ▸ apart other member]
    have kept : library.renewed rest key (library.renewed [package] key f) = library.renewed [package] key f := by
      unfold renewed
      simp [own, aggregates, none]
    refine ⟨Or.inr kept, kept.trans ?_⟩
    simp [renewed, own, aggregates]
  · have same : library.renewed [package] key f = f := by simp [renewed, own]
    refine ⟨Or.inl same, ?_⟩
    rw [same]
    simp [renewed, own]

/-- The passes for some packages one after the other are one change. -/
private theorem foldl_recordAliases (packages : List Package) (aggregates : ∀ package ∈ packages, package.reExports = true)
    (distinct : (packages.map (·.id)).Nodup) (library : Library) (notices : List Notice) :
    (packages.foldl (fun (library, notices) package =>
        let (library, count) := library.recordAliases package.id package.aggregators
        (library, if count = 0 then notices else notices ++ [.aliases count package.id])) (library, notices)).1 =
      library.changeFunctions (library.renewed packages) := by
  induction packages generalizing library notices with
  | nil => exact (changeFunctions_id library).symm
  | cons package rest ih =>
    obtain ⟨absent, distinctRest⟩ := List.nodup_cons.mp distinct
    have apart : ∀ other ∈ rest, other.id ≠ package.id :=
      fun other member same => absent (List.mem_map.mpr ⟨other, member, same⟩)
    have own := aggregates package (by simp)
    rw [List.foldl_cons, ih (fun other member => aggregates other (by simp [member])) distinctRest,
      recordAliases_eq library package own, renewed_changeFunctions,
      changeFunctions_changeFunctions (keepsNames_renewed library [package])
        (fun key f => (renewed_cons library own apart key f).1)]
    congr 1
    funext key f
    exact (renewed_cons library own apart key f).2

private theorem renewed_filter (library : Library) (packages : List Package) :
    library.renewed (packages.filter (·.reExports)) = library.renewed packages := by
  funext key f
  unfold renewed
  rw [List.find?_filter]
  congr 2
  funext package
  cases package.reExports <;> simp

theorem resolveAliases_eq_changeFunctions (library : Library) (registry : Registry) :
    (library.resolveAliases registry).1 = library.changeFunctions (library.renewed registry.packages) := by
  unfold resolveAliases
  rw [foldl_recordAliases _ (fun package member => (List.mem_filter.mp member).2)
    (registry.distinct.sublist (List.filter_sublist.map _)), renewed_filter]

/-- The pass gives every function in the tables whose package has aggregators exactly the aliases of that package, whatever it had
before. The lists of modules show them at the functions that are the entries, and nothing else changes, so that a second pass
changes nothing at all. -/
theorem resolveAliases_recomputes (library : Library) (registry : Registry) :
    (library.resolveAliases registry).1 =
      { library with
        functions := library.functions.map (library.renewed registry.packages)
        atoms := library.atoms.map (library.renewed registry.packages)
        modules := library.modules.map fun _ m =>
          { m with
            functions := m.functions.mapIdx fun place f =>
              if IsEntry library.functions m (m.functions.drop (place + 1)) f then
                library.renewed registry.packages (m.keyFor f.name) f
              else f
            atoms := m.atoms.mapIdx fun place f =>
              if IsEntry library.atoms m (m.atoms.drop (place + 1)) f then
                library.renewed registry.packages (m.keyFor f.name) f
              else f } } ∧
    ((library.resolveAliases registry).1.resolveAliases registry).1 = (library.resolveAliases registry).1 := by
  refine ⟨?_, ?_⟩
  · rw [resolveAliases_eq_changeFunctions, changeFunctions]
    simp only [changeEntries_eq_mapIdx]
  · rw [resolveAliases_eq_changeFunctions, resolveAliases_eq_changeFunctions, renewed_changeFunctions,
      changeFunctions_changeFunctions (keepsNames_renewed library registry.packages)
        (fun key f => Or.inr (renewed_renewed library registry.packages key f))]
    congr 1
    funext key f
    exact renewed_renewed library registry.packages key f

end Library

end DeclIndex
