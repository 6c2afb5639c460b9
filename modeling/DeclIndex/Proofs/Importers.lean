import DeclIndex.Proofs.DependencyWalk

/-!
# Importers and the dependency tree

The tree of a module is found by a walk along imports, the importers of a module by a pass over the dependencies of all. The pass
also takes a path that is spelled like a key for an import of that key. As every key with dependencies is the key of a module, and
the other way round, both follow the same edges: a module is in the tree of another exactly if importers lead back to the other.
-/

namespace DeclIndex.Library

/-! ## Assembled libraries -/

/-- A library that was made from an empty one by adding modules. -/
inductive Assembled : Library → Prop where
  | empty (lastUpdated : String) (sources : List String) : Assembled (blank lastUpdated sources)
  | more {library : Library} (assembled : Assembled library) (includePrivate : Bool) (m : Module) :
      Assembled (library.addModule includePrivate m)

/-- The dependencies of a module are entered under its key, and nothing else is. -/
theorem Assembled.sameKeys {library : Library} (assembled : library.Assembled) :
    library.dependencies.keys = library.modules.keys := by
  induction assembled with
  | empty lastUpdated sources => rfl
  | @more library _ includePrivate m ih =>
    have dependencies : (library.addModule includePrivate m).dependencies.keys =
        (library.dependencies.insert m.key m.dependencies).keys := rfl
    have modules : (library.addModule includePrivate m).modules.keys = (library.modules.insert m.key m).keys := rfl
    rw [dependencies, modules, Table.keys_insert, Table.keys_insert, ih]

theorem Assembled.mem_keys_of_edge {library : Library} (assembled : library.Assembled) {importer target : String}
    (edge : library.Edge importer target) : importer ∈ library.modules.keys := by
  rw [← assembled.sameKeys]
  exact listed_of_edge edge

/-! ## Edges -/

/-- A path that is spelled like the key of a module refers to it, whichever module imports it. -/
theorem resolve_key {library : Library} {key : String} (stored : key ∈ library.modules.keys) (importer : String) :
    library.resolve key importer = key := by
  obtain ⟨m, found⟩ := Table.get?_isSome_of_mem stored
  have contained : library.modules.contains key := by rw [Table.contains, found]; rfl
  rw [resolve, resolveAmong, if_pos contained]

/-- The importers of a module are those with an edge to it. -/
theorem mem_importers_iff {library : Library} {importer target : String} (stored : target ∈ library.modules.keys) :
    importer ∈ library.importers target ↔ library.Edge importer target := by
  have refers : ∀ path, path = target ∨ library.resolve path importer = target ↔ library.resolve path importer = target := by
    intro path
    refine or_iff_right_of_imp ?_
    rintro rfl
    exact resolve_key stored importer
  have listed : importer ∈ library.importers target ↔
      ∃ paths, (importer, paths) ∈ library.dependencies.entries ∧
        ∃ path ∈ paths, path = target ∨ library.resolve path importer = target := by
    simp [importers]
  rw [listed]
  simp only [refers, Edge, Table.mem_entries_iff]
  cases library.dependencies.get? importer <;> simp

/-! ## Chains -/

/-- Each key of a list imports the next one, as its importers tell. -/
def ImportChain (library : Library) (keys : List String) : Prop :=
  keys.IsChain fun importer target => importer ∈ library.importers target

/-- What a module reaches is the module itself or at the end of a chain of modules. -/
theorem Assembled.exists_chain {library : Library} (assembled : library.Assembled) {start target : String}
    (stored : target ∈ library.modules.keys) (reached : library.Reaches start target) :
    start = target ∨ ∃ between, (∀ key ∈ start :: between, key ∈ library.modules.keys) ∧
      library.ImportChain (start :: between ++ [target]) := by
  induction reached using Relation.ReflTransGen.head_induction_on with
  | refl => exact Or.inl rfl
  | @head importer next edge _ ih =>
    have storedImporter := assembled.mem_keys_of_edge edge
    rcases ih with rfl | ⟨between, keys, chain⟩
    · refine Or.inr ⟨[], by simpa using storedImporter, ?_⟩
      exact .cons_cons ((mem_importers_iff stored).mpr edge) (.singleton _)
    · have storedNext := keys next List.mem_cons_self
      refine Or.inr ⟨next :: between, List.forall_mem_cons.mpr ⟨storedImporter, keys⟩, ?_⟩
      exact .cons_cons ((mem_importers_iff storedNext).mpr edge) chain

theorem reaches_of_chain {library : Library} {start target : String} {between : List String}
    (stored : target ∈ library.modules.keys) (keys : ∀ key ∈ between, key ∈ library.modules.keys)
    (chain : library.ImportChain (start :: between ++ [target])) : library.Reaches start target := by
  induction between generalizing start with
  | nil => exact .single ((mem_importers_iff stored).mp (List.isChain_cons_cons.mp chain).1)
  | cons next rest ih =>
    obtain ⟨storedNext, storedRest⟩ := List.forall_mem_cons.mp keys
    obtain ⟨first, further⟩ := List.isChain_cons_cons.mp chain
    exact .head ((mem_importers_iff storedNext).mp first) (ih storedRest further)

/-! ## The tree -/

/-- A module is in the dependency tree of another one exactly if a chain of modules leads from the other to it in which each is an
importer of the next. -/
theorem dependencyTree_iff_importers {library : Library} (assembled : library.Assembled) {start target : String}
    (stored : target ∈ library.modules.keys) (distinct : start ≠ target) :
    target ∈ library.dependencyTree start ↔
      ∃ between, (∀ key ∈ start :: between, key ∈ library.modules.keys) ∧
        library.ImportChain (start :: between ++ [target]) := by
  rw [mem_dependencyTree_iff]
  constructor
  · intro reached
    exact (assembled.exists_chain stored reached).resolve_left distinct
  · rintro ⟨between, keys, chain⟩
    exact reaches_of_chain stored (List.forall_mem_cons.mp keys).2 chain

/-- Three modules that import each other in a circle, the second by its key and the last of another package. -/
def circle : Library :=
  (((blank "2024" []).addModule true { path := "a.ak", name := "a", source := "p", dependencies := ["p:lib.b"] }).addModule
    true { path := "lib/b.ak", name := "lib.b", source := "p", dependencies := ["lib/c"] }).addModule
    true { path := "lib/c.ak", name := "lib.c", source := "q", dependencies := ["a"] }

theorem dependencyTree_iff_importers_circle :
    circle.Assembled ∧ "q:lib.c" ∈ circle.dependencyTree "p:a" ∧
      ∃ between, (∀ key ∈ "p:a" :: between, key ∈ circle.modules.keys) ∧
        circle.ImportChain ("p:a" :: between ++ ["q:lib.c"]) := by
  have assembled : circle.Assembled := .more (.more (.more (.empty _ _) _ _) _ _) _ _
  have held : "q:lib.c" ∈ circle.dependencyTree "p:a" := by decide +kernel
  exact ⟨assembled, held, (dependencyTree_iff_importers assembled (by decide +kernel) (by decide)).mp held⟩

end DeclIndex.Library
