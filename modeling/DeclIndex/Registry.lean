import DeclIndex.Package

/-!
# Registries

The packages of a project, in order, no two with one id.
-/

namespace DeclIndex

/-- An ordered collection of packages with distinct ids. -/
structure Registry where
  packages : List Package
  distinct : (packages.map (·.id)).Nodup

namespace Registry

/-- The packages that are known without any settings. -/
def default : Registry where
  packages :=
    [{ id := "stdlib", name := "Standard Library", description := "Core Aiken standard library",
       path := "packages/aiken-stdlib", priority := 1 },
     { id := "prelude", name := "Prelude", description := "Aiken prelude library",
       path := "packages/aiken-prelude/lib", priority := 2 },
     { id := "vodka", name := "Vodka", description := "Vodka library with re-exports",
       path := "packages/aiken-vodka/lib", priority := 3, aggregators := ["cocktail", "mocktail"] },
     { id := "anastasia", name := "Anastasia Patterns", description := "Anastasia Labs design patterns",
       path := "packages/aiken-design-patterns/lib", priority := 4 }]
  distinct := by decide

def empty : Registry := ⟨[], List.nodup_nil⟩

/-- Adds a package at the end. Its id must be new and its language known; the id is looked at first. -/
def add (registry : Registry) (draft : Package.Draft) : Except RegistryError Registry :=
  if fresh : draft.package.id ∈ registry.packages.map (·.id) then .error (.duplicate draft.package.id)
  else
    match SourceLanguage.ofName? draft.language with
    | none => .error (.unsupported draft.package.id draft.language)
    | some language =>
      .ok
        { packages := registry.packages ++ [{ draft.package with language := language }]
          distinct := by
            rw [List.map_append, List.nodup_append]
            refine ⟨registry.distinct, by simp, fun a member b single => ?_⟩
            simp at single
            subst single
            exact fun same => fresh (same ▸ member) }

/-- The registry of the entries of the settings. All entries are read before any is added. -/
def ofSettings (room : Value.Room) (entries : List Value) : Except RegistryError Registry := do
  let drafts ← entries.mapM (Package.draft room)
  drafts.foldlM add empty

def get? (registry : Registry) (id : String) : Option Package :=
  registry.packages.find? (·.id == id)

def contains (registry : Registry) (id : String) : Bool :=
  (registry.get? id).isSome

def enabled (registry : Registry) : List Package :=
  registry.packages.filter (·.enabled)

/-- The enabled packages by priority; those with one priority keep their order. -/
def sorted (registry : Registry) : List Package :=
  registry.enabled.mergeSort fun a b => a.priority ≤ b.priority

/-- The enabled packages among some ids, in the order of the registry; without ids, all of them. -/
def select (registry : Registry) (ids : List String) : Except RegistryError (List Package) :=
  if ids.isEmpty then .ok registry.enabled
  else
    match ids.filter (!registry.contains ·) with
    | [] => .ok (registry.enabled.filter fun package => ids.contains package.id)
    | unknown => .error (.unknown unknown)

/-- The ids of the packages with modules that re-export functions of others. -/
def reExportSources (registry : Registry) : List String :=
  (registry.packages.filter (·.reExports)).map (·.id)

/-- Whether a module of a source is one of the aggregators of another source. -/
def isAggregatorOf (owner : String) (aggregators : List String) (module source : String) : Bool :=
  source == owner && aggregators.contains module

/-- Whether a module of a package re-exports functions of others. -/
def isAggregator (registry : Registry) (module source : String) : Bool :=
  match registry.get? source with
  | some package => isAggregatorOf package.id package.aggregators module source
  | none => false

end Registry

end DeclIndex
