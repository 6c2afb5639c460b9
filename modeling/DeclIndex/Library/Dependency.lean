import DeclIndex.Library.Basic

/-!
# Dependencies

Modules import others by path. A path is looked up in the package of the importing module first, then in all.
-/

namespace DeclIndex.Library

/-- The dotted name of an import path. -/
def dotted (path : String) : String :=
  String.ofList (path.toList.map fun c => if c = '/' then '.' else c)

/-- The package in a module key, if it has one. -/
def sourceOf (key : String) : String :=
  if key.toList.contains ':' then String.ofList (key.toList.takeWhile (· != ':')) else ""

/-- The key of the module that a path in a module refers to, among modules that are looked up by their names. A path that leads
nowhere stands for itself. -/
def resolveAmong {α : Type} (modules : Table α) (hasName : α → String → Bool) (path importer : String) : String :=
  if modules.contains path then path
  else
    let name := dotted path
    let source := sourceOf importer
    if !source.isEmpty && modules.contains (Module.keyOf source name) then Module.keyOf source name
    else
      match modules.entries.find? fun (_, m) => hasName m name with
      | some (key, _) => key
      | none => path

/-- The key of the module that a path in a module refers to. -/
def resolve (library : Library) (path importer : String) : String :=
  resolveAmong library.modules (fun m name => m.name == name) path importer

/-- What a module imports directly. -/
def imported (library : Library) (key : String) : List String :=
  ((library.dependencies.get? key).getD []).map fun path => library.resolve path key

/-- A walk over the dependencies: the keys met, and the keys left behind, last first. -/
structure Walk where
  met : List String := []
  left : List String := []

/-- Visits a key: what it imports is left behind before the key itself. At most `fuel` keys deep. -/
def visit (library : Library) : Nat → Walk → String → Walk
  | 0, walk, _ => walk
  | fuel + 1, walk, key =>
    if walk.met.contains key then walk
    else
      let inner := (library.imported key).foldl (visit library fuel) { walk with met := key :: walk.met }
      { inner with left := key :: inner.left }

/-- Everything that a module depends on, each once, before what depends on it, and the module itself last. Cycles
are cut where they come back. -/
def dependencyTree (library : Library) (key : String) : List String :=
  (library.visit (library.dependencies.size + 2) {} key).left.reverse

/-- The modules that import a module, by its key or by a path that refers to it. -/
def importers (library : Library) (key : String) : List String :=
  (library.dependencies.entries.filter fun (importer, paths) =>
    paths.any fun path => path == key || library.resolve path importer == key).map (·.1)

end DeclIndex.Library
