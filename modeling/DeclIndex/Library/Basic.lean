import DeclIndex.Module
import DeclIndex.Table

/-!
# Libraries

The modules of all packages put together. Declarations are found under the key of their module, a dot and their
name; every table keeps the order in which keys were first added.
-/

namespace DeclIndex

/-- How many declarations of each kind a package has. -/
structure Stats where
  modules : Nat := 0
  functions : Nat := 0
  atoms : Nat := 0
  types : Nat := 0
  privateTypes : Nat := 0
  constants : Nat := 0
  privateConstants : Nat := 0
deriving DecidableEq

/-- The counters after one more module. All declarations count, whether they are in the tables or not. -/
def Stats.add (stats : Stats) (m : Module) : Stats where
  modules := stats.modules + 1
  functions := stats.functions + m.functions.length
  atoms := stats.atoms + m.atoms.length
  types := stats.types + m.types.length
  privateTypes := stats.privateTypes + m.privateTypes.length
  constants := stats.constants + m.constants.length
  privateConstants := stats.privateConstants + m.privateConstants.length

/-- The index of a set of modules. -/
structure Library where
  modules : Table Module := .empty
  /-- The paths of imported modules by the key of the importing module. -/
  dependencies : Table (List String) := .empty
  functions : Table Function := .empty
  atoms : Table Function := .empty
  types : Table TypeDef := .empty
  privateTypes : Table TypeDef := .empty
  constants : Table Constant := .empty
  privateConstants : Table Constant := .empty
  /-- Counters by the id of the package. -/
  sourceStats : Table Stats := .empty
  /-- When the library was built. -/
  lastUpdated : String := ""
deriving DecidableEq

namespace Library

/-- A table with the declarations of a module added. Of those with one name the last is kept. -/
def index {α : Type} (m : Module) (name : α → String) (declarations : List α) (table : Table α) : Table α :=
  table.insertAll (declarations.map fun declaration => (m.keyFor (name declaration), declaration))

/-- A library with one more module. Private declarations enter the tables only if asked for. -/
def addModule (includePrivate : Bool) (library : Library) (m : Module) : Library where
  modules := library.modules.insert m.key m
  dependencies := library.dependencies.insert m.key m.dependencies
  functions := index m (·.name) m.functions library.functions
  types := index m (·.name) m.types library.types
  constants := index m (·.name) m.constants library.constants
  atoms := if includePrivate then index m (·.name) m.atoms library.atoms else library.atoms
  privateTypes :=
    if includePrivate then index m (·.name) m.privateTypes library.privateTypes else library.privateTypes
  privateConstants :=
    if includePrivate then index m (·.name) m.privateConstants library.privateConstants
    else library.privateConstants
  sourceStats :=
    library.sourceStats.insert m.source (((library.sourceStats.get? m.source).getD {}).add m)
  lastUpdated := library.lastUpdated

/-- A library without modules that has counters for some packages. -/
def blank (lastUpdated : String) (sources : List String) : Library where
  sourceStats := Table.empty.insertAll (sources.map fun source => (source, {}))
  lastUpdated := lastUpdated

/-- A library with more modules. -/
def addModules (includePrivate : Bool) (library : Library) (modules : List Module) : Library :=
  modules.foldl (addModule includePrivate) library

end Library

end DeclIndex
