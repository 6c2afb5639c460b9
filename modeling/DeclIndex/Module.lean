import DeclIndex.Declaration

/-!
# Modules

A module is the outline of one file, with public declarations kept apart from private ones.
-/

namespace DeclIndex

/-- One source file of a package. -/
structure Module where
  /-- The path of the file. -/
  path : String
  /-- The dotted name. -/
  name : String
  /-- The id of the package. -/
  source : String
  imports : List Import := []
  /-- The public functions. -/
  functions : List Function := []
  /-- The private functions. -/
  atoms : List Function := []
  types : List TypeDef := []
  privateTypes : List TypeDef := []
  constants : List Constant := []
  privateConstants : List Constant := []
  /-- The text of the file. -/
  content : String := ""
  /-- The paths of the imported modules in file order, repetitions kept. -/
  dependencies : List String := []
  /-- Whether the package names this module as one that re-exports functions of others. -/
  isAggregator : Bool := false
deriving DecidableEq

namespace Module

/-- The key of a module in a library. -/
def keyOf (source name : String) : String :=
  source ++ ":" ++ name

def key (m : Module) : String :=
  keyOf m.source m.name

/-- The key of a declaration of this module. -/
def keyFor (m : Module) (declared : String) : String :=
  m.key ++ "." ++ declared

/-- The module of an outline. -/
def ofOutline (path name source content : String) (outline : Outline) (isAggregator : Bool) : Module where
  path := path
  name := name
  source := source
  imports := outline.imports
  functions := outline.functions.filter (·.isPublic)
  atoms := outline.functions.filter (!·.isPublic)
  types := outline.types.filter (·.isPublic)
  privateTypes := outline.types.filter (!·.isPublic)
  constants := outline.constants.filter (·.isPublic)
  privateConstants := outline.constants.filter (!·.isPublic)
  content := content
  dependencies := outline.imports.map (·.module)
  isAggregator := isAggregator

end Module

end DeclIndex
