/-!
# Declarations

The records that the scanners produce: imports, functions, types and constants. Line numbers count
from one; `source` is the id of the package a file belongs to; `raw` is the trimmed head line, except
for functions, where it is the whole signature.
-/

namespace DeclIndex

/-- One line that brings in another module. -/
structure Import where
  /-- The path of the module, as it is written. -/
  module : String
  /-- The names that a braced list picks. -/
  items : List String
  /-- The name the module goes by in the importing file, if it is renamed. -/
  renamed : Option String
  line : Nat
  raw : String
  source : String
deriving DecidableEq

/-- One parameter of a function. -/
structure Parameter where
  name : String
  type : String
  optional : Bool := false
deriving DecidableEq

/-- A function. A private function is also called an atom. -/
structure Function where
  name : String
  /-- The head, put together on one line. -/
  signature : String
  parameters : List Parameter
  returnType : String
  line : Nat
  raw : String
  isPublic : Bool
  source : String
  /-- The comment block above the head. -/
  documentation : Option String := none
  /-- The lines from the head to the brace that closes the body. -/
  implementation : Option String := none
  /-- The test blocks that follow the function and mention its name. -/
  tests : List String := []
  /-- The names under which aggregator modules re-export the function. -/
  aliases : List String := []
deriving DecidableEq

/-- A type alias, record or enumeration. -/
structure TypeDef where
  name : String
  definition : String
  line : Nat
  raw : String
  isPublic : Bool
  source : String
  aliases : List String := []
deriving DecidableEq

/-- A constant. -/
structure Constant where
  name : String
  type : String
  value : String
  line : Nat
  raw : String
  isPublic : Bool
  source : String
  /-- Whether the value names a member of another module, in a package that re-exports. -/
  isReExport : Bool := false
  aliases : List String := []
deriving DecidableEq

/-- A text without its generic parameters: everything from an opening angle bracket to the end of the
last line is left out. -/
def withoutGenerics : List Char → List Char
  | [] => []
  | c :: rest =>
    if c = '<' && (rest.dropWhile (· != '\n') == [] || rest.dropWhile (· != '\n') == ['\n']) then
      rest.dropWhile (· != '\n')
    else c :: withoutGenerics rest

/-- The name of a type without its generic parameters. -/
def TypeDef.baseName (type : TypeDef) : String :=
  String.ofList (withoutGenerics type.name.toList)

/-- What one head line introduces. -/
inductive Declaration where
  | imported (value : Import)
  | function (value : Function)
  | type (value : TypeDef)
  | constant (value : Constant)
deriving DecidableEq

/-- A declaration together with the lines it was read from: the index of its head line, and the index of
the last line that belongs to its head (for a function) or to the whole of it (for the others). -/
structure Sighting where
  head : Nat
  last : Nat
  declaration : Declaration
deriving DecidableEq

/-- All declarations of one file, by kind, in file order. -/
structure Outline where
  imports : List Import := []
  functions : List Function := []
  types : List TypeDef := []
  constants : List Constant := []
deriving DecidableEq

def importsOf (seen : List Sighting) : List Import :=
  seen.filterMap fun s => match s.declaration with | .imported i => some i | _ => none

def functionsOf (seen : List Sighting) : List Function :=
  seen.filterMap fun s => match s.declaration with | .function f => some f | _ => none

def typesOf (seen : List Sighting) : List TypeDef :=
  seen.filterMap fun s => match s.declaration with | .type t => some t | _ => none

def constantsOf (seen : List Sighting) : List Constant :=
  seen.filterMap fun s => match s.declaration with | .constant c => some c | _ => none

/-- Sightings sorted by the kind of their declaration. -/
def Outline.ofSightings (seen : List Sighting) : Outline :=
  ⟨importsOf seen, functionsOf seen, typesOf seen, constantsOf seen⟩

end DeclIndex
