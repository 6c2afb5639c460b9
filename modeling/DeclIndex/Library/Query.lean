import DeclIndex.Library.Basic
import DeclIndex.Pattern.Match
import DeclIndex.Pattern.Parser
import DeclIndex.Search.Rank

/-!
# Questions to a library
-/

namespace DeclIndex

/-- The collections of a library that can be searched. -/
inductive Collection where
  | modules
  | functions
  | atoms
  | types
  | privateTypes
  | constants
  | privateConstants
deriving DecidableEq

namespace Collection

/-- All collections in order. -/
def all : List Collection :=
  [.modules, .functions, .atoms, .types, .privateTypes, .constants, .privateConstants]

def name : Collection → String
  | .modules => "modules"
  | .functions => "functions"
  | .atoms => "atoms"
  | .types => "types"
  | .privateTypes => "private_types"
  | .constants => "constants"
  | .privateConstants => "private_constants"

def ofName? (text : String) : Option Collection :=
  all.find? (·.name == text)

end Collection

/-- Why a question has no answer. -/
inductive QueryError where
  | unknownCollection (name : String)
  | badPattern (pattern : String) (error : Pattern.Error)
deriving DecidableEq

def QueryError.message : QueryError → String
  | .unknownCollection name =>
    "Unknown collection '" ++ name ++ "'. Valid: " ++ ", ".intercalate (Collection.all.map (·.name))
  | .badPattern pattern error =>
    "Invalid search pattern " ++ Text.quote pattern ++ ": " ++ error.message pattern

/-- Whether an error is reported with its wording. -/
def QueryError.isReported : QueryError → Bool
  | .unknownCollection _ => true
  | .badPattern _ error => error.fault.isReported

/-- An entry of a library as a search shows it. -/
structure Entry where
  item : Search.Item
  /-- The signature, definition or value. -/
  detail : String
  aliases : List String
deriving DecidableEq

namespace Library
open Search

def moduleEntry (key : String) (m : Module) : Entry :=
  ⟨{ key := key, name := m.name, source := m.source }, "", []⟩

def functionEntry (key : String) (f : Function) : Entry :=
  ⟨{ key := key, name := f.name, source := f.source, fullName := some key, signature := some f.signature,
     documentation := f.documentation }, f.signature, f.aliases⟩

def typeEntry (key : String) (t : TypeDef) : Entry :=
  ⟨{ key := key, name := t.name, source := t.source, fullName := some key }, t.definition, t.aliases⟩

def constantEntry (key : String) (c : Constant) : Entry :=
  ⟨{ key := key, name := c.name, source := c.source, fullName := some key }, c.type ++ " = " ++ c.value,
    c.aliases⟩

/-- The entries of a collection in their order. -/
def entriesOf (library : Library) : Collection → List Entry
  | .modules => library.modules.entries.map fun (key, m) => moduleEntry key m
  | .functions => library.functions.entries.map fun (key, f) => functionEntry key f
  | .atoms => library.atoms.entries.map fun (key, f) => functionEntry key f
  | .types => library.types.entries.map fun (key, t) => typeEntry key t
  | .privateTypes => library.privateTypes.entries.map fun (key, t) => typeEntry key t
  | .constants => library.constants.entries.map fun (key, c) => constantEntry key c
  | .privateConstants => library.privateConstants.entries.map fun (key, c) => constantEntry key c

/-- The entries of a collection, by its name. -/
def entriesNamed (library : Library) (name : String) : Except QueryError (List Entry) :=
  match Collection.ofName? name with
  | some collection => .ok (library.entriesOf collection)
  | none => .error (.unknownCollection name)

/-- The functions of a table whose name or key a pattern matches, case ignored. -/
def matching (table : Table Function) (pattern : String) :
    Except QueryError (List (String × Function)) :=
  match Pattern.parse pattern with
  | .error error => .error (.badPattern pattern error)
  | .ok parsed => .ok (table.entries.filter fun (key, f) => parsed.occursIn f.name || parsed.occursIn key)

end Library

end DeclIndex
