import DeclIndex.Library.Dependency
import DeclIndex.Library.Query
import DeclIndex.Library.Store

/-!
# Questions to an archive

An archive answers the questions that a library answers, as far as the fields that a question looks at are texts. A field of
another kind that no answer needs does no harm.
-/

namespace DeclIndex

/-- Why an archive does not answer. -/
inductive ArchiveError where
  /-- A field that is searched is no text. -/
  | notSearchable
  /-- A name that a declaration is also known under is no text. -/
  | badAlias
  /-- A cell of a table would hold something else than a text. -/
  | notShown
  /-- The path of an import is a value without parts. -/
  | badPath
  /-- The path of an import is an array or an object. -/
  | compoundPath
deriving DecidableEq

def ArchiveError.message : ArchiveError → String
  | .notSearchable => "A field that is searched is no text."
  | .badAlias => "A name in the list of re-exports is no text."
  | .notShown => "A field that is shown is no text."
  | .badPath => "The path of an import is no text."
  | .compoundPath => "The path of an import is an array or an object."

namespace Archive
open Search

/-! ## Searching -/

def table (archive : Archive) : Collection → Table Json
  | .modules => archive.modules
  | .functions => archive.functions
  | .atoms => archive.atoms
  | .types => archive.types
  | .privateTypes => archive.privateTypes
  | .constants => archive.constants
  | .privateConstants => archive.privateConstants

/-- The fields of a record that are searched, besides its key. -/
def searchedFields : Collection → List String
  | .functions => ["name", "signature", "documentation"]
  | .atoms => ["name", "signature", "documentation"]
  | _ => ["name"]

/-- The text of a value that is searched. A value that counts as false is searched as the empty text. -/
def searchedText? : Json → Option String
  | .str text => some text
  | value => if value.isTrue then none else some ""

/-- The text of a field that is searched. -/
def searched? (record : Json) (name : String) : Option String :=
  searchedText? (record.fieldD name .null)

/-- Whether all searched fields of a record can be searched. -/
def isSearchable (collection : Collection) (record : Json) : Bool :=
  (searchedFields collection).all fun name => (searched? record name).isSome

/-- A record as a search looks at it. -/
def item (collection : Collection) (key : String) (record : Json) : Item where
  key := key
  name := (searched? record "name").getD ""
  source := textOf record "source"
  fullName := if collection = .modules then none else some key
  signature := if (searchedFields collection).contains "signature" then searched? record "signature" else none
  documentation :=
    if (searchedFields collection).contains "documentation" then searched? record "documentation" else none

/-- Whether a record comes from the wanted source. An id that is no text is never the one that is asked for. -/
def isFrom (source : String) (record : Json) : Bool :=
  source == allSources ||
    match record.get? "source" with
    | some (.str id) => id == source
    | _ => false

/-- The records of a source in a scope, in their order. -/
def select (archive : Archive) (collection : Collection) (source scope : String) : List (String × Json) :=
  (archive.table collection).entries.filter fun (key, record) =>
    isFrom source record && (item collection key record).isIn scope

/-- The records of a source in a scope that match a query, best first. All of them must be searchable, unless the query is blank. -/
def search (archive : Archive) (collection : Collection) (query source scope : String) :
    Except ArchiveError (List (String × Json)) :=
  let chosen := archive.select collection source scope
  if isBlankQuery query || chosen.all fun (_, record) => isSearchable collection record then
    .ok (rank (fun (key, record) => item collection key record) query allSources "" chosen)
  else .error .notSearchable

/-! ## Showing -/

/-- A value in a cell of a table. Null leaves the cell empty. -/
def cell : Json → Except ArchiveError String
  | .str text => .ok text
  | .null => .ok ""
  | _ => .error .notShown

/-- A name that a declaration is also known under. -/
def aliasText : Json → Except ArchiveError String
  | .str text => .ok text
  | _ => .error .badAlias

/-- The signature, definition or value of a record. -/
def detail (collection : Collection) (record : Json) : Except ArchiveError String :=
  match collection with
  | .modules => .ok ""
  | .functions | .atoms => cell (record.fieldD "signature" .null)
  | .types | .privateTypes => cell (record.fieldD "definition" .null)
  | .constants | .privateConstants => .ok (textOf record "type" ++ " = " ++ textOf record "value")

/-- A record as a search shows it: its key, its detail and its other names. -/
def row (collection : Collection) (key : String) (record : Json) : Except ArchiveError (List String) := do
  let aliases ← (itemsOf record "re_exported_as").mapM aliasText
  return [key, ← detail collection record, ", ".intercalate aliases]

/-- The counters by the ids of the packages. -/
def sources (archive : Archive) : Except ArchiveError (List (String × Stats)) :=
  archive.sourceStats.mapM fun (source, stats) => (cell source).map fun id => (id, stats)

/-! ## Dependencies -/

/-- The key of the module that a path in a module refers to. -/
def resolve (archive : Archive) (path : Json) (importer : String) : Except ArchiveError String :=
  match path with
  | .str path => .ok (Library.resolveAmong archive.modules hasName path importer)
  | .arr _ => .error .compoundPath
  | .obj _ => .error .compoundPath
  | _ => .error .badPath
where
  hasName (record : Json) (name : String) : Bool :=
    match record.get? "name" with
    | some (.str text) => text == name
    | _ => false

/-- The paths of what a module imports. -/
def paths (archive : Archive) (key : String) : List Json :=
  ((archive.dependencies.get? key).bind Json.members?).getD []

/-- Visits a key, as in a library. The paths of a module are looked at one after the other. -/
def visit (archive : Archive) : Nat → Library.Walk → String → Except ArchiveError Library.Walk
  | 0, walk, _ => .ok walk
  | fuel + 1, walk, key =>
    if walk.met.contains key then .ok walk
    else do
      let inner ← (archive.paths key).foldlM
        (fun walk path => do visit archive fuel walk (← archive.resolve path key))
        { walk with met := key :: walk.met }
      return { inner with left := key :: inner.left }

/-- Everything that a module depends on, each once, before what depends on it, and the module itself last. -/
def dependencyTree (archive : Archive) (key : String) : Except ArchiveError (List String) :=
  (archive.visit (archive.dependencies.size + 2) {} key).map fun walk => walk.left.reverse

/-- Whether one of some paths in a module is the key of another or refers to it. Paths after that one are not looked at. -/
def importsKey (archive : Archive) (importer key : String) : List Json → Except ArchiveError Bool
  | [] => .ok false
  | path :: rest => do
    let target ← archive.resolve path importer
    if isKey path || target == key then return true else archive.importsKey importer key rest
where
  isKey : Json → Bool
    | .str path => path == key
    | _ => false

/-- The modules that import a module, by its key or by a path that refers to it. -/
def importers (archive : Archive) (key : String) : Except ArchiveError (List String) :=
  archive.dependencies.keys.filterM fun importer => archive.importsKey importer key (archive.paths importer)

end Archive

end DeclIndex
