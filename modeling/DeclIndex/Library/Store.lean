import DeclIndex.Json.Parser
import DeclIndex.Json.Printer
import DeclIndex.Library.Archive
import DeclIndex.Tree

/-!
# Stored libraries

A library is saved as one JSON value. Loading reads only the modules, the ids of the packages and the time; the tables
are built again from the modules. Stored fields are not checked for their kind: what is missing is filled in or reported, and
a file with fields of other kinds still loads, as an archive.
-/

namespace DeclIndex

/-! ## Faults in a stored library -/

/-- Why a stored library does not load. -/
inductive LoadError where
  /-- The text is not read as JSON. -/
  | unread (cause : Json.ReadError)
  /-- A record lacks a field, or is no record. -/
  | access (cause : AccessError)
  /-- A parameter has a field that parameters do not have. -/
  | unexpected (field : String)
  /-- A parameter gives what it is given anyway. -/
  | repeated (field : String)
  /-- A parameter lacks a field. -/
  | lacking (fields : List String)
  /-- A parameter is no object. -/
  | noParameter (kind : String)
  /-- The file holds something else than an object. -/
  | notAnObject
  /-- The package of a module is given by a value that cannot be a key. -/
  | noKey (kind : String)
  /-- The file is no UTF-8 text. -/
  | undecodable
  /-- The path of the file cannot be followed. -/
  | unusable (error : FileError)
deriving DecidableEq

namespace LoadError

/-- What is wrong, in words. -/
def cause : LoadError → String
  | .unread .malformed => "<json>"
  | .unread .tooLong => "too many digits"
  | .unread .tooDeep => "nested too deep"
  | .access cause => cause.message
  | .unexpected field =>
    "Parameter.__init__() got an unexpected keyword argument '" ++ field ++ "'"
  | .repeated field => "Parameter.__init__() got multiple values for argument '" ++ field ++ "'"
  | .lacking [field] =>
    "Parameter.__init__() missing 1 required positional argument: '" ++ field ++ "'"
  | .lacking fields =>
    "Parameter.__init__() missing " ++ toString fields.length ++ " required positional arguments: " ++
      " and ".intercalate (fields.map fun field => "'" ++ field ++ "'")
  | .noParameter kind =>
    "aikendoc.indexer.entities.Parameter() argument after ** must be a mapping, not " ++ kind
  | .notAnObject => "not an object"
  | .noKey kind => "unhashable type: '" ++ kind ++ "'"
  | .undecodable => "not UTF-8"
  | .unusable _ => "no path"

/-- Whether a fault is reported as a corrupt library. The others end the program. -/
def isReported : LoadError → Bool
  | .unread .malformed => true
  | .unread _ => false
  | .notAnObject => false
  | .noKey _ => false
  | .undecodable => false
  | .unusable _ => false
  | _ => true

def message (path : String) (error : LoadError) : String :=
  "Corrupt library at " ++ path ++ ": " ++ error.cause

end LoadError

/-! ## Complete records

A complete record has every field, in order. Completing one looks at the fields in the order in which they are written. -/

namespace Stored

/-- A field that must be there. -/
def need (record : Json) (name : String) : Except LoadError Json :=
  (record.field name).mapError .access

/-- The members of a field, none if it is not there. -/
def list (record : Json) (name : String) : Except LoadError (List Json) :=
  ((record.fieldD name (.arr [])).members).mapError .access

/-- The members of a field, each completed. -/
def each (complete : Json → Except LoadError Json) (record : Json) (name : String) :
    Except LoadError Json := do
  return .arr (← (← list record name).mapM complete)

def parameterRecord (record : Json) : Except LoadError Json :=
  match record with
  | .obj fields =>
    match (fields.map (·.1)).find? (["name", "type", "optional"].contains · == false) with
    | some "self" => .error (.repeated "self")
    | some other => .error (.unexpected other)
    | none =>
      match valueAt? "name" fields, valueAt? "type" fields with
      | some name, some type =>
        .ok (.obj [("name", name), ("type", type), ("optional", record.fieldD "optional" (.bool false))])
      | none, some _ => .error (.lacking ["name"])
      | some _, none => .error (.lacking ["type"])
      | none, none => .error (.lacking ["name", "type"])
  | other => .error (.noParameter other.kind)

def importRecord (record : Json) : Except LoadError Json := do
  let module ← need record "module"
  let items ← list record "items"
  let line ← need record "line"
  let raw ← need record "raw"
  let source ← need record "source"
  return .obj [("module", module), ("items", .arr items), ("alias", record.fieldD "alias" .null),
    ("line", line), ("raw", raw), ("source", source)]

def functionRecord (record : Json) : Except LoadError Json := do
  let name ← need record "name"
  let signature ← need record "signature"
  let parameters ← each parameterRecord record "parameters"
  let line ← need record "line"
  let isPublic ← need record "is_public"
  let source ← need record "source"
  let tests ← list record "tests"
  let aliases ← list record "re_exported_as"
  return .obj [("name", name), ("signature", signature), ("parameters", parameters),
    ("return_type", record.fieldD "return_type" (.str "Unknown")), ("line", line),
    ("raw", record.fieldD "raw" signature), ("is_public", isPublic), ("source", source),
    ("documentation", record.fieldD "documentation" .null),
    ("implementation", record.fieldD "implementation" .null), ("tests", .arr tests),
    ("re_exported_as", .arr aliases)]

def typeRecord (record : Json) : Except LoadError Json := do
  let name ← need record "name"
  let definition ← need record "definition"
  let line ← need record "line"
  let raw ← need record "raw"
  let isPublic ← need record "is_public"
  let source ← need record "source"
  let aliases ← list record "re_exported_as"
  return .obj [("name", name), ("definition", definition), ("line", line), ("raw", raw),
    ("is_public", isPublic), ("source", source), ("re_exported_as", .arr aliases)]

def constantRecord (record : Json) : Except LoadError Json := do
  let name ← need record "name"
  let value ← need record "value"
  let line ← need record "line"
  let raw ← need record "raw"
  let isPublic ← need record "is_public"
  let source ← need record "source"
  let aliases ← list record "re_exported_as"
  return .obj [("name", name), ("type", record.fieldD "type" (.str "Unknown")), ("value", value),
    ("line", line), ("raw", raw), ("is_public", isPublic), ("source", source),
    ("is_re_export", record.fieldD "is_re_export" (.bool false)), ("re_exported_as", .arr aliases)]

def moduleRecord (record : Json) : Except LoadError Json := do
  let path ← need record "path"
  let name ← need record "name"
  let source ← need record "source"
  let imports ← each importRecord record "imports"
  let functions ← each functionRecord record "functions"
  let atoms ← each functionRecord record "atoms"
  let types ← each typeRecord record "types"
  let privateTypes ← each typeRecord record "private_types"
  let constants ← each constantRecord record "constants"
  let privateConstants ← each constantRecord record "private_constants"
  let dependencies ← list record "dependencies"
  return .obj [("path", path), ("name", name), ("source", source), ("imports", imports),
    ("functions", functions), ("atoms", atoms), ("types", types), ("private_types", privateTypes),
    ("constants", constants), ("private_constants", privateConstants),
    ("content", record.fieldD "content" (.str "")), ("dependencies", .arr dependencies),
    ("is_re_export_file", record.fieldD "is_re_export_file" (.bool false))]

/-- What a stored library is loaded from. -/
structure Content where
  /-- The complete modules. -/
  modules : List Json
  /-- The ids of packages that have counters. -/
  sources : List String
  lastUpdated : String

/-- The content of a stored library. -/
def content (document : Json) : Except LoadError Content := do
  match document with
  | .obj _ =>
    let modules ← (← list document "modules").mapM moduleRecord
    let sources ← ((document.fieldD "source_stats" (.obj [])).members).mapError .access
    return ⟨modules, sources.map Json.toText, (document.fieldD "last_updated" (.str "")).toText⟩
  | _ => throw .notAnObject

end Stored

/-! ## Saving and loading -/

/-- What loading gives. -/
inductive Loaded where
  | library (library : Library)
  | archive (archive : Archive)

/-- The library, if every field has the kind that is written. -/
def Loaded.library? : Loaded → Option Library
  | .library typed => some typed
  | .archive _ => none

/-- The text that a library is saved as. -/
def Library.saved (library : Library) : String :=
  library.document.pretty

/-- An archive with one more module, which must have an id of a package. -/
def Archive.add (includePrivate : Bool) (archive : Archive) (record : Json) : Except LoadError Archive :=
  match archive.addModule? includePrivate record with
  | some archive => .ok archive
  | none => .error (.noKey (record.fieldD "source" .null).kind)

/-- Loads a stored library from its JSON value. -/
def Library.ofDocument (includePrivate : Bool) (document : Json) : Except LoadError Loaded := do
  let content ← Stored.content document
  match content.modules.mapM Module.ofJson? with
  | some modules =>
    return .library ((Library.blank content.lastUpdated content.sources).addModules includePrivate modules)
  | none =>
    let start : Archive :=
      { sourceStats := (Library.blank "" content.sources).sourceStats.entries.map fun (source, stats) =>
          (.str source, stats)
        lastUpdated := content.lastUpdated }
    return .archive (← content.modules.foldlM (Archive.add includePrivate) start)

/-- Loads a stored library from its text, in which no more than `depth` values are around one another. -/
def Library.load (depth : Nat) (includePrivate : Bool) (text : String) : Except LoadError Loaded :=
  match Json.parse depth text with
  | .ok document => Library.ofDocument includePrivate document
  | .error cause => .error (.unread cause)

end DeclIndex
