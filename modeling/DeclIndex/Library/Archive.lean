import DeclIndex.Json.Literal
import DeclIndex.Library.Record

/-!
# Archives

A stored library some of whose fields have other kinds than those that are written. Its records are kept as objects, complete and
with their fields in order; keys are made of the texts of their fields.
-/

namespace DeclIndex

/-! ## Ids of packages -/

/-- What tells the ids of packages apart. Numbers and truth values of one size are one id. -/
inductive SourceId where
  | missing
  | text (id : String)
  | whole (size : Int)
  /-- A number that is not whole, by its bits. -/
  | broken (bits : UInt64)
deriving DecidableEq

/-- The id that a value stands for. Arrays and objects stand for none. -/
def SourceId.ofJson? : Json → Option SourceId
  | .null => some .missing
  | .bool b => some (.whole (if b then 1 else 0))
  | .int n => some (.whole n)
  | .float x => some (if Decimal.isWhole x then .whole (Decimal.truncate x) else .broken x.toBits)
  | .str id => some (.text id)
  | .arr _ => none
  | .obj _ => none

/-! ## Archives -/

/-- A loaded library with untyped records. -/
structure Archive where
  modules : Table Json := .empty
  dependencies : Table Json := .empty
  functions : Table Json := .empty
  atoms : Table Json := .empty
  types : Table Json := .empty
  privateTypes : Table Json := .empty
  constants : Table Json := .empty
  privateConstants : Table Json := .empty
  sourceStats : List (Json × Stats) := []
  lastUpdated : String := ""

namespace Archive

/-- A field of a complete record as a text. -/
def textOf (record : Json) (name : String) : String :=
  (record.fieldD name .null).toText

/-- The items of an array in a complete record. -/
def itemsOf (record : Json) (name : String) : List Json :=
  match record.get? name with
  | some (.arr items) => items
  | _ => []

/-- The counters with the declarations of a module added. -/
def addRecord (record : Json) (stats : Stats) : Stats where
  modules := stats.modules + 1
  functions := stats.functions + (itemsOf record "functions").length
  atoms := stats.atoms + (itemsOf record "atoms").length
  types := stats.types + (itemsOf record "types").length
  privateTypes := stats.privateTypes + (itemsOf record "private_types").length
  constants := stats.constants + (itemsOf record "constants").length
  privateConstants := stats.privateConstants + (itemsOf record "private_constants").length

/-- The counters after one more module of a package. A package is shown as it was first written. -/
def count (source record : Json) : List (Json × Stats) → List (Json × Stats)
  | [] => [(source, addRecord record {})]
  | (other, stats) :: rest =>
    if SourceId.ofJson? other = SourceId.ofJson? source then (other, addRecord record stats) :: rest
    else (other, stats) :: count source record rest

/-- A table with the records in a field of a module added. -/
def index (key : String) (record : Json) (name : String) (table : Table Json) : Table Json :=
  table.insertAll ((itemsOf record name).map fun item => (key ++ "." ++ textOf item "name", item))

/-- An archive with one more module, if that says which package it is in. -/
def addModule? (includePrivate : Bool) (archive : Archive) (record : Json) : Option Archive :=
  let key := Module.keyOf (textOf record "source") (textOf record "name")
  let source := record.fieldD "source" .null
  let indexPrivate (name : String) (table : Table Json) : Table Json :=
    if includePrivate then index key record name table else table
  (SourceId.ofJson? source).map fun _ =>
    { modules := archive.modules.insert key record
      dependencies := archive.dependencies.insert key (record.fieldD "dependencies" (.arr []))
      functions := index key record "functions" archive.functions
      types := index key record "types" archive.types
      constants := index key record "constants" archive.constants
      atoms := indexPrivate "atoms" archive.atoms
      privateTypes := indexPrivate "private_types" archive.privateTypes
      privateConstants := indexPrivate "private_constants" archive.privateConstants
      sourceStats := count source record archive.sourceStats
      lastUpdated := archive.lastUpdated }

/-- The fields of an object. -/
def fieldsOf : Json → List (String × Json)
  | .obj fields => fields
  | _ => []

/-- Everything in an archive but its counters. -/
def fields (archive : Archive) : List (String × Json) :=
  [("last_updated", .str archive.lastUpdated), ("modules", keyed fieldsOf archive.modules),
    ("dependencies", .arr (archive.dependencies.entries.map fun (key, paths) => .arr [.str key, paths])),
    ("functions", keyed fieldsOf archive.functions), ("atoms", keyed fieldsOf archive.atoms),
    ("types", keyed fieldsOf archive.types), ("private_types", keyed fieldsOf archive.privateTypes),
    ("constants", keyed fieldsOf archive.constants),
    ("private_constants", keyed fieldsOf archive.privateConstants)]

end Archive

end DeclIndex
