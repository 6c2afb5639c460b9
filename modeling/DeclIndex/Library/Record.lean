import DeclIndex.Json.Basic
import DeclIndex.Library.Basic

/-!
# Records as JSON

Every record is stored as an object with all its fields. Reading it back succeeds exactly on objects whose fields have
the kinds that are written.
-/

namespace DeclIndex

namespace Json

/-- A field that is a text. -/
def text? (record : Json) (name : String) : Option String :=
  match record.get? name with
  | some (.str text) => some text
  | _ => none

/-- A field that is a text or null. -/
def optionalText? (record : Json) (name : String) : Option (Option String) :=
  match record.get? name with
  | some (.str text) => some (some text)
  | some .null => some none
  | _ => none

/-- A field that is a truth value. -/
def flag? (record : Json) (name : String) : Option Bool :=
  match record.get? name with
  | some (.bool value) => some value
  | _ => none

/-- A field that is a whole number and not negative. -/
def nat? (record : Json) (name : String) : Option Nat :=
  match record.get? name with
  | some (.int (.ofNat n)) => some n
  | _ => none

/-- A field that is an array, each item read. -/
def list? {α : Type} (read : Json → Option α) (record : Json) (name : String) : Option (List α) :=
  match record.get? name with
  | some (.arr items) => items.mapM read
  | _ => none

/-- A value that is a text. -/
def asText? : Json → Option String
  | .str text => some text
  | _ => none

end Json

/-! ## Parameters -/

def Parameter.toJson (p : Parameter) : Json :=
  .obj [("name", .str p.name), ("type", .str p.type), ("optional", .bool p.optional)]

def Parameter.ofJson? (record : Json) : Option Parameter := do
  return {
    name := ← record.text? "name"
    type := ← record.text? "type"
    optional := ← record.flag? "optional" }

/-! ## Imports -/

def Import.toJson (i : Import) : Json :=
  .obj [("module", .str i.module), ("items", .strings i.items), ("alias", .optional i.renamed),
    ("line", .nat i.line), ("raw", .str i.raw), ("source", .str i.source)]

def Import.ofJson? (record : Json) : Option Import := do
  return {
    module := ← record.text? "module"
    items := ← record.list? Json.asText? "items"
    renamed := ← record.optionalText? "alias"
    line := ← record.nat? "line"
    raw := ← record.text? "raw"
    source := ← record.text? "source" }

/-! ## Functions -/

def Function.fields (f : Function) : List (String × Json) :=
  [("name", .str f.name), ("signature", .str f.signature),
    ("parameters", .arr (f.parameters.map Parameter.toJson)), ("return_type", .str f.returnType),
    ("line", .nat f.line), ("raw", .str f.raw), ("is_public", .bool f.isPublic),
    ("source", .str f.source), ("documentation", .optional f.documentation),
    ("implementation", .optional f.implementation), ("tests", .strings f.tests),
    ("re_exported_as", .strings f.aliases)]

def Function.ofJson? (record : Json) : Option Function := do
  return {
    name := ← record.text? "name"
    signature := ← record.text? "signature"
    parameters := ← record.list? Parameter.ofJson? "parameters"
    returnType := ← record.text? "return_type"
    line := ← record.nat? "line"
    raw := ← record.text? "raw"
    isPublic := ← record.flag? "is_public"
    source := ← record.text? "source"
    documentation := ← record.optionalText? "documentation"
    implementation := ← record.optionalText? "implementation"
    tests := ← record.list? Json.asText? "tests"
    aliases := ← record.list? Json.asText? "re_exported_as" }

/-! ## Types -/

def TypeDef.fields (t : TypeDef) : List (String × Json) :=
  [("name", .str t.name), ("definition", .str t.definition), ("line", .nat t.line), ("raw", .str t.raw),
    ("is_public", .bool t.isPublic), ("source", .str t.source), ("re_exported_as", .strings t.aliases)]

def TypeDef.ofJson? (record : Json) : Option TypeDef := do
  return {
    name := ← record.text? "name"
    definition := ← record.text? "definition"
    line := ← record.nat? "line"
    raw := ← record.text? "raw"
    isPublic := ← record.flag? "is_public"
    source := ← record.text? "source"
    aliases := ← record.list? Json.asText? "re_exported_as" }

/-! ## Constants -/

def Constant.fields (c : Constant) : List (String × Json) :=
  [("name", .str c.name), ("type", .str c.type), ("value", .str c.value), ("line", .nat c.line),
    ("raw", .str c.raw), ("is_public", .bool c.isPublic), ("source", .str c.source),
    ("is_re_export", .bool c.isReExport), ("re_exported_as", .strings c.aliases)]

def Constant.ofJson? (record : Json) : Option Constant := do
  return {
    name := ← record.text? "name"
    type := ← record.text? "type"
    value := ← record.text? "value"
    line := ← record.nat? "line"
    raw := ← record.text? "raw"
    isPublic := ← record.flag? "is_public"
    source := ← record.text? "source"
    isReExport := ← record.flag? "is_re_export"
    aliases := ← record.list? Json.asText? "re_exported_as" }

/-! ## Modules -/

/-- Records as an array of objects. -/
def records {α : Type} (fields : α → List (String × Json)) (list : List α) : Json :=
  .arr (list.map fun value => .obj (fields value))

def Module.fields (m : Module) : List (String × Json) :=
  [("path", .str m.path), ("name", .str m.name), ("source", .str m.source),
    ("imports", .arr (m.imports.map Import.toJson)), ("functions", records Function.fields m.functions),
    ("atoms", records Function.fields m.atoms), ("types", records TypeDef.fields m.types),
    ("private_types", records TypeDef.fields m.privateTypes),
    ("constants", records Constant.fields m.constants),
    ("private_constants", records Constant.fields m.privateConstants), ("content", .str m.content),
    ("dependencies", .strings m.dependencies), ("is_re_export_file", .bool m.isAggregator)]

def Module.ofJson? (record : Json) : Option Module := do
  return {
    path := ← record.text? "path"
    name := ← record.text? "name"
    source := ← record.text? "source"
    imports := ← record.list? Import.ofJson? "imports"
    functions := ← record.list? Function.ofJson? "functions"
    atoms := ← record.list? Function.ofJson? "atoms"
    types := ← record.list? TypeDef.ofJson? "types"
    privateTypes := ← record.list? TypeDef.ofJson? "private_types"
    constants := ← record.list? Constant.ofJson? "constants"
    privateConstants := ← record.list? Constant.ofJson? "private_constants"
    content := ← record.text? "content"
    dependencies := ← record.list? Json.asText? "dependencies"
    isAggregator := ← record.flag? "is_re_export_file" }

/-! ## Libraries -/

def Stats.toJson (stats : Stats) : Json :=
  .obj [("modules", .nat stats.modules), ("functions", .nat stats.functions), ("atoms", .nat stats.atoms),
    ("types", .nat stats.types), ("private_types", .nat stats.privateTypes),
    ("constants", .nat stats.constants), ("private_constants", .nat stats.privateConstants)]

/-- The entries of a table as an array of objects, each with its key in front. -/
def keyed {α : Type} (fields : α → List (String × Json)) (table : Table α) : Json :=
  .arr (table.entries.map fun (key, value) => .obj (("key", .str key) :: fields value))

/-- Everything in a library but its counters. -/
def Library.fields (library : Library) : List (String × Json) :=
  [("last_updated", .str library.lastUpdated), ("modules", keyed Module.fields library.modules),
    ("dependencies", .arr (library.dependencies.entries.map fun (key, paths) =>
      .arr [.str key, .strings paths])),
    ("functions", keyed Function.fields library.functions), ("atoms", keyed Function.fields library.atoms),
    ("types", keyed TypeDef.fields library.types),
    ("private_types", keyed TypeDef.fields library.privateTypes),
    ("constants", keyed Constant.fields library.constants),
    ("private_constants", keyed Constant.fields library.privateConstants)]

/-- A library as one JSON value. -/
def Library.document (library : Library) : Json :=
  .obj (library.fields ++
    [("source_stats", .obj (library.sourceStats.entries.map fun (source, stats) =>
      (source, stats.toJson)))])

end DeclIndex
