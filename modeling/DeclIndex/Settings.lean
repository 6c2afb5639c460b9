import DeclIndex.Discovery
import DeclIndex.Registry
import DeclIndex.Text.Decode
import DeclIndex.Text.Lower

/-!
# Settings

Settings come in layers: a file for all projects, a file in the project, and environment variables. A later layer wins.
-/

namespace DeclIndex
open DeclIndex.Text

/-- What a project is indexed with. -/
structure Settings where
  /-- The folder that the paths of packages start from. -/
  projectDir : Path
  /-- Whether test files are indexed too. -/
  includeTests : Bool := false
  /-- Whether private declarations enter the tables of a library. -/
  includePrivate : Bool := true
  /-- The ids of the packages to index. None means all that are enabled. -/
  sources : List String := []
  /-- Where the library is stored. -/
  indexPath : Path := Path.ofText ".aikendoc/library.json"
  registry : Registry := Registry.default

/-- Why settings cannot be used. -/
inductive SettingsError where
  | notBoolean (name : String) (value : Value)
  | notSources (value : Value)
  | notPackages
  | registry (error : RegistryError)
  /-- A value cannot be shown, in a message or as a setting. -/
  | unshown (excess : Excess)
  /-- A settings file is no UTF-8 text. -/
  | undecodable (path : String)
  /-- There is too much in a settings file to read it. -/
  | overfull (path : String) (excess : Excess)
  /-- The console does not print the report on a settings file. -/
  | unprinted (notice : Notice)
  /-- The path of a settings file cannot be followed. -/
  | unusable (failure : PathError)

def SettingsError.message : SettingsError → String
  | .notBoolean name value => "'" ++ name ++ "' must be a boolean, got " ++ value.literal
  | .notSources value => "'sources' must be a list of package ids, got " ++ value.literal
  | .notPackages => "'packages' must be an array of tables ([[packages]])"
  | .registry error => error.message
  | .unshown excess => excess.message
  | .undecodable path => "not UTF-8: " ++ path
  | .overfull path excess => path ++ ": " ++ excess.message
  | .unprinted notice => "not printed: " ++ notice.text
  | .unusable failure => failure.message

/-- Whether an error is reported with its wording. -/
def SettingsError.isReported : SettingsError → Bool
  | .notBoolean _ _ | .notSources _ | .notPackages => true
  | .registry error => error.isReported
  | _ => false

namespace Settings

/-- Where the library is stored, from the folder of the project. -/
def storePath (settings : Settings) : Path :=
  settings.projectDir.join settings.indexPath

/-- Whether a text means yes. -/
def isYes (text : String) : Bool :=
  ["true", "1", "yes"].contains (String.ofList (lower text.toList))

/-- The fields of a settings file. -/
abbrev Fields := List (String × Value)

/-- The value of a field through a reader, or what was there before. -/
def override {α : Type} (fields : Fields) (name : String) (before : α) (read : Value → Except SettingsError α) :
    Except SettingsError α :=
  match valueAt? name fields with
  | some value => read value
  | none => .ok before

section Values

variable (room : Value.Room)

/-- An error whose message shows a value, unless the value cannot be shown. -/
def flawed (place : Value.Place) (value : Value) (error : SettingsError) : SettingsError :=
  match value.excess? (room place) with
  | some excess => .unshown excess
  | none => error

/-- The truth value that a setting means. -/
def truth (name : String) : Value → Except SettingsError Bool
  | .bool value => .ok value
  | .str text => .ok (isYes text)
  | value => .error (flawed room .flag value (.notBoolean name value))

/-- The text of a value. -/
def textAt (place : Value.Place) (value : Value) : Except SettingsError String :=
  (value.toText (room place)).mapError .unshown

/-- The ids of packages that a setting lists. -/
def sourceIds : Value → Except SettingsError (List String)
  | .arr ids => ids.mapM (textAt room .source)
  | value => .error (flawed room .sources value (.notSources value))

/-- The registry that a setting lists. -/
def registryOf : Value → Except SettingsError Registry
  | .arr entries => (Registry.ofSettings room entries).mapError .registry
  | _ => .error .notPackages

/-- Settings with those of a file put over them. -/
def withFields (settings : Settings) (fields : Fields) : Except SettingsError Settings := do
  let includeTests ← override fields "include_tests" settings.includeTests (truth room "include_tests")
  let includePrivate ← override fields "include_private" settings.includePrivate (truth room "include_private")
  let sources ← override fields "sources" settings.sources (sourceIds room)
  let indexPath ← override fields "index_path" settings.indexPath fun value =>
    (textAt room .indexPath value).map Path.ofText
  let registry ← override fields "packages" settings.registry (registryOf room)
  return { settings with includeTests, includePrivate, sources, indexPath, registry }

end Values

/-- Environment variables with their values. -/
abbrev Environment := List (String × String)

/-- The value of a variable that is set to something. -/
def valueOf? (environment : Environment) (name : String) : Option String :=
  (valueAt? name environment).filter (!·.isEmpty)

/-- The ids in a text, between commas. -/
def idsIn (text : String) : List String :=
  ((text.toList.splitOn ',').map trim).filterMap fun id =>
    if id.isEmpty then none else some (String.ofList id)

/-- Settings with those of the environment put over them. -/
def withEnvironment (settings : Settings) (environment : Environment) : Settings where
  projectDir := settings.projectDir
  includeTests :=
    ((valueOf? environment "AIKENDOC_INCLUDE_TESTS").map isYes).getD settings.includeTests
  includePrivate :=
    ((valueOf? environment "AIKENDOC_INCLUDE_PRIVATE").map isYes).getD settings.includePrivate
  sources := ((valueOf? environment "AIKENDOC_SOURCES").map idsIn).getD settings.sources
  indexPath := ((valueOf? environment "AIKENDOC_INDEX_PATH").map Path.ofText).getD settings.indexPath
  registry := settings.registry

/-- What the text of a settings file is read as. -/
inductive Reading where
  | table (fields : Fields)
  /-- The text holds no table, for some cause. -/
  | invalid (cause : String)
  /-- There is too much in the text to read it. -/
  | overfull (excess : Excess)

/-- What settings are read from. -/
structure World where
  tree : Node
  /-- The settings file for all projects. -/
  globalFile : Path
  environment : Environment
  /-- Reads the text of a settings file. -/
  parse : String → Reading
  /-- Whether the console prints a text. -/
  prints : String → Bool
  room : Value.Room

/-- The fields of a settings file. A file that is not there has none, nor does one that cannot be parsed, which is
reported. -/
def fieldsAt (world : World) (path : Path) : Reporting SettingsError Fields := do
  match world.tree.read path.parts with
  | .error .tooLong => throw (.unusable ⟨path, .tooLong⟩)
  | .error _ => return []
  | .ok bytes =>
    match String.fromUTF8? bytes with
    | none => throw (.undecodable path.text)
    | some text =>
      match world.parse (String.ofList (lineFeeds text.toList)) with
      | .table fields => return fields
      | .overfull excess => throw (.overfull path.text excess)
      | .invalid cause =>
        let notice := Notice.unparsable path.text cause
        if world.prints notice.text then
          Reporting.report [notice]
          return []
        else throw (.unprinted notice)

/-- The settings of a project. -/
def load (world : World) (projectDir : Path) : Reporting SettingsError Settings := do
  let global ← fieldsAt world world.globalFile
  let settings ← Settings.withFields world.room { projectDir } global
  let project ← fieldsAt world (projectDir.join (Path.ofText ".aikendoc/config.toml"))
  let settings ← settings.withFields world.room project
  return settings.withEnvironment world.environment

end Settings

end DeclIndex
