import DeclIndex.Proofs.FileTree
import DeclIndex.Proofs.Loading

/-!
# Layers of settings

A setting comes from the environment if it is set there, else from the file of the project, else from the file for all projects, else
it has its default. A table with an invalid value is refused even if a higher layer has another value in its place. So settings can
be told from the two tables and the environment, unless something else is met before: a file that cannot be read, or whose report is not
printed, or a value that cannot be shown.
-/

namespace DeclIndex
namespace Settings
open DeclIndex.Text Reporting

/-! ## Tables -/

/-- What the bytes of a settings file are read as, if they are a text. -/
def readingOf? (world : World) (bytes : ByteArray) : Option Reading :=
  (String.fromUTF8? bytes).map fun text => world.parse (String.ofList (lineFeeds text.toList))

/-- The table in a settings file. It is empty if there is no file or no table in it. -/
def tableAt (world : World) (path : Path) : Fields :=
  match world.tree.read path.parts with
  | .error _ => []
  | .ok bytes =>
    match readingOf? world bytes with
    | some (.table fields) => fields
    | _ => []

/-- Why a settings file cannot be read, unless it can or there is none. A file without a table in it can be read if the console prints
the report on it. -/
def unreadable? (world : World) (path : Path) : Option SettingsError :=
  match world.tree.read path.parts with
  | .error .tooLong => some (.unusable ⟨path, .tooLong⟩)
  | .error _ => none
  | .ok bytes =>
    match readingOf? world bytes with
    | none => some (.undecodable path.text)
    | some (.table _) => none
    | some (.overfull excess) => some (.overfull path.text excess)
    | some (.invalid cause) =>
      let notice := Notice.unparsable path.text cause
      if world.prints notice.text then none else some (.unprinted notice)

theorem yields_fieldsAt (world : World) (path : Path) :
    (fieldsAt world path).Yields (valueUnless (unreadable? world path) (tableAt world path)) := by
  unfold fieldsAt unreadable? tableAt readingOf?
  cases world.tree.read path.parts with
  | error error =>
    cases error with
    | tooLong => exact yields_throw _
    | _ => exact yields_pure []
  | ok bytes =>
    dsimp only
    cases String.fromUTF8? bytes with
    | none => exact yields_throw _
    | some text =>
      dsimp only [Option.map_some]
      cases world.parse (String.ofList (lineFeeds text.toList)) with
      | table fields => exact yields_pure fields
      | overfull excess => exact yields_throw _
      | invalid cause =>
        dsimp only
        split
        · exact Yields.report (yields_pure []) _
        · exact yields_throw _

/-! ## Invalid values -/

/-- What is wrong with a value that is to be a truth value. -/
def flawOfFlag (name : String) : Value → Option SettingsError
  | .bool _ => none
  | .str _ => none
  | value => some (.notBoolean name value)

/-- What is wrong with a value that is to list ids of packages. -/
def flawOfSources : Value → Option SettingsError
  | .arr _ => none
  | value => some (.notSources value)

/-- Checks of settings by their names, in the order in which they are made. -/
abbrev Checks := List (String × (Value → Option SettingsError))

/-- The first thing that some checks find in a table. -/
def Checks.first? (checks : Checks) (table : Fields) : Option SettingsError :=
  checks.findSome? fun (name, check) => (valueAt? name table).bind check

theorem Checks.first?_cons (name : String) (check : Value → Option SettingsError) (checks : Checks) (table : Fields) :
    first? ((name, check) :: checks) table = ((valueAt? name table).bind check).or (checks.first? table) := by
  rw [first?, List.findSome?_cons, first?]
  dsimp only
  cases (valueAt? name table).bind check <;> rfl

section Values

variable (room : Value.Room)

/-- What is wrong with a value that is to list packages. -/
def flawOfPackages : Value → Option SettingsError
  | .arr entries =>
    match Registry.ofSettings room entries with
    | .error error => some (.registry error)
    | .ok _ => none
  | _ => some .notPackages

/-- The settings that can be invalid. -/
def flaws : Checks :=
  [("include_tests", flawOfFlag "include_tests"), ("include_private", flawOfFlag "include_private"), ("sources", flawOfSources),
    ("packages", flawOfPackages room)]

/-! ## What is met on the way -/

/-- What keeps a value from being taken as a text. -/
def hurdleOfText (place : Value.Place) (value : Value) : Option SettingsError :=
  (value.textExcess? (room place)).map .unshown

/-- What keeps a value from being taken as a truth value. An invalid value must be shown to be refused. -/
def hurdleOfFlag (name : String) (value : Value) : Option SettingsError :=
  (flawOfFlag name value).map (flawed room .flag value)

/-- What keeps a value from being taken as ids of packages. -/
def hurdleOfSources : Value → Option SettingsError
  | .arr ids => ids.findSome? (hurdleOfText room .source)
  | value => (flawOfSources value).map (flawed room .sources value)

/-- The settings at which reading a table can stop. -/
def hurdles : Checks :=
  [("include_tests", hurdleOfFlag room "include_tests"), ("include_private", hurdleOfFlag room "include_private"),
    ("sources", hurdleOfSources room), ("index_path", hurdleOfText room .indexPath), ("packages", flawOfPackages room)]

/-! ## Values -/

/-- The truth value that a valid value means. -/
def flagOf : Value → Bool
  | .bool value => value
  | .str text => isYes text
  | _ => false

/-- The ids that a valid value lists. -/
def idsOf : Value → List String
  | .arr ids => ids.map Value.text
  | _ => []

/-- The packages that a valid value lists. -/
def packagesOf : Value → Registry
  | .arr entries =>
    match Registry.ofSettings room entries with
    | .ok registry => registry
    | .error _ => Registry.empty
  | _ => Registry.empty

/-- The path that a value gives. -/
def pathOf (value : Value) : Path :=
  Path.ofText value.text

theorem truth_eq (name : String) (value : Value) :
    truth room name value = valueUnless (hurdleOfFlag room name value) (flagOf value) := by
  cases value <;> rfl

theorem textAt_eq (place : Value.Place) (value : Value) :
    textAt room place value = valueUnless (hurdleOfText room place value) value.text := by
  rw [textAt, Value.toText, hurdleOfText]
  cases value.textExcess? (room place) <;> rfl

theorem sourceIds_eq (value : Value) : sourceIds room value = valueUnless (hurdleOfSources room value) (idsOf value) := by
  cases value with
  | arr ids =>
    have texts : textAt room .source = fun id => valueUnless (hurdleOfText room .source id) id.text := funext (textAt_eq room .source)
    rw [sourceIds, texts]
    exact mapM_valueUnless _ _ ids
  | _ => rfl

theorem pathAt_eq (value : Value) :
    (textAt room .indexPath value).map Path.ofText = valueUnless (hurdleOfText room .indexPath value) (pathOf value) := by
  rw [textAt_eq]
  cases hurdleOfText room .indexPath value <;> rfl

theorem registryOf_eq (value : Value) :
    registryOf room value = valueUnless (flawOfPackages room value) (packagesOf room value) := by
  cases value with
  | arr entries =>
    simp only [registryOf, flawOfPackages, packagesOf]
    cases Registry.ofSettings room entries <;> rfl
  | _ => rfl

/-- Reading a setting gives its value in a table, or what it was before, unless something is in the way. -/
theorem override_eq {α : Type} {read : Value → Except SettingsError α} {hurdle : Value → Option SettingsError} {result : Value → α}
    (reads : ∀ value, read value = valueUnless (hurdle value) (result value)) (table : Fields) (name : String) (before : α) :
    override table name before read =
      valueUnless ((valueAt? name table).bind hurdle) (((valueAt? name table).map result).getD before) := by
  unfold override
  cases valueAt? name table with
  | none => rfl
  | some value => exact reads value

/-! ## One table -/

/-- Settings with those of a valid table put over them. -/
def overlaid (settings : Settings) (table : Fields) : Settings where
  projectDir := settings.projectDir
  includeTests := ((valueAt? "include_tests" table).map flagOf).getD settings.includeTests
  includePrivate := ((valueAt? "include_private" table).map flagOf).getD settings.includePrivate
  sources := ((valueAt? "sources" table).map idsOf).getD settings.sources
  indexPath := ((valueAt? "index_path" table).map pathOf).getD settings.indexPath
  registry := ((valueAt? "packages" table).map (packagesOf room)).getD settings.registry

theorem withFields_eq (settings : Settings) (table : Fields) :
    settings.withFields room table = valueUnless ((hurdles room).first? table) (settings.overlaid room table) := by
  have last (whole : Settings) : (pure whole : Except SettingsError Settings) = valueUnless none whole := rfl
  rw [withFields, override_eq (truth_eq room "include_tests"), override_eq (truth_eq room "include_private"),
    override_eq (sourceIds_eq room), override_eq (pathAt_eq room), override_eq (registryOf_eq room)]
  simp only [last, valueUnless_bind, hurdles, Checks.first?_cons]
  rfl

end Values

/-! ## Agreement -/

/-- Whether an error is about an invalid value. -/
def isOfValue : SettingsError → Bool
  | .notBoolean _ _ | .notSources _ | .notPackages | .registry _ => true
  | _ => false

/-- What is met on the way agrees with what is wrong, if it is about an invalid value or nothing is met. -/
def Agrees (met wrong : Option SettingsError) : Prop :=
  met.all isOfValue → met = wrong

section Agreement

variable {met wrong laterMet laterWrong : Option SettingsError}

theorem Agrees.or (first : Agrees met wrong) (later : Agrees laterMet laterWrong) :
    Agrees (met.or laterMet) (wrong.or laterWrong) := by
  intro ofValue
  cases met with
  | none => rw [← first rfl, Option.none_or, Option.none_or, later ofValue]
  | some error => rw [← first ofValue, Option.some_or, Option.some_or]

end Agreement

/-! ## All layers -/

/-- The settings file of a project. -/
def projectFile (projectDir : Path) : Path :=
  projectDir.join (Path.ofText ".aikendoc/config.toml")

/-- The value of a setting: the one that is set from outside, else that of the project, else that for all projects, else the
default. -/
def pick {α : Type} (set : Option α) (name : String) (read : Value → α) (project global : Fields) (otherwise : α) : α :=
  (set.or (((valueAt? name project).map read).or ((valueAt? name global).map read))).getD otherwise

/-- The settings that two valid tables and the environment give. -/
def layered (room : Value.Room) (environment : Environment) (project global : Fields) (projectDir : Path) : Settings where
  projectDir := projectDir
  includeTests :=
    pick ((valueOf? environment "AIKENDOC_INCLUDE_TESTS").map isYes) "include_tests" flagOf project global false
  includePrivate :=
    pick ((valueOf? environment "AIKENDOC_INCLUDE_PRIVATE").map isYes) "include_private" flagOf project global true
  sources := pick ((valueOf? environment "AIKENDOC_SOURCES").map idsIn) "sources" idsOf project global []
  indexPath :=
    pick ((valueOf? environment "AIKENDOC_INDEX_PATH").map Path.ofText) "index_path" pathOf project global
      (Path.ofText ".aikendoc/library.json")
  registry := pick none "packages" (packagesOf room) project global Registry.default

theorem pick_eq {α : Type} (set : Option α) (name : String) (read : Value → α) (project global : Fields) (otherwise : α) :
    pick set name read project global otherwise =
      set.getD (((valueAt? name project).map read).getD (((valueAt? name global).map read).getD otherwise)) := by
  unfold pick
  cases set <;> cases valueAt? name project <;> cases valueAt? name global <;> rfl

/-- Putting one layer over the other makes the highest that has a value win. -/
theorem layered_eq (room : Value.Room) (environment : Environment) (project global : Fields) (projectDir : Path) :
    layered room environment project global projectDir =
      ((Settings.overlaid room { projectDir } global).overlaid room project).withEnvironment environment := by
  simp only [withEnvironment, overlaid, layered, pick_eq, Option.getD_none]

section Load

variable (world : World) (projectDir : Path)

/-- The first invalid value in the two tables, that for all projects first. -/
def flaw? : Option SettingsError :=
  ((flaws world.room).first? (tableAt world world.globalFile)).or
    ((flaws world.room).first? (tableAt world (projectFile projectDir)))

/-- What the tables of the two files and the environment give. -/
def byTables : Except SettingsError Settings :=
  valueUnless (flaw? world projectDir)
    (layered world.room world.environment (tableAt world (projectFile projectDir)) (tableAt world world.globalFile) projectDir)

/-- The first thing that is met when both files are read, one after the other. -/
def hurdle? : Option SettingsError :=
  (unreadable? world world.globalFile).or (((hurdles world.room).first? (tableAt world world.globalFile)).or
    ((unreadable? world (projectFile projectDir)).or ((hurdles world.room).first? (tableAt world (projectFile projectDir)))))

/-- What keeps the tables from having their say: what is met first, if that is not an invalid value but a file that cannot be read or
a value that cannot be shown. -/
def obstacle? : Option SettingsError :=
  (hurdle? world projectDir).filter (!isOfValue ·)

theorem outcome_load : (load world projectDir).outcome.1 =
    valueUnless (hurdle? world projectDir)
      (layered world.room world.environment (tableAt world (projectFile projectDir)) (tableAt world world.globalFile) projectDir) := by
  have yields : (load world projectDir).Yields (do
      let global ← valueUnless (unreadable? world world.globalFile) (tableAt world world.globalFile)
      let settings ← Settings.withFields world.room { projectDir } global
      let project ← valueUnless (unreadable? world (projectFile projectDir)) (tableAt world (projectFile projectDir))
      let settings ← settings.withFields world.room project
      return settings.withEnvironment world.environment) := by
    refine (yields_fieldsAt world world.globalFile).bind fun global => (yields_lift _).bind fun settings => ?_
    exact (yields_fieldsAt world (projectFile projectDir)).bind fun project => (yields_lift _).bind fun settings => yields_pure _
  have last (whole : Settings) : (pure whole : Except SettingsError Settings) = valueUnless none whole := rfl
  rw [yields.outcome, layered_eq]
  simp only [withFields_eq, last, valueUnless_bind, Option.or_none, hurdle?]

end Load

/-! ## Invalid values and what is met -/

section Agreement

variable (room : Value.Room)

theorem isOfValue_flawed {place : Value.Place} {value : Value} {error : SettingsError}
    (ofValue : isOfValue (flawed room place value error) = true) : flawed room place value error = error := by
  unfold flawed at ofValue ⊢
  split at ofValue
  · cases ofValue
  · rfl

theorem agrees_flawed (place : Value.Place) (value : Value) (wrong : Option SettingsError) :
    Agrees (wrong.map (flawed room place value)) wrong := by
  intro ofValue
  cases wrong with
  | none => rfl
  | some error => exact congrArg some (isOfValue_flawed room ofValue)

theorem agrees_text (place : Value.Place) (value : Value) : Agrees (hurdleOfText room place value) none := by
  intro ofValue
  unfold hurdleOfText at ofValue ⊢
  cases excess : value.textExcess? (room place) with
  | none => rfl
  | some excess => simp [excess, isOfValue] at ofValue

theorem agrees_sources (value : Value) : Agrees (hurdleOfSources room value) (flawOfSources value) := by
  have refused := agrees_flawed room .sources value (flawOfSources value)
  cases value with
  | arr ids =>
    intro ofValue
    cases met : ids.findSome? (hurdleOfText room .source) with
    | none => exact met
    | some error =>
      obtain ⟨id, _, found⟩ := List.exists_of_findSome?_eq_some met
      rw [hurdleOfSources, met] at ofValue
      have none := agrees_text room .source id (by rw [found]; exact ofValue)
      rw [found] at none
      cases none
  | _ => exact refused

theorem agrees_at {hurdle flaw : Value → Option SettingsError} (agrees : ∀ value, Agrees (hurdle value) (flaw value))
    (name : String) (table : Fields) : Agrees ((valueAt? name table).bind hurdle) ((valueAt? name table).bind flaw) := by
  cases valueAt? name table with
  | none => exact fun _ => rfl
  | some value => exact agrees value

/-- Of a path nothing can be invalid. -/
theorem agrees_table (table : Fields) : Agrees ((hurdles room).first? table) ((flaws room).first? table) := by
  have path : Agrees ((valueAt? "index_path" table).bind (hurdleOfText room .indexPath)) none := by
    cases valueAt? "index_path" table with
    | none => exact fun _ => rfl
    | some value => exact agrees_text room .indexPath value
  simp only [hurdles, flaws, Checks.first?_cons]
  refine (agrees_at (fun value => agrees_flawed room .flag value _) "include_tests" table).or ?_
  refine (agrees_at (fun value => agrees_flawed room .flag value _) "include_private" table).or ?_
  refine (agrees_at (agrees_sources room) "sources" table).or ?_
  exact path.or fun _ => rfl

theorem agrees_unreadable (world : World) (path : Path) : Agrees (unreadable? world path) none := by
  intro ofValue
  unfold unreadable? at ofValue ⊢
  split at ofValue
  · cases ofValue
  · rfl
  · split at ofValue
    · cases ofValue
    · rfl
    · cases ofValue
    · dsimp only at ofValue ⊢
      split at ofValue
      · next printed => rw [if_pos printed]
      · cases ofValue

theorem agrees_load (world : World) (projectDir : Path) : Agrees (hurdle? world projectDir) (flaw? world projectDir) := by
  have global := (agrees_unreadable world world.globalFile).or (agrees_table world.room (tableAt world world.globalFile))
  have project :=
    (agrees_unreadable world (projectFile projectDir)).or (agrees_table world.room (tableAt world (projectFile projectDir)))
  have both := global.or project
  rwa [Option.or_assoc] at both

theorem isOfValue_flaws {table : Fields} {error : SettingsError} (flawed : (flaws room).first? table = some error) :
    isOfValue error = true := by
  obtain ⟨⟨name, flaw⟩, listed, found⟩ := List.exists_of_findSome?_eq_some flawed
  obtain ⟨value, _, wrong⟩ := Option.bind_eq_some_iff.mp found
  have flag (name : String) (wrong : flawOfFlag name value = some error) : isOfValue error = true := by
    cases value <;> cases wrong <;> rfl
  simp only [flaws, List.mem_cons, List.not_mem_nil, or_false, Prod.mk.injEq] at listed
  rcases listed with ⟨rfl, rfl⟩ | ⟨rfl, rfl⟩ | ⟨rfl, rfl⟩ | ⟨rfl, rfl⟩
  · exact flag _ wrong
  · exact flag _ wrong
  · cases value <;> cases wrong <;> rfl
  · cases value with
    | arr entries =>
      simp only [flawOfPackages] at wrong
      split at wrong <;> cases wrong
      rfl
    | _ => cases wrong; rfl

end Agreement

theorem isOfValue_byTables {world : World} {projectDir : Path} {error : SettingsError}
    (refused : byTables world projectDir = .error error) : isOfValue error = true := by
  unfold byTables at refused
  cases flawed : flaw? world projectDir with
  | none => rw [flawed] at refused; cases refused
  | some other =>
    rw [flawed] at refused
    cases refused
    rcases Option.or_eq_some_iff.mp flawed with first | ⟨_, second⟩
    · exact isOfValue_flaws world.room first
    · exact isOfValue_flaws world.room second

theorem outcome_obstacle (world : World) (projectDir : Path) : (load world projectDir).outcome.1 =
    match obstacle? world projectDir with
    | some error => .error error
    | none => byTables world projectDir := by
  have agrees := agrees_load world projectDir
  rw [outcome_load, obstacle?, byTables]
  cases met : hurdle? world projectDir with
  | none => rw [met] at agrees; rw [← agrees rfl]; rfl
  | some error =>
    rw [met] at agrees
    cases ofValue : isOfValue error with
    | true => rw [Option.filter_some, if_neg (by simp [ofValue]), ← agrees ofValue]
    | false => rw [Option.filter_some, if_pos (by simp [ofValue])]; rfl

/-- Settings are what the two tables and the environment give, except if a file that cannot be read or a value that cannot be shown is
met first. -/
theorem load_byTables_iff (world : World) (projectDir : Path) :
    ((load world projectDir).outcome.1 = match obstacle? world projectDir with
      | some error => .error error
      | none => byTables world projectDir) ∧
    ((load world projectDir).outcome.1 = byTables world projectDir ↔ obstacle? world projectDir = none) := by
  refine ⟨outcome_obstacle world projectDir, ?_⟩
  rw [outcome_obstacle]
  cases obstacle : obstacle? world projectDir with
  | none => simp
  | some error =>
    refine ⟨fun refused => ?_, nofun⟩
    -- an obstacle is not about an invalid value, and the tables are refused for nothing else
    have notOfValue := (Option.filter_eq_some_iff.mp obstacle).2
    rw [isOfValue_byTables refused.symm] at notOfValue
    cases notOfValue

/-- A project with a settings file that is no UTF-8 text. -/
def undecodableProject : World where
  tree := .folder [(".aikendoc", .folder [("config.toml", .file ⟨#[255]⟩)])]
  globalFile := ⟨"/", ["global.toml"]⟩
  environment := []
  parse _ := .table []
  prints _ := true
  room _ := 1

/-- The tables are valid, since there are none, but the project is refused. -/
theorem load_undecodable :
    byTables undecodableProject ⟨"/", []⟩ = .ok { projectDir := ⟨"/", []⟩ } ∧
      (load undecodableProject ⟨"/", []⟩).outcome.1 = .error (.undecodable "/.aikendoc/config.toml") := by
  have walked : undecodableProject.tree.walk .present Node.linkLimit [] ["global.toml"] = .error .missing := by
    rw [Node.walk_name (by decide) (by decide) (by decide)]
    rfl
  have place : undecodableProject.tree.place .present undecodableProject.globalFile.parts = .error .missing := by
    rw [Node.place, if_neg (by decide), if_neg (by decide)]
    exact walked
  have noGlobal : undecodableProject.tree.read undecodableProject.globalFile.parts = .error .missing := by
    rw [Node.read, Node.find, place]
    rfl
  have path : projectFile ⟨"/", []⟩ = ⟨"/", [".aikendoc", "config.toml"]⟩ := by decide +kernel
  have there : undecodableProject.tree.read (projectFile ⟨"/", []⟩).parts = .ok ⟨#[255]⟩ := by
    rw [path]
    exact Node.NamesOf.read ⟨rfl, by simp, by decide, by decide, by decide⟩
  have noText : String.fromUTF8? ⟨#[255]⟩ = none := by decide +kernel
  have shown : (projectFile ⟨"/", []⟩).text = "/.aikendoc/config.toml" := by decide +kernel
  constructor
  · simp only [byTables, flaw?, tableAt, readingOf?, noGlobal, there, noText]
    rfl
  · simp only [outcome_load, hurdle?, unreadable?, tableAt, readingOf?, noGlobal, there, noText, shown]
    rfl

end Settings
end DeclIndex
