import DeclIndex.Command.Run
import DeclIndex.Proofs.FileTree
import DeclIndex.Proofs.Loading

/-!
# Faults in stored libraries

Whatever is wrong inside the object of a stored library is reported, but for one thing: the package of a module may be given by
an array or an object, and that is found out only when the module is added to the tables. Faults outside the object, and
numbers and nestings that the reader refuses, are not reported either. A command that loads a library then ends with nothing
printed.
-/

namespace DeclIndex

/-! ## Faults of records -/

namespace Stored

variable {α β : Type}

/-- Every fault of some work is reported as a corrupt library. -/
def Reports (work : Except LoadError α) : Prop :=
  ∀ error, work = .error error → error.isReported = true

theorem reports_ok (value : α) : Reports (.ok value) := by
  intro error fails
  cases fails

theorem reports_error {error : LoadError} (reported : error.isReported = true) : Reports (.error error : Except LoadError α) := by
  intro other fails
  cases fails
  exact reported

theorem Reports.bind {work : Except LoadError α} {next : α → Except LoadError β} (reports : Reports work)
    (onward : ∀ value, Reports (next value)) : Reports (work >>= next) := by
  cases work with
  | error error => exact reports_error (reports error rfl)
  | ok value => exact onward value

theorem reports_mapM {work : α → Except LoadError β} (reports : ∀ a, Reports (work a)) (group : List α) :
    Reports (group.mapM work) := by
  induction group with
  | nil => exact reports_ok []
  | cons a rest ih =>
    rw [List.mapM_cons]
    exact (reports a).bind fun b => ih.bind fun bs => reports_ok (b :: bs)

theorem reports_access (read : Except AccessError α) : Reports (read.mapError .access) := by
  cases read with
  | error cause => exact reports_error rfl
  | ok value => exact reports_ok value

theorem reports_need (record : Json) (name : String) : Reports (need record name) :=
  reports_access _

theorem reports_list (record : Json) (name : String) : Reports (list record name) :=
  reports_access _

theorem reports_each {complete : Json → Except LoadError Json} (reports : ∀ item, Reports (complete item)) (record : Json)
    (name : String) : Reports (each complete record name) :=
  (reports_list record name).bind fun items => (reports_mapM reports items).bind fun _ => reports_ok _

theorem reports_parameterRecord (record : Json) : Reports (parameterRecord record) := by
  cases record with
  | obj fields =>
    simp only [parameterRecord]
    split
    · exact reports_error rfl
    · exact reports_error rfl
    · split
      · exact reports_ok _
      all_goals exact reports_error rfl
  | _ => exact reports_error rfl

-- Each reader is a chain of needed fields and lists, so the chain of their lemmas follows it field by field.

theorem reports_importRecord (record : Json) : Reports (importRecord record) := by
  refine (reports_need record "module").bind fun _ => (reports_list record "items").bind fun _ => ?_
  refine (reports_need record "line").bind fun _ => (reports_need record "raw").bind fun _ => ?_
  exact (reports_need record "source").bind fun _ => reports_ok _

theorem reports_functionRecord (record : Json) : Reports (functionRecord record) := by
  refine (reports_need record "name").bind fun _ => (reports_need record "signature").bind fun _ => ?_
  refine (reports_each reports_parameterRecord record "parameters").bind fun _ => ?_
  refine (reports_need record "line").bind fun _ => (reports_need record "is_public").bind fun _ => ?_
  refine (reports_need record "source").bind fun _ => (reports_list record "tests").bind fun _ => ?_
  exact (reports_list record "re_exported_as").bind fun _ => reports_ok _

theorem reports_typeRecord (record : Json) : Reports (typeRecord record) := by
  refine (reports_need record "name").bind fun _ => (reports_need record "definition").bind fun _ => ?_
  refine (reports_need record "line").bind fun _ => (reports_need record "raw").bind fun _ => ?_
  refine (reports_need record "is_public").bind fun _ => (reports_need record "source").bind fun _ => ?_
  exact (reports_list record "re_exported_as").bind fun _ => reports_ok _

theorem reports_constantRecord (record : Json) : Reports (constantRecord record) := by
  refine (reports_need record "name").bind fun _ => (reports_need record "value").bind fun _ => ?_
  refine (reports_need record "line").bind fun _ => (reports_need record "raw").bind fun _ => ?_
  refine (reports_need record "is_public").bind fun _ => (reports_need record "source").bind fun _ => ?_
  exact (reports_list record "re_exported_as").bind fun _ => reports_ok _

theorem reports_moduleRecord (record : Json) : Reports (moduleRecord record) := by
  refine (reports_need record "path").bind fun _ => (reports_need record "name").bind fun _ => ?_
  refine (reports_need record "source").bind fun _ => ?_
  refine (reports_each reports_importRecord record "imports").bind fun _ => ?_
  refine (reports_each reports_functionRecord record "functions").bind fun _ => ?_
  refine (reports_each reports_functionRecord record "atoms").bind fun _ => ?_
  refine (reports_each reports_typeRecord record "types").bind fun _ => ?_
  refine (reports_each reports_typeRecord record "private_types").bind fun _ => ?_
  refine (reports_each reports_constantRecord record "constants").bind fun _ => ?_
  refine (reports_each reports_constantRecord record "private_constants").bind fun _ => ?_
  exact (reports_list record "dependencies").bind fun _ => reports_ok _

theorem reports_content (fields : List (String × Json)) : Reports (content (.obj fields)) := by
  refine (reports_list _ "modules").bind fun records => (reports_mapM reports_moduleRecord records).bind fun _ => ?_
  exact (reports_access _).bind fun _ => reports_ok _

end Stored

/-! ## Packages that cannot be keys -/

/-- Whether a value is made of other values. -/
def Json.isCompound : Json → Bool
  | .arr _ => true
  | .obj _ => true
  | _ => false

/-- Whether the package of a complete module is given by a value that cannot be a key. -/
def Archive.hasCompoundSource (record : Json) : Bool :=
  (record.fieldD "source" .null).isCompound

theorem SourceId.isSome_ofJson? (value : Json) : (ofJson? value).isSome = !value.isCompound := by
  cases value <;> rfl

theorem Archive.add_compound {record : Json} (compound : hasCompoundSource record = true) (includePrivate : Bool)
    (archive : Archive) : archive.add includePrivate record = .error (.noKey (record.fieldD "source" .null).kind) := by
  have noId : SourceId.ofJson? (record.fieldD "source" .null) = none := by
    rw [← Option.not_isSome_iff_eq_none, SourceId.isSome_ofJson?]
    simpa [hasCompoundSource] using compound
  simp [add, addModule?, noId]

theorem Archive.exists_add {record : Json} (simple : hasCompoundSource record = false) (includePrivate : Bool)
    (archive : Archive) : ∃ larger, archive.add includePrivate record = .ok larger := by
  have hasId : (SourceId.ofJson? (record.fieldD "source" .null)).isSome = true := by
    rw [SourceId.isSome_ofJson?]
    simpa [hasCompoundSource] using simple
  obtain ⟨id, found⟩ := Option.isSome_iff_exists.mp hasId
  simp [add, addModule?, found]

/-- Adding modules one after another stops at the first whose package cannot be a key, and at nothing else. -/
theorem Archive.foldlM_add_eq_error_iff {includePrivate : Bool} {records : List Json} {error : LoadError} (archive : Archive) :
    records.foldlM (Archive.add includePrivate) archive = .error error ↔
      ∃ record, records.find? hasCompoundSource = some record ∧ error = .noKey (record.fieldD "source" .null).kind := by
  induction records generalizing archive with
  | nil => simp [pure, Except.pure]
  | cons record rest ih =>
    rw [List.foldlM_cons, List.find?_cons]
    cases compound : hasCompoundSource record with
    | true =>
      rw [add_compound compound]
      simp [bind, Except.bind, eq_comm]
    | false =>
      obtain ⟨larger, added⟩ := exists_add compound includePrivate archive
      rw [added]
      exact ih larger

theorem Archive.simpleSource_of_ofJson? {record : Json} {module : Module} (read : Module.ofJson? record = some module) :
    hasCompoundSource record = false := by
  obtain ⟨path, _, afterPath⟩ := Option.bind_eq_some_iff.mp read
  obtain ⟨name, _, afterName⟩ := Option.bind_eq_some_iff.mp afterPath
  obtain ⟨source, found, _⟩ := Option.bind_eq_some_iff.mp afterName
  simp only [Json.text?] at found
  split at found
  · next text there => simp [hasCompoundSource, Json.fieldD, there, Json.isCompound]
  · cases found

theorem Archive.simpleSources_of_mapM {records : List Json} {modules : List Module}
    (read : records.mapM Module.ofJson? = some modules) : records.find? hasCompoundSource = none := by
  induction records generalizing modules with
  | nil => rfl
  | cons record rest ih =>
    rw [List.mapM_cons] at read
    obtain ⟨module, first, others⟩ := Option.bind_eq_some_iff.mp read
    obtain ⟨later, behind, _⟩ := Option.bind_eq_some_iff.mp others
    rw [List.find?_cons, simpleSource_of_ofJson? first]
    exact ih behind

/-! ## Faults that are not reported -/

namespace Library

theorem ofDocument_eq_error_iff {document : Json} {content : Stored.Content} (complete : Stored.content document = .ok content)
    (includePrivate : Bool) (error : LoadError) :
    ofDocument includePrivate document = .error error ↔
      ∃ record, content.modules.find? Archive.hasCompoundSource = some record ∧
        error = .noKey (record.fieldD "source" .null).kind := by
  rw [ofDocument, complete]
  simp only [bind, Except.bind]
  cases read : content.modules.mapM Module.ofJson? with
  | some modules => simp [Archive.simpleSources_of_mapM read, pure, Except.pure]
  | none =>
    dsimp only
    split
    · next _ _ stopped =>
      constructor
      · intro same
        cases same
        exact (Archive.foldlM_add_eq_error_iff _).mp stopped
      · intro compound
        cases stopped.symm.trans ((Archive.foldlM_add_eq_error_iff _).mpr compound)
        rfl
    · next _ _ added =>
      constructor
      · intro impossible
        cases impossible
      · intro compound
        cases added.symm.trans ((Archive.foldlM_add_eq_error_iff _).mpr compound)

/-- What is wrong with the text of a stored library, if that is not reported. -/
inductive Unreported (depth : Nat) (text : String) : LoadError → Prop
  /-- A number is too long, or values are nested too deep. -/
  | refused {cause : Json.ReadError} (read : Json.parse depth text = .error cause) (limit : cause ≠ .malformed) :
    Unreported depth text (.unread cause)
  | notAnObject {document : Json} (read : Json.parse depth text = .ok document) (other : ∀ fields, document ≠ .obj fields) :
    Unreported depth text .notAnObject
  /-- All records are complete, but the package of a module is an array or an object. -/
  | noKey {document record : Json} {content : Stored.Content} (read : Json.parse depth text = .ok document)
    (complete : Stored.content document = .ok content)
    (first : content.modules.find? Archive.hasCompoundSource = some record) :
    Unreported depth text (.noKey (record.fieldD "source" .null).kind)

theorem unreported_of_load {depth : Nat} {includePrivate : Bool} {text : String} {error : LoadError}
    (fails : load depth includePrivate text = .error error) (silent : error.isReported = false) : Unreported depth text error := by
  rw [load] at fails
  cases read : Json.parse depth text with
  | error cause =>
    rw [read] at fails
    cases fails
    refine .refused read ?_
    rintro rfl
    cases silent
  | ok document =>
    rw [read] at fails
    cases complete : Stored.content document with
    | error fault =>
      simp only [ofDocument, complete, bind, Except.bind] at fails
      cases fails
      cases document with
      | obj fields => simp [Stored.reports_content fields error complete] at silent
      | _ =>
        cases complete
        exact .notAnObject read (by simp)
    | ok content =>
      obtain ⟨record, first, rfl⟩ := (ofDocument_eq_error_iff complete includePrivate error).mp fails
      exact .noKey read complete first

theorem load_of_unreported {depth : Nat} {text : String} {error : LoadError} (unreported : Unreported depth text error)
    (includePrivate : Bool) : load depth includePrivate text = .error error ∧ error.isReported = false := by
  cases unreported with
  | @refused cause read limit =>
    refine ⟨by simp [load, read], ?_⟩
    cases cause with
    | malformed => exact absurd rfl limit
    | tooLong | tooDeep => rfl
  | @notAnObject document read other =>
    refine ⟨?_, rfl⟩
    cases document with
    | obj fields => exact absurd rfl (other fields)
    | _ => simp only [load, read]; rfl
  | noKey read complete first =>
    simp only [load, read]
    exact ⟨(ofDocument_eq_error_iff complete includePrivate _).mpr ⟨_, first, rfl⟩, rfl⟩

end Library

/-! ## Commands that load -/

namespace Command

variable {world : World} {failure : Failure} {notices : List Notice}

/-- Whether a request is about the stored library. -/
def Request.loads : Request → Bool
  | .help => false
  | .build .. => false
  | .search .. => true
  | .stats => true
  | .deps .. => true

theorem outcome_stored_error {settings : Settings} {error : LoadError}
    (configured : (Command.settings world world.folder).outcome = (.ok settings, notices))
    (fails : Project.load world.tree world.depth settings.includePrivate settings.storePath = .error error) :
    (stored world).outcome = (.error (.load settings.storePath.text error), notices) := by
  rw [stored, Reporting.outcome_bind_ok configured]
  dsimp only
  rw [fails]
  rfl

theorem run_of_stored_error {words : List String} {request : Request} (asked : parse? words = some request)
    (loads : request.loads = true) (stops : (stored world).outcome = (.error failure, notices)) :
    run world words = failed failure notices world.tree := by
  have performed : (perform world request).outcome = (.error failure, notices) := by
    cases request with
    | help | build => cases loads
    | search | stats | deps => exact Reporting.outcome_bind_error stops _
  simp only [run, asked, performed]

/-- A command line that is about the stored library of a project with certain settings. -/
structure LoadsFor (world : World) (words : List String) (settings : Settings) (notices : List Notice) : Prop where
  asked : ∃ request, parse? words = some request ∧ request.loads = true
  configured : (Command.settings world world.folder).outcome = (.ok settings, notices)

end Command

namespace Project

section There

variable {tree : Node} {path : Path} {text : String}

theorem load_text (there : tree.read path.parts = .ok text.toUTF8) (depth : Nat) (includePrivate : Bool) :
    load tree depth includePrivate path = (Library.load depth includePrivate text).map some := by
  simp only [load, there, fromUTF8?_toUTF8]

theorem load_silent_iff (there : tree.read path.parts = .ok text.toUTF8) (depth : Nat) (includePrivate : Bool) (error : LoadError) :
    load tree depth includePrivate path = .error error ∧ error.isReported = false ↔ Library.Unreported depth text error := by
  have sameError : load tree depth includePrivate path = .error error ↔ Library.load depth includePrivate text = .error error := by
    rw [load_text there]
    cases Library.load depth includePrivate text <;> simp [Except.map]
  rw [sameError]
  constructor
  · rintro ⟨fails, silent⟩
    exact Library.unreported_of_load fails silent
  · intro unreported
    exact Library.load_of_unreported unreported includePrivate

theorem load_ne_none (there : tree.read path.parts = .ok text.toUTF8) (depth : Nat) (includePrivate : Bool) :
    load tree depth includePrivate path ≠ .ok none := by
  rw [load_text there]
  cases Library.load depth includePrivate text <;> simp [Except.map]

end There

end Project

/-! ### A project with a stored library -/

/-- A project that has a given text in the place of its library. -/
def storedProject (text : String) : Command.World where
  tree := .folder [(".aikendoc", .folder [("library.json", .file text.toUTF8), ("config.toml", .file "".toUTF8)])]
  globalFile := ⟨"/", [".aikendoc", "config.toml"]⟩
  environment := []
  parse _ := .table []
  prints _ := true
  room _ := 100
  folder := ⟨"/", []⟩
  now := ""
  depth := 100

section StoredProject

variable (text : String)

private theorem storedProject_read_library : (storedProject text).tree.read [".aikendoc", "library.json"] = .ok text.toUTF8 :=
  Node.NamesOf.read ⟨rfl, fun _ => nofun, by decide, by decide, by decide⟩

private theorem storedProject_read_settings : (storedProject text).tree.read [".aikendoc", "config.toml"] = .ok "".toUTF8 :=
  Node.NamesOf.read ⟨rfl, fun _ => nofun, by decide, by decide, by decide⟩

private theorem storedProject_fieldsAt :
    Settings.fieldsAt (storedProject text).toWorld ⟨"/", [".aikendoc", "config.toml"]⟩ = pure [] := by
  simp only [Settings.fieldsAt, storedProject_read_settings, fromUTF8?_toUTF8]
  simp only [storedProject]

private theorem storedProject_settingsFile : (storedProject text).folder.join (Path.ofText ".aikendoc/config.toml") =
    ⟨"/", [".aikendoc", "config.toml"]⟩ := by
  have joined : Path.join ⟨"/", []⟩ (Path.ofText ".aikendoc/config.toml") = ⟨"/", [".aikendoc", "config.toml"]⟩ := by
    decide +kernel
  exact joined

private theorem storedProject_settings :
    (Command.settings (storedProject text) (storedProject text).folder).outcome = (.ok { projectDir := ⟨"/", []⟩ }, []) := by
  have shared : Settings.fieldsAt (storedProject text).toWorld (storedProject text).globalFile = pure [] :=
    storedProject_fieldsAt text
  simp only [Command.settings, Settings.load, shared, storedProject_settingsFile, storedProject_fieldsAt, pure_bind]
  rfl

private theorem storedProject_storePath : Settings.storePath { projectDir := ⟨"/", []⟩ } = ⟨"/", [".aikendoc", "library.json"]⟩ := by
  decide +kernel

private theorem storedProject_loadsFor : Command.LoadsFor (storedProject text) ["stats"] { projectDir := ⟨"/", []⟩ } [] where
  asked := ⟨.stats, by decide +kernel, rfl⟩
  configured := storedProject_settings text

private theorem storedProject_run_stats {error : LoadError}
    (fails : Project.load (storedProject text).tree 100 true ⟨"/", [".aikendoc", "library.json"]⟩ = .error error) :
    Command.run (storedProject text) ["stats"] =
      Command.failed (.load "/.aikendoc/library.json" error) [] (storedProject text).tree := by
  obtain ⟨⟨request, asked, loads⟩, configured⟩ := storedProject_loadsFor text
  rw [← storedProject_storePath] at fails
  have stops := Command.outcome_stored_error configured fails
  have shown : (Settings.storePath { projectDir := ⟨"/", []⟩ }).text = "/.aikendoc/library.json" := by
    decide +kernel
  rw [shown] at stops
  exact Command.run_of_stored_error asked loads stops

end StoredProject

/-- A library with a module that has no fields. -/
def bareModule : String := "\x7b\"modules\":[\x7b\x7d]\x7d"

/-- A library with a module whose package is an array. -/
def listedPackage : String := "\x7b\"modules\":[\x7b\"path\":\"p\",\"name\":\"m\",\"source\":[]\x7d]\x7d"

end DeclIndex
