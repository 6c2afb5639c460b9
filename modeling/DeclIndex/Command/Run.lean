import DeclIndex.Command.Arguments
import DeclIndex.Command.Printed
import DeclIndex.Library.ArchiveQuery
import DeclIndex.Project

/-!
# Commands

A command reads the settings of a project, builds or loads its library and prints what was asked for.
-/

namespace DeclIndex.Command

def version : String := "0.1.0"

/-- Why a command stops. -/
inductive Failure where
  | settings (error : SettingsError)
  /-- The path of the project cannot be followed. -/
  | unusable (failure : PathError)
  | build (error : Project.BuildError)
  | save (error : Project.SaveError)
  | load (path : String) (error : LoadError)
  | query (error : QueryError)
  | archive (error : ArchiveError)
  | notBuilt
  | unknownModule (key : String)

def Failure.message : Failure → String
  | .settings error => error.message
  | .unusable failure => failure.message
  | .build error => error.message
  | .save error => error.message
  | .load path error => error.message path
  | .query error => error.message
  | .archive error => error.message
  | .notBuilt => "No library index found."
  | .unknownModule key => "Unknown module '" ++ key ++ "'."

/-- What may help after a failure. -/
def Failure.hint? : Failure → Option String
  | .notBuilt => some "Run 'aikendoc build' first."
  | .unknownModule _ => some "Module keys look like 'source:module'."
  | _ => none

/-- Whether a failure is printed. The others end the program with nothing printed. -/
def Failure.isReported : Failure → Bool
  | .load _ error => error.isReported
  | .settings error => error.isReported
  | .unusable _ => false
  | .build error => error.isReported
  | .save error => error.isReported
  | .archive _ => false
  | _ => true

/-- What a command works on. -/
structure World extends Settings.World where
  /-- The folder that the command runs in. -/
  folder : Path
  /-- The time that a library built now bears. -/
  now : String
  /-- How deep values may be nested in the file of a library. -/
  depth : Nat

/-- How a command ended. -/
structure Outcome where
  exit : Nat := 0
  printed : List Printed := []
  notices : List Notice := []
  tree : Node
  /-- The failure, if it was not printed. -/
  escaped : Option Failure := none

/-! ## What is printed -/

/-- The summary of a library that was built. -/
def summary (library : Library) (path : Path) : Printed :=
  let count (n : Nat) : String := styled "bold" (toString n)
  .panel
    (count library.modules.size ++ " modules, " ++ count library.functions.size ++ " functions, " ++
      count library.atoms.size ++ " atoms, " ++
      count (library.types.size + library.privateTypes.size) ++ " types, " ++
      count (library.constants.size + library.privateConstants.size) ++ " constants\n" ++
      styled "dim" ("Saved to " ++ path.text))
    (styled "bold cyan" "Aikendoc" ++ " v" ++ version)

/-- The first of some results. A negative limit leaves out that many at the end. -/
def shown {α : Type} (limit : Int) (results : List α) : List α :=
  if limit < 0 then results.take (results.length - limit.natAbs) else results.take limit.toNat

/-- The results of a search: how many there are, and the rows of those that are shown. -/
def found (query kind : String) (limit : Int) (count : Nat) (rows : List (List String)) : List Printed :=
  if count = 0 then
    [.line (styled "yellow" ("No " ++ kind ++ " match") ++ " '" ++ query ++ "'.")]
  else
    let table := Printed.table (kind ++ " matching '" ++ query ++ "'")
      ["Key", "Detail", "Re-exported as"] rows
    if limit < count then
      [table, .line (styled "dim" (toString ((count : Int) - limit) ++ " more not shown."))]
    else [table]

/-- A row of counters. -/
def countRow (name : String) (stats : Stats) : List String :=
  name :: [stats.modules, stats.functions, stats.atoms, stats.types, stats.privateTypes,
    stats.constants, stats.privateConstants].map fun n => toString n

/-- The counters of some packages and their totals. -/
def counts (sources : List (String × Stats)) (totals : Stats) (lastUpdated : String) : List Printed :=
  let rows := sources.map (fun (source, stats) => countRow source stats) ++
    [countRow (styled "bold" "total") totals]
  let table := Printed.table "Aikendoc Library"
    ["Source", "Modules", "Functions", "Atoms", "Types", "Priv. types", "Constants", "Priv. consts"] rows
  let built :=
    if lastUpdated.isEmpty then []
    else [.line (styled "dim" ("Built " ++ lastUpdated))]
  [.blank, table] ++ built ++ [.blank]

/-- The names of modules that one depends on, or that depend on it. -/
def dependencyLines (isModule : String → Bool) (key : String) (names : List String) : List Printed :=
  if names.isEmpty then [.line (styled "dim" "None.")]
  else names.map fun name =>
    .line (styled (if name = key then "bold" else if isModule name then "cyan" else "dim") name)

/-! ## Questions to a library -/

namespace OfLibrary

/-- The row of an entry. -/
def row (entry : Entry) : List String :=
  [entry.item.key, entry.detail, ", ".intercalate entry.aliases]

def search (library : Library) (query kind source scope : String) (limit : Int) :
    Except Failure (List Printed) :=
  match library.entriesNamed kind with
  | .error error => .error (.query error)
  | .ok entries =>
    let results := Search.rank (·.item) query source scope entries
    .ok (found query kind limit results.length ((shown limit results).map row))

/-- The sizes of the tables of a library. -/
def totals (library : Library) : Stats where
  modules := library.modules.size
  functions := library.functions.size
  atoms := library.atoms.size
  types := library.types.size
  privateTypes := library.privateTypes.size
  constants := library.constants.size
  privateConstants := library.privateConstants.size

/-- The counters of a library. -/
def stats (library : Library) : List Printed :=
  counts library.sourceStats.entries (totals library) library.lastUpdated

/-- The dependencies of a module, or what depends on it. -/
def deps (library : Library) (key : String) (reverse : Bool) : Except Failure (List Printed) :=
  if library.modules.contains key then
    .ok (dependencyLines library.modules.contains key
      (if reverse then library.importers key else library.dependencyTree key))
  else .error (.unknownModule key)

end OfLibrary

/-! ## Questions to an archive -/

namespace OfArchive

def search (archive : Archive) (query kind source scope : String) (limit : Int) :
    Except Failure (List Printed) :=
  match Collection.ofName? kind with
  | none => .error (.query (.unknownCollection kind))
  | some collection => do
    let results ← (archive.search collection query source scope).mapError .archive
    let rows ← ((shown limit results).mapM fun (key, record) => Archive.row collection key record).mapError .archive
    return found query kind limit results.length rows

/-- The sizes of the tables of an archive. -/
def totals (archive : Archive) : Stats where
  modules := archive.modules.size
  functions := archive.functions.size
  atoms := archive.atoms.size
  types := archive.types.size
  privateTypes := archive.privateTypes.size
  constants := archive.constants.size
  privateConstants := archive.privateConstants.size

/-- The counters of an archive. -/
def stats (archive : Archive) : Except Failure (List Printed) := do
  let sources ← archive.sources.mapError .archive
  return counts sources (totals archive) archive.lastUpdated

/-- The dependencies of a module, or what depends on it. -/
def deps (archive : Archive) (key : String) (reverse : Bool) : Except Failure (List Printed) :=
  if archive.modules.contains key then do
    let names ← (if reverse then archive.importers key else archive.dependencyTree key).mapError .archive
    return dependencyLines archive.modules.contains key names
  else .error (.unknownModule key)

end OfArchive

/-! ## Commands -/

/-- The settings of the project in a folder. -/
def settings (world : World) (folder : Path) : Reporting Failure Settings :=
  ExceptT.mk do return (← (Settings.load world.toWorld folder).run).mapError .settings

/-- The stored library of the project that the command runs in. -/
def stored (world : World) : Reporting Failure Loaded := do
  let settings ← settings world world.folder
  let path := settings.storePath
  match Project.load world.tree world.depth settings.includePrivate path with
  | .error error => throw (.load path.text error)
  | .ok none => throw .notBuilt
  | .ok (some loaded) => return loaded

/-- What became of a command: what it prints, or why it stops, and the tree that it leaves. -/
structure Done where
  answer : Except Failure (List Printed)
  tree : Node

/-- Builds the library of a project and stores it. -/
def build (world : World) (root : String) (includeTests publicOnly : Bool) (sources : List String) :
    Reporting Failure Done := do
  let path := world.folder.join (Path.ofText root)
  let folder ← (world.tree.resolve path.parts).mapError (Failure.unusable ⟨path, ·⟩)
  let settings ← settings world ⟨"/", folder⟩
  let settings :=
    { settings with
      includeTests := includeTests || settings.includeTests
      includePrivate := !publicOnly && settings.includePrivate
      sources := if sources.isEmpty then settings.sources else sources }
  let library ← ExceptT.mk do
    return (← (Project.library world.tree settings world.now).run).mapError Failure.build
  let (tree, saved) := Project.save world.tree library settings.storePath
  return ⟨(saved.mapError .save).map fun _ => [summary library settings.storePath], tree⟩

/-- Does what is asked for. -/
def perform (world : World) : Request → Reporting Failure Done
  | .help => answer (.ok [])
  | .build root includeTests publicOnly sources => build world root includeTests publicOnly sources
  | .search query kind source scope limit => do
    match ← stored world with
    | .library library => answer (OfLibrary.search library query kind source scope limit)
    | .archive archive => answer (OfArchive.search archive query kind source scope limit)
  | .stats => do
    match ← stored world with
    | .library library => answer (.ok (OfLibrary.stats library))
    | .archive archive => answer (OfArchive.stats archive)
  | .deps key reverse => do
    match ← stored world with
    | .library library => answer (OfLibrary.deps library key reverse)
    | .archive archive => answer (OfArchive.deps archive key reverse)
where
  answer (printed : Except Failure (List Printed)) : Reporting Failure Done :=
    return ⟨printed, world.tree⟩

/-- How a command ends that fails. -/
def failed (failure : Failure) (notices : List Notice) (tree : Node) : Outcome :=
  if failure.isReported then
    { exit := 1, printed := errorLines failure.message failure.hint?, notices, tree }
  else { exit := 1, notices, tree, escaped := some failure }

/-- Runs a command line. One that cannot be read ends with 2, a failure with 1. -/
def run (world : World) (words : List String) : Outcome :=
  match parse? words with
  | none => { exit := 2, tree := world.tree }
  | some request =>
    match (perform world request).outcome with
    | (.ok ⟨.ok printed, tree⟩, notices) => { printed, notices, tree }
    | (.ok ⟨.error failure, tree⟩, notices) => failed failure notices tree
    | (.error failure, notices) => failed failure notices world.tree

end DeclIndex.Command
