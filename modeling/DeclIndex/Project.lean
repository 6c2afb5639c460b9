import DeclIndex.Aiken.Scan
import DeclIndex.Library.Alias
import DeclIndex.Library.Store
import DeclIndex.Settings
import DeclIndex.TypeScript.Scan

/-!
# Projects

The library of a project is built from the source files of its packages, stored in a file and loaded from it.
-/

namespace DeclIndex.Project

/-- The module in a source file of a package. -/
def moduleOf (registry : Registry) (package : Package) (path name content : String) : Module :=
  match package.language with
  | .typescript => TypeScript.module package.id path name content
  | .aiken =>
    Aiken.module ⟨package.id, registry.reExportSources.contains package.id⟩ path name content
      (registry.isAggregator name package.id)

/-- The modules of a package. A file that cannot be read is reported and left out. -/
def packageModules (tree : Node) (settings : Settings) (root : Path) (package : Package) :
    Reporting DiscoveryError (List Module) := do
  let folder := root.join (Path.ofText package.path)
  let files ← Discovery.search tree folder package.language.name settings.includeTests
  Reporting.report [.found files.length package.id]
  let modules ← files.mapM fun file => do
    let path := folder.join file.relative
    match tree.read path.parts with
    | .ok bytes =>
      return [moduleOf settings.registry package path.text file.moduleName (Text.sourceText bytes)]
    | .error error =>
      Reporting.report [.unreadable path.text (error.message path.text)]
      return []
  return modules.flatten

/-- Why a library cannot be built. -/
inductive BuildError where
  | registry (error : RegistryError)
  /-- The path of a folder cannot be followed. -/
  | unusable (failure : PathError)

def BuildError.message : BuildError → String
  | .registry error => error.message
  | .unusable failure => failure.message

/-- Whether an error is reported with its wording. -/
def BuildError.isReported : BuildError → Bool
  | .registry error => error.isReported
  | .unusable _ => false

/-- The modules of a package, none if it cannot be loaded, which is reported. Only a path that cannot be followed stops the
work. -/
def modulesOrSkip (tree : Node) (settings : Settings) (root : Path) (package : Package) :
    Reporting BuildError (List Module) := do
  let (modules, notices) := (packageModules tree settings root package).outcome
  Reporting.report notices
  match modules with
  | .ok modules => return modules
  | .error (.unusable failure) => throw (.unusable failure)
  | .error error =>
    Reporting.report [.skipped package.id error.message]
    return []

/-- Builds the library of a project. -/
def library (tree : Node) (settings : Settings) (now : String) : Reporting BuildError Library := do
  let root ← (tree.resolve settings.projectDir.parts).mapError (BuildError.unusable ⟨settings.projectDir, ·⟩)
  let packages ← (settings.registry.select settings.sources).mapError BuildError.registry
  Reporting.report [.loading (packages.map (·.id))]
  let modules ← packages.mapM (modulesOrSkip tree settings ⟨"/", root⟩)
  let (library, notices) :=
    Library.build settings.registry settings.includePrivate now modules.flatten
  Reporting.report (notices ++
    [.indexed library.modules.size (library.functions.size + library.atoms.size)
      (library.types.size + library.privateTypes.size)])
  return library

/-- Why a library cannot be stored: an error at a path. -/
structure SaveError extends PathError
deriving DecidableEq

def SaveError.message (failure : SaveError) : String :=
  "Cannot write library: " ++ failure.toPathError.message

/-- Whether an error is reported with its wording. -/
def SaveError.isReported (failure : SaveError) : Bool :=
  failure.error != .nul

/-- Stores a library where a path leads to. Folders on the way are made, and stay if the library cannot be stored. -/
def save (tree : Node) (library : Library) (path : Path) : Node × Except SaveError Unit :=
  match tree.makeFolders path.parent with
  | (tree, .error failure) => (tree, .error ⟨failure⟩)
  | (tree, .ok ()) =>
    match tree.write path.parts library.saved.toUTF8 with
    | .ok tree => (tree, .ok ())
    | .error error => (tree, .error ⟨⟨path, error⟩⟩)

/-- The library that a path leads to, if there is a file. -/
def load (tree : Node) (depth : Nat) (includePrivate : Bool) (path : Path) : Except LoadError (Option Loaded) :=
  match tree.read path.parts with
  | .error .tooLong => .error (.unusable .tooLong)
  | .error _ => .ok none
  | .ok bytes =>
    match String.fromUTF8? bytes with
    | none => .error .undecodable
    | some text => (Library.load depth includePrivate text).map some

end DeclIndex.Project
