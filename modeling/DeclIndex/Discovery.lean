import DeclIndex.Notice
import DeclIndex.Tree

/-!
# Discovery of source files

The source files of a package are the files with a suffix of its language in its folder and in the folders below that are
entered. Links to folders are not entered.
-/

namespace DeclIndex

/-- A source file of a package. -/
structure SourceFile where
  /-- The names that lead to the file from the folder of the package. -/
  path : List String
  /-- How many octets the file has. -/
  size : Nat
deriving DecidableEq

/-- The path of a source file from the folder of its package. -/
def SourceFile.relative (file : SourceFile) : Path :=
  ⟨"", file.path⟩

def SourceFile.moduleName (file : SourceFile) : String :=
  file.relative.moduleName?.getD ""

/-- Why a folder cannot be searched. -/
inductive DiscoveryError where
  | noFolder (path : String)
  | unsupported (language : String)
  /-- The path of the folder cannot be followed. -/
  | unusable (failure : PathError)
deriving DecidableEq

def DiscoveryError.message : DiscoveryError → String
  | .noFolder path => "Package directory does not exist: " ++ path
  | .unsupported language => "Unsupported language: " ++ language
  | .unusable failure => failure.message

namespace Discovery
open DeclIndex.Text

/-- The suffixes of source files. -/
def suffixes : SourceLanguage → List String
  | .aiken => [".ak"]
  | .typescript => [".ts", ".tsx", ".js", ".jsx"]

/-- Whether a file is a source file by its name. Type declarations are none, test files only if asked for. -/
def isWanted (language : SourceLanguage) (includeTests : Bool) (name : String) : Bool :=
  (suffixes language).any (endsWith name.toList ·) && !endsWith name.toList ".d.ts" &&
    (includeTests || !occurs ".test.".toList name.toList)

/-- The folders that are never entered, apart from hidden ones. -/
def skippedFolders : List String :=
  [".git", "__pycache__", "node_modules", ".aikendoc", "build", "dist"]

/-- Whether a folder is not entered. -/
def isSkipped (name : String) : Bool :=
  startsWith name.toList "." || skippedFolders.contains name

/-- Whether a node is a folder. -/
def isFolderNode : Node → Bool
  | .folder _ => true
  | _ => false

/-- The largest size of a file that is read. -/
def sizeLimit : Nat := 1048576

mutual

/-- The paths of everything but folders in a folder and in those below that are entered, a folder before those below it. The
names that lead to the folder are given last first. -/
def leaves (above : List String) : Node → List (List String)
  | .folder entries =>
    (entries.filter (!isFolderNode ·.2)).map (fun entry => (entry.1 :: above).reverse) ++
      leavesBelow above entries
  | _ => []

/-- The paths of everything but folders below the entries of a folder. -/
def leavesBelow (above : List String) : List (String × Node) → List (List String)
  | [] => []
  | (name, node) :: rest =>
    (if isSkipped name then [] else leaves (name :: above) node) ++ leavesBelow above rest

end

/-- The files among some paths in a folder. Links are followed, and those that lead to no file are left out. -/
def filesAt (tree : Node) (folder : List String) (paths : List (List String)) : List SourceFile :=
  paths.filterMap fun path =>
    match tree.read (folder ++ path) with
    | .ok bytes => some ⟨path, bytes.size⟩
    | .error _ => none

/-- All files in a folder that are source files by their names. -/
def candidates (tree : Node) (folder : List String) (language : SourceLanguage) (includeTests : Bool) :
    List SourceFile :=
  match tree.get? folder with
  | some node =>
    filesAt tree folder
      ((leaves [] node).filter fun path => isWanted language includeTests (path.getLast?.getD ""))
  | none => []

/-- The source files in a folder, ordered by their paths. Files that are too large are reported. -/
def files (tree : Node) (folder : List String) (language : SourceLanguage) (includeTests : Bool) :
    List SourceFile × List Notice :=
  let (large, kept) := (candidates tree folder language includeTests).partition (sizeLimit < ·.size)
  (kept.mergeSort fun a b => Path.isBefore a.path b.path,
   large.map fun file => .oversized (Path.text ⟨"/", folder ++ file.path⟩))

/-- The folder that a path leads to, without links. -/
def folderAt (tree : Node) (path : Path) : Except DiscoveryError (List String) := do
  let folder ← (tree.resolve path.parts).mapError (.unusable ⟨path, ·⟩)
  match tree.find folder with
  | .ok (.folder _) => .ok folder
  | .error .tooLong => .error (.unusable ⟨path, .tooLong⟩)
  | _ => .error (.noFolder (Path.text ⟨"/", folder⟩))

/-- The source files of a language, given by its name, in the folder that a path leads to. -/
def search (tree : Node) (path : Path) (language : String) (includeTests : Bool) :
    Reporting DiscoveryError (List SourceFile) := do
  let folder ← folderAt tree path
  match SourceLanguage.ofName? language with
  | none => throw (.unsupported language)
  | some language =>
    let (files, notices) := files tree folder language includeTests
    Reporting.report notices
    return files

end Discovery

end DeclIndex
