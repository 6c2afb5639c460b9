import DeclIndex.Command.Render
import DeclIndex.Command.Run
import DeclIndex.Toml.Document
import Std.Time

/-!
# The command line

Reads the part of the file system that a command needs into a tree, runs the command on it, prints what it prints, and writes the
stored library back if the command changed it.
-/

namespace DeclIndex.Main
open DeclIndex

/-- Puts a node at a path, with the folders on the way. -/
def place (tree : Node) (path : Path) (node : Node) : Node :=
  (tree.makeFolders path.parent).1.alter (fun _ => some node) path.parts

/-- Where a path really is. A path that leads nowhere is taken as it stands. -/
def realPath (path : Path) : IO Path := do
  let start ← IO.currentDir
  try return Path.ofText (toString (← IO.FS.realPath (start / path.text)))
  catch _ => return (Path.ofText (toString start)).join path

/-- Adds the file at a path to a tree, if there is one. -/
def addFile (tree : Node) (path : Path) : IO Node := do
  let file := (← IO.currentDir) / path.text
  if (← file.pathExists) && !(← file.isDir) then
    return place tree path (.file (← IO.FS.readBinFile file))
  return tree

/-- Adds what is on the way to a path to a tree: its folders, and a file that is in its place or in the place of one of them. -/
def addWay (tree : Node) (path : Path) : IO Node :=
  (List.range path.parts.length).foldlM (fun tree count => do
    let below : Path := ⟨path.root, path.parts.take (count + 1)⟩
    if ← ((← IO.currentDir) / below.text).isDir then return (tree.makeFolders below).1
    addFile tree below) tree

/-- Reads a folder. Folders that hold no sources are left out, as are links to folders. -/
partial def readFolder (path : Path) : IO Node := do
  let folder := (← IO.currentDir) / path.text
  let mut entries : List (String × Node) := []
  for entry in ← folder.readDir do
    let below := path.join ⟨"", [entry.fileName]⟩
    if ← entry.path.isDir then
      if !Discovery.isSkipped entry.fileName && (← realPath below) == below then
        entries := (entry.fileName, ← readFolder below) :: entries
    else if ← entry.path.pathExists then
      entries := (entry.fileName, .file (← IO.FS.readBinFile entry.path)) :: entries
  return .folder entries

/-- Adds the folder of a package to a tree, if there is one. -/
def addPackage (tree : Node) (project : Path) (package : Package) : IO Node := do
  let path ← realPath (project.join (Path.ofText package.path))
  if ← ((← IO.currentDir) / path.text).isDir then
    return place tree path (← readFolder path)
  return tree

/-- The folder of the project that a request is about. -/
def projectOf (folder : Path) : Command.Request → Path
  | .build root _ _ _ => folder.join (Path.ofText root)
  | _ => folder

/-- The packages that a request reads. -/
def packagesOf (settings : Settings) : Command.Request → List Package
  | .build _ _ _ _ => settings.registry.packages
  | _ => []

/-- Variables that change settings. -/
def settingNames : List String :=
  ["AIKENDOC_INCLUDE_TESTS", "AIKENDOC_INCLUDE_PRIVATE", "AIKENDOC_SOURCES", "AIKENDOC_INDEX_PATH"]

def now : IO String := do
  let time := Std.Time.DateTime.ofTimestamp (← Std.Time.Timestamp.now) Std.Time.TimeZone.ZoneRules.UTC
  return time.format "uuuu-MM-dd" ++ "T" ++ time.format "HH:mm:ss.SSSSSS" ++ "+00:00"

/-- How deep values may be nested in one another. -/
def depth : Nat := 980

/-- What a request works on. -/
def worldFor (folder : Path) (request : Command.Request) : IO Command.World := do
  let globalFile := Path.ofText (((← IO.getEnv "HOME").getD "/") ++ "/.config/aikendoc/config.toml")
  let project ← realPath (projectOf folder request)
  let environment ← settingNames.filterMapM fun name => do
    return (← IO.getEnv name).map (name, ·)
  let tree ← addFile (.folder []) globalFile
  let tree ← addFile tree (project.join (Path.ofText ".aikendoc/config.toml"))
  let world : Command.World :=
    { tree, globalFile, environment, parse := Toml.parse depth, prints := fun _ => true, room := fun _ => depth, folder,
      now := ← now, depth }
  match (Settings.load world.toWorld project).outcome.1 with
  | .error _ => return world
  | .ok settings =>
    let tree ← (packagesOf settings request).foldlM (fun tree package => addPackage tree project package) tree
    return { world with tree := ← addWay tree settings.storePath }

/-- Writes the stored library of a request that builds one. -/
def writeBack (world : Command.World) (request : Command.Request) (tree : Node) : IO Unit := do
  let project ← realPath (projectOf world.folder request)
  match request, (Settings.load world.toWorld project).outcome.1 with
  | .build _ _ _ _, .ok settings =>
    let start ← IO.currentDir
    match tree.read settings.storePath.parts with
    | .ok bytes =>
      IO.FS.createDirAll (start / settings.storePath.parent.text)
      IO.FS.writeBinFile (start / settings.storePath.text) bytes
    | .error _ => return
  | _, _ => return

def runWords (words : List String) : IO UInt32 := do
  match Command.parse? words with
  | none =>
    IO.eprintln "usage: aikendoc build|search|stats|deps"
    return 2
  | some request =>
    let folder ← realPath (Path.ofText ".")
    let world ← worldFor folder request
    let outcome := Command.run world words
    for notice in outcome.notices do
      IO.eprintln (Command.plain notice.text)
    for printed in outcome.printed do
      for line in printed.lines do
        IO.println line
    match outcome.escaped with
    | some failure => IO.eprintln failure.message
    | none => if outcome.exit = 0 then writeBack world request outcome.tree
    return outcome.exit.toUInt32

end DeclIndex.Main

/-- The program. -/
def main (words : List String) : IO UInt32 :=
  DeclIndex.Main.runWords words
