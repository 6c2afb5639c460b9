import DeclIndex.Path
import DeclIndex.Table
import DeclIndex.Text.Quoted

/-!
# File trees

A file system as a value: folders, files and symbolic links below one root folder. Paths in a tree are lists of names from
the root.
-/

namespace DeclIndex

/-- A folder with everything in it, a file, or a link. -/
inductive Node where
  | file (bytes : ByteArray)
  | link (target : String)
  | folder (entries : List (String × Node))
deriving Inhabited

/-- Why a path cannot be used. -/
inductive FileError where
  | missing
  | exists
  | notFolder
  | isFolder
  /-- A name, or the whole path, has too many octets. -/
  | tooLong
  /-- Too many links lead on to others. -/
  | loop
  /-- A name has the character NUL. -/
  | nul
deriving DecidableEq

def FileError.message (path : String) : FileError → String
  | .missing => "[Errno 2] No such file or directory: " ++ Text.quote path
  | .exists => "[Errno 17] File exists: " ++ Text.quote path
  | .notFolder => "[Errno 20] Not a directory: " ++ Text.quote path
  | .isFolder => "[Errno 21] Is a directory: " ++ Text.quote path
  | .tooLong => "[Errno 36] File name too long: " ++ Text.quote path
  | .loop => "[Errno 40] Too many levels of symbolic links: " ++ Text.quote path
  | .nul => "embedded null byte"

/-- An error at a path. -/
structure PathError where
  path : Path
  error : FileError
deriving DecidableEq

def PathError.message (failure : PathError) : String :=
  failure.error.message failure.path.text

namespace Node

/-! ## Entries -/

/-- The node under a list of names, links not followed. -/
def get? (node : Node) : List String → Option Node
  | [] => some node
  | name :: rest =>
    match node with
    | .folder entries =>
      match valueAt? name entries with
      | some child => child.get? rest
      | none => none
    | _ => none

/-- The entries of a folder after one was set or, without a node, taken away. -/
def setEntry (name : String) (node : Option Node) (entries : List (String × Node)) :
    List (String × Node) :=
  match node with
  | some node => putEntry name node entries
  | none => entries.filter (·.1 != name)

/-- Changes the node under a list of names, in a folder that is there. -/
def alter (change : Option Node → Option Node) : List String → Node → Node
  | [], node => (change (some node)).getD node
  | [name], .folder entries => .folder (setEntry name (change (valueAt? name entries)) entries)
  | name :: rest, .folder entries =>
    match valueAt? name entries with
    | some child => .folder (putEntry name (child.alter change rest) entries)
    | none => .folder entries
  | _, node => node

/-! ## Places -/

/-- The names that the target of a link leads through. Slashes within it give empty names, which lead nowhere else, and so
does a slash at its end, which asks for a folder. -/
def targetNames (target : String) : List String :=
  (target.toList.splitOn '/').map String.ofList

/-- Whether a name leads nowhere else. -/
def isHere (name : String) : Bool :=
  name = "" || name = "."

/-- The folder that the target of a link is taken from, for a link in a folder given by its names, last first. -/
def targetStart (target : String) (here : List String) : List String :=
  if (Path.ofText target).isAbsolute then [] else here

/-- What is asked of the last name of a path. -/
inductive Last where
  /-- It is there, and a link is followed. -/
  | present
  /-- It may be there or not, and a link is followed. -/
  | written
  /-- It may be there or not, and a link counts as what is there. -/
  | entry
deriving DecidableEq

/-- How many links are followed on the way to one place. -/
def linkLimit : Nat := 40

/-- How many octets a name may have. -/
def nameLimit : Nat := 255

/-- How many octets a path has fewer than. -/
def pathLimit : Nat := 4096

/-- The place that a path leads to, from a folder given by its names, last first. At most `links` links are followed, and
double dots lead up. A slash behind the last name refuses a file to be written. -/
def walk (root : Node) (last : Last) (links : Nat) (here path : List String) :
    Except FileError (List String) :=
  match path with
  | [] => .ok here.reverse
  | name :: rest =>
    if isHere name then walk root last links here rest
    else if name = ".." then walk root last links (here.drop 1) rest
    else if last == .written && !rest.isEmpty && rest.all (· = "") then .error .isFolder
    else if nameLimit < name.utf8ByteSize then .error .tooLong
    else
      let place := (name :: here).reverse
      match root.get? place with
      | none => if rest.isEmpty && last != .present then .ok place else .error .missing
      | some (.folder _) => walk root last links (name :: here) rest
      | some (.file _) => if rest.isEmpty then .ok place else .error .notFolder
      | some (.link target) =>
        if rest.isEmpty && last == .entry then .ok place
        else
          match links with
          | 0 => .error .loop
          | links + 1 => walk root last links (targetStart target here) (targetNames target ++ rest)
termination_by (links, path.length)

/-- Whether a path has a name with the character NUL. -/
def hasNul (path : List String) : Bool :=
  path.any (·.toList.contains (Char.ofNat 0))

/-- How many octets a path from the root has. -/
def pathSize (path : List String) : Nat :=
  path.foldl (fun size name => size + 1 + name.utf8ByteSize) 0

/-- The place that a path leads to. -/
def place (root : Node) (last : Last) (path : List String) : Except FileError (List String) :=
  if hasNul path then .error .nul
  else if pathLimit ≤ pathSize path then .error .tooLong
  else walk root last linkLimit [] path

/-- The node that a path leads to. -/
def find (root : Node) (path : List String) : Except FileError Node := do
  match root.get? (← root.place .present path) with
  | some node => .ok node
  | none => .error .missing

def isFolder (root : Node) (path : List String) : Bool :=
  match root.find path with
  | .ok (.folder _) => true
  | _ => false

/-- The content of the file that a path leads to. -/
def read (root : Node) (path : List String) : Except FileError ByteArray := do
  match ← root.find path with
  | .file bytes => .ok bytes
  | .folder _ => .error .isFolder
  | .link _ => .error .missing

/-! ## Paths without links

The path without links that stands for another one can be told whether that one leads somewhere or not. -/

mutual

/-- How many links a tree has. -/
def linkCount : Node → Nat
  | .file _ => 0
  | .link _ => 1
  | .folder entries => linkCountIn entries

/-- How many links there are among some entries and below them. -/
def linkCountIn : List (String × Node) → Nat
  | [] => 0
  | (_, node) :: rest => node.linkCount + linkCountIn rest

end

/-- The links that were met on the way, each with the folder or file it stands for once that is known. Names are given last
first. -/
abbrev Met := List (List String × Option (List String))

/-- How far the links of a path could be followed. -/
structure Followed where
  /-- The names of the place, last first. -/
  place : List String
  /-- Whether no link led back to itself. -/
  isWhole : Bool
  met : Met

/-- The names of a place with a path behind it, last first. Double dots take the name before them away. -/
def climb (place path : List String) : List String :=
  path.foldl (fun place name => if isHere name then place else if name = ".." then place.drop 1 else name :: place) place

/-- Follows the links of a path from a folder given by its names, last first. What is not there is just a name. Links are
within one another at most `depth` times. -/
def follow (root : Node) (depth : Nat) (met : Met) (here path : List String) : Followed :=
  match path with
  | [] => ⟨here, true, met⟩
  | name :: rest =>
    if isHere name then follow root depth met here rest
    else if name = ".." then follow root depth met (here.drop 1) rest
    else
      let place := name :: here
      match root.get? place.reverse with
      | some (.link target) =>
        match met.lookup place, depth with
        | some (some known), depth => follow root depth met known rest
        | some none, _ => ⟨climb place rest, false, met⟩
        | none, 0 => ⟨climb place rest, false, met⟩
        | none, depth + 1 =>
          let inner := follow root depth ((place, none) :: met) (targetStart target here) (targetNames target)
          if inner.isWhole then
            follow root (depth + 1) ((place, some inner.place) :: inner.met) inner.place rest
          else ⟨climb inner.place rest, false, inner.met⟩
      | _ => follow root depth met place rest
termination_by (depth, path.length)

/-- The path without links that stands for a path. -/
def resolve (root : Node) (path : List String) : Except FileError (List String) :=
  if hasNul path then .error .nul
  else
    let found := (follow root root.linkCount [] [] path).place.reverse
    match root.place .present found with
    | .error .loop => .error .loop
    | _ => .ok found

/-! ## Changes -/

/-- A tree with a new folder at a path. The folder around it must be there. -/
def makeFolder (root : Node) (path : List String) : Except FileError Node := do
  let place ← root.place .entry path
  match root.get? place with
  | some _ => .error .exists
  | none => .ok (root.alter (fun _ => some (.folder [])) place)

/-- A folder that cannot be made is no fault if it is there. -/
def unlessFolder (root : Node) (path : Path) (error : FileError) : Except PathError Unit :=
  if error != .missing && root.isFolder path.parts then .ok () else .error ⟨path, error⟩

/-- Makes a folder and those on the way to it, as far as they are not there. Those that were made stay if a further one
cannot be made. -/
def makeFolders (root : Node) (path : Path) : Node × Except PathError Unit :=
  match root.makeFolder path.parts with
  | .ok tree => (tree, .ok ())
  | .error .missing =>
    if path.parts.isEmpty then (root, .error ⟨path, .missing⟩)
    else
      match makeFolders root path.parent with
      | (tree, .error error) => (tree, .error error)
      | (tree, .ok ()) =>
        match tree.makeFolder path.parts with
        | .ok tree => (tree, .ok ())
        | .error error => (tree, tree.unlessFolder path error)
  | .error error => (root, root.unlessFolder path error)
termination_by path.parts.length
decreasing_by
  rename_i h
  cases hp : path.parts with
  | nil => simp [hp] at h
  | cons name rest => simp [Path.parent, hp]

/-- A tree in which a path leads to a file with some content. The folder of the file must be there. -/
def write (root : Node) (path : List String) (bytes : ByteArray) : Except FileError Node := do
  let place ← root.place .written path
  match root.get? place with
  | some (.folder _) => .error .isFolder
  | _ => .ok (root.alter (fun _ => some (.file bytes)) place)

end Node

end DeclIndex
