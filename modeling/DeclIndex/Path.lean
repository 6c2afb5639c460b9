import DeclIndex.Text.Find

/-!
# Paths

A path is a root and its parts. Repeated slashes and single dots vanish when a path is read; double dots stay.
-/

namespace DeclIndex

/-- A path. -/
structure Path where
  /-- Nothing for a relative path, else one slash or two. -/
  root : String
  parts : List String
deriving DecidableEq

namespace Path

/-- The root that leading slashes stand for. Exactly two stay two. -/
def rootOf : List Char → String
  | '/' :: '/' :: '/' :: _ => "/"
  | '/' :: '/' :: _ => "//"
  | '/' :: _ => "/"
  | _ => ""

/-- Reads a path. -/
def ofText (text : String) : Path :=
  ⟨rootOf text.toList,
    (text.toList.splitOn '/').filterMap fun part =>
      if part.isEmpty || part = ['.'] then none else some (String.ofList part)⟩

/-- The text of a path. The empty path is written as a dot. -/
def text (path : Path) : String :=
  if path.root.isEmpty && path.parts.isEmpty then "." else path.root ++ "/".intercalate path.parts

def isAbsolute (path : Path) : Bool :=
  !path.root.isEmpty

/-- A path taken from another one. An absolute path stays as it is. -/
def join (base path : Path) : Path :=
  if path.isAbsolute then path else ⟨base.root, base.parts ++ path.parts⟩

/-- The path without its last part. -/
def parent (path : Path) : Path :=
  { path with parts := path.parts.dropLast }

/-- A name without its suffix: the last dot and what follows it, unless the name begins or ends with that dot. -/
def stem (name : List Char) : List Char :=
  let after := (name.reverse.takeWhile (· != '.')).length
  let before := name.length - after - 1
  if after < name.length && 0 < before && 0 < after then name.take before else name

/-- The dotted module name of a source file, without the suffix of the file. A path without parts has none. -/
def moduleName? (path : Path) : Option String :=
  match path.parts.getLast? with
  | none => none
  | some name =>
    let bare : Path := { path with parts := path.parts.dropLast ++ [String.ofList (stem name.toList)] }
    some (String.ofList (bare.text.toList.map fun c => if c = '/' then '.' else c))

/-- The order of paths by their parts, part by part, each by code points. -/
def isBefore : List String → List String → Bool
  | [], _ => true
  | _ :: _, [] => false
  | a :: as, b :: bs => if a = b then isBefore as bs else a < b

end Path

end DeclIndex
