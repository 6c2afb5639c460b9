import DeclIndex.Text.Lines
import DeclIndex.TypeScript.Head

/-!
# Exports of TypeScript files

A declaration is public if the file exports its name, on the line of the declaration or in a list.
-/

namespace DeclIndex.TypeScript
open DeclIndex.Text

/-- One exported name. -/
structure Export where
  name : String
  /-- The keyword of the declaration, or `const` for an item of a list. -/
  kind : String
  isDefault : Bool
  line : Nat
  raw : String
  source : String
deriving DecidableEq

/-- The names that an item of an export list exports: its new name first, if it has one, and its own. -/
def exportedBy (item : List Char) : List (List Char) :=
  match exportItem? (trim item) with
  | some (name, some renamed) => [renamed, name]
  | some (name, none) => [name]
  | none => []

/-- The exported names on a trimmed line, each with its keyword and whether it is the default. -/
def exportsOn (line : List Char) : List (List Char × String × Bool) :=
  match defaultExport? line with
  | some (kind, name) => [(name, kind, true)]
  | none =>
    match namedExport? line with
    | some (kind, name) => [(name, kind, false)]
    | none =>
      match exportList? line with
      | some items => (items.splitOn ',').flatMap fun item =>
          (exportedBy item).map fun name => (name, "const", false)
      | none => []

/-- The exports on the line with index `index`. -/
def exportsAt (source : String) (index : Nat) (line : List Char) : List Export :=
  (exportsOn (trim line)).map fun (name, kind, isDefault) =>
    ⟨String.ofList name, kind, isDefault, index + 1, String.ofList (trim line), source⟩

/-- The exports of a file in file order. -/
def exports (source : String) (text : List Char) : List Export :=
  (lines text).zipIdx.flatMap fun (line, index) => exportsAt source index line

end DeclIndex.TypeScript
