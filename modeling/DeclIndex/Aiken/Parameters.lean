import DeclIndex.Aiken.Head
import DeclIndex.Bracket
import DeclIndex.Declaration

/-!
# Parameter lists of Aiken functions
-/

namespace DeclIndex.Aiken
open DeclIndex.Text

/-- The name of a parameter and its type, for a trimmed entry `name` or `name: type`. -/
def parameterParts? (entry : List Char) : Option (List Char × Option (List Char)) := do
  let (name, rest) ← alphabet.ident? entry
  match trimLeft rest with
  | [] => return (name, none)
  | ':' :: type => if type.isEmpty then none else return (name, some (trim type))
  | _ => none

/-- A parameter of a trimmed entry. One of an `Option(…)` type is optional. -/
def parameter? (entry : List Char) : Option Parameter := do
  let (name, type) ← parameterParts? entry
  let type := type.getD "Unknown".toList
  return ⟨String.ofList name, String.ofList type, occurs "Option(".toList type⟩

/-- The parameters between the parentheses of a head. Entries of any other form are left out. -/
def parameters (text : List Char) : List Parameter :=
  (Bracket.splitParameters (normalize text)).filterMap parameter?

end DeclIndex.Aiken
