import DeclIndex.Bracket
import DeclIndex.Declaration
import DeclIndex.TypeScript.Head

/-!
# Parameter lists of TypeScript functions
-/

namespace DeclIndex.TypeScript
open DeclIndex.Text

/-- A parameter `name`, with a question mark, a type and a default, each optional. The type ends at the first
equals sign. -/
structure ParameterEntry where
  name : List Char
  isQuestioned : Bool
  type : Option (List Char)
  hasDefault : Bool
deriving DecidableEq

/-- Whether nothing is left, or a default value is. -/
def defaultEnd? (text : List Char) : Option Bool :=
  match trimLeft text with
  | [] => some false
  | '=' :: value => if value.isEmpty then none else some true
  | _ => none

/-- The parts of a trimmed entry. -/
def parameterParts? (entry : List Char) : Option ParameterEntry := do
  let (name, rest) ← alphabet.ident? (dropFront "...".toList entry)
  let (isQuestioned, rest) := match trimLeft rest with
    | '?' :: beyond => (true, trimLeft beyond)
    | rest => (false, rest)
  match rest with
  | ':' :: left =>
    let type := left.takeWhile (· != '=')
    if type.isEmpty then none
    else return ⟨name, isQuestioned, some (trim type), ← defaultEnd? (left.dropWhile (· != '='))⟩
  | _ => return ⟨name, isQuestioned, none, ← defaultEnd? rest⟩

/-- The parameter of a trimmed entry. Any other form, such as a pattern, is a name of type `any`. -/
def parameter (entry : List Char) : Parameter :=
  match parameterParts? entry with
  | some parts =>
    { name := String.ofList parts.name
      type := (parts.type.map String.ofList).getD "any"
      optional := parts.isQuestioned || parts.hasDefault }
  | none => { name := String.ofList entry, type := "any" }

/-- The parameters between the parentheses of a head. -/
def parameters (text : List Char) : List Parameter :=
  (Bracket.splitParameters (normalize text)).map parameter

end DeclIndex.TypeScript
