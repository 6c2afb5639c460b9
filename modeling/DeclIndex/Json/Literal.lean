import DeclIndex.Json.Basic
import DeclIndex.Value.Text

/-!
# JSON values as settings have them

A JSON value is one that a setting can have. So it has a kind, a text and a truth value, and its parts are had in the same
way.
-/

namespace DeclIndex.Json
open DeclIndex

mutual

/-- A JSON value as a value of settings. -/
def toValue : Json → Value
  | .null => .null
  | .bool b => .bool b
  | .int n => .int n
  | .float x => .float x
  | .str s => .str s
  | .arr items => .arr (toValues items)
  | .obj fields => .obj (toFields fields)

def toValues : List Json → List Value
  | [] => []
  | item :: items => toValue item :: toValues items

def toFields : List (String × Json) → List (String × Value)
  | [] => []
  | (name, value) :: fields => (name, toValue value) :: toFields fields

end

def kind (value : Json) : String :=
  value.toValue.kind

/-- A value as a text. Numbers that were read have few enough digits for one; values are taken to be flat enough. -/
def toText (value : Json) : String :=
  value.toValue.text

def isTrue (value : Json) : Bool :=
  value.toValue.isTrue

/-- A field that must be there. -/
def field (value : Json) (name : String) : Except AccessError Json :=
  match value with
  | .obj fields =>
    match valueAt? name fields with
    | some found => .ok found
    | none => .error (.missing name)
  | other => .error (.notObject other.kind)

/-- A field, or another value in its place. -/
def fieldD (value : Json) (name : String) (default : Json) : Json :=
  (value.get? name).getD default

/-- The members of a value that must have some. -/
def members (value : Json) : Except AccessError (List Json) :=
  match value.members? with
  | some found => .ok found
  | none => .error (.notIterable value.kind)

end DeclIndex.Json
