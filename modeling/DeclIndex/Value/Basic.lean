import DeclIndex.Moment
import DeclIndex.Table
import DeclIndex.Text.Quoted

/-!
# Values in settings

What a setting can be: the values of JSON, dates and times. The fields of an object keep their order.
-/

namespace DeclIndex

inductive Value where
  | null
  | bool (value : Bool)
  | int (value : Int)
  | float (value : Float)
  | str (value : String)
  | moment (value : Moment)
  | arr (items : List Value)
  | obj (fields : List (String × Value))
deriving Inhabited

/-- Why a part of a value could not be had. -/
inductive AccessError where
  /-- An object has no field of that name. -/
  | missing (name : String)
  /-- A value that is no object was asked for a field. -/
  | notObject (kind : String)
  /-- A value that has no members was walked over. -/
  | notIterable (kind : String)
deriving DecidableEq

def AccessError.message : AccessError → String
  | .missing name => Text.quote name
  | .notObject "str" => "string indices must be integers, not 'str'"
  | .notObject "list" => "list indices must be integers or slices, not str"
  | .notObject kind => "'" ++ kind ++ "' object is not subscriptable"
  | .notIterable kind => "'" ++ kind ++ "' object is not iterable"

namespace Value

/-- The kind of a value, as messages name it. -/
def kind : Value → String
  | .null => "NoneType"
  | .bool _ => "bool"
  | .int _ => "int"
  | .float _ => "float"
  | .str _ => "str"
  | .moment m => m.kind
  | .arr _ => "list"
  | .obj _ => "dict"

/-- Whether a value counts as true: null, zero and whatever is empty do not. -/
def isTrue : Value → Bool
  | .null => false
  | .bool b => b
  | .int n => n != 0
  | .float x => x != 0.0
  | .str s => !s.isEmpty
  | .moment _ => true
  | .arr items => !items.isEmpty
  | .obj fields => !fields.isEmpty

/-- A field that must be there. -/
def field (value : Value) (name : String) : Except AccessError Value :=
  match value with
  | .obj fields =>
    match valueAt? name fields with
    | some found => .ok found
    | none => .error (.missing name)
  | other => .error (.notObject other.kind)

def fieldD (value : Value) (name : String) (default : Value) : Value :=
  match value with
  | .obj fields => (valueAt? name fields).getD default
  | _ => default

/-- The members that a walk over a value meets: the items of an array, the characters of a text, the names of the
fields of an object. -/
def members : Value → Except AccessError (List Value)
  | .arr items => .ok items
  | .str text => .ok (text.toList.map fun c => .str (String.singleton c))
  | .obj fields => .ok (fields.map fun (name, _) => .str name)
  | other => .error (.notIterable other.kind)

end Value

end DeclIndex
