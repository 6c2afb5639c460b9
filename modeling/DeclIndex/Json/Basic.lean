import DeclIndex.Table

/-!
# JSON values

Values as they are written: the fields of an object keep their order, and whole numbers are kept apart from
numbers with a fraction or exponent.
-/

namespace DeclIndex

/-- A JSON value. -/
inductive Json where
  | null
  | bool (value : Bool)
  | int (value : Int)
  | float (value : Float)
  | str (value : String)
  | arr (items : List Json)
  | obj (fields : List (String × Json))
deriving Inhabited

namespace Json

def get? (value : Json) (name : String) : Option Json :=
  match value with
  | .obj fields => valueAt? name fields
  | _ => none

/-- The characters of a text as texts. -/
def letters (text : String) : List Json :=
  text.toList.map fun c => .str (String.singleton c)

/-- The members that a walk over a value meets: the items of an array, the characters of a text, the names of the
fields of an object. -/
def members? : Json → Option (List Json)
  | .arr items => some items
  | .str text => some (letters text)
  | .obj fields => some (fields.map fun (name, _) => .str name)
  | _ => none

def strings (texts : List String) : Json :=
  .arr (texts.map .str)

/-- A text or null. -/
def optional (text : Option String) : Json :=
  match text with
  | some text => .str text
  | none => .null

/-- A whole number that is not negative. -/
def nat (n : Nat) : Json :=
  .int n

end Json

end DeclIndex
