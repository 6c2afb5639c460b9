import DeclIndex.Decimal.Text
import DeclIndex.Json.Basic
import DeclIndex.Text.Quoted

/-!
# Writing JSON

Values are written over several lines, two spaces deeper for each level; empty arrays and objects stay on one line.
Only quotes, backslashes and control characters are escaped.
-/

namespace DeclIndex.Json
open DeclIndex

/-- One character between quotes. -/
def escaped (c : Char) : List Char :=
  if c = '"' || c = '\\' then ['\\', c]
  else if c = '\n' then ['\\', 'n']
  else if c = '\r' then ['\\', 'r']
  else if c = '\t' then ['\\', 't']
  else if c.toNat = 8 then ['\\', 'b']
  else if c.toNat = 12 then ['\\', 'f']
  else if c.toNat < 32 then '\\' :: 'u' :: Text.hex 4 c.toNat
  else [c]

def quoted (text : String) : String :=
  String.ofList ('"' :: text.toList.flatMap escaped ++ ['"'])

/-- The numbers that are not finite. -/
def special : Decimal.Special := ⟨"NaN", "Infinity"⟩

/-- A value that has no members. -/
def scalarText : Json → String
  | .null => "null"
  | .bool true => "true"
  | .bool false => "false"
  | .int n => toString n
  | .float x => Decimal.text special x
  | .str s => quoted s
  | .arr _ => "[]"
  | .obj _ => "\x7b\x7d"

/-- Members on lines of their own between brackets. -/
def bracketed (opening closing pad : String) (members : List String) : String :=
  opening ++ "\n" ++ pad ++ "  " ++ (",\n" ++ pad ++ "  ").intercalate members ++ "\n" ++ pad ++ closing

mutual

/-- A value, with `pad` in front of its later lines. -/
def indented (pad : String) : Json → String
  | .arr (item :: items) => bracketed "[" "]" pad (indentedItems (pad ++ "  ") (item :: items))
  | .obj (field :: fields) =>
    bracketed "\x7b" "\x7d" pad (indentedFields (pad ++ "  ") (field :: fields))
  | value => scalarText value

/-- The items of an array. -/
def indentedItems (pad : String) : List Json → List String
  | [] => []
  | item :: items => indented pad item :: indentedItems pad items

/-- The fields of an object. -/
def indentedFields (pad : String) : List (String × Json) → List String
  | [] => []
  | (name, value) :: fields =>
    (quoted name ++ ": " ++ indented pad value) :: indentedFields pad fields

end

/-- The text of a value over several lines. -/
def pretty (value : Json) : String :=
  indented "" value

mutual

/-- The text of a value on one line. -/
def compact : Json → String
  | .arr items => "[" ++ ",".intercalate (compactItems items) ++ "]"
  | .obj fields => "\x7b" ++ ",".intercalate (compactFields fields) ++ "\x7d"
  | value => scalarText value

def compactItems : List Json → List String
  | [] => []
  | item :: items => compact item :: compactItems items

def compactFields : List (String × Json) → List String
  | [] => []
  | (name, value) :: fields => (quoted name ++ ":" ++ compact value) :: compactFields fields

end

end DeclIndex.Json
