import DeclIndex.Decimal.Text
import DeclIndex.Text.Digit
import DeclIndex.Value.Basic

/-!
# Values as texts

How messages show a value, and the text that a setting makes of it. There is none for a value with a whole number of
too many digits, nor for one that is nested too deep.
-/

namespace DeclIndex

/-- What there is too much of in a value or in a text. -/
inductive Excess where
  /-- A whole number has too many digits. -/
  | digits
  /-- Values are nested in one another too deep. -/
  | nesting
deriving DecidableEq

def Excess.message : Excess → String
  | .digits => "a whole number has more than " ++ toString Text.digitLimit ++ " digits"
  | .nesting => "values are nested too deep"

namespace Value

mutual

/-- A value as messages show it. -/
def literal : Value → String
  | .null => "None"
  | .bool true => "True"
  | .bool false => "False"
  | .int n => toString n
  | .float x => Decimal.text ⟨"nan", "inf"⟩ x
  | .str s => Text.quote s
  | .moment m => m.literal
  | .arr items => "[" ++ ", ".intercalate (literals items) ++ "]"
  | .obj fields => "\x7b" ++ ", ".intercalate (literalFields fields) ++ "\x7d"

def literals : List Value → List String
  | [] => []
  | item :: items => literal item :: literals items

def literalFields : List (String × Value) → List String
  | [] => []
  | (name, value) :: fields => (Text.quote name ++ ": " ++ literal value) :: literalFields fields

end

/-- A value as a text: texts are themselves, moments have a form of their own, other values are shown as in
messages. -/
def text : Value → String
  | .str s => s
  | .moment m => m.text
  | value => literal value

/-- Whether a whole number has more digits than are written or read. -/
def isTooLong (n : Int) : Bool :=
  decide (Text.digitLimit < (Nat.toDigits 10 n.natAbs).length)

mutual

/-- What there is too much of in a value to show it where no more than `room` calls are nested, one for each value
around another. Values are looked at from left to right. -/
def excess? (room : Nat) : Value → Option Excess
  | .int n => if room = 0 then some .nesting else if isTooLong n then some .digits else none
  | .moment m => if room < m.nesting then some .nesting else none
  | .arr items => if room = 0 then some .nesting else excessIn? (room - 1) items
  | .obj fields => if room = 0 then some .nesting else excessInFields? (room - 1) fields
  | _ => if room = 0 then some .nesting else none

def excessIn? (room : Nat) : List Value → Option Excess
  | [] => none
  | item :: items => (excess? room item).or (excessIn? room items)

def excessInFields? (room : Nat) : List (String × Value) → Option Excess
  | [] => none
  | (_, value) :: fields => (excess? room value).or (excessInFields? room fields)

end

/-- What there is too much of in a value to make a text of it. A text is one already. -/
def textExcess? (room : Nat) : Value → Option Excess
  | .str _ => none
  | value => excess? room value

/-- A value as a text, if it can be shown. -/
def toText (room : Nat) (value : Value) : Except Excess String :=
  match value.textExcess? room with
  | some excess => .error excess
  | none => .ok value.text

/-- Where a value is shown. -/
inductive Place where
  /-- In the message on a setting that is no truth value. -/
  | flag
  /-- In the message on sources that are no list. -/
  | sources
  /-- As the id of a source. -/
  | source
  | indexPath
  /-- As a text of a package. -/
  | package
  | aggregator
  /-- In the message on an entry that is no package. -/
  | entry
deriving DecidableEq

/-- How many calls may still be nested where a value is shown. What is left of a limit differs from place to place. -/
abbrev Room := Place → Nat

end Value

end DeclIndex
