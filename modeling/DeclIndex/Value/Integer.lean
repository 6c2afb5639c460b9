import DeclIndex.Decimal.Text
import DeclIndex.Text.Blank
import DeclIndex.Text.Digit
import DeclIndex.Value.Basic

/-!
# Values as whole numbers
-/

namespace DeclIndex.Value
open DeclIndex

/-- Why a value is no whole number. -/
inductive IntegerError where
  /-- A text that does not spell a whole number. -/
  | malformed (text : String)
  /-- A text with more digits than are read. -/
  | tooLong (digits : Nat)
  /-- A value of a kind that is never one. -/
  | wrongKind (kind : String)
  | nan
  | infinite
deriving DecidableEq

def IntegerError.message : IntegerError → String
  | .malformed text =>
    "invalid literal for int() with base 10: " ++ String.ofList ((Text.quoted text.toList).take 200)
  | .tooLong digits =>
    "Exceeds the limit (" ++ toString Text.digitLimit ++ " digits) for integer string conversion: value has " ++
      toString digits ++ " digits; use sys.set_int_max_str_digits() to increase the limit"
  | .wrongKind kind =>
    "int() argument must be a string, a bytes-like object or a real number, not '" ++ kind ++ "'"
  | .nan => "cannot convert float NaN to integer"
  | .infinite => "cannot convert float infinity to integer"

/-- The value of digits of any script, with single underscores between digits allowed. -/
def digitsFrom? (value : Nat) : List Char → Option Nat
  | [] => some value
  | '_' :: c :: rest => (Text.digitValue? c).bind fun digit => digitsFrom? (value * 10 + digit) rest
  | c :: rest => (Text.digitValue? c).bind fun digit => digitsFrom? (value * 10 + digit) rest

/-- The value of digits, of which there is at least one. -/
def natural? : List Char → Option Nat
  | [] => none
  | c :: rest => (Text.digitValue? c).bind fun digit => digitsFrom? digit rest

/-- The blanks that may stand around a number: all but the four information separators. -/
def isNumberBlank (c : Char) : Bool :=
  Text.isBlank c && !(28 ≤ c.toNat && c.toNat ≤ 31)

/-- A text without the blanks around it. -/
def trimNumber (text : List Char) : List Char :=
  ((text.dropWhile isNumberBlank).reverse.dropWhile isNumberBlank).reverse

/-- How many digits a text begins with, after blanks and a sign. Single underscores between digits do not count. -/
def leadingDigits (text : List Char) : Nat :=
  let run := (dropSign (trimNumber text)).takeWhile fun c => (Text.digitValue? c).isSome || c == '_'
  if (natural? run).isSome then (run.filter (· != '_')).length else 0
where
  dropSign : List Char → List Char
    | '-' :: rest => rest
    | '+' :: rest => rest
    | rest => rest

/-- The whole number that a text spells, blanks around it and a sign allowed. -/
def integer? (text : List Char) : Option Int :=
  match trimNumber text with
  | '-' :: rest => (natural? rest).map fun n => -(n : Int)
  | '+' :: rest => (natural? rest).map fun n => (n : Int)
  | rest => (natural? rest).map fun n => (n : Int)

/-- A value as a whole number: numbers lose their fraction, truth values are zero and one, texts must spell one. -/
def toInteger : Value → Except IntegerError Int
  | .int n => .ok n
  | .bool b => .ok (if b then 1 else 0)
  | .float x =>
    if x.isNaN then .error .nan
    else if x.isInf then .error .infinite
    else .ok (Decimal.truncate x)
  | .str text =>
    if Text.digitLimit < leadingDigits text.toList then .error (.tooLong (leadingDigits text.toList))
    else
      match integer? text.toList with
      | some n => .ok n
      | none => .error (.malformed text)
  | value => .error (.wrongKind value.kind)

end DeclIndex.Value
