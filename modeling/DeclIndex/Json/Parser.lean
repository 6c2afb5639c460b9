import DeclIndex.Json.Literal

/-!
# Reading JSON

A reader for whole texts. Of fields with one name in an object the last one counts, in the place of the first.
`NaN` and the infinities are read as numbers.
-/

namespace DeclIndex.Json

/-- A text without blanks at its front. Four characters are blank here. -/
def skip (text : List Char) : List Char :=
  text.dropWhile fun c => c == ' ' || c == '\t' || c == '\n' || c == '\r'

def hexDigit? (c : Char) : Option Nat :=
  if c.isDigit then some (c.toNat - 48)
  else if 'a' ≤ c && c ≤ 'f' then some (c.toNat - 87)
  else if 'A' ≤ c && c ≤ 'F' then some (c.toNat - 55)
  else none

def hex4? (a b c d : Char) : Option Nat := do
  return (((← hexDigit? a) * 16 + (← hexDigit? b)) * 16 + (← hexDigit? c)) * 16 + (← hexDigit? d)

/-- The character of a short escape. -/
def shortEscape? (c : Char) : Option Char :=
  match c with
  | '"' => some '"'
  | '\\' => some '\\'
  | '/' => some '/'
  | 'b' => some (Char.ofNat 8)
  | 'f' => some (Char.ofNat 12)
  | 'n' => some '\n'
  | 'r' => some '\r'
  | 't' => some '\t'
  | _ => none

/-- The code point of two halves of a pair, the first of which is high. -/
def joinPair (high low : Nat) : Nat :=
  0x10000 + (high - 0xD800) * 0x400 + (low - 0xDC00)

/-- A half of a pair that stands alone is replaced. -/
def codeChar (code : Nat) : Char :=
  if 0xD800 ≤ code && code < 0xE000 then Char.ofNat 0xFFFD else Char.ofNat code

/-- A code that was escaped, put in front of what was read so far. The second half of a pair joins the first. -/
def addCode (pending : Option Nat) (code : Nat) (done : List Char) : List Char :=
  match pending with
  | some high =>
    if 0xDC00 ≤ code && code < 0xE000 then codeChar (joinPair high code) :: done
    else codeChar code :: codeChar high :: done
  | none => codeChar code :: done

/-- A first half of a pair that waits for the second, put in front of what was read so far. -/
def flush (pending : Option Nat) (done : List Char) : List Char :=
  match pending with
  | some high => codeChar high :: done
  | none => done

/-- The rest of a text in quotes, what was read so far given last character first. -/
def quotedRest? (pending : Option Nat) (done : List Char) : List Char → Option (String × List Char)
  | '"' :: rest => some (String.ofList (flush pending done).reverse, rest)
  | '\\' :: 'u' :: a :: b :: c :: d :: rest =>
    match hex4? a b c d with
    | some code =>
      if pending.isNone && 0xD800 ≤ code && code < 0xDC00 then quotedRest? (some code) done rest
      else if 0xD800 ≤ code && code < 0xDC00 then quotedRest? (some code) (flush pending done) rest
      else quotedRest? none (addCode pending code done) rest
    | none => none
  | '\\' :: c :: rest =>
    match shortEscape? c with
    | some escaped => quotedRest? none (escaped :: flush pending done) rest
    | none => none
  | c :: rest =>
    if c.toNat < 32 || c = '\\' then none else quotedRest? none (c :: flush pending done) rest
  | [] => none

def digitsValue (digits : List Char) : Nat :=
  digits.foldl (fun n c => n * 10 + (c.toNat - 48)) 0

/-- The digits behind a point. -/
def fraction (text : List Char) : List Char × List Char :=
  match text with
  | '.' :: c :: rest =>
    if c.isDigit then (c :: rest.takeWhile Char.isDigit, rest.dropWhile Char.isDigit) else ([], text)
  | _ => ([], text)

/-- The exponent behind an `e`. -/
def exponent (text : List Char) : Option Int × List Char :=
  match text with
  | c :: rest =>
    if c = 'e' || c = 'E' then
      let (isNegative, digits) := match rest with
        | '-' :: digits => (true, digits)
        | '+' :: digits => (false, digits)
        | digits => (false, digits)
      let shown := digits.takeWhile Char.isDigit
      if shown.isEmpty then (none, text)
      else
        let size : Int := digitsValue shown
        (some (if isNegative then -size else size), digits.dropWhile Char.isDigit)
    else (none, text)
  | [] => (none, text)

/-- Why a text is not read. -/
inductive ReadError where
  /-- The text is no JSON. -/
  | malformed
  /-- A whole number has too many digits. -/
  | tooLong
  /-- Arrays and objects are nested too deep. -/
  | tooDeep
deriving DecidableEq

/-- The digits before the point of a number. No zero stands before other digits. -/
def wholeDigits : List Char → List Char
  | '0' :: _ => ['0']
  | text => text.takeWhile Char.isDigit

/-- A number without its sign. A whole number has no more digits than are read. -/
def magnitude? (isNegative : Bool) (text : List Char) : Option (Except ReadError (Json × List Char)) :=
  let whole := wholeDigits text
  if whole.isEmpty then none
  else
    let (decimals, rest) := fraction (text.drop whole.length)
    let (power, rest) := exponent rest
    if decimals.isEmpty && power.isNone then
      if Text.digitLimit < whole.length then some (.error .tooLong)
      else
        let n : Int := digitsValue whole
        some (.ok (.int (if isNegative then -n else n), rest))
    else
      let shift : Int := power.getD 0 - decimals.length
      some (.ok (.float (Decimal.nearest isNegative (digitsValue (whole ++ decimals)) shift), rest))

/-- The words that are values. -/
def words : List (String × Json) :=
  [("null", .null), ("true", .bool true), ("false", .bool false),
    ("NaN", .float (0.0 / 0.0)), ("Infinity", .float (1.0 / 0.0)),
    ("-Infinity", .float (-1.0 / 0.0))]

/-- A value that is one word. -/
def word (text : List Char) : Except ReadError (Json × List Char) :=
  match words.findSome? fun (word, value) =>
    if word.toList.isPrefixOf text then some (value, text.drop word.length) else none with
  | some found => .ok found
  | none => .error .malformed

/-- A text in quotes, from behind the first of them on. -/
def quotedText (text : List Char) : Except ReadError (String × List Char) :=
  match quotedRest? none [] text with
  | some found => .ok found
  | none => .error .malformed

mutual

/-- The value at the front of a text, blanks before it allowed, with at most `depth` arrays and objects around one another. -/
def value (fuel depth : Nat) (text : List Char) : Except ReadError (Json × List Char) :=
  match fuel with
  | 0 => .error .malformed
  | fuel + 1 =>
    match skip text with
    | '"' :: rest => (quotedText rest).map fun (text, rest) => (.str text, rest)
    | '[' :: rest =>
      match depth with
      | 0 => .error .tooDeep
      | depth + 1 =>
        match skip rest with
        | ']' :: beyond => .ok (.arr [], beyond)
        | _ => (items fuel depth [] rest).map fun (items, rest) => (.arr items, rest)
    | '{' :: rest =>
      match depth with
      | 0 => .error .tooDeep
      | depth + 1 =>
        match skip rest with
        | '}' :: beyond => .ok (.obj [], beyond)
        | _ => (fields fuel depth [] rest).map fun (fields, rest) => (.obj fields, rest)
    | '-' :: rest => (magnitude? true rest).getD (word ('-' :: rest))
    | rest => (magnitude? false rest).getD (word rest)

/-- The rest of an array, what was read so far given last item first. -/
def items (fuel depth : Nat) (done : List Json) (text : List Char) : Except ReadError (List Json × List Char) :=
  match fuel with
  | 0 => .error .malformed
  | fuel + 1 =>
    match value fuel depth text with
    | .error error => .error error
    | .ok (item, rest) =>
      match skip rest with
      | ',' :: beyond => items fuel depth (item :: done) beyond
      | ']' :: beyond => .ok ((item :: done).reverse, beyond)
      | _ => .error .malformed

/-- The rest of an object, what was read so far given. -/
def fields (fuel depth : Nat) (done : List (String × Json)) (text : List Char) :
    Except ReadError (List (String × Json) × List Char) :=
  match fuel with
  | 0 => .error .malformed
  | fuel + 1 =>
    match skip text with
    | '"' :: rest =>
      match quotedText rest with
      | .error error => .error error
      | .ok (name, rest) =>
        match skip rest with
        | ':' :: rest =>
          match value fuel depth rest with
          | .error error => .error error
          | .ok (value, rest) =>
            match skip rest with
            | ',' :: beyond => fields fuel depth (putEntry name value done) beyond
            | '}' :: beyond => .ok (putEntry name value done, beyond)
            | _ => .error .malformed
        | _ => .error .malformed
    | _ => .error .malformed

end

/-- The value that a whole text is, with at most `depth` arrays and objects around one another. -/
def parse (depth : Nat) (text : String) : Except ReadError Json :=
  let chars := text.toList
  match value (2 * chars.length + 2) depth chars with
  | .error error => .error error
  | .ok (value, rest) => if (skip rest).isEmpty then .ok value else .error .malformed

end DeclIndex.Json
