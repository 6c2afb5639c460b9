import DeclIndex.Json.Parser
import DeclIndex.Text.Find
import DeclIndex.Value.Text

/-!
# Words of settings files

Settings files are written in TOML. Its blanks and comments, texts, keys, numbers, dates and times.
-/

namespace DeclIndex.Toml
open DeclIndex.Text DeclIndex.Json

/-- Why a text is not read. -/
inductive Stop where
  /-- The text is no TOML, for some cause, which shows where `rest` is left. -/
  | invalid (cause : String) (rest : List Char)
  | overfull (excess : Excess)

def refuse {α : Type} (cause : String) (rest : List Char) : Except Stop α :=
  .error (.invalid cause rest)

/-- A character as messages show it. -/
def shown (c : Char) : String :=
  quote (String.singleton c)

/-! ## Blanks and comments -/

def isGap (c : Char) : Bool :=
  c == ' ' || c == '\t'

def isGapOrLineFeed (c : Char) : Bool :=
  isGap c || c == '\n'

def skipGap (text : List Char) : List Char :=
  text.dropWhile isGap

/-- Whether a character may not stand in a comment or a text: all control characters but tabs, and in texts of many lines
line feeds. -/
def isForbidden (isLong : Bool) (c : Char) : Bool :=
  (c.toNat < 32 || c.toNat == 127) && c != '\t' && !(isLong && c == '\n')

/-- Refuses a forbidden character among the first `count` of a text. -/
def allowed (isLong : Bool) (count : Nat) (text : List Char) : Except Stop Unit :=
  match (text.take count).findIdx? (isForbidden isLong) with
  | some place => refuse ("Found invalid character " ++ shown (text.getD place ' ')) (text.drop place)
  | none => .ok ()

/-- A text without a comment at its front. The line feed after the comment stays. -/
def skipComment (text : List Char) : Except Stop (List Char) :=
  match text with
  | '#' :: rest => do
    let size := (rest.takeWhile (· != '\n')).length
    allowed false size rest
    return rest.drop size
  | _ => .ok text

/-- A text without blanks, line feeds and comments at its front. -/
def skipLines (fuel : Nat) (text : List Char) : Except Stop (List Char) :=
  match fuel with
  | 0 => .ok text
  | fuel + 1 =>
    match text.dropWhile isGapOrLineFeed with
    | '#' :: rest => do skipLines fuel (← skipComment ('#' :: rest))
    | rest => .ok rest

/-! ## Texts and keys -/

/-- The character with the code that the first digits of a text give. -/
def codeChar (size : Nat) (text : List Char) : Except Stop (List Char × List Char) :=
  match (text.take size).mapM hexDigit? with
  | none => refuse "Invalid hex value" text
  | some digits =>
    if digits.length < size then refuse "Invalid hex value" text
    else
      let code := digits.foldl (fun n digit => n * 16 + digit) 0
      if Nat.isValidChar code then .ok ([Char.ofNat code], text.drop size)
      else refuse "Escaped character is not a Unicode scalar value" (text.drop size)

/-- What a text behind a backslash begins with stands for. In a text of many lines a backslash at the end of a line takes the
blanks after it away. -/
def escape (isLong : Bool) (text : List Char) : Except Stop (List Char × List Char) :=
  match text with
  | [] => bare []
  | 'u' :: rest => codeChar 4 rest
  | 'U' :: rest => codeChar 8 rest
  | c :: rest =>
    if isLong && c == '\n' then .ok ([], rest.dropWhile isGapOrLineFeed)
    else if isLong && isGap c then
      match skipGap rest with
      | [] => .ok ([], [])
      | '\n' :: beyond => .ok ([], beyond.dropWhile isGapOrLineFeed)
      | other => bare other
    else
      match if c == '/' then none else shortEscape? c with
      | some escaped => .ok ([escaped], rest)
      | none => bare rest
where
  bare (rest : List Char) : Except Stop (List Char × List Char) :=
    refuse "Unescaped '\\' in a string" rest

/-- The rest of a text with escapes, what was read so far given last character first. In a text of many lines the closing quotes
stand three in a row. -/
def escapedText (fuel : Nat) (isLong : Bool) (done text : List Char) : Except Stop (List Char × List Char) :=
  match fuel, text with
  | 0, _ | _, [] => refuse "Unterminated string" []
  | fuel + 1, '"' :: rest =>
    if !isLong then .ok (done.reverse, rest)
    else if startsWith rest "\"\"" then .ok (done.reverse, rest.drop 2)
    else escapedText fuel isLong ('"' :: done) rest
  | fuel + 1, '\\' :: rest => do
    let (escaped, rest) ← escape isLong rest
    escapedText fuel isLong (escaped ++ done) rest
  | fuel + 1, c :: rest =>
    if isForbidden isLong c then refuse ("Illegal character " ++ shown c) (c :: rest)
    else escapedText fuel isLong (c :: done) rest

/-- The rest of a text without escapes. -/
def plainText (isLong : Bool) (text : List Char) : Except Stop (List Char × List Char) :=
  let closing := List.replicate (if isLong then 3 else 1) singleQuote
  match indexOf? closing text with
  | none => refuse ("Expected " ++ quote (String.ofList closing)) []
  | some size => do
    allowed isLong size text
    return (text.take size, text.drop (size + closing.length))

/-- The rest of a text up to the closing quotes, of which there are as many as there were opening ones. -/
def textRest (mark : Char) (isLong : Bool) (text : List Char) : Except Stop (List Char × List Char) :=
  if mark == singleQuote then plainText isLong text else escapedText (text.length + 1) isLong [] text

/-- The text of many lines behind three quotes. A line feed right behind them does not count, and up to two more quotes at the end
do. -/
def longText (mark : Char) (text : List Char) : Except Stop (List Char × List Char) := do
  let (body, rest) ← textRest mark true (dropFront ['\n'] text)
  let extra := (rest.takeWhile (· == mark)).take 2
  return (body ++ extra, rest.drop extra.length)

def isQuote (c : Char) : Bool :=
  c == '"' || c == singleQuote

/-- The characters of keys without quotes. -/
def isBare (c : Char) : Bool :=
  c.isAlphanum || c == '_' || c == '-'

def keyPart (text : List Char) : Except Stop (String × List Char) :=
  match text with
  | c :: rest =>
    if isBare c then .ok (String.ofList (text.takeWhile isBare), text.dropWhile isBare)
    else if isQuote c then do
      let (name, rest) ← textRest c false rest
      return (String.ofList name, rest)
    else refuse "Invalid initial character for a key part" text
  | [] => refuse "Invalid initial character for a key part" []

/-- The names of tables in one another and of a field in the last of them. -/
abbrev Key := List String

/-- A key: parts joined by dots. Blanks after it are skipped. -/
def key (fuel : Nat) (text : List Char) : Except Stop (Key × List Char) :=
  match fuel with
  | 0 => refuse "Invalid initial character for a key part" text
  | fuel + 1 => do
    let (part, rest) ← keyPart text
    match skipGap rest with
    | '.' :: beyond =>
      let (parts, rest) ← key fuel (skipGap beyond)
      return (part :: parts, rest)
    | rest => return ([part], rest)

/-- A key as messages show it. -/
def keyText : Key → String
  | [part] => "(" ++ quote part ++ ",)"
  | parts => "(" ++ ", ".intercalate (parts.map quote) ++ ")"

/-! ## Numbers -/

/-- The digits that follow one, single underscores between them allowed, what was read so far given last digit first. -/
def digitsFrom (isDigit : Char → Bool) (done : List Char) : List Char → List Char × List Char
  | '_' :: c :: rest =>
    if isDigit c then digitsFrom isDigit (c :: done) rest else (done.reverse, '_' :: c :: rest)
  | c :: rest => if isDigit c then digitsFrom isDigit (c :: done) rest else (done.reverse, c :: rest)
  | [] => (done.reverse, [])

/-- The digits at the front of a text, which need not be there. -/
def digits (isDigit : Char → Bool) (text : List Char) : List Char × List Char :=
  match text with
  | c :: rest => if isDigit c then digitsFrom isDigit [c] rest else ([], text)
  | [] => ([], [])

/-- The base that a letter behind a zero stands for. -/
def base? : Char → Option Nat
  | 'x' => some 16
  | 'o' => some 8
  | 'b' => some 2
  | _ => none

/-- A whole number in another base, with any number of digits. -/
def based? (text : List Char) : Option (Value × List Char) :=
  match text with
  | '0' :: letter :: rest => do
    let base ← base? letter
    let (shown, rest) := digits (fun c => (hexDigit? c).any (· < base)) rest
    if shown.isEmpty then none
    else some (.int (shown.foldl (fun n c => n * base + (hexDigit? c).getD 0) 0 : Nat), rest)
  | _ => none

def sign (text : List Char) : Bool × List Char :=
  match text with
  | '-' :: rest => (true, rest)
  | '+' :: rest => (false, rest)
  | _ => (false, text)

/-- The digits of a fraction. -/
def decimals (text : List Char) : List Char × List Char :=
  match text with
  | '.' :: rest =>
    let (shown, beyond) := digits Char.isDigit rest
    if shown.isEmpty then ([], text) else (shown, beyond)
  | _ => ([], text)

/-- The power of ten behind an `e`. -/
def power (text : List Char) : Option Int × List Char :=
  match text with
  | c :: rest =>
    let (isNegative, rest) := sign rest
    let (shown, beyond) := digits Char.isDigit rest
    if (c == 'e' || c == 'E') && !shown.isEmpty then
      let size : Int := digitsValue shown
      (some (if isNegative then -size else size), beyond)
    else (none, text)
  | [] => (none, [])

/-- A decimal number. A whole number has no more digits than are read. -/
def decimal? (text : List Char) : Option (Except Stop (Value × List Char)) :=
  let (isNegative, text) := sign text
  let (whole, rest) := match text with
    | '0' :: rest => (['0'], rest)
    | text => digits Char.isDigit text
  if whole.isEmpty then none
  else
    let (fraction, rest) := decimals rest
    let (exponent, rest) := power rest
    if fraction.isEmpty && exponent.isNone then
      if digitLimit < whole.length then some (.error (.overfull .digits))
      else
        let n : Int := digitsValue whole
        some (.ok (.int (if isNegative then -n else n), rest))
    else
      let shift : Int := exponent.getD 0 - fraction.length
      some (.ok (.float (Decimal.nearest isNegative (digitsValue (whole ++ fraction)) shift), rest))

/-- The values that are words. -/
def words : List (String × Value) :=
  let infinity : Float := 1.0 / 0.0
  let nan : Float := 0.0 / 0.0
  [("inf", .float infinity), ("nan", .float nan), ("-inf", .float (-infinity)), ("+inf", .float infinity),
    ("-nan", .float nan), ("+nan", .float nan)]

/-! ## Dates and times -/

/-- A number of exactly `size` digits. -/
def fixed? (size : Nat) (text : List Char) : Option (Nat × List Char) :=
  let shown := text.take size
  if shown.length = size && shown.all Char.isDigit then some (digitsValue shown, text.drop size) else none

/-- Two digits that give a number below a bound. -/
def below? (bound : Nat) (text : List Char) : Option (Fin bound × List Char) := do
  let (n, rest) ← fixed? 2 text
  if inside : n < bound then some (⟨n, inside⟩, rest) else none

/-- Year, month and day. The day may be one that the month does not have. -/
def day? (text : List Char) : Option ((Nat × Nat × Nat) × List Char) := do
  let (year, rest) ← fixed? 4 text
  let (month, rest) ← fixed? 2 (← dropFront? ['-'] rest)
  let (day, rest) ← fixed? 2 (← dropFront? ['-'] rest)
  if 1 ≤ month && month ≤ 12 && 1 ≤ day && day ≤ 31 then some ((year, month, day), rest) else none

def date? (year month day : Nat) : Option Date :=
  if inYear : 1 ≤ year ∧ year ≤ 9999 then
    if inMonth : 1 ≤ month ∧ month ≤ 12 then
      if inDays : 1 ≤ day ∧ day ≤ Date.daysIn year month then some ⟨year, month, day, inYear, inMonth, inDays⟩
      else none
    else none
  else none

/-- The fraction of a second. Digits after the sixth do not count. -/
def microsecond (text : List Char) : Fin 1000000 × List Char :=
  match text with
  | '.' :: rest =>
    let shown := rest.takeWhile Char.isDigit
    if shown.isEmpty then (0, text)
    else
      let micros := digitsValue ((shown ++ List.replicate 6 '0').take 6)
      (Fin.ofNat 1000000 micros, rest.dropWhile Char.isDigit)
  | _ => (0, text)

def time? (text : List Char) : Option (TimeOfDay × List Char) := do
  let (hour, rest) ← below? 24 text
  let (minute, rest) ← below? 60 (← dropFront? [':'] rest)
  let (second, rest) ← below? 60 (← dropFront? [':'] rest)
  let (microsecond, rest) := microsecond rest
  return (⟨hour, minute, second, microsecond⟩, rest)

/-- An offset in hours and minutes. -/
def offset? (text : List Char) : Option (Offset × List Char) :=
  match text with
  | 'Z' :: rest | 'z' :: rest => some (⟨0, by decide⟩, rest)
  | '+' :: rest => ahead rest
  | '-' :: rest => (ahead rest).map fun (offset, rest) => (⟨-offset.minutes, by have := offset.withinDay; omega⟩, rest)
  | _ => none
where
  ahead (text : List Char) : Option (Offset × List Char) := do
    let (hours, rest) ← below? 24 text
    let (minutes, rest) ← below? 60 (← dropFront? [':'] rest)
    return (⟨hours * 60 + minutes, by omega⟩, rest)

/-- What may follow a date: a time of day, perhaps with an offset. -/
def clock? (text : List Char) : Option ((TimeOfDay × Option Offset) × List Char) :=
  match text with
  | c :: rest =>
    if c == 'T' || c == 't' || c == ' ' then do
      let (time, rest) ← time? rest
      match offset? rest with
      | some (offset, rest) => return ((time, some offset), rest)
      | none => return ((time, none), rest)
    else none
  | [] => none

def moment? (text : List Char) : Option (Except Stop (Value × List Char)) :=
  match day? text with
  | some ((year, month, day), rest) =>
    match date? year month day, clock? rest with
    | none, _ => some (refuse "Invalid date or datetime" text)
    | some date, some ((time, offset), rest) => some (.ok (.moment (.dateTime date time offset), rest))
    | some date, none => some (.ok (.moment (.date date), rest))
  | none => (time? text).map fun (time, rest) => .ok (.moment (.time time), rest)

end DeclIndex.Toml
