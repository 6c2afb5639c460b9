import DeclIndex.Settings
import DeclIndex.Toml.Token

/-!
# Settings files

A file is read into a table, statement by statement: keys with their values and headings of tables. What is wrong in a file that
cannot be read is told with its place.
-/

namespace DeclIndex.Toml
open DeclIndex.Text Settings

/-! ## Tables -/

/-- Why something cannot be put under a key. -/
def taken : String := "Cannot overwrite a value"

/-- Changes the table under a key. Tables on the way are made where there are none, and an array stands for its last table. -/
def within (throughArrays : Bool) (change : Fields → Except String Fields) : Key → Fields → Except String Fields
  | [], fields => change fields
  | name :: path, fields =>
    match valueAt? name fields with
    | none => do return fields ++ [(name, .obj (← within throughArrays change path []))]
    | some (.obj inner) => do return putEntry name (.obj (← within throughArrays change path inner)) fields
    | some (.arr items) =>
      match items.getLast? with
      | some (.obj inner) =>
        if throughArrays then do
          let inner ← within throughArrays change path inner
          return putEntry name (.arr (items.dropLast ++ [.obj inner])) fields
        else .error taken
      | _ => .error taken
    | some _ => .error taken

/-- Puts a value under a key, unless there is one. -/
def put (throughArrays : Bool) (isTaken : String → String) (value : Value) (key : Key) (fields : Fields) : Except String Fields :=
  let name := key.getLastD ""
  within throughArrays (fun inner =>
    if (valueAt? name inner).isSome then .error (isTaken name) else .ok (inner ++ [(name, value)])) key.dropLast fields

/-- Adds a table to the array under a key. -/
def append (key : Key) (fields : Fields) : Except String Fields :=
  let name := key.getLastD ""
  within true (fun inner =>
    match valueAt? name inner with
    | none => .ok (inner ++ [(name, .arr [.obj []])])
    | some (.arr items) => .ok (putEntry name (.arr (items ++ [.obj []])) inner)
    | some _ => .error taken) key.dropLast fields

/-! ## Values -/

def isNested : Value → Bool
  | .arr _ | .obj _ => true
  | _ => false

/-- A value that is neither an array nor a table. -/
def scalar (text : List Char) : Except Stop (Value × List Char) :=
  match text with
  | [] => refuse "Invalid value" []
  | c :: rest =>
    if isQuote c then do
      let (shown, rest) ←
        if [c, c].isPrefixOf rest then longText c (rest.drop 2) else textRest c false rest
      return (.str (String.ofList shown), rest)
    else if startsWith text "true" then .ok (.bool true, text.drop 4)
    else if startsWith text "false" then .ok (.bool false, text.drop 5)
    else
      match moment? text, based? text, decimal? text with
      | some found, _, _ => found
      | none, some found, _ => .ok found
      | none, none, some found => found
      | none, none, none =>
        match words.find? fun (word, _) => startsWith text word with
        | some (word, value) => .ok (value, text.drop word.length)
        | none => refuse "Invalid value" text

mutual

/-- The value at the front of a text, with at most `depth` arrays and tables around one another. -/
def value (fuel depth : Nat) (text : List Char) : Except Stop (Value × List Char) :=
  match fuel, depth, text with
  | 0, _, _ => refuse "Invalid value" text
  | _, 0, '[' :: _ | _, 0, '{' :: _ => .error (.overfull .nesting)
  | fuel + 1, depth + 1, '[' :: rest => do
    let (found, rest) ← items fuel depth [] (← skipLines (rest.length + 1) rest)
    return (.arr found, rest)
  | fuel + 1, depth + 1, '{' :: rest =>
    match skipGap rest with
    | '}' :: beyond => .ok (.obj [], beyond)
    | rest => do
      let (found, rest) ← inline fuel depth [] [] rest
      return (.obj found, rest)
  | _, _, text => scalar text

/-- The rest of an array, what was read so far given last item first. -/
def items (fuel depth : Nat) (done : List Value) (text : List Char) : Except Stop (List Value × List Char) :=
  match fuel, text with
  | 0, _ => refuse "Unclosed array" text
  | _, ']' :: rest => .ok (done.reverse, rest)
  | fuel + 1, text => do
    let (item, rest) ← value fuel depth text
    match ← skipLines (rest.length + 1) rest with
    | ']' :: beyond => return ((item :: done).reverse, beyond)
    | ',' :: beyond => items fuel depth (item :: done) (← skipLines (beyond.length + 1) beyond)
    | other => refuse "Unclosed array" other

/-- The rest of a table on one line, what was read so far given with the keys whose values can have no more fields. -/
def inline (fuel depth : Nat) (done : Fields) (frozen : List Key) (text : List Char) : Except Stop (Fields × List Char) :=
  match fuel with
  | 0 => refuse "Unclosed inline table" text
  | fuel + 1 => do
    let (path, found, rest) ← pair fuel depth text
    if frozen.any (·.isPrefixOf path) then refuse ("Cannot mutate immutable namespace " ++ keyText path) rest
    match put false (fun name => "Duplicate inline table key " ++ quote name) found path done with
    | .error cause => refuse cause rest
    | .ok fields =>
      match skipGap rest with
      | '}' :: beyond => return (fields, beyond)
      | ',' :: beyond => inline fuel depth fields (if isNested found then path :: frozen else frozen) (skipGap beyond)
      | other => refuse "Unclosed inline table" other

/-- A key with its value. -/
def pair (fuel depth : Nat) (text : List Char) : Except Stop (Key × Value × List Char) :=
  match fuel with
  | 0 => refuse "Invalid value" text
  | fuel + 1 => do
    let (path, rest) ← key (text.length + 1) text
    match rest with
    | '=' :: beyond =>
      let (found, rest) ← value fuel depth (skipGap beyond)
      return (path, found, rest)
    | other => refuse "Expected '=' after a key in a key/value pair" other

end

/-! ## Files -/

/-- What was read of a file. -/
structure Document where
  fields : Fields := []
  /-- The table that keys are put into. -/
  table : Key := []
  /-- The tables that can have no further heading. -/
  headed : List Key := []
  /-- The tables that dots in keys made since the last heading. -/
  dotted : List Key := []
  /-- The arrays and tables that were given as a whole. Nothing below them can be changed. -/
  frozen : List Key := []

namespace Document

def isFrozen (document : Document) (key : Key) : Bool :=
  document.frozen.any (·.isPrefixOf key)

/-- Reads a heading of a table, from behind its bracket on. -/
def tableHeading (document : Document) (text : List Char) : Except Stop (Document × List Char) := do
  let text := skipGap text
  let (path, rest) ← key (text.length + 1) text
  if document.headed.contains path || document.isFrozen path then
    refuse ("Cannot declare " ++ keyText path ++ " twice") rest
  match within true .ok path document.fields with
  | .error cause => refuse cause rest
  | .ok fields =>
    match rest with
    | ']' :: beyond => return ({ document with fields, table := path, headed := path :: document.headed }, beyond)
    | other => refuse "Expected ']' at the end of a table declaration" other

/-- Reads a heading of one more table in an array, from behind its brackets on. What was below the array is below another table
now. -/
def arrayHeading (document : Document) (text : List Char) : Except Stop (Document × List Char) := do
  let text := skipGap text
  let (path, rest) ← key (text.length + 1) text
  if document.isFrozen path then
    refuse ("Cannot mutate immutable namespace " ++ keyText path) rest
  match append path document.fields with
  | .error cause => refuse cause rest
  | .ok fields =>
    match rest with
    | ']' :: ']' :: beyond =>
      let others (keys : List Key) := keys.filter fun other => !path.isPrefixOf other
      let document := { document with
        fields, table := path, headed := path :: others document.headed, frozen := others document.frozen }
      return (document, beyond)
    | other => refuse "Expected ']]' at the end of an array declaration" other

/-- Reads a key with its value. -/
def assignment (depth : Nat) (document : Document) (text : List Char) : Except Stop (Document × List Char) := do
  let (path, found, rest) ← pair (2 * text.length + 2) depth text
  let parents := (List.range path.length).tail.map fun size => document.table ++ path.take size
  match parents.find? document.headed.contains with
  | some parent => refuse ("Cannot redefine namespace " ++ keyText parent) rest
  | none =>
    let whole := document.table ++ path
    if document.isFrozen whole.dropLast then
      refuse ("Cannot mutate immutable namespace " ++ keyText whole.dropLast) rest
    match put true (fun _ => taken) found whole document.fields with
    | .error cause => refuse cause rest
    | .ok fields =>
      let frozen := if isNested found then whole :: document.frozen else document.frozen
      return ({ document with fields, frozen, dotted := parents ++ document.dotted }, rest)

/-- Reads one statement. At a heading the tables that dots made are closed. -/
def statement (depth : Nat) (document : Document) (text : List Char) : Except Stop (Document × List Char) :=
  let closed := { document with headed := document.dotted ++ document.headed, dotted := [] }
  match text with
  | '[' :: '[' :: rest => closed.arrayHeading rest
  | '[' :: rest => closed.tableHeading rest
  | '#' :: _ => .ok (document, text)
  | c :: _ => if isBare c || isQuote c then assignment depth document text else refuse "Invalid statement" text
  | [] => .ok (document, [])

/-- Reads a file to its end. -/
def readFrom (fuel depth : Nat) (document : Document) (text : List Char) : Except Stop Document :=
  match fuel, skipGap text with
  | 0, _ | _, [] => .ok document
  | fuel + 1, '\n' :: rest => readFrom fuel depth document rest
  | fuel + 1, text => do
    let (document, rest) ← statement depth document text
    match ← skipComment (skipGap rest) with
    | [] => return document
    | '\n' :: beyond => readFrom fuel depth document beyond
    | other => refuse "Expected newline or end of document after a statement" other

end Document

/-- The place in a text where `rest` is left. -/
def place (text rest : List Char) : String :=
  if rest.isEmpty then "end of document"
  else
    let before := text.take (text.length - rest.length)
    let column := (before.reverse.takeWhile (· != '\n')).length + 1
    "line " ++ toString (before.count '\n' + 1) ++ ", column " ++ toString column

/-- What the text of a settings file is read as, with at most `depth` arrays and tables around one another. Lines end with line
feeds. -/
def parse (depth : Nat) (text : String) : Reading :=
  let chars := text.toList
  match Document.readFrom (chars.length + 1) depth {} chars with
  | .ok document => .table document.fields
  | .error (.invalid cause rest) => .invalid (cause ++ " (at " ++ place chars rest ++ ")")
  | .error (.overfull excess) => .overfull excess

end DeclIndex.Toml
