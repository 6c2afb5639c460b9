import DeclIndex.Aiken.Head
import DeclIndex.Bracket
import DeclIndex.Declaration
import DeclIndex.Text.Lines

/-!
# Types and constants in Aiken files

A definition or value that does not fit on its head line goes on below. Each reader here answers with the
text it gathered and with how many lines below the head it read.
-/

namespace DeclIndex.Aiken
open DeclIndex.Text

/-- A text that may have been gathered from more than one line. -/
structure Gathered where
  text : List Char
  /-- How many lines below were read, up to the last one that is part of the text. -/
  length : Nat
deriving DecidableEq

/-- The same text, read from `n` lines further down. -/
def Gathered.shift (n : Nat) (gathered : Gathered) : Gathered :=
  { gathered with length := gathered.length + n }

/-- Appends lines as long as `wants` asks for the next one. Blank lines are passed over, and a head of any kind
ends the text. -/
def gather (wants : List Char → List Char → Bool) (text : List Char) : List (List Char) → Gathered
  | [] => ⟨text, 0⟩
  | line :: below =>
    let next := trim line
    if next.isEmpty then
      let more := gather wants text below
      if more.length = 0 then more else more.shift 1
    else if !isHead next && wants text next then (gather wants (text ++ ' ' :: next) below).shift 1
    else ⟨text, 0⟩

/-- The rest of an alias: further alternatives, and whatever open brackets ask for. -/
def gatherAlias : List Char → List (List Char) → Gathered :=
  gather fun text next => startsWith next "|" || Bracket.hasOpen text

/-- The rest of a braced body, from `depth` open braces on. Every line is read until the braces balance, a head
begins or the file ends. -/
def gatherBraced (depth : Int) (text : List Char) : List (List Char) → Gathered
  | [] => ⟨text, 0⟩
  | line :: below =>
    let next := trim line
    if depth ≤ 0 || isHead next then ⟨text, 0⟩
    else if next.isEmpty then (gatherBraced depth text below).shift 1
    else
      (gatherBraced (depth + tally '{' next - tally '}' next) (text ++ ' ' :: next) below).shift 1

/-- A body that begins with an opening brace. -/
def gatherBody (text : List Char) : List (List Char) → Gathered :=
  gatherBraced (tally '{' text - tally '}' text) text

/-- The next line that is neither blank nor a comment, trimmed, with how many lines precede it and the lines
below it. -/
def nextContent? : List (List Char) → Option (Nat × List Char × List (List Char))
  | [] => none
  | line :: below =>
    let text := trim line
    if text.isEmpty || isComment text then
      (nextContent? below).map fun (passed, found) => (passed + 1, found)
    else some (0, text, below)

/-- The next line with content, unless it is a head. -/
def nextPlain? (below : List (List Char)) : Option (Nat × List Char × List (List Char)) :=
  (nextContent? below).filter fun (_, text, _) => !isHead text

/-- The definition that a head of a type and the lines below it give. -/
def typeDefinition (body : List Char) (below : List (List Char)) : Gathered :=
  match body with
  | '=' :: rest =>
    match trim rest, nextPlain? below with
    | [], some (passed, text, beyond) => (gatherAlias text beyond).shift (passed + 1)
    | text, _ => gatherAlias text below
  | '{' :: _ => gatherBody body below
  | _ =>
    match nextPlain? below with
    | some (passed, text, beyond) =>
      match text with
      | '{' :: _ => (gatherBody text beyond).shift (passed + 1)
      | '=' :: rest => (gatherAlias (trim rest) beyond).shift (passed + 1)
      | '|' :: _ => (gatherAlias text beyond).shift (passed + 1)
      | _ => ⟨[], 0⟩
    | none => ⟨[], 0⟩

/-- A definition on one line, marked if the type is opaque. -/
def definitionText (isOpaque : Bool) (text : List Char) : List Char :=
  let flat := normalize text
  if isOpaque && !startsWith flat "opaque" then "opaque ".toList ++ flat else flat

/-- The type whose head is on the line with index `index`, and how many lines below belong to it. There is none
if its definition is empty. -/
def typeAt? (source : String) (index : Nat) (head : TypeHead) (line : List Char)
    (below : List (List Char)) : Option (TypeDef × Nat) :=
  let found := typeDefinition (trim head.body) below
  if (normalize found.text).isEmpty then none
  else
    some
      ({ name := String.ofList head.name
         definition := String.ofList (definitionText head.isOpaque found.text)
         line := index + 1
         raw := String.ofList (trim line)
         isPublic := head.isPublic
         source := source },
       found.length)

/-- Whether a value names a member of a module. -/
def isQualified (value : List Char) : Bool :=
  match alphabet.ident? value with
  | some (_, '.' :: _) => true
  | _ => false

/-- The constant whose head is on the line with index `index`, and how many lines below belong to it. In a package
that re-exports, a public constant with a qualified value is a re-export. -/
def constantAt (reExports : Bool) (source : String) (index : Nat) (head : ConstantHead)
    (line : List Char) (below : List (List Char)) : Constant × Nat :=
  let found := gather (fun text _ => Bracket.hasOpen text) head.value below
  ({ name := String.ofList head.name
     type := if head.type.isEmpty then "Unknown" else String.ofList head.type
     value := String.ofList found.text
     line := index + 1
     raw := String.ofList (trim line)
     isPublic := head.isPublic
     source := source
     isReExport := reExports && head.isPublic && isQualified found.text },
   found.length)

end DeclIndex.Aiken
