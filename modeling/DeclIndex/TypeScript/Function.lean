import DeclIndex.Text.Lines
import DeclIndex.TypeScript.Parameters

/-!
# Functions and types in TypeScript files
-/

namespace DeclIndex.TypeScript
open DeclIndex.Text

/-- The type behind the parameter list, up to the body or the arrow; empty if there is none. -/
def returnTypeAfter (text : List Char) : List Char :=
  match trimLeft text with
  | ':' :: type => trim (type.takeWhile fun c => c != '{' && c != '=')
  | _ => []

/-- One line of a documentation comment without its markers. -/
def withoutMarkers (line : List Char) : List Char :=
  let text := dropBack ['*', '/'] (dropFront ['/', '*', '*'] (trim line))
  trimRight (match text with
    | '*' :: rest => rest
    | _ => text)

/-- The lines from the nearest one that opens a documentation comment down to the first, for lines nearest
first. -/
def commentUp? : List (List Char) → Option (List (List Char))
  | [] => none
  | line :: above =>
    if startsWith (trim line) "/**" then some [line]
    else (commentUp? above).map (· ++ [line])

/-- The documentation comment that ends on the line right above a head, for the lines above nearest first. -/
def documentation? : List (List Char) → Option String
  | [] => none
  | last :: above =>
    if endsWith (trim last) "*/" then
      match commentUp? (last :: above) with
      | some group =>
        let text := trim (unlines (dedent (group.map withoutMarkers)))
        if text.isEmpty then none else some (String.ofList text)
      | none => none
    else none

/-- The lines of a function. One that ends its line with a semicolon and has no brace is that line alone. -/
def implementation? (line : List Char) (below : List (List Char)) : Option (List (List Char)) :=
  if !(trim line).contains '{' && endsWith (trim line) ";" then some [line]
  else Bracket.block? (line :: below)

/-- The function whose head is on `line`, with the lines above it nearest first and the lines below it. -/
def functionAt (source : String) (exported : List String) (above : List (List Char)) (name : List Char)
    (line : List Char) (below : List (List Char)) : Function :=
  let text := trim line
  let parens := Bracket.parens? text
  let result := (parens.map fun p => returnTypeAfter p.after).getD []
  { name := String.ofList name
    signature := String.ofList text
    parameters := (parens.map fun p => parameters p.inner).getD []
    returnType := if result.isEmpty then "any" else String.ofList result
    line := above.length + 1
    raw := String.ofList text
    isPublic := exported.contains (String.ofList name)
    source := source
    documentation := documentation? above
    implementation := (implementation? line below).map fun group => String.ofList (unlines group) }

/-- Brackets opened less brackets closed. -/
def excess (text : List Char) : Int :=
  tally '{' text + tally '(' text + tally '[' text - (tally '}' text + tally ')' text + tally ']' text)

/-- The next line that is not blank, trimmed; empty if there is none. -/
def nextText : List (List Char) → List Char
  | [] => []
  | line :: below => if (trim line).isEmpty then nextText below else trim line

/-- Whether a union or intersection goes on below a line. -/
def goesOn (line : List Char) (below : List (List Char)) : Bool :=
  ["=", "|", "&"].any (endsWith (trim line)) || ["|", "&"].any (startsWith (nextText below))

/-- How many lines a type takes, from `depth` open brackets on: up to the first line at which all brackets are
closed and no union or intersection goes on, or all lines if there is none. -/
def typeLength (depth : Int) : List (List Char) → Nat
  | [] => 0
  | line :: below =>
    let deeper := depth + excess (trimRight line)
    if deeper > 0 || goesOn line below then typeLength deeper below + 1 else 1

/-- The type whose head is on the first of some lines, and how many lines below the first belong to it. -/
def typeAt (source : String) (exported : List String) (index : Nat) (head : TypeHead)
    (line : List Char) (below : List (List Char)) : TypeDef × Nat :=
  let length := typeLength 0 (line :: below)
  ({ name := String.ofList (head.name ++ head.generics)
     definition := String.ofList (trim (unlines (((line :: below).take length).map trimRight)))
     line := index + 1
     raw := String.ofList (trim line)
     isPublic := exported.contains (String.ofList head.name)
     source := source },
   length - 1)

end DeclIndex.TypeScript
