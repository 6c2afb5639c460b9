import DeclIndex.Aiken.Parameters
import DeclIndex.Text.Lines

/-!
# Functions in Aiken files

A function is read from its head line, the lines above it (documentation) and the lines below it (the rest
of the signature, the body, the tests).
-/

namespace DeclIndex.Aiken
open DeclIndex.Text

/-! ## Signature -/

/-- How many lines below must be read until a line has the character, counting from the line at hand. All of
them are read when no line has it. -/
def linesTo (sought : Char) (line : List Char) : List (List Char) → Nat
  | [] => 0
  | next :: below => if line.contains sought then 0 else linesTo sought next below + 1

/-- How many lines below the head line belong to the signature. A head that shows its closing parenthesis and
either a brace or an arrow is complete. Otherwise the signature runs to the first line with a closing
parenthesis and from there to the first with an opening brace. -/
def signatureLength (line : List Char) (below : List (List Char)) : Nat :=
  let head := trim line
  if head.contains ')' && (head.contains '{' || occurs ['-', '>'] head) then 0
  else
    let toParen := linesTo ')' line below
    match (line :: below).drop toParen with
    | last :: beyond => toParen + linesTo '{' last beyond
    | [] => toParen

/-- The lines of a signature on one line, each trimmed, blank ones left out. -/
def signature (group : List (List Char)) : List Char :=
  trim ([' '].intercalate ((group.map trim).filter (!·.isEmpty)))

/-- The type after the arrow behind the parameter list, up to the body; empty if there is none. -/
def returnTypeAfter (text : List Char) : List Char :=
  match dropFront? ['-', '>'] (trimLeft text) with
  | some type => trim (type.takeWhile (· != '{'))
  | none => []

/-- A text, or another one in its place if it is empty. -/
def orElse (text : List Char) (other : String) : String :=
  if text.isEmpty then other else String.ofList text

/-! ## Documentation -/

/-- The documentation lines nearest first, for the lines above a head nearest first. Blank lines are
passed over; a module comment or anything else ends the block. -/
def docLines : List (List Char) → List (List Char)
  | [] => []
  | line :: above =>
    let text := trim line
    if startsWith text "////" then []
    else
      match dropFront? "///".toList text with
      | some doc => trimRight doc :: docLines above
      | none => if text.isEmpty then docLines above else []

/-- The documentation block above a head. -/
def documentation? (above : List (List Char)) : Option String :=
  match docLines above with
  | [] => none
  | nearest => some (String.ofList (stripLineFeeds (unlines (dedent nearest.reverse))))

/-! ## Tests -/

/-- Whether a trimmed line is the head of a test whose name contains the name of a function, in any case.
Names are ASCII. -/
def isTestOf (name line : List Char) : Bool :=
  match testHead? line with
  | some test => occurs (name.map Char.toLower) (test.map Char.toLower)
  | none => false

/-- The blocks of the tests of a function among the lines that follow its body, up to the next function. A
test without a closing brace is passed over. -/
def tests (name : List Char) (group : List (List Char)) : List (List (List Char)) :=
  match group with
  | [] => []
  | line :: below =>
    match if isTestOf name (trim line) then Bracket.blockEnd? (line :: below) else none with
    | some last => (line :: below).take (last + 1) :: tests name (below.drop last)
    | none => if (functionHead? (trim line)).isSome then [] else tests name below
termination_by group.length
decreasing_by
  · rw [List.length_drop, List.length_cons]
    omega
  · simp

/-! ## The whole function -/

/-- The function whose head is on `line`, with the lines above it nearest first and the lines below it. -/
def functionAt (source : String) (above : List (List Char)) (head : FunctionHead) (line : List Char)
    (below : List (List Char)) : Function :=
  let text := signature (line :: below.take (signatureLength line below))
  let parens := Bracket.parens? text
  let bodyEnd := Bracket.blockEnd? (line :: below)
  { name := String.ofList head.name
    signature := String.ofList text
    parameters := (parens.map fun p => parameters p.inner).getD []
    returnType := orElse ((parens.map fun p => returnTypeAfter p.after).getD []) "Unknown"
    line := above.length + 1
    raw := String.ofList text
    isPublic := head.isPublic
    source := source
    documentation := documentation? above
    implementation := (Bracket.block? (line :: below)).map fun group => String.ofList (unlines group)
    tests := (tests head.name (below.drop (bodyEnd.getD 0))).map fun group => String.ofList (unlines group) }

end DeclIndex.Aiken
