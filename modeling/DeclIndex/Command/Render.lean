import DeclIndex.Command.Printed
import DeclIndex.Text.Find

/-!
# Plain output

Printed output as plain lines: markup is left out, and the columns of a table are padded to one width.
-/

namespace DeclIndex.Command
open DeclIndex.Text

/-- The styles that markup names. -/
def styles : List String :=
  ["bold", "dim", "cyan", "green", "yellow", "bold red", "bold blue", "bold cyan"]

/-- The markup that begins or ends a style. -/
def tags : List (List Char) :=
  styles.flatMap fun style => [("[" ++ style ++ "]").toList, ("[/" ++ style ++ "]").toList]

/-- A text without markup, after leaving out the first characters of it. -/
def plainFrom (skipped : Nat) : List Char → List Char
  | [] => []
  | c :: rest =>
    match skipped with
    | skipped + 1 => plainFrom skipped rest
    | 0 =>
      match tags.find? (·.isPrefixOf (c :: rest)) with
      | some tag => plainFrom (tag.length - 1) rest
      | none => c :: plainFrom 0 rest

def plain (text : String) : String :=
  String.ofList (plainFrom 0 text.toList)

/-- A text with spaces behind it up to a width. -/
def padded (width : Nat) (text : String) : String :=
  text ++ String.ofList (List.replicate (width - text.length) ' ')

/-- Rows with each column padded to the width of its widest cell. -/
def aligned (rows : List (List String)) : List String :=
  let columns := (rows.map List.length).foldl max 0
  let widths := (List.range columns).map fun column =>
    (rows.map fun row => (row[column]?.getD "").length).foldl max 0
  rows.map fun row => "  ".intercalate ((row.zip widths).map fun (cell, width) => padded width cell)

/-- The lines of a printed thing. -/
def Printed.lines : Printed → List String
  | .line text => [plain text]
  | .panel body title => [plain title, plain body]
  | .table title columns rows => title :: aligned ((columns :: rows).map (·.map plain))

end DeclIndex.Command
