import DeclIndex.Text.Blank

/-!
# Lines

A file is the list of its lines, cut at line feeds only. The documentation of a declaration is a
group of lines whose common margin is removed.
-/

namespace DeclIndex.Text

/-- The lines of a text. There is always at least one. -/
def lines (text : List Char) : List (List Char) :=
  text.splitOn '\n'

/-- Lines put back together with a line feed between neighbours. -/
def unlines (group : List (List Char)) : List Char :=
  ['\n'].intercalate group

/-- Spaces and tabs make up a margin. -/
def isMargin (c : Char) : Bool :=
  c == ' ' || c == '\t'

/-- The longest text that both begin with. -/
def commonFront : List Char → List Char → List Char
  | a :: as, b :: bs => if a = b then a :: commonFront as bs else []
  | _, _ => []

/-- The margin that all lines with something besides spaces and tabs share. -/
def margin (group : List (List Char)) : List Char :=
  match (group.filter (·.any (!isMargin ·))).map (·.takeWhile isMargin) with
  | [] => []
  | first :: others => others.foldl commonFront first

/-- Lines without their shared margin; a line of spaces and tabs only becomes empty. -/
def dedent (group : List (List Char)) : List (List Char) :=
  let width := (margin group).length
  group.map fun line => if line.all isMargin then [] else line.drop width

/-- A text without the line feeds at either end. -/
def stripLineFeeds (text : List Char) : List Char :=
  ((text.dropWhile (· == '\n')).reverse.dropWhile (· == '\n')).reverse

end DeclIndex.Text
