import DeclIndex.Text.Blank
import DeclIndex.Text.Find

/-!
# Brackets

Bodies and parameter lists are found by counting brackets, character by character. Nothing here knows
a grammar: strings and comments count like any other text, except in `hasOpen`, which leaves out
quoted literals.
-/

namespace DeclIndex.Bracket
open DeclIndex.Text

/-! ## Blocks of lines -/

/-- How far into a block of braces a reader is. -/
structure Depth where
  level : Int := 0
  opened : Bool := false

/-- Reads one line. `none` means that the line closes the block. -/
def Depth.read? (depth : Depth) : List Char → Option Depth
  | [] => some depth
  | c :: rest =>
    if c = '{' then Depth.read? ⟨depth.level + 1, true⟩ rest
    else if c = '}' then
      if depth.opened && depth.level == 1 then none
      else Depth.read? ⟨depth.level - 1, depth.opened⟩ rest
    else depth.read? rest

/-- How many lines precede the one that closes the block, for a block that has begun. -/
def closingLine? (depth : Depth) : List (List Char) → Option Nat
  | [] => none
  | line :: below =>
    match depth.read? line with
    | none => some 0
    | some deeper => (closingLine? deeper below).map (· + 1)

/-- The index of the line that closes the first brace of some lines: the first closing brace, after
some opening one, at which as many braces have been closed as opened. -/
def blockEnd? (group : List (List Char)) : Option Nat :=
  closingLine? {} group

/-- The lines up to the end of the block that begins in them. -/
def block? (group : List (List Char)) : Option (List (List Char)) :=
  (blockEnd? group).map fun last => group.take (last + 1)

/-! ## Open brackets -/

/-- What follows the closing quote of a literal, for a text that begins inside the literal. A backslash
takes the next character with it, which may be anything but a line feed. -/
def afterLiteral? : List Char → Option (List Char)
  | [] => none
  | '"' :: rest => some rest
  | '\\' :: c :: rest => if c = '\n' then none else afterLiteral? rest
  | c :: rest => if c = '\\' then none else afterLiteral? rest

theorem length_lt_of_afterLiteral? {text rest : List Char} (closed : afterLiteral? text = some rest) :
    rest.length < text.length := by
  fun_induction afterLiteral? text with
  | case1 => simp at closed
  | case2 => simp_all
  | case3 => simp at closed
  | case4 _ _ _ ih => have := ih closed; simp; omega
  | case5 => simp at closed
  | case6 _ _ _ _ _ ih => have := ih closed; simp; omega

/-- A text with every closed literal emptied. A quote that no other quote closes stays as it is. -/
def emptyLiterals : List Char → List Char
  | [] => []
  | c :: rest =>
    if c = '"' then
      match _closed : afterLiteral? rest with
      | some beyond => '"' :: '"' :: emptyLiterals beyond
      | none => c :: emptyLiterals rest
    else c :: emptyLiterals rest
termination_by text => text.length
decreasing_by
  · have := length_lt_of_afterLiteral? _closed
    simp
    omega
  · simp
  · simp

/-- Whether some kind of bracket is opened more often than closed, outside quoted literals. -/
def hasOpen (text : List Char) : Bool :=
  let bare := emptyLiterals text
  bare.count '{' > bare.count '}' || bare.count '[' > bare.count ']' ||
    bare.count '(' > bare.count ')'

/-! ## Parentheses -/

/-- A text cut at its first balanced pair of parentheses. -/
structure Parens where
  before : List Char
  inner : List Char
  after : List Char
deriving DecidableEq

def Parens.close (parens : Parens) : Nat :=
  parens.before.length + 1 + parens.inner.length

/-- The text up to the parenthesis that closes `level + 1` open ones, and the text beyond it. -/
def closeParen? (level : Nat) : List Char → Option (List Char × List Char)
  | [] => none
  | c :: rest =>
    if c = ')' then
      match level with
      | 0 => some ([], rest)
      | below + 1 => (closeParen? below rest).map fun (inner, after) => (c :: inner, after)
    else
      let deeper := if c = '(' then level + 1 else level
      (closeParen? deeper rest).map fun (inner, after) => (c :: inner, after)

/-- The first opening parenthesis together with the one that closes it. -/
def parens? (text : List Char) : Option Parens :=
  match text.dropWhile (· != '(') with
  | [] => none
  | _ :: rest =>
    (closeParen? 0 rest).map fun (inner, after) => ⟨text.takeWhile (· != '('), inner, after⟩

/-! ## Top-level commas -/

/-- How deep a reader of a parameter list is in brackets and in angle brackets. -/
structure Nesting where
  level : Int := 0
  angle : Nat := 0

/-- Whether a comma here separates parameters. -/
def Nesting.isOutside (nesting : Nesting) : Bool :=
  nesting.level == 0 && nesting.angle == 0

/-- The nesting after one more character. A closing angle bracket that none opens, as in an arrow, counts
for nothing. -/
def Nesting.read (nesting : Nesting) (c : Char) : Nesting :=
  if c = '(' || c = '[' || c = '{' then { nesting with level := nesting.level + 1 }
  else if c = ')' || c = ']' || c = '}' then { nesting with level := nesting.level - 1 }
  else if c = '<' then { nesting with angle := nesting.angle + 1 }
  else if c = '>' then { nesting with angle := nesting.angle - 1 }
  else nesting

/-- The segments of a text between its top-level commas. There is always at least one. -/
def segments (nesting : Nesting) : List Char → List (List Char)
  | [] => [[]]
  | c :: rest =>
    if c = ',' && nesting.isOutside then [] :: segments nesting rest
    else (segments (nesting.read c) rest).modifyHead (c :: ·)

/-- A parameter list cut at its top-level commas, each piece trimmed. The last piece is left out when it is
blank; other blank pieces stay. -/
def splitParameters (text : List Char) : List (List Char) :=
  let parts := (segments {} text).map trim
  if parts.getLast? = some [] then parts.dropLast else parts

end DeclIndex.Bracket
