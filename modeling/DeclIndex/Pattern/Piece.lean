import DeclIndex.Pattern.Basic

/-!
# Pieces of search patterns

An alternative is a list of pieces. Pieces that all alternatives begin with are read once, and alternatives that are sets of
characters are one set.
-/

namespace DeclIndex.Pattern

/-- One piece of an alternative. -/
inductive Piece where
  /-- One character in a set, or outside it. -/
  | set (members : List Member) (inverted : Bool)
  /-- Any character but a line feed. -/
  | any
  /-- A place, and the sign that asks for it. -/
  | place (sign : Char) (pattern : Pattern)
  | repeated (pattern : Pattern)
  | group (pattern : Pattern)

def Piece.pattern : Piece → Pattern
  | .set members inverted => .set members inverted
  | .any => .any
  | .place _ pattern => pattern
  | .repeated pattern => pattern
  | .group pattern => pattern

/-- Pieces one after the other. -/
def sequence (pieces : List Piece) : Pattern :=
  pieces.foldr (fun piece rest => .seq piece.pattern rest) .empty

/-- A set of one code point. -/
def single (code : Nat) : Piece :=
  .set [.char code] false

/-- Whether two pieces are one and the same. Groups and repetitions never are. -/
def Piece.isSame : Piece → Piece → Bool
  | .set members inverted, .set others isOther => members == others && inverted == isOther
  | .any, .any => true
  | .place sign _, .place other _ => sign == other
  | _, _ => false

/-- Whether an alternative begins with a piece. -/
def startsWithPiece (piece : Piece) : List Piece → Bool
  | first :: _ => piece.isSame first
  | [] => false

/-- The members of an alternative that is one set of characters. -/
def setOf? : List Piece → Option (List Member)
  | [.set members false] => some members
  | _ => none

/-- Alternatives as one piece: a set if each of them is one, and a choice otherwise. -/
def choice (first : List Piece) (rest : List (List Piece)) : Piece :=
  match (first :: rest).mapM setOf? with
  | some sets => .set sets.flatten.eraseDups false
  | none => .group (rest.foldl (fun pattern pieces => .alt pattern (sequence pieces)) (sequence first))

/-- Alternatives, with what all of them begin with in front. -/
def branch : List Piece → List (List Piece) → List Piece
  | piece :: first, rest =>
    if rest.all (startsWithPiece piece) then piece :: branch first (rest.map (·.drop 1))
    else [choice (piece :: first) rest]
  | [], rest => [choice [] rest]

end DeclIndex.Pattern
