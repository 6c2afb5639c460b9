/-!
# Blank characters

Which characters count as blank, and the operations on texts that depend on it: trimming, closing up
runs of blanks, cutting at runs of blanks. A text is a list of code points throughout.
-/

namespace DeclIndex.Text

/-- The twenty-nine blank code points: the ASCII controls that separate, and the Unicode spaces. -/
def isBlank (c : Char) : Bool :=
  let n := c.toNat
  (9 ≤ n && n ≤ 13) || (28 ≤ n && n ≤ 32) || n == 0x85 || n == 0xA0 || n == 0x1680 ||
    (0x2000 ≤ n && n ≤ 0x200A) || n == 0x2028 || n == 0x2029 || n == 0x202F || n == 0x205F ||
    n == 0x3000

def trimLeft (text : List Char) : List Char :=
  text.dropWhile isBlank

def trimRight (text : List Char) : List Char :=
  (text.reverse.dropWhile isBlank).reverse

def trim (text : List Char) : List Char :=
  trimRight (trimLeft text)

/-- Every run of blanks becomes one space. -/
def closeUp : List Char → List Char
  | [] => []
  | c :: rest =>
    if isBlank c then
      match rest with
      | [] => [' ']
      | d :: _ => if isBlank d then closeUp rest else ' ' :: closeUp rest
    else c :: closeUp rest

/-- A text with runs of blanks closed up and none at either end. -/
def normalize (text : List Char) : List Char :=
  trim (closeUp text)

/-- The pieces between the runs of characters in `separates`. A run at either end has an empty piece
beyond it, so there is always at least one piece. -/
def pieces (separates : Char → Bool) : List Char → List (List Char)
  | [] => [[]]
  | c :: rest =>
    if separates c then
      match rest with
      | [] => [[], []]
      | d :: _ => if separates d then pieces separates rest else [] :: pieces separates rest
    else (pieces separates rest).modifyHead (c :: ·)

end DeclIndex.Text
