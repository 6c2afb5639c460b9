/-!
# Finding one text in another
-/

namespace DeclIndex.Text

/-- Whether `part` stands somewhere in a text. -/
def occurs (part : List Char) : List Char → Bool
  | [] => part.isEmpty
  | c :: rest => part.isPrefixOf (c :: rest) || occurs part rest

/-- How many characters precede the first place where `part` stands. -/
def indexOf? (part : List Char) : List Char → Option Nat
  | [] => if part.isEmpty then some 0 else none
  | c :: rest => if part.isPrefixOf (c :: rest) then some 0 else (indexOf? part rest).map (· + 1)

/-- What follows `front` in a text that begins with it. -/
def dropFront? : List Char → List Char → Option (List Char)
  | [], text => some text
  | f :: front, c :: text => if f = c then dropFront? front text else none
  | _ :: _, [] => none

/-- A text without `front`, if it begins with it. -/
def dropFront (front text : List Char) : List Char :=
  (dropFront? front text).getD text

/-- A text without `back`, if it ends with it. -/
def dropBack (back text : List Char) : List Char :=
  (dropFront back.reverse text.reverse).reverse

def startsWith (text : List Char) (front : String) : Bool :=
  front.toList.isPrefixOf text

def endsWith (text : List Char) (back : String) : Bool :=
  back.toList.isSuffixOf text

/-- How often a character stands in a text. -/
def tally (c : Char) (text : List Char) : Int :=
  text.count c

end DeclIndex.Text
