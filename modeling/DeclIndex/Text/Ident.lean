import DeclIndex.Text.Blank
import DeclIndex.Text.Find

/-!
# Reading from the front of a text

Small readers that the head patterns of declarations are put together from. A reader answers with
what is left of the text, or with what it read and what is left.
-/

namespace DeclIndex.Text

/-- At least one blank, and all that follow it. -/
def dropBlanks? : List Char → Option (List Char)
  | c :: rest => if isBlank c then some (trimLeft rest) else none
  | [] => none

/-- A word and the blanks that must follow it. -/
def dropKeyword? (word : String) (text : List Char) : Option (List Char) :=
  (dropFront? word.toList text).bind dropBlanks?

/-- Whether an optional keyword stands at the front, and what follows it, or the whole text. -/
def takeKeyword (word : String) (text : List Char) : Bool × List Char :=
  match dropKeyword? word text with
  | some rest => (true, rest)
  | none => (false, text)

/-- The first of some words that the text begins with, with blanks after it. -/
def takeOneOf? (words : List String) (text : List Char) : Option (String × List Char) :=
  words.findSome? fun word => (dropKeyword? word text).map (word, ·)

/-- The text up to a character, which must be present, and the text beyond that character. -/
def takeTo? (stop : Char) (text : List Char) : Option (List Char × List Char) :=
  match text.dropWhile (· != stop) with
  | _ :: rest => some (text.takeWhile (· != stop), rest)
  | [] => none

/-- The characters of identifiers: which may come first and which may follow. -/
structure Alphabet where
  first : Char → Bool
  later : Char → Bool

namespace Alphabet

/-- The longest identifier at the front of a text, and what is left. -/
def ident? (alphabet : Alphabet) : List Char → Option (List Char × List Char)
  | c :: rest =>
    if alphabet.first c then
      some (c :: rest.takeWhile alphabet.later, rest.dropWhile alphabet.later)
    else none
  | [] => none

/-- The reading of the longest identifier at the front of a text after which the rest can be read.
Shorter identifiers are tried only where the longer ones leave a rest that cannot be read. -/
def identThen? {α : Type} (alphabet : Alphabet) (text : List Char)
    (next : List Char → List Char → Option α) : Option α :=
  match alphabet.ident? text with
  | none => none
  | some (name, rest) =>
    (List.range name.length).findSome? fun given =>
      let kept := name.length - given
      next (name.take kept) (name.drop kept ++ rest)

end Alphabet

end DeclIndex.Text
