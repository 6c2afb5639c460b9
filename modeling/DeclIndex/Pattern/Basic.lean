import DeclIndex.Text.Blank
import DeclIndex.Text.CaseVariant
import DeclIndex.Text.Digit
import DeclIndex.Text.WordChar

/-!
# Search patterns

Regular expressions over the names of declarations, case ignored.
-/

namespace DeclIndex.Pattern
open DeclIndex.Text

/-- A class of characters that an escape names. -/
inductive Class where
  | digit
  | blank
  | word
deriving DecidableEq

/-- Whether a character is of a class. -/
def Class.holds : Class → Char → Bool
  | .digit, c => (digitValue? c).isSome
  | .blank, c => isBlank c
  | .word, c => isWordChar c

/-- One member of a set of characters. -/
inductive Member where
  /-- One character. -/
  | char (code : Nat)
  /-- The characters from one code point to another. -/
  | range (first last : Nat)
  /-- A class, or all characters outside it. -/
  | named (kind : Class) (inverted : Bool)
deriving DecidableEq

/-- A character of a text, with what counts as one with it when case is ignored. -/
structure Letter where
  char : Char
  /-- The code point of its small letter. -/
  small : Nat
  /-- All code points that count as one with it, its own included. -/
  variants : List Nat

def Letter.of (c : Char) : Letter :=
  ⟨c, (smallLetter c).toNat, caseVariants c⟩

/-- Where the characters begin of which only the small letter counts in a set of several members. -/
def supplement : Nat := 0x10000

/-- Whether a letter is a member of a set that has others too. -/
def Member.holds (letter : Letter) : Member → Bool
  | .char code => if code < supplement then letter.variants.contains code else letter.small == code
  | .range first last => letter.variants.any fun code => first ≤ code && code ≤ last
  | .named kind inverted => kind.holds letter.char != inverted

/-- Whether a letter is in a set of characters. In a set of one character its case is ignored whatever it is. -/
def isIn (members : List Member) (letter : Letter) : Bool :=
  match members with
  | [.char code] => letter.variants.contains code
  | _ => members.any (Member.holds letter)

end DeclIndex.Pattern

namespace DeclIndex

/-- A regular expression. -/
inductive Pattern where
  /-- Matches nothing at all. -/
  | never
  /-- Matches the empty text. -/
  | empty
  /-- One character in a set, or outside it. -/
  | set (members : List Pattern.Member) (inverted : Bool)
  /-- Any character but a line feed. -/
  | any
  /-- The beginning of the text. -/
  | start
  /-- The end of the text, or the place before a line feed that ends it. -/
  | stop
  /-- The very end of the text. -/
  | close
  /-- A place between a word character and another one, or any other place. -/
  | boundary (inverted : Bool)
  | seq (first second : Pattern)
  | alt (first second : Pattern)
  /-- A pattern at least `least` times, and at most `most` times if that is given. -/
  | loop (inner : Pattern) (least : Nat) (most : Option Nat)
  /-- As many times as possible, and then no fewer. -/
  | greedy (inner : Pattern) (least : Nat) (most : Option Nat)
  /-- A place where a pattern begins, or any other place. -/
  | ahead (inner : Pattern) (inverted : Bool)
deriving DecidableEq

end DeclIndex
