import DeclIndex.Text.Ident

/-!
# Heads of Aiken declarations

A declaration is recognised by its first line alone. Each reader below answers for one kind of head
what the line says, or `none` when the line is no such head. They are meant for trimmed lines; on
other texts `.` in a head stops at a line feed, and one line feed may stand after the end.
-/

namespace DeclIndex.Aiken
open DeclIndex.Text

/-- Identifiers begin with a letter or underscore, then may have digits too. All are ASCII. -/
def alphabet : Alphabet where
  first c := c.isAlpha || c == '_'
  later c := c.isAlphanum || c == '_'

/-- A trimmed line that is a comment of any kind. -/
def isComment (line : List Char) : Bool :=
  startsWith line "//"

/-! ## Imports -/

/-- What the head of an import says. -/
structure UseHead where
  module : List Char
  /-- The text between the braces of an item list. -/
  items : Option (List Char)
  renamed : Option (List Char)
deriving DecidableEq

/-- Identifiers with `separator` before each, as many as there are, and what is left. -/
def moreParts (separator : Char) (fuel : Nat) (text : List Char) : List Char × List Char :=
  match fuel, text with
  | fuel + 1, c :: rest =>
    if c = separator then
      match alphabet.ident? rest with
      | some (name, left) =>
        let (parts, beyond) := moreParts separator fuel left
        (c :: name ++ parts, beyond)
      | none => ([], text)
    else ([], text)
  | _, _ => ([], text)

/-- The longest module path at the front of a text: identifiers joined by slashes, then by dots. -/
def modulePath? (text : List Char) : Option (List Char × List Char) := do
  let (first, rest) ← alphabet.ident? text
  let (folders, rest) := moreParts '/' rest.length rest
  let (members, rest) := moreParts '.' rest.length rest
  return (first ++ folders ++ members, rest)

/-- What ends an import: nothing, or the new name. -/
def useRename? (text : List Char) : Option (Option (List Char)) :=
  match trimLeft text with
  | [] => some none
  | rest => do
    let (name, left) ← alphabet.ident? (← dropKeyword? "as" rest)
    if left.all isBlank then some (some name) else none

/-- What follows the path of an import: a braced item list and a new name, both optional. -/
def useEnd? (text : List Char) : Option (Option (List Char) × Option (List Char)) :=
  match dropFront? ['.', '{'] (trimLeft text) with
  | some list => do
    let (items, rest) ← takeTo? '}' list
    if items.isEmpty then none
    else
      let renamed ← useRename? rest
      some (some items, renamed)
  | none => (useRename? text).map (none, ·)

/-- The path without an `as` that is written onto its end, if some of its last identifier remains. -/
def cutAs? (path : List Char) : Option (List Char) :=
  match path.reverse with
  | 's' :: 'a' :: c :: rest => if alphabet.later c then some (c :: rest).reverse else none
  | _ => none

/-- The head of an import. Where the rest cannot be read after the whole path, an `as` at the end of the path
belongs to the rest: `use fooas b` imports `foo` as `b`. -/
def useHead? (line : List Char) : Option UseHead := do
  let (path, rest) ← modulePath? (← dropKeyword? "use" line)
  match useEnd? rest with
  | some (items, renamed) => return ⟨path, items, renamed⟩
  | none =>
    let shorter ← cutAs? path
    let (items, renamed) ← useEnd? ('a' :: 's' :: rest)
    return ⟨shorter, items, renamed⟩

/-! ## Functions and tests -/

/-- What the head of a function says. -/
structure FunctionHead where
  isPublic : Bool
  name : List Char
deriving DecidableEq

/-- An identifier with an opening parenthesis after it. -/
def called? (text : List Char) : Option (List Char) := do
  let (name, rest) ← alphabet.ident? text
  match trimLeft rest with
  | '(' :: _ => some name
  | _ => none

def functionHead? (line : List Char) : Option FunctionHead := do
  let (isPublic, line) := takeKeyword "pub" line
  let name ← called? (← dropKeyword? "fn" line)
  return ⟨isPublic, name⟩

/-- The name in the head of a test. -/
def testHead? (line : List Char) : Option (List Char) := do
  called? (← dropKeyword? "test" line)

/-! ## Types -/

/-- What the head of a type says. -/
structure TypeHead where
  isPublic : Bool
  isOpaque : Bool
  /-- The name with its generic parameters. -/
  name : List Char
  /-- The text from `=` or the opening brace on. -/
  body : List Char
deriving DecidableEq

/-- Generic parameters in angle brackets, up to the first closing one. -/
def generics (text : List Char) : List Char × List Char :=
  match text with
  | '<' :: rest =>
    match takeTo? '>' rest with
    | some (inner, left) => ('<' :: inner ++ ['>'], left)
    | none => ([], text)
  | _ => ([], text)

/-- What follows the name in the head of a type: nothing, or a body up to the end of the line. -/
def typeBody? (text : List Char) : Option (List Char) :=
  match trimLeft text with
  | [] => some []
  | c :: rest =>
    if c = '=' || c = '{' then
      let left := rest.dropWhile (· != '\n')
      if left = [] || left = ['\n'] then some (c :: rest.takeWhile (· != '\n')) else none
    else none

def typeHead? (line : List Char) : Option TypeHead := do
  let (isPublic, line) := takeKeyword "pub" line
  let (isOpaque, line) := takeKeyword "opaque" line
  let (name, rest) ← alphabet.ident? (← dropKeyword? "type" line)
  let (parameters, rest) := generics rest
  let body ← typeBody? rest
  return ⟨isPublic, isOpaque, name ++ parameters, body⟩

/-! ## Constants -/

/-- What the head of a constant says. -/
structure ConstantHead where
  isPublic : Bool
  name : List Char
  /-- The declared type, empty if there is none. -/
  type : List Char
  value : List Char
deriving DecidableEq

/-- The value after the equals sign, trimmed. There must be something besides line feeds. -/
def valueAfter? (text : List Char) : Option (List Char) :=
  match trimLeft text with
  | [] => if text.any (· != '\n') then some [] else none
  | value => some (trim (value.takeWhile (· != '\n')))

/-- The head of a constant. The declared type is what stands between the colon and the first equals sign. -/
def constantHead? (line : List Char) : Option ConstantHead := do
  let (isPublic, line) := takeKeyword "pub" line
  let (name, rest) ← alphabet.ident? (← dropKeyword? "const" line)
  match trimLeft rest with
  | '=' :: right => return ⟨isPublic, name, [], ← valueAfter? right⟩
  | ':' :: left =>
    let (type, right) ← takeTo? '=' left
    if type.isEmpty then none
    else return ⟨isPublic, name, trim type, ← valueAfter? right⟩
  | _ => none

/-! ## Heads of any kind -/

/-- What a line introduces. -/
inductive Head where
  | use (head : UseHead)
  | function (head : FunctionHead)
  | type (head : TypeHead)
  | constant (head : ConstantHead)

/-- The head on a trimmed line, tests apart. -/
def head? (line : List Char) : Option Head :=
  (useHead? line).map .use
    <|> (functionHead? line).map .function
    <|> (typeHead? line).map .type
    <|> (constantHead? line).map .constant

/-- Whether a line begins a declaration or a test. -/
def isHead (line : List Char) : Bool :=
  (useHead? line).isSome || (functionHead? line).isSome || (testHead? line).isSome ||
    (typeHead? line).isSome || (constantHead? line).isSome

end DeclIndex.Aiken
