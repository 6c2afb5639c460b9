import DeclIndex.Text.Ident
import DeclIndex.Text.WordChar

/-!
# Heads of TypeScript declarations

One reader for each kind of line, as in Aiken files: imports, exports, functions, types, constants. All expect
a trimmed line.
-/

namespace DeclIndex.TypeScript
open DeclIndex.Text

/-- Identifiers may have dollar signs. All are ASCII. -/
def alphabet : Alphabet where
  first c := c.isAlpha || c == '_' || c == '$'
  later c := c.isAlphanum || c == '_' || c == '$'

/-! ## Exports -/

/-- The keyword and the name that follow an inline export. -/
def declaredName? (keywords : List String) (text : List Char) : Option (String × List Char) := do
  let (keyword, rest) ← takeOneOf? keywords (takeKeyword "async" text).2
  let (name, _) ← alphabet.ident? rest
  return (keyword, name)

/-- The keyword and the name of a default export. -/
def defaultExport? (line : List Char) : Option (String × List Char) := do
  declaredName? ["function", "const", "class", "interface", "type", "enum"]
    (← dropKeyword? "default" (← dropKeyword? "export" line))

/-- The keyword and the name of an inline export. -/
def namedExport? (line : List Char) : Option (String × List Char) := do
  declaredName? ["function", "const", "let", "class", "interface", "type", "enum", "namespace"]
    (takeKeyword "declare" (← dropKeyword? "export" line)).2

/-- The text between the braces of an export list. -/
def exportList? (line : List Char) : Option (List Char) := do
  let rest := trimLeft (← dropFront? "export".toList line)
  match trimLeft (dropFront "type".toList rest) with
  | '{' :: list =>
    let (items, _) ← takeTo? '}' list
    if items.isEmpty then none else some items
  | _ => none

/-- The name in an item of an export list and its new name, for a trimmed item. -/
def exportItem? (item : List Char) : Option (List Char × Option (List Char)) := do
  let (name, rest) ← alphabet.ident? item
  let renamed := do
    let (renamed, _) ← alphabet.ident? (← dropKeyword? "as" (← dropBlanks? rest))
    return renamed
  return (name, renamed)

/-! ## Imports -/

def isQuote (c : Char) : Bool :=
  c == '"' || c == Char.ofNat 39

/-- A module in quotes at the end of a line, with or without a semicolon. -/
def quotedModule? : List Char → Option (List Char)
  | c :: rest =>
    let name := rest.takeWhile (!isQuote ·)
    let left := (rest.dropWhile (!isQuote ·)).drop 1
    if isQuote c && !name.isEmpty && rest.any isQuote && (left = [] || left = [';']) then some name
    else none
  | [] => none

/-- What an import line says. -/
structure ImportHead where
  module : List Char
  /-- The text between the braces of the item list. -/
  items : Option (List Char) := none
  /-- The name of the default export or of the whole module. -/
  renamed : Option (List Char) := none
deriving DecidableEq

/-- An import for its effects alone. -/
def sideEffectImport? (line : List Char) : Option ImportHead := do
  return { module := ← quotedModule? (← dropKeyword? "import" line) }

/-- The end of an import, from the word `from` on. -/
def fromModule? (text : List Char) : Option (List Char) := do
  quotedModule? (← dropKeyword? "from" text)

/-- The item list and the module of an import. -/
def importItems? (text : List Char) : Option ImportHead :=
  match text with
  | '{' :: list => do
    let (items, rest) ← takeTo? '}' list
    return { module := ← fromModule? (trimLeft rest), items := some items }
  | _ => do return { module := ← fromModule? text }

/-- The import after its default name: a name for the whole module, items, the module. -/
def importRest? (text : List Char) : Option ImportHead :=
  match text with
  | '*' :: rest => do
    alphabet.identThen? (← dropKeyword? "as" (← dropBlanks? rest)) fun name left => do
      return { ← importItems? (trimLeft left) with renamed := some name }
  | _ => importItems? text

/-- The import after its keywords. A default name may be followed by a comma. It is given up, character by
character, where the word `from` would be missing otherwise. -/
def importNames? (text : List Char) : Option ImportHead :=
  (alphabet.identThen? text fun name left =>
    let left := trimLeft left
    let rest := match left with
      | ',' :: beyond => trimLeft beyond
      | _ => left
    (importRest? rest).map fun head => { head with renamed := head.renamed <|> some name })
  <|> importRest? text

/-- An import of names. The word `type` is a keyword if the rest can then be read, and else a name. -/
def namesImport? (line : List Char) : Option ImportHead := do
  let rest ← dropKeyword? "import" line
  ((dropKeyword? "type" rest).bind importNames?) <|> importNames? rest

def importHead? (line : List Char) : Option ImportHead :=
  sideEffectImport? line <|> namesImport? line

/-! ## Functions -/

/-- The texts after an optional word with blanks, the one without the word first. -/
def withoutOption (words : List String) (text : List Char) : List (List Char) :=
  match takeOneOf? words text with
  | some (_, rest) => [rest, text]
  | none => [text]

/-- The texts after the modifiers of a function, those with more modifiers taken away first. -/
def withoutModifiers (line : List Char) : List (List Char) :=
  [["export"], ["default"], ["public", "private", "protected"], ["static"], ["async"]].foldl
    (fun texts words => texts.flatMap (withoutOption words)) [line]

/-- The name after the word `function`, with a parameter list or generic parameters behind it. -/
def functionName? (text : List Char) : Option (List Char) := do
  let rest := trimLeft (← dropFront? "function".toList text)
  let rest := match rest with
    | '*' :: beyond => trimLeft beyond
    | _ => rest
  let (name, left) ← alphabet.ident? rest
  match trimLeft left with
  | '(' :: _ => some name
  | '<' :: _ => some name
  | _ => none

/-- Whether a value is a function: it begins with a parenthesis or with the word `function`. -/
def isFunctionValue (text : List Char) : Bool :=
  let value := (takeKeyword "async" (trimLeft text)).2
  match value with
  | '(' :: _ => true
  | _ =>
    match dropFront? "function".toList value with
    | some (c :: _) => !isWordChar c
    | some [] => true
    | none => false

/-- The name of a constant or variable whose value is a function. -/
def arrowName? (text : List Char) : Option (List Char) := do
  let (_, rest) ← takeOneOf? ["const", "let"] text
  let (name, left) ← alphabet.ident? rest
  let value ← match trimLeft left with
    | '=' :: value => some value
    | ':' :: type => do
      let (type, value) ← takeTo? '=' type
      if type.isEmpty then none else some value
    | _ => none
  if isFunctionValue value then some name else none

/-- The name of a method: parameters in parentheses, then a body, with or without a return type before it. -/
def methodName? (text : List Char) : Option (List Char) := do
  let (name, left) ← alphabet.ident? text
  let rest ← match trimLeft left with
    | '<' :: generic => (takeTo? '>' generic).map (·.2)
    | rest => some rest
  match rest with
  | '(' :: parameters =>
    let (_, beyond) ← takeTo? ')' parameters
    match trimLeft beyond with
    | '{' :: _ => some name
    | ':' :: type => if type.contains '{' then some name else none
    | _ => none
  | _ => none

/-- The name in the head of a function. Modifiers are read as such wherever the rest can then be read; a
method may be named like a modifier. -/
def functionHead? (line : List Char) : Option (List Char) :=
  (withoutModifiers line).findSome? fun text =>
    functionName? text <|> arrowName? text <|> methodName? text

/-- Words that look like the name of a method but are not one. -/
def notFunctions : List String :=
  ["if", "for", "while", "switch", "catch", "return", "function", "constructor", "super"]

/-! ## Types -/

/-- What the head of a type says. -/
structure TypeHead where
  name : List Char
  /-- The generic parameters with their brackets, trimmed. -/
  generics : List Char
deriving DecidableEq

/-- Generic parameters, blanks before them allowed, up to the first closing bracket. -/
def generics (text : List Char) : List Char × List Char :=
  match trimLeft text with
  | '<' :: rest =>
    match takeTo? '>' rest with
    | some (inner, left) => ('<' :: inner ++ ['>'], left)
    | none => ([], text)
  | _ => ([], text)

/-- Whether a type goes on after its name with a definition: an equals sign or a brace, with the types that it
extends before it or not. -/
def hasDefinition (text : List Char) : Bool :=
  match trimLeft text with
  | '=' :: _ => true
  | '{' :: _ => true
  | rest =>
    match dropFront? "extends".toList rest with
    | some (blank :: c :: others) =>
      isBlank blank && c != '{' && others.any fun other => other == '=' || other == '{'
    | _ => false

def typeHead? (line : List Char) : Option TypeHead := do
  let line := (takeKeyword "export" line).2
  let line := (takeKeyword "declare" line).2
  let (_, rest) ← takeOneOf? ["type", "interface"] line
  alphabet.identThen? rest fun name left =>
    let (parameters, beyond) := generics left
    if hasDefinition beyond then some ⟨name, parameters⟩ else none

/-! ## Constants -/

/-- What the head of a constant says. -/
structure ConstantHead where
  name : List Char
  /-- The declared type, trimmed. -/
  type : Option (List Char)
  value : List Char
deriving DecidableEq

def constantHead? (line : List Char) : Option ConstantHead := do
  let line := (takeKeyword "export" line).2
  let (name, rest) ← alphabet.ident? (← dropKeyword? "const" line)
  let (type, value) ← match trimLeft rest with
    | '=' :: value => some (none, value)
    | ':' :: left => do
      let (type, value) ← takeTo? '=' left
      if type.isEmpty then none else some (some (trim type), value)
    | _ => none
  if value.isEmpty then none else some ⟨name, type, trim value⟩

end DeclIndex.TypeScript
