import DeclIndex.Pattern.Piece
import DeclIndex.Pattern.Token

/-!
# Reading search patterns
-/

namespace DeclIndex.Pattern
open DeclIndex.Text

/-! ## Escapes -/

/-- Characters that an escape stands for. -/
def controls : List (Char × Nat) :=
  [('a', 7), ('f', 12), ('n', 10), ('r', 13), ('t', 9), ('v', 11), ('\\', 92)]

/-- Classes that an escape stands for. -/
def classEscapes : List (Char × Member) :=
  [('d', .named .digit false), ('D', .named .digit true), ('s', .named .blank false),
    ('S', .named .blank true), ('w', .named .word false), ('W', .named .word true)]

/-- Places that an escape stands for. -/
def placeEscapes : List (Char × Pattern) :=
  [('A', .start), ('Z', .close), ('b', .boundary false), ('B', .boundary true)]

def isHex (c : Char) : Bool :=
  c.isDigit || ('a' ≤ c && c ≤ 'f') || ('A' ≤ c && c ≤ 'F')

def isOctal (c : Char) : Bool :=
  '0' ≤ c && c ≤ '7'

/-- The value of digits in a base. -/
def valueIn (base : Nat) (digits : List Char) : Nat :=
  digits.foldl
    (fun n c =>
      n * base + (if c.isDigit then c.toNat - 48 else if c.isLower then c.toNat - 87 else c.toNat - 55))
    0

/-- The number of hexadecimal digits behind an escape. -/
def hexWidth? : Char → Option Nat
  | 'x' => some 2
  | 'u' => some 4
  | 'U' => some 8
  | _ => none

/-- An escape that is the same inside and outside of sets: a code point in hexadecimal or a character that stands
for itself. The source is behind the escape. -/
def plainEscape (token : Token) (source : Source) : Except Error (Nat × Source) :=
  match hexWidth? token.char with
  | some width => do
    let (digits, left) ← source.takeUpTo isHex width
    let text := token.text ++ digits
    if digits.length = width then
      if valueIn 16 digits < 0x110000 then return (valueIn 16 digits, left)
      else throw ⟨.badEscape (String.ofList text), left.tell - text.length⟩
    else throw ⟨.incompleteEscape (String.ofList text), left.tell - text.length⟩
  | none =>
    if token.char.isAlphanum then
      .error ⟨.badEscape (String.ofList token.text), source.tell - 2⟩
    else .ok (token.char.toNat, source)

/-- An escape inside a set. -/
def setEscape (token : Token) (source : Source) : Except Error (Member × Source) :=
  if token.char = 'b' then .ok (.char 8, source)
  else
    match controls.lookup token.char, classEscapes.lookup token.char with
    | some code, _ => .ok (.char code, source)
    | none, some member => .ok (member, source)
    | none, none =>
      if isOctal token.char then do
        let (digits, left) ← source.takeUpTo isOctal 2
        let text := token.text ++ digits
        let code := valueIn 8 (token.char :: digits)
        if code > 255 then throw ⟨.octalRange (String.ofList text), left.tell - text.length⟩
        return (.char code, left)
      else do
        let (code, left) ← plainEscape token source
        return (.char code, left)

/-- Groups met so far: how many were opened, and which of them are still open. -/
structure Groups where
  count : Nat := 0
  opened : List Nat := []

/-- A number behind a backslash: a code point in octal, or a group that was met before. -/
def numberEscape (groups : Groups) (token : Token) (source : Source) :
    Except Error (Piece × Source) := do
  let (second, left) ← source.takeUpTo Char.isDigit 1
  let (third, beyond) ←
    if isOctal token.char && second.any isOctal then left.takeUpTo isOctal 1 else pure ([], left)
  if third.isEmpty then
    let group := valueIn 10 (token.char :: second)
    let width := 2 + second.length
    if groups.count < group then throw ⟨.badReference group, left.tell - (width - 1)⟩
    if groups.opened.contains group then throw ⟨.openReference, left.tell - width⟩
    return (.group .never, left)
  else
    let digits := token.char :: second ++ third
    if valueIn 8 digits > 255 then
      throw ⟨.octalRange (String.ofList ('\\' :: digits)), beyond.tell - 4⟩
    return (single (valueIn 8 digits), beyond)

/-- An escape outside of sets. -/
def escape (groups : Groups) (token : Token) (source : Source) : Except Error (Piece × Source) :=
  match placeEscapes.lookup token.char, classEscapes.lookup token.char, controls.lookup token.char with
  | some pattern, _, _ => .ok (.place token.char pattern, source)
  | none, some member, _ => .ok (.set [member] false, source)
  | none, none, some code => .ok (single code, source)
  | none, none, none =>
    if token.char = '0' then do
      let (digits, left) ← source.takeUpTo isOctal 2
      return (single (valueIn 8 digits), left)
    else if token.char.isDigit then numberEscape groups token source
    else do
      let (code, left) ← plainEscape token source
      return (single code, left)

/-! ## Sets -/

/-- One member of a set before a range is looked for. -/
def setMember (token : Token) (source : Source) : Except Error (Member × Source) :=
  if token.isEscaped then setEscape token source
  else .ok (.char token.char.toNat, source)

/-- The code point of a member that is one character. -/
def Member.code? : Member → Option Nat
  | .char code => some code
  | _ => none

/-- The rest of a set that began at `place`, with the members met so far, last first. -/
def setRest (fuel : Nat) (place : Nat) (members : List Member) (source : Source) :
    Except Error (List Member × Source) :=
  match fuel, source.tokens with
  | 0, _ => .error ⟨.unterminatedSet, place⟩
  | _, [] => .error ⟨.unterminatedSet, place⟩
  | fuel + 1, token :: _ => do
    let source ← source.advance
    if token.is ']' && !members.isEmpty then return (members.reverse, source)
    let (first, source) ← setMember token source
    let (isRange, source) ← source.accept '-'
    if !isRange then setRest fuel place (first :: members) source
    else
      match source.tokens with
      | [] => throw ⟨.unterminatedSet, place⟩
      | other :: _ =>
        let source ← source.advance
        if other.is ']' then return ((.char 45 :: first :: members).reverse, source)
        let (second, source) ← setMember other source
        let text := token.text ++ '-' :: other.text
        match first.code?, second.code? with
        | some low, some high =>
          if high < low then throw ⟨.badRange (String.ofList text), source.tell - text.length⟩
          setRest fuel place (.range low high :: members) source
        | _, _ => throw ⟨.badRange (String.ofList text), source.tell - text.length⟩

/-! ## Repetitions -/

/-- A piece of an alternative that is being read, or the pieces of a group that nothing refers to. -/
inductive Item where
  | piece (content : Piece)
  | plain (content : List Piece)

def Item.pieces : Item → List Piece
  | .piece content => [content]
  | .plain content => content

/-- How often a repetition may be asked for at most. -/
def repeatLimit : Nat := 4294967294

/-- The number of a repetition, none if there are no digits. -/
def times (place : Nat) (digits : List Char) : Except Error (Option Nat) :=
  if digits.isEmpty then .ok none
  else if digitLimit < digits.length then .error ⟨.numberTooLong, place⟩
  else if repeatLimit < valueIn 10 digits then .error ⟨.tooManyTimes, place⟩
  else .ok (some (valueIn 10 digits))

/-- The bounds in braces that began at `place`, if what follows the brace has that form. -/
def braces (place : Nat) (source : Source) : Except Error (Option (Nat × Option Nat × Source)) := do
  let (low, left) ← source.takeUpTo Char.isDigit source.size
  let (isOpen, left) ← left.accept ','
  let (high, left) ← if isOpen then left.takeUpTo Char.isDigit source.size else pure (low, left)
  let (isClosed, left) ← left.accept '}'
  if isClosed then
    let least ← times place low
    let most ← times place high
    return some (least.getD 0, most, left)
  else return none

/-- The bounds that a repetition sign gives, and the source behind it. No bounds mean that an opening brace stands
for itself. -/
def bounds (token : Token) (source : Source) : Except Error (Option (Nat × Option Nat × Source)) :=
  match token.char with
  | '?' => .ok (some (0, some 1, source))
  | '*' => .ok (some (0, none, source))
  | '+' => .ok (some (1, none, source))
  | _ =>
    match source.tokens with
    | next :: _ => if next.is '}' then .ok none else braces token.place source
    | [] => braces token.place source

/-- The items after a repetition sign. Items are given last first. -/
def repeatLast (token : Token) (items : List Item) (source : Source) :
    Except Error (List Item × Source) := do
  match ← bounds token source with
  | none => return (.piece (single 123) :: items, source)
  | some (least, most, source) =>
    if most.any (· < least) then throw ⟨.minAboveMax, token.place + 1⟩
    match items with
    | [] => throw ⟨.nothingToRepeat, token.place⟩
    | .piece (.place _ _) :: _ => throw ⟨.nothingToRepeat, token.place⟩
    | .piece (.repeated _) :: _ => throw ⟨.multipleRepeat, token.place⟩
    | item :: before =>
      let pattern := sequence item.pieces
      let (isLazy, source) ← source.accept '?'
      if isLazy then return (.piece (.repeated (.loop pattern least most)) :: before, source)
      let (isGreedy, source) ← source.accept '+'
      if isGreedy then return (.piece (.repeated (.greedy pattern least most)) :: before, source)
      return (.piece (.repeated (.loop pattern least most)) :: before, source)

/-! ## Groups -/

/-- How a group begins. -/
inductive Opening where
  | capture
  | plain
  | ahead (inverted : Bool)
  | comment

/-- Whether a name may be the name of a group. -/
def isGroupName (name : List Char) : Bool :=
  match name with
  | c :: rest => (isWordChar c && !(digitValue? c).isSome) && rest.all isWordChar
  | [] => false

/-- The name of a group up to its closing bracket. -/
def groupName (fuel : Nat) (name : List Char) (source : Source) : Except Error Source :=
  match fuel, source.tokens with
  | fuel + 1, token :: _ => do
    let source ← source.advance
    if token.is '>' then
      if name.isEmpty then throw ⟨.missingName, source.tell - 1⟩
      if !isGroupName name then
        throw ⟨.badName (String.ofList name), source.tell - (name.length + 1)⟩
      return source
    else groupName fuel (name ++ token.text) source
  | _, _ =>
    if name.isEmpty then .error ⟨.missingName, source.tell⟩
    else .error ⟨.unterminatedName, source.tell - name.length⟩

/-- The rest of a comment that began at `place`. -/
def commentRest (fuel : Nat) (place : Nat) (source : Source) : Except Error Source :=
  match fuel, source.tokens with
  | fuel + 1, token :: _ => do
    let source ← source.advance
    if token.is ')' then return source else commentRest fuel place source
  | _, _ => .error ⟨.unterminatedComment, place⟩

/-- The beginning of a group, from behind its parenthesis on. -/
def opening (place : Nat) (source : Source) : Except Error (Opening × Source) := do
  let (isExtension, source) ← source.accept '?'
  if !isExtension then return (.capture, source)
  match source.tokens with
  | [] => throw ⟨.unexpectedEnd, source.tell⟩
  | token :: _ =>
    let source ← source.advance
    if token.is ':' then return (.plain, source)
    else if token.is '=' then return (.ahead false, source)
    else if token.is '!' then return (.ahead true, source)
    else if token.is '#' then return (.comment, ← commentRest source.size place source)
    else if token.is 'P' then
      let (isNamed, source) ← source.accept '<'
      if isNamed then return (.capture, ← groupName source.size [] source)
      match source.tokens with
      | [] => throw ⟨.unexpectedEnd, source.tell⟩
      | other :: _ =>
        let source ← source.advance
        throw ⟨.unknownExtension (String.ofList ('P' :: other.text)), source.tell - (other.size + 2)⟩
    else throw ⟨.unknownExtension (String.ofList token.text), source.tell - (token.size + 1)⟩

/-! ## Whole patterns -/

/-- How deep groups may be nested. -/
def depthLimit : Nat := 490

/-- The pieces of items that are given last first. -/
def piecesOf (items : List Item) : List Piece :=
  items.reverse.flatMap Item.pieces

mutual

/-- Alternatives, up to the end or a closing parenthesis, with at most `depth` groups around one another. -/
def alternatives (fuel depth : Nat) (groups : Groups) (source : Source) :
    Except Error (List Piece × Groups × Source) :=
  match fuel with
  | 0 => .ok ([], groups, source)
  | fuel + 1 => do
    let (first, groups, source) ← alternative fuel depth groups [] source
    let (rest, groups, source) ← further fuel depth groups [] source
    return (if rest.isEmpty then first else branch first rest, groups, source)
termination_by structural fuel

/-- The alternatives behind the first one, with those read so far, last first. -/
def further (fuel depth : Nat) (groups : Groups) (done : List (List Piece)) (source : Source) :
    Except Error (List (List Piece) × Groups × Source) :=
  match fuel with
  | 0 => .ok (done.reverse, groups, source)
  | fuel + 1 => do
    let (isMore, source) ← source.accept '|'
    if isMore then
      let (next, groups, source) ← alternative fuel depth groups [] source
      further fuel depth groups (next :: done) source
    else return (done.reverse, groups, source)
termination_by structural fuel

/-- One alternative, with the items read so far, last first. -/
def alternative (fuel depth : Nat) (groups : Groups) (done : List Item) (source : Source) :
    Except Error (List Piece × Groups × Source) :=
  match fuel, source.tokens with
  | 0, _ => .ok (piecesOf done, groups, source)
  | _, [] => .ok (piecesOf done, groups, source)
  | fuel + 1, token :: _ =>
    if token.is '|' || token.is ')' then .ok (piecesOf done, groups, source)
    else do
      let source ← source.advance
      if token.isEscaped then
        let (piece, source) ← escape groups token source
        alternative fuel depth groups (.piece piece :: done) source
      else
        match token.char with
        | '[' =>
          let (inverted, source) ← source.accept '^'
          let (members, source) ← setRest source.size token.place [] source
          alternative fuel depth groups (.piece (.set members.eraseDups inverted) :: done) source
        | '.' => alternative fuel depth groups (.piece .any :: done) source
        | '^' => alternative fuel depth groups (.piece (.place '^' .start) :: done) source
        | '$' => alternative fuel depth groups (.piece (.place '$' .stop) :: done) source
        | '(' =>
          let (kind, source) ← opening token.place source
          match kind with
          | .comment => alternative fuel depth groups done source
          | .capture =>
            let number := groups.count + 1
            let (pieces, met, source) ← group fuel depth ⟨number, number :: groups.opened⟩ token.place source
            alternative fuel depth ⟨met.count, groups.opened⟩ (.piece (.group (sequence pieces)) :: done) source
          | .plain =>
            let (pieces, met, source) ← group fuel depth groups token.place source
            alternative fuel depth met (.plain pieces :: done) source
          | .ahead inverted =>
            let (pieces, met, source) ← group fuel depth groups token.place source
            alternative fuel depth met (.piece (.group (.ahead (sequence pieces) inverted)) :: done) source
        | '*' | '+' | '?' | '{' =>
          let (done, source) ← repeatLast token done source
          alternative fuel depth groups done source
        | c => alternative fuel depth groups (.piece (single c.toNat) :: done) source
termination_by structural fuel

/-- The inside of a group that began at `place`, with its closing parenthesis. -/
def group (fuel depth : Nat) (groups : Groups) (place : Nat) (source : Source) :
    Except Error (List Piece × Groups × Source) :=
  match fuel, depth with
  | 0, _ => .error ⟨.unterminatedGroup, place⟩
  | _, 0 => .error ⟨.tooDeep, place⟩
  | fuel + 1, depth + 1 => do
    let (pieces, met, source) ← alternatives fuel depth groups source
    let (isClosed, source) ← source.accept ')'
    if isClosed then return (pieces, met, source) else throw ⟨.unterminatedGroup, place⟩
termination_by structural fuel

end

/-- The pattern that a text spells. -/
def parse (text : String) : Except Error Pattern := do
  let chars := text.toList
  let (tokens, isBroken) := tokenize 0 chars
  let source ← Source.check ⟨tokens, chars.length, isBroken⟩
  let (pieces, _, source) ← alternatives (4 * chars.length + 4) depthLimit {} source
  if source.tokens.isEmpty then return sequence pieces else throw ⟨.unbalanced, source.tell⟩

end DeclIndex.Pattern
