import DeclIndex.Pattern.Error

/-!
# Tokens of search patterns

A pattern is read token by token, a token being a character or an escaped character. A backslash that nothing
follows is found as soon as the token before it is read.
-/

namespace DeclIndex.Pattern

/-- A character, with a backslash before it or not, and its place in the pattern. -/
structure Token where
  place : Nat
  isEscaped : Bool
  char : Char
deriving DecidableEq

/-- How many characters a token takes. -/
def Token.size (token : Token) : Nat :=
  if token.isEscaped then 2 else 1

def Token.text (token : Token) : List Char :=
  if token.isEscaped then ['\\', token.char] else [token.char]

/-- Whether a token is a certain character without a backslash. -/
def Token.is (token : Token) (c : Char) : Bool :=
  !token.isEscaped && token.char == c

/-- What is left to read: tokens, and behind them the end or a lone backslash. -/
structure Source where
  tokens : List Token
  /-- The number of characters of the pattern. -/
  size : Nat
  /-- Whether the pattern ends with a backslash that nothing follows. -/
  isBroken : Bool

/-- The tokens of a pattern, from a place on, and whether a backslash is left over. -/
def tokenize (place : Nat) : List Char → List Token × Bool
  | [] => ([], false)
  | ['\\'] => ([], true)
  | '\\' :: c :: rest =>
    let (tokens, isBroken) := tokenize (place + 2) rest
    (⟨place, true, c⟩ :: tokens, isBroken)
  | c :: rest =>
    let (tokens, isBroken) := tokenize (place + 1) rest
    (⟨place, false, c⟩ :: tokens, isBroken)

namespace Source

/-- The place of the next token, or of the end. -/
def tell (source : Source) : Nat :=
  match source.tokens with
  | token :: _ => token.place
  | [] => source.size

/-- Fails if a lone backslash comes next. -/
def check (source : Source) : Except Error Source :=
  if source.tokens.isEmpty && source.isBroken then .error ⟨.escapeAtEnd, source.size - 1⟩
  else .ok source

/-- The source behind its next token. -/
def advance (source : Source) : Except Error Source :=
  check { source with tokens := source.tokens.drop 1 }

/-- Whether a certain character comes next, and the source behind it if so. -/
def accept (source : Source) (c : Char) : Except Error (Bool × Source) :=
  match source.tokens with
  | token :: _ => if token.is c then do return (true, ← source.advance) else .ok (false, source)
  | [] => .ok (false, source)

/-- Reads up to `count` characters of a class. -/
def takeUpTo (source : Source) (inClass : Char → Bool) : Nat → Except Error (List Char × Source)
  | 0 => .ok ([], source)
  | count + 1 =>
    match source.tokens with
    | token :: _ =>
      if !token.isEscaped && inClass token.char then do
        let (more, left) ← takeUpTo (← source.advance) inClass count
        return (token.char :: more, left)
      else .ok ([], source)
    | [] => .ok ([], source)

end Source

end DeclIndex.Pattern
