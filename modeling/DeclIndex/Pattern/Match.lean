import DeclIndex.Pattern.Basic

/-!
# Places in a text

Only whether a pattern stands somewhere in a text is ever asked, so a pattern means, for each set of places where it may begin,
the set of places where it may end. The places in a text of `n` characters are the numbers up to `n`, and a set of them is a
number with the bits of its members.
-/

namespace DeclIndex.Pattern
open DeclIndex.Text

/-- The places of the characters for which a test holds. -/
def placesOf (holds : Letter → Bool) (text : List Letter) : Nat :=
  text.foldr (fun letter places => 2 * places + (holds letter).toNat) 0

/-- The places before which or behind which, but not both, there is a word character. -/
def boundaries (text : List Letter) : Nat :=
  let words := placesOf (fun letter => isWordChar letter.char) text
  words ^^^ (words <<< 1)

/-- All places in a text. -/
def allPlaces (text : List Letter) : Nat :=
  (1 <<< (text.length + 1)) - 1

/-- The places where a text ends, the one before a line feed at its end included. -/
def stops (text : List Letter) : Nat :=
  let close := 1 <<< text.length
  match text.getLast? with
  | some letter => if letter.char = '\n' then close ||| (close >>> 1) else close
  | none => close

/-- A pattern over one text. -/
inductive Plan where
  /-- One character, at one of some places. -/
  | step (places : Nat)
  /-- Nothing, at one of some places. -/
  | stay (places : Nat)
  | seq (first second : Plan)
  | alt (first second : Plan)
  | loop (inner : Plan) (least : Nat) (most : Option Nat)
  | greedy (inner : Plan) (least : Nat) (most : Option Nat)
  | ahead (inner : Plan) (inverted : Bool)
  /-- The ends, written down for each place of the beginning. -/
  | listed (ends : Array Nat)

/-! ## Repetitions -/

/-- One more round of a repetition, up to `count` times, from some places on. Stops when nothing changes. -/
def rounds (next : Nat → Nat) : Nat → Nat → Nat
  | 0, places => places
  | count + 1, places =>
    let after := next places
    if after = places then places else rounds next count after

/-- All places that up to `count` more rounds reach, with those `found` so far, of which the `fresh` ones have led to
nothing yet. -/
def reach (next : Nat → Nat) : Nat → Nat → Nat → Nat
  | 0, found, _ => found
  | count + 1, found, fresh =>
    let more := found ||| next fresh
    if more = found then found else reach next count more (more ^^^ found)

/-- All places that a repetition reaches in a text of `size` characters. -/
def repeated (size : Nat) (next : Nat → Nat) (least : Nat) (most : Option Nat) (places : Nat) : Nat :=
  let first := rounds next least places
  reach next (match most with | some most => most - least | none => size + 1) first first

/-! ## Single places -/

/-- The union of what the places in a set lead to, one by one. -/
def eachPlace (size : Nat) (next : Nat → Nat) (places : Nat) : Nat :=
  (List.range (size + 1)).foldl
    (fun found place => if places.testBit place then found ||| next place else found) 0

/-- The last place of a set, if there is one. -/
def lastOf (places : Nat) : Nat :=
  if places = 0 then 0 else 1 <<< places.log2

namespace Plan

/-- The places where a pattern may end that begins at one of some places, in a text of `size` characters. -/
def after (size : Nat) (plan : Plan) (places : Nat) : Nat :=
  match plan with
  | .step among => (places &&& among) <<< 1
  | .stay among => places &&& among
  | .seq first second => second.after size (first.after size places)
  | .alt first second => first.after size places ||| second.after size places
  | .loop inner least most => repeated size (inner.after size) least most places
  | .greedy inner least most =>
    eachPlace size (fun place => lastOf (repeated size (inner.after size) least most (1 <<< place))) places
  | .ahead inner inverted =>
    eachPlace size (fun place => if (inner.after size (1 <<< place) == 0) == inverted then 1 <<< place else 0) places
  | .listed ends => eachPlace size (fun place => ends.getD place 0) places

/-- How deep repetitions are nested in a plan, apart from those whose ends are listed. -/
def depth : Plan → Nat
  | .step _ => 0
  | .stay _ => 0
  | .seq first second => max first.depth second.depth
  | .alt first second => max first.depth second.depth
  | .loop inner _ _ => inner.depth + 1
  | .greedy inner _ _ => inner.depth + 1
  | .ahead inner _ => inner.depth + 1
  | .listed _ => 0

/-- How deep repetitions are nested at most before ends are listed. -/
def nestingLimit : Nat := 4

/-- A plan that is about to be repeated. Each round of a repetition asks for rounds of those within it, so the ends of a deep
one are listed, and the work does not multiply. -/
def forLoop (size : Nat) (plan : Plan) : Plan :=
  if plan.depth < nestingLimit then plan
  else .listed ((Array.range (size + 1)).map fun place => plan.after size (1 <<< place))

end Plan

/-! ## Patterns -/

/-- A pattern over a text. There is no boundary in an empty text, nor a place that is none. -/
def plan (text : List Letter) : Pattern → Plan
  | .never => .stay 0
  | .empty => .stay (allPlaces text)
  | .set members inverted => .step (placesOf (isIn members · != inverted) text)
  | .any => .step (placesOf (·.char != '\n') text)
  | .start => .stay 1
  | .stop => .stay (stops text)
  | .close => .stay (1 <<< text.length)
  | .boundary false => .stay (boundaries text)
  | .boundary true => .stay (if text.isEmpty then 0 else allPlaces text ^^^ boundaries text)
  | .seq first second => .seq (plan text first) (plan text second)
  | .alt first second => .alt (plan text first) (plan text second)
  | .loop inner least most => .loop ((plan text inner).forLoop text.length) least most
  | .greedy inner least most => .greedy ((plan text inner).forLoop text.length) least most
  | .ahead inner inverted => .ahead (plan text inner) inverted

/-- Whether a pattern stands somewhere in a text. -/
def occursIn (pattern : Pattern) (text : String) : Bool :=
  let letters := text.toList.map Letter.of
  (plan letters pattern).after letters.length (allPlaces letters) != 0

end DeclIndex.Pattern
