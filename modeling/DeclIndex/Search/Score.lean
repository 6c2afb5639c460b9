import DeclIndex.Search.Item
import DeclIndex.Text.Blank
import DeclIndex.Text.Lower

/-!
# Scores

How well a text fits a query. Both are lower-cased before. The score of a field is a sum of terms, each a whole
number of points or such a number times a ratio of lengths; the terms are added from left to right in binary64.
-/

namespace DeclIndex.Search
open DeclIndex.Text

/-- One summand of a score. -/
inductive Term where
  /-- Whole points. -/
  | points (n : Int)
  /-- Points times the ratio of two lengths. -/
  | share (n : Int) (part whole : Nat)
deriving DecidableEq

def Term.toFloat : Term → Float
  | .points n => Float.ofInt n
  | .share n part whole => Float.ofInt n * (Float.ofNat part / Float.ofNat whole)

/-- The points of a term. -/
def Term.size : Term → Int
  | .points n => n
  | .share n _ _ => n

/-- Whether the points of a term are small enough for a finite binary64 number. -/
def Term.isFinite (term : Term) : Bool :=
  term.size.natAbs < Nat.pow 2 1024 - Nat.pow 2 970

/-- The exact value of a term. -/
def Term.toRat : Term → Rat
  | .points n => n
  | .share n part whole => (n : Rat) * ((part : Rat) / (whole : Rat))

/-- Underscores read as spaces. -/
def spaced (text : List Char) : List Char :=
  text.map fun c => if c = '_' then ' ' else c

/-- Whether a query stands in a text, underscores read as spaces. -/
def isIn (query text : List Char) : Bool :=
  occurs query text || occurs (spaced query) (spaced text)

/-- Points for where a query stands in a text: it is the text, or its beginning, or its end, or borders on an
underscore. -/
def placeTerms (weight : Int) (query text : List Char) : List Term :=
  if text = query || spaced text = spaced query then [.points (weight * 500)]
  else if query.isPrefixOf text || (spaced query).isPrefixOf (spaced text) then [.points (weight * 300)]
  else if query.isSuffixOf text || (spaced query).isSuffixOf (spaced text) then [.points (weight * 250)]
  else if occurs ('_' :: query) text || occurs (query ++ ['_']) text then [.points (weight * 200)]
  else []

/-- Points for how much of a text a query covers. -/
def coverTerm (weight : Int) (query text : List Char) : Term :=
  if text.isEmpty then .share (weight * 100) 0 1 else .share (weight * 100) query.length text.length

/-- Points for how early a query stands in a text; from the twenty-fifth character on there are none. -/
def earlyTerms (weight : Int) (query text : List Char) : List Term :=
  match indexOf? (spaced query) (spaced text) with
  | some index => [.points (weight * (50 - 2 * index : Nat))]
  | none => []

/-- The terms for a query that stands in a text. -/
def substringTerms (weight : Int) (query text : List Char) : List Term :=
  if isIn query text then
    .points (weight * 100) :: placeTerms weight query text ++ coverTerm weight query text ::
      earlyTerms weight query text
  else []

/-- The words of a query. There is always at least one, which may be empty. -/
def queryWords (query : List Char) : List (List Char) :=
  pieces isBlank query

/-- What separates the tokens of a text. -/
def isTokenBreak (c : Char) : Bool :=
  isBlank c || c == '_' || c == '-' || c == '.'

/-- The tokens of a text. -/
def tokens (text : List Char) : List (List Char) :=
  pieces isTokenBreak text

/-- Whether every word stands in some token. -/
def allFound (words tokens : List (List Char)) : Bool :=
  words.all fun word => tokens.any (occurs word)

/-- Whether the words stand in tokens one after the other: each in a token behind that of the word before. -/
def inOrder : List (List Char) → List (List Char) → Bool
  | [], _ => true
  | word :: words, tokens =>
    match tokens.dropWhile (!occurs word ·) with
    | [] => false
    | _ :: rest => inOrder words rest

/-- The terms for a query of several words. -/
def wordsTerms (weight : Int) (words tokens : List (List Char)) : List Term :=
  if allFound words tokens then
    .points (weight * 400) :: if inOrder words tokens then [.points (weight * 200)] else []
  else []

/-- The terms for a query of one word with at least three characters: each token counts that begins with it and is
at most twice as long. -/
def prefixTerms (weight : Int) (word : List Char) (tokens : List (List Char)) : List Term :=
  if word.length < 3 then []
  else
    (tokens.filter fun token => word.isPrefixOf token && token.length ≤ 2 * word.length).flatMap
      fun token => [.points (weight * 20), .share (weight * 10) word.length token.length]

/-- The terms for the words of a query. -/
def wordTerms (weight : Int) (query text : List Char) : List Term :=
  match queryWords query with
  | [word] => prefixTerms weight word (tokens text)
  | words => wordsTerms weight words (tokens text)

/-- All terms of a field, in the order they are added. -/
def fieldTerms (weight : Int) (query text : List Char) : List Term :=
  substringTerms weight query text ++ wordTerms weight query text

/-- A score, and whether anything matched at all. -/
structure Scored where
  score : Float
  matched : Bool

/-- The score of a field. Every match brings at least one term. -/
def scoreField (weight : Int) (query text : List Char) : Scored :=
  let terms := fieldTerms weight query text
  ⟨terms.foldl (fun sum term => sum + term.toFloat) 0.0, !terms.isEmpty⟩

/-- The score of a field, if all its terms are finite. -/
def scoreField? (weight : Int) (query text : List Char) : Option Scored :=
  if (fieldTerms weight query text).all Term.isFinite then some (scoreField weight query text) else none

/-- The exact score of a field. -/
def exactScore (weight : Int) (query text : List Char) : Rat :=
  (fieldTerms weight query text).foldl (fun sum term => sum + term.toRat) 0

/-- The fields of an item with their weights. -/
def Item.fields (item : Item) : List (Int × String) :=
  [(10, item.name), (5, item.fullName.getD ""), (3, item.signature.getD ""),
    (1, item.documentation.getD "")]

/-- The score of an item: the sum over its fields, all lower-cased like the query. -/
def scoreItem (query : String) (item : Item) : Scored :=
  let lowered := lower query.toList
  item.fields.foldl
    (fun total (weight, text) =>
      let field := scoreField weight lowered (lower text.toList)
      ⟨total.score + field.score, total.matched || field.matched⟩)
    ⟨0.0, false⟩

end DeclIndex.Search
