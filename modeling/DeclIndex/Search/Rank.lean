import DeclIndex.Search.Score

/-!
# Ranking

The items that match a query, best first. Items with equal scores keep their order.
-/

namespace DeclIndex.Search
open DeclIndex.Text

/-- A whole number that orders finite binary64 numbers: the magnitude bits with the sign of the number. -/
def orderKey (x : Float) : Int :=
  let bits := x.toBits.toNat
  let magnitude : Int := (bits % Nat.pow 2 63 : Nat)
  if bits / Nat.pow 2 63 = 1 then -magnitude else magnitude

/-- The items that match a query, each with its score. -/
def scored {α : Type} (view : α → Item) (query : String) (items : List α) : List (Int × α) :=
  items.filterMap fun item =>
    let result := scoreItem query (view item)
    if result.matched then some (orderKey result.score, item) else none

def isBlankQuery (query : String) : Bool :=
  query.toList.all isBlank

/-- The items of a source in a scope that match a query, best first. A blank query keeps them all as they are. -/
def rank {α : Type} (view : α → Item) (query source scope : String) (items : List α) : List α :=
  let chosen := select view source scope items
  if isBlankQuery query then chosen
  else ((scored view query chosen).mergeSort fun a b => b.1 ≤ a.1).map (·.2)

end DeclIndex.Search
