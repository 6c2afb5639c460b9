import DeclIndex.Text.Find

/-!
# Search items

What a search looks at: one entry of a library, with the texts that a query is compared with.
-/

namespace DeclIndex.Search
open DeclIndex.Text

/-- One entry of a library that can be ranked. -/
structure Item where
  key : String
  name : String
  source : String
  /-- The key of a declaration; modules have none. -/
  fullName : Option String := none
  signature : Option String := none
  documentation : Option String := none
deriving DecidableEq

/-- The source that stands for all of them. -/
def allSources : String := "all"

/-- Whether an item comes from the wanted source. -/
def Item.isFrom (source : String) (item : Item) : Bool :=
  source == allSources || item.source == source

/-- Whether an item lies in a scope: its full name begins with it, or, for an item without one, its key is the
scope. The empty scope holds everything. -/
def Item.isIn (scope : String) (item : Item) : Bool :=
  scope.isEmpty ||
    match item.fullName with
    | some name => if name.isEmpty then item.key == scope else startsWith name.toList scope
    | none => item.key == scope

/-- The items of a source in a scope, in their order. -/
def select {α : Type} (view : α → Item) (source scope : String) (items : List α) : List α :=
  items.filter fun item => (view item).isFrom source && (view item).isIn scope

end DeclIndex.Search
