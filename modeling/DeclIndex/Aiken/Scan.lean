import DeclIndex.Aiken.Function
import DeclIndex.Aiken.Type
import DeclIndex.Module

/-!
# Scanning Aiken files

One pass over the lines of a file. Every line that is not part of a declaration met before is looked at
for a head; a function takes the rest of its signature with it, a type its definition and a constant its
value. Bodies of functions are looked at again, so that nothing in them hides a declaration.
-/

namespace DeclIndex.Aiken
open DeclIndex.Text

/-- The package a file is scanned for. -/
structure Origin where
  /-- The id of the package. -/
  source : String
  /-- Whether the package has modules that re-export functions of others. -/
  reExports : Bool := false

/-- The import that a head line gives. -/
def importAt (source : String) (index : Nat) (head : UseHead) (line : List Char) : Import where
  module := String.ofList head.module
  items := match head.items with
    | some items => (items.splitOn ',').map fun item => String.ofList (trim item)
    | none => []
  renamed := head.renamed.map String.ofList
  line := index + 1
  raw := String.ofList (trim line)
  source := source

/-- What a head on `line` introduces, and how many lines below it are read with it. -/
def declarationAt? (origin : Origin) (above : List (List Char)) (line : List Char)
    (below : List (List Char)) : Option (Declaration × Nat) :=
  let index := above.length
  match head? (trim line) with
  | none => none
  | some (.use head) => some (.imported (importAt origin.source index head line), 0)
  | some (.function head) =>
    some (.function (functionAt origin.source above head line below), signatureLength line below)
  | some (.type head) =>
    (typeAt? origin.source index head line below).map fun (type, length) => (.type type, length)
  | some (.constant head) =>
    let (constant, length) := constantAt origin.reExports origin.source index head line below
    some (.constant constant, length)

/-- The declarations in some lines of a file, given the lines above them nearest first. -/
def sightingsFrom (origin : Origin) (above group : List (List Char)) : List Sighting :=
  match group with
  | [] => []
  | line :: below =>
    match declarationAt? origin above line below with
    | none => sightingsFrom origin (line :: above) below
    | some (declaration, length) =>
      ⟨above.length, above.length + length, declaration⟩ ::
        sightingsFrom origin ((line :: below.take length).reverse ++ above) (below.drop length)
termination_by group.length
decreasing_by
  · simp
  · rw [List.length_drop, List.length_cons]
    omega

/-- The declarations of a file with their lines, in file order. -/
def sightings (origin : Origin) (text : List Char) : List Sighting :=
  sightingsFrom origin [] (lines text)

/-- The outline of a file. -/
def scan (origin : Origin) (text : String) : Outline :=
  Outline.ofSightings (sightings origin text.toList)

def module (origin : Origin) (path name content : String) (isAggregator : Bool) : Module :=
  Module.ofOutline path name origin.source content (scan origin content) isAggregator

end DeclIndex.Aiken
