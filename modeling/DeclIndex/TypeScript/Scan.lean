import DeclIndex.Module
import DeclIndex.TypeScript.Export
import DeclIndex.TypeScript.Function

/-!
# Scanning TypeScript files

One pass over the lines of a file. Block comments that begin a line are passed over; types take their lines with
them, and the bodies of functions are looked at again.
-/

namespace DeclIndex.TypeScript
open DeclIndex.Text

/-- The names that the item list of an import picks, without renamings and type markers. -/
def importedNames (items : List Char) : List String :=
  (items.splitOn ',').filterMap fun item =>
    let item := dropFront "type ".toList (trim item)
    let name := trim (item.take ((indexOf? " as ".toList item).getD item.length))
    if name.isEmpty then none else some (String.ofList name)

def importAt? (source : String) (index : Nat) (line : List Char) : Option Import :=
  (importHead? (trim line)).map fun head =>
    { module := String.ofList head.module
      items := (head.items.map importedNames).getD []
      renamed := head.renamed.map String.ofList
      line := index + 1
      raw := String.ofList (trim line)
      source := source }

/-- The name of the function on a trimmed line, unless it is a keyword that only looks like one. -/
def namedFunction? (line : List Char) : Option (List Char) :=
  (functionHead? line).filter fun name => !notFunctions.contains (String.ofList name)

def constantAt? (source : String) (exported : List String) (index : Nat) (line : List Char) :
    Option Constant :=
  (constantHead? (trim line)).map fun head =>
    { name := String.ofList head.name
      type := (head.type.map String.ofList).getD "any"
      value := String.ofList head.value
      line := index + 1
      raw := String.ofList (trim line)
      isPublic := exported.contains (String.ofList head.name)
      source := source }

/-- What a line introduces, and how many lines below it are read with it. A line that begins with the word
`import` is an import or nothing. -/
def declarationAt? (source : String) (exported : List String) (above : List (List Char))
    (line : List Char) (below : List (List Char)) : Option (Declaration × Nat) :=
  let index := above.length
  if startsWith (trim line) "import" then
    (importAt? source index line).map fun value => (.imported value, 0)
  else
    match typeHead? (trim line) with
    | some head =>
      let (type, length) := typeAt source exported index head line below
      some (.type type, length)
    | none =>
      match namedFunction? (trim line) with
      | some name => some (.function (functionAt source exported above name line below), 0)
      | none => (constantAt? source exported index line).map fun value => (.constant value, 0)

/-- Whether a line ends a block comment. -/
def endsComment (line : List Char) : Bool :=
  occurs ['*', '/'] (trim line)

/-- The declarations in some lines of a file, given the lines above them nearest first and whether a block
comment is open. -/
def sightingsFrom (source : String) (exported : List String) (inComment : Bool)
    (above group : List (List Char)) : List Sighting :=
  match group with
  | [] => []
  | line :: below =>
    if inComment || startsWith (trim line) "/*" then
      sightingsFrom source exported (!endsComment line) (line :: above) below
    else
      match declarationAt? source exported above line below with
      | none => sightingsFrom source exported false (line :: above) below
      | some (declaration, length) =>
        ⟨above.length, above.length + length, declaration⟩ ::
          sightingsFrom source exported false ((line :: below.take length).reverse ++ above)
            (below.drop length)
termination_by group.length
decreasing_by
  · simp
  · simp
  · rw [List.length_drop, List.length_cons]
    omega

/-- The declarations of a file with their lines, in file order. -/
def sightings (source : String) (text : List Char) : List Sighting :=
  sightingsFrom source ((exports source text).map (·.name)) false [] (lines text)

/-- The outline of a file. -/
def scan (source : String) (text : String) : Outline :=
  Outline.ofSightings (sightings source text.toList)

def module (source path name content : String) : Module :=
  Module.ofOutline path name source content (scan source content) false

end DeclIndex.TypeScript
