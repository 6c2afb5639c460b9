import DeclIndex.Aiken.Head
import DeclIndex.Library.Basic
import DeclIndex.Notice
import DeclIndex.Registry
import DeclIndex.Text.Lines

/-!
# Aliases

An aggregator module re-exports functions of other modules of its package under names of its own, with lines of the
form `pub const name = module.function`. The alias pass records those names with the functions.

The pass changes functions in the tables of a library, and a module shows the change of a function that it shares with a table.
Which functions those are is read off equality with the entry. That is the sharing that adding modules under one setting for
private declarations leaves; a module that is added under another setting later on may equal an entry that it does not share.
-/

namespace DeclIndex
open DeclIndex.Text

/-! ## Re-exporting lines -/

/-- What a re-exporting line says. -/
structure ReExport where
  module : List Char
  function : List Char
  exported : List Char
deriving DecidableEq

/-- The re-export on a trimmed line. -/
def reExportLine? (line : List Char) : Option ReExport := do
  let rest ← dropKeyword? "const" (← dropKeyword? "pub" line)
  let (exported, rest) ← Aiken.alphabet.ident? rest
  match trimLeft rest with
  | '=' :: value =>
    let (module, rest) ← Aiken.alphabet.ident? (trimLeft value)
    match rest with
    | '.' :: member =>
      let (function, _) ← Aiken.alphabet.ident? member
      return ⟨module, function, exported⟩
    | _ => none
  | _ => none

/-- What a re-export refers to. -/
def ReExport.target (line : ReExport) : String :=
  String.ofList (line.module ++ '.' :: line.function)

/-- The re-exports of a text. Of lines that refer to the same function the last one counts, in the place of the
first. -/
def reExports (content : String) : Table ReExport :=
  Table.empty.insertAll
    (((lines content.toList).filterMap fun line => reExportLine? (trim line)).map fun line =>
      (line.target, line))

/-! ## The pass -/

/-- A name for the functions called `function` whose key contains `module`. -/
structure Naming where
  module : List Char
  function : String
  name : String
deriving DecidableEq

/-- Whether a naming is about the function under a key. -/
def Naming.covers (naming : Naming) (key : String) (f : Function) : Bool :=
  f.name == naming.function && occurs naming.module key.toList

namespace Library

/-- The namings of the aggregators of a package, in order. Aggregators that the library does not have make none. -/
def namings (library : Library) (source : String) (aggregators : List String) : List Naming :=
  aggregators.flatMap fun aggregator =>
    match library.modules.get? (Module.keyOf source aggregator) with
    | none => []
    | some m => (reExports m.content).values.map fun line =>
        ⟨line.module, String.ofList line.function, aggregator ++ "." ++ String.ofList line.exported⟩

/-- The function under a key after one more naming: its name is a new alias if the naming covers the function. -/
def annotate (key : String) (f : Function) (naming : Naming) : Function :=
  if naming.covers key f && !f.aliases.contains naming.name then
    { f with aliases := f.aliases ++ [naming.name] }
  else f

/-- The function under a key with its aliases taken away and those of some namings recorded one after the other. Functions of
other packages keep theirs. -/
def rename (source : String) (namings : List Naming) (key : String) (f : Function) : Function :=
  if f.source = source then namings.foldl (annotate key) { f with aliases := [] } else f

/-- How many namings cover the functions of a package in a table. -/
def countNamings (source : String) (namings : List Naming) (table : Table Function) : Nat :=
  (table.entries.flatMap fun (key, f) =>
    if f.source = source then namings.filter (·.covers key f) else []).length

/-- The functions of a module after those that are entries of a table have been changed. A function is the
entry under its key if no later one has its name. -/
def changeEntries (table : Table Function) (change : String → Function → Function) (m : Module) :
    List Function → List Function
  | [] => []
  | f :: later =>
    let isEntry := later.all (·.name != f.name) && table.get? (m.keyFor f.name) = some f
    (if isEntry then change (m.keyFor f.name) f else f) :: changeEntries table change m later

/-- A library with the functions in its tables changed. Modules show the change where a function is the entry. -/
def changeFunctions (library : Library) (change : String → Function → Function) : Library :=
  { library with
    functions := library.functions.map change
    atoms := library.atoms.map change
    modules := library.modules.map fun _ m =>
      { m with
        functions := changeEntries library.functions change m m.functions
        atoms := changeEntries library.atoms change m m.atoms } }

/-- The alias pass for one package: aliases of its functions are recomputed from nothing. Also tells how many
namings were recorded. -/
def recordAliases (library : Library) (source : String) (aggregators : List String) : Library × Nat :=
  let namings := library.namings source aggregators
  (library.changeFunctions (rename source namings),
   countNamings source namings library.functions + countNamings source namings library.atoms)

/-- The alias pass for every package with aggregators. -/
def resolveAliases (library : Library) (registry : Registry) : Library × List Notice :=
  (registry.packages.filter (·.reExports)).foldl
    (fun (library, notices) package =>
      let (library, count) := library.recordAliases package.id package.aggregators
      (library, if count = 0 then notices else notices ++ [.aliases count package.id]))
    (library, [])

/-- The library of some modules: counters for every package of the registry, the modules in their order, then the
alias pass. -/
def build (registry : Registry) (includePrivate : Bool) (lastUpdated : String) (modules : List Module) :
    Library × List Notice :=
  ((blank lastUpdated (registry.packages.map (·.id))).addModules includePrivate modules).resolveAliases
    registry

end Library

end DeclIndex
