import DeclIndex.Value.Integer
import DeclIndex.Value.Text

/-!
# Packages

A package is a directory of source files with an id, a language and the names of the modules in it that
re-export functions of others.
-/

namespace DeclIndex

/-- The languages that can be scanned. -/
inductive SourceLanguage where
  | aiken
  | typescript
deriving DecidableEq

def SourceLanguage.ofName? : String → Option SourceLanguage
  | "aiken" => some .aiken
  | "typescript" => some .typescript
  | _ => none

def SourceLanguage.name : SourceLanguage → String
  | .aiken => "aiken"
  | .typescript => "typescript"

/-- One package of a registry. -/
structure Package where
  /-- The id that marks every declaration of the package. -/
  id : String
  name : String
  /-- The directory, relative to the project. -/
  path : String
  language : SourceLanguage := .aiken
  description : String := ""
  /-- Whether the package is built when none is asked for. -/
  enabled : Bool := true
  /-- The place in lists, lower first. -/
  priority : Int := 0
  /-- The modules that re-export functions of others, in the order their names are recorded. -/
  aggregators : List String := []
deriving DecidableEq

/-- Whether some module of the package re-exports functions of others. -/
def Package.reExports (package : Package) : Bool :=
  !package.aggregators.isEmpty

/-- Why a registry cannot be made or asked. -/
inductive RegistryError where
  /-- An entry lacks a field that it must have, or a field has no members. -/
  | badEntry (entry : Value) (cause : AccessError)
  /-- The priority of an entry is no whole number. -/
  | badPriority (entry : Value) (cause : Value.IntegerError)
  /-- An entry, or a value in it, cannot be shown. -/
  | unshown (excess : Excess)
  | duplicate (id : String)
  | unsupported (id language : String)
  | unknown (ids : List String)

def RegistryError.message : RegistryError → String
  | .badEntry entry cause => "Invalid package entry " ++ entry.literal ++ ": " ++ cause.message
  | .badPriority entry cause => "Invalid package entry " ++ entry.literal ++ ": " ++ cause.message
  | .unshown excess => excess.message
  | .duplicate id => "Duplicate package id: " ++ Text.quote id
  | .unsupported id language =>
    "Package " ++ Text.quote id ++ " has unsupported language " ++ Text.quote language
  | .unknown ids => "Unknown package id(s): " ++ ", ".intercalate ids

/-- Whether an error is reported with its wording. An infinite priority is not, nor a value that cannot be shown. -/
def RegistryError.isReported : RegistryError → Bool
  | .badPriority _ .infinite => false
  | .unshown _ => false
  | _ => true

namespace Package

/-- A package whose language is still a name. -/
structure Draft where
  package : Package
  language : String

section Entry

variable (room : Value.Room) (entry : Value)

/-- An error about an entry, unless the entry cannot be shown in its message. -/
def flawed (error : RegistryError) : RegistryError :=
  match entry.excess? (room .entry) with
  | some excess => .unshown excess
  | none => error

/-- A part of an entry. -/
def part {α : Type} (found : Except AccessError α) : Except RegistryError α :=
  found.mapError fun cause => flawed room entry (.badEntry entry cause)

/-- A value in an entry as a text. One with too many digits makes the entry a bad one, one that is nested too deep does
not. -/
def textAt (place : Value.Place) (value : Value) : Except RegistryError String :=
  (value.toText (room place)).mapError fun
    | .digits => flawed room entry (.unshown .digits)
    | .nesting => .unshown .nesting

/-- The priority of an entry. An infinite one does not make it a bad entry. -/
def priorityOf (value : Value) : Except RegistryError Int :=
  value.toInteger.mapError fun
    | .infinite => .badPriority entry .infinite
    | cause => flawed room entry (.badPriority entry cause)

/-- An entry of the settings as a package. Fields of any kind are taken as texts, truth values and numbers, one after the
other. -/
def draft : Except RegistryError Draft := do
  let idValue ← part room entry (entry.field "id")
  let id ← textAt room entry .package idValue
  let name ← textAt room entry .package (entry.fieldD "name" idValue)
  let pathValue ← part room entry (entry.field "path")
  let path ← textAt room entry .package pathValue
  let language ← textAt room entry .package (entry.fieldD "language" (.str "aiken"))
  let description ← textAt room entry .package (entry.fieldD "description" (.str ""))
  let enabled := (entry.fieldD "enabled" (.bool true)).isTrue
  let priority ← priorityOf room entry (entry.fieldD "priority" (.int 0))
  let aggregatorValues ← part room entry (entry.fieldD "re_export_modules" (.arr [])).members
  let aggregators ← aggregatorValues.mapM (textAt room entry .aggregator)
  return { package := { id, name, path, description, enabled, priority, aggregators }, language }

end Entry

end Package

end DeclIndex
