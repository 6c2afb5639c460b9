import DeclIndex.Search.Item
import DeclIndex.Text.Find
import DeclIndex.Value.Integer

/-!
# Command lines

A command line names a command, its arguments and its switches. Switches may stand between the arguments; two hyphens alone end them.
-/

namespace DeclIndex.Command
open DeclIndex.Text

/-! ## Switches -/

/-- A switch of a command. -/
structure Switch where
  /-- The name after two hyphens. -/
  name : String
  /-- The letter after one hyphen. -/
  letter : Option Char := none
  takesValue : Bool := false
deriving DecidableEq

/-- The switch that every command has. -/
def helpSwitch : Switch := { name := "help" }

/-- What stands on a command line after the name of the command. -/
structure Arguments where
  /-- The switches that were given with their values, empty for those that take none. -/
  given : List (String × String) := []
  positional : List String := []
deriving DecidableEq

namespace Arguments

/-- Arguments with one more switch. -/
def give (arguments : Arguments) (switch : Switch) (value : String) : Arguments :=
  { arguments with given := arguments.given ++ [(switch.name, value)] }

/-- Whether a switch was given. -/
def has (arguments : Arguments) (name : String) : Bool :=
  arguments.given.any (·.1 == name)

def values (arguments : Arguments) (name : String) : List String :=
  (arguments.given.filter (·.1 == name)).map (·.2)

/-- The last value given to a switch. -/
def value (arguments : Arguments) (name default : String) : String :=
  ((arguments.values name).getLast?).getD default

end Arguments

/-- Whether a word is read as a switch. -/
def isSwitch (word : String) : Bool :=
  startsWith word.toList "-" && 1 < word.length

/-- A word cut at its first equals sign. -/
def cutValue (word : List Char) : List Char × Option (List Char) :=
  (word.takeWhile (· != '='),
    match word.dropWhile (· != '=') with
    | _ :: value => some value
    | [] => none)

/-- The switches that a run of letters gives. A letter that takes a value takes the rest of the run; one at the end still waits for
its value. -/
def cluster (switches : List Switch) : List Char → Option (List (Switch × String) × Option Switch)
  | [] => some ([], none)
  | c :: rest =>
    match switches.find? (·.letter == some c) with
    | none => none
    | some switch =>
      if switch.takesValue then
        if rest.isEmpty then some ([], some switch) else some ([(switch, String.ofList rest)], none)
      else (cluster switches rest).map fun (given, waiting) => ((switch, "") :: given, waiting)

/-- What a word that is read as a switch gives, and the switch that takes the next word as its value. -/
def readSwitch (switches : List Switch) (word : String) :
    Option (List (Switch × String) × Option Switch) :=
  let (name, value) := cutValue word.toList
  match switches.find? fun switch => ("--" ++ switch.name).toList == name with
  | some switch =>
    match switch.takesValue, value with
    | true, some value => some ([(switch, String.ofList value)], none)
    | true, none => some ([], some switch)
    | false, none => some ([(switch, "")], none)
    | false, some _ => none
  | none =>
    if startsWith word.toList "--" then none else cluster switches (word.toList.drop 1)

/-- Reads the words after the name of a command. -/
def readArguments (switches : List Switch) (done : Arguments) : List String → Option Arguments
  | [] => some done
  | word :: rest =>
    if word = "--" then some { done with positional := done.positional ++ rest }
    else if isSwitch word then
      match readSwitch switches word with
      | none => none
      | some (given, waiting) =>
        let done := given.foldl (fun done (switch, value) => done.give switch value) done
        match waiting with
        | none => readArguments switches done rest
        | some switch =>
          match rest with
          | [] => none
          | value :: rest => readArguments switches (done.give switch value) rest
    else readArguments switches { done with positional := done.positional ++ [word] } rest

/-! ## Commands -/

/-- What the program is asked to do. -/
inductive Request where
  | help
  | build (root : String) (includeTests publicOnly : Bool) (sources : List String)
  | search (query kind source scope : String) (limit : Int)
  | stats
  | deps (key : String) (reverse : Bool)
deriving DecidableEq

def switches : String → Option (List Switch)
  | "build" => some
      [{ name := "include-tests" }, { name := "public-only" },
        { name := "source", letter := some 's', takesValue := true }, helpSwitch]
  | "search" => some
      [{ name := "kind", letter := some 'k', takesValue := true },
        { name := "source", letter := some 's', takesValue := true },
        { name := "scope", takesValue := true },
        { name := "limit", letter := some 'n', takesValue := true }, helpSwitch]
  | "stats" => some [helpSwitch]
  | "deps" => some [{ name := "reverse", letter := some 'r' }, helpSwitch]
  | _ => none

/-! ## Limits -/

/-- A text that begins with a zero, without the zeros at its front and the underscores between them. The last character left out is
kept if nothing or a point follows it. -/
def dropZeros (text : List Char) : List Char :=
  let isLoose (c : Char) : Bool := c == '0' || c == '_'
  let last := ((text.takeWhile isLoose).getLast?).toList
  match text.dropWhile isLoose with
  | [] => last
  | '.' :: fraction => last ++ '.' :: fraction
  | rest => rest

/-- A text without its fraction, which has zeros for digits and at least one of them. -/
def dropFraction? (text : List Char) : Option (List Char) :=
  match text.dropWhile (· != '.') with
  | [] => some text
  | _ :: zeros =>
    if !zeros.isEmpty && zeros.all (· == '0') then some (text.takeWhile (· != '.')) else none

/-- A text without its underscores. They stand alone and inside. -/
def dropUnderscores? (text : List Char) : Option (List Char) :=
  if text.head? == some '_' || text.getLast? == some '_' || occurs ['_', '_'] text then none
  else some (text.filter (· != '_'))

/-- The value of ASCII digits without zeros in front. -/
def digits? (text : List Char) : Option Nat :=
  if !text.isEmpty && text.all Char.isDigit && (text.head? != some '0' || text.length = 1) then
    some (text.foldl (fun value c => value * 10 + (c.toNat - '0'.toNat)) 0)
  else none

/-- The value of ASCII digits with or without a minus sign, all that together no longer than a whole number may be. -/
def signed? (text : List Char) : Option Int :=
  if Text.digitLimit < text.length then none
  else
    match text with
    | '-' :: rest => (digits? rest).map fun n => -(n : Int)
    | rest => (digits? rest).map fun n => (n : Int)

/-- The digits of a limit behind its sign, in a form that `signed?` reads. A minus sign may follow zeros. -/
def unsigned? (text : List Char) : Option (List Char) := do
  let text := if text.head? == some '0' then dropZeros text else text
  dropUnderscores? (← dropFraction? text)

/-- The limit that a text spells: a whole number in ASCII digits with blanks around it, a sign, zeros in front of it, single
underscores inside it and a fraction of zeros. -/
def limit? (text : String) : Option Int :=
  match Value.trimNumber text.toList with
  | '+' :: '-' :: _ => none
  | '+' :: rest => (unsigned? rest).bind signed?
  | '-' :: rest => (unsigned? rest).bind fun digits => signed? ('-' :: digits)
  | rest => (unsigned? rest).bind signed?

/-! ## Requests -/

/-- The request that a command with its arguments makes. Of several limits the last counts. -/
def request? (command : String) (arguments : Arguments) : Option Request :=
  if arguments.has "help" then some .help
  else
    match command, arguments.positional with
    | "build", [] => some (build ".")
    | "build", [root] => some (build root)
    | "search", [query] => do
      let limit ← limit? (arguments.value "limit" "20")
      return .search query (arguments.value "kind" "functions")
        (arguments.value "source" Search.allSources) (arguments.value "scope" "") limit
    | "stats", [] => some .stats
    | "deps", [key] => some (.deps key (arguments.has "reverse"))
    | _, _ => none
where
  build (root : String) : Request :=
    .build root (arguments.has "include-tests") (arguments.has "public-only") (arguments.values "source")

/-- Reads the switches before the name of a command: whether help is asked for, and the words that follow. -/
def leading? : List String → Option (Bool × List String)
  | [] => some (false, [])
  | word :: rest =>
    if word = "--" then some (false, rest)
    else if word = "--help" then (leading? rest).map fun (_, words) => (true, words)
    else if isSwitch word then none
    else some (false, word :: rest)

/-- The request that a command line makes, if it is one that can be made. A word that names no command may still ask for help. -/
def parse? (words : List String) : Option Request := do
  match ← leading? words with
  | (true, _) => some .help
  | (false, []) => none
  | (false, command :: rest) =>
    match switches command with
    | some known => request? command (← readArguments known {} rest)
    | none => if (← leading? (command :: rest)).1 then some .help else none

end DeclIndex.Command
