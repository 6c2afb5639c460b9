import DeclIndex.Package

/-!
# Notices

What the library reports while it works, apart from its results. Markup in square brackets is part of the text. The console is
taken to accept every text, although brackets in an id, a path or a message can leave the markup unbalanced, at which a real
console stops the work. The report on a settings file alone may be refused.
-/

namespace DeclIndex

/-- One report. -/
inductive Notice where
  /-- Which packages are about to be loaded. -/
  | loading (ids : List String)
  /-- How many source files a package has. -/
  | found (count : Nat) (id : String)
  /-- A file that is too large. -/
  | oversized (path : String)
  /-- A file that cannot be read. -/
  | unreadable (path cause : String)
  /-- A package that cannot be loaded. -/
  | skipped (id cause : String)
  /-- How many aliases were recorded for a package. -/
  | aliases (count : Nat) (id : String)
  /-- What a library holds. -/
  | indexed (modules functions types : Nat)
  /-- A settings file that cannot be read as one. -/
  | unparsable (path cause : String)
deriving DecidableEq

def Notice.text : Notice → String
  | .loading ids =>
    "[bold blue]Indexer[/bold blue] loading packages: " ++
      (if ids.isEmpty then "none" else ", ".intercalate ids)
  | .found count id =>
    "[green]Scanner[/green] found [bold]" ++ toString count ++ "[/bold] files in " ++ id
  | .oversized path => "[yellow]Warning[/yellow]: Skipping oversized " ++ path
  | .unreadable path cause => "[yellow]Warning[/yellow]: Skipping " ++ path ++ ": " ++ cause
  | .skipped id cause => "[yellow]Warning[/yellow]: Skipping package " ++ id ++ ": " ++ cause
  | .aliases count id =>
    "[green]Re-exports[/green] recorded [bold]" ++ toString count ++ "[/bold] aliases for " ++ id
  | .indexed modules functions types =>
    "[green]Indexer[/green] indexed [bold]" ++ toString modules ++ "[/bold] modules, [bold]" ++
      toString functions ++ "[/bold] functions, [bold]" ++ toString types ++ "[/bold] types"
  | .unparsable path cause => "[yellow]Warning:[/yellow] Could not parse " ++ path ++ ": " ++ cause

/-- Work that may fail with an error and that reports as it goes on. Reports are kept when it fails. -/
abbrev Reporting (ε α : Type) := ExceptT ε (StateM (List Notice)) α

namespace Reporting

/-- Adds reports. -/
def report {ε : Type} (notices : List Notice) : Reporting ε Unit :=
  modifyThe (List Notice) (· ++ notices)

/-- The result with all reports. -/
def outcome {ε α : Type} (work : Reporting ε α) : Except ε α × List Notice :=
  (work.run).run []

end Reporting

end DeclIndex
