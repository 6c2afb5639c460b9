/-!
# Printed output

What a command prints, before it is laid out. Markup in square brackets is part of the text. The console is taken to accept every
text: brackets in an id, a path or a message that leave the markup unbalanced, at which a real console stops, are printed like others.
-/

namespace DeclIndex.Command

/-- One printed thing. -/
inductive Printed where
  | line (text : String)
  | table (title : String) (columns : List String) (rows : List (List String))
  | panel (body title : String)
deriving DecidableEq

def Printed.blank : Printed := .line ""

/-- A text in the markup of a style. -/
def styled (style text : String) : String :=
  "[" ++ style ++ "]" ++ text ++ "[/" ++ style ++ "]"

/-- What is printed for an error. -/
def errorLines (message : String) (hint : Option String) : List Printed :=
  .line (styled "bold red" "Error:" ++ " " ++ message) ::
    hint.toList.map fun hint => .line (styled "dim" ("Hint: " ++ hint))

end DeclIndex.Command
