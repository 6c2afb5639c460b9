import DeclIndex.Text.Printable

/-!
# Quoted text

Texts in messages stand in single quotes, or in double quotes if they hold a single quote and no double one.
Characters that are not printable are written by their code.
-/

namespace DeclIndex.Text

/-- A number in lower-case hexadecimal with at least `width` digits. -/
def hex (width n : Nat) : List Char :=
  let digits := Nat.toDigits 16 n
  List.replicate (width - digits.length) '0' ++ digits

def singleQuote : Char := Char.ofNat 39

/-- One character between quotes. -/
def quotedChar (quote c : Char) : List Char :=
  let n := c.toNat
  if c = quote || c = '\\' then ['\\', c]
  else if c = '\n' then ['\\', 'n']
  else if c = '\r' then ['\\', 'r']
  else if c = '\t' then ['\\', 't']
  else if isPrintable c then [c]
  else if n < 0x100 then '\\' :: 'x' :: hex 2 n
  else if n < 0x10000 then '\\' :: 'u' :: hex 4 n
  else '\\' :: 'U' :: hex 8 n

def quoted (text : List Char) : List Char :=
  let quote := if text.contains singleQuote && !text.contains '"' then '"' else singleQuote
  quote :: text.flatMap (quotedChar quote) ++ [quote]

def quote (text : String) : String :=
  String.ofList (quoted text.toList)

end DeclIndex.Text
