import DeclIndex.Text.Quoted

/-!
# Errors in search patterns
-/

namespace DeclIndex.Pattern

/-- What is wrong with a pattern. -/
inductive Fault where
  | unterminatedGroup
  | unbalanced
  | unterminatedSet
  | nothingToRepeat
  | multipleRepeat
  | minAboveMax
  | escapeAtEnd
  | badEscape (text : String)
  | incompleteEscape (text : String)
  | octalRange (text : String)
  | badReference (group : Nat)
  | openReference
  | missingName
  | unterminatedName
  | badName (name : String)
  | badRange (text : String)
  | unexpectedEnd
  | unterminatedComment
  | unknownExtension (text : String)
  /-- A repetition is asked for too many times. -/
  | tooManyTimes
  /-- The number of a repetition has too many digits. -/
  | numberTooLong
  /-- Groups are nested too deep. -/
  | tooDeep
deriving DecidableEq

def Fault.text : Fault → String
  | .unterminatedGroup => "missing ), unterminated subpattern"
  | .unbalanced => "unbalanced parenthesis"
  | .unterminatedSet => "unterminated character set"
  | .nothingToRepeat => "nothing to repeat"
  | .multipleRepeat => "multiple repeat"
  | .minAboveMax => "min repeat greater than max repeat"
  | .escapeAtEnd => "bad escape (end of pattern)"
  | .badEscape text => "bad escape " ++ text
  | .incompleteEscape text => "incomplete escape " ++ text
  | .octalRange text => "octal escape value " ++ text ++ " outside of range 0-0o377"
  | .badReference group => "invalid group reference " ++ toString group
  | .openReference => "cannot refer to an open group"
  | .missingName => "missing group name"
  | .unterminatedName => "missing >, unterminated name"
  | .badName name => "bad character in group name " ++ Text.quote name
  | .badRange text => "bad character range " ++ text
  | .unexpectedEnd => "unexpected end of pattern"
  | .unterminatedComment => "missing ), unterminated comment"
  | .unknownExtension text => "unknown extension ?" ++ text
  | .tooManyTimes => "the repetition number is too large"
  | .numberTooLong => "too many digits"
  | .tooDeep => "groups nested too deep"

/-- Whether a fault is reported with its wording. -/
def Fault.isReported : Fault → Bool
  | .tooManyTimes => false
  | .numberTooLong => false
  | .tooDeep => false
  | _ => true

/-- A fault and where it is in the pattern. -/
structure Error where
  fault : Fault
  position : Nat
deriving DecidableEq

/-- Where a position is, for patterns of more than one line. -/
def place (pattern : List Char) (position : Nat) : String :=
  if pattern.contains '\n' then
    let before := pattern.take position
    let line := before.count '\n' + 1
    let column := (before.reverse.takeWhile (· != '\n')).length + 1
    " (line " ++ toString line ++ ", column " ++ toString column ++ ")"
  else ""

def Error.message (error : Error) (pattern : String) : String :=
  error.fault.text ++ " at position " ++ toString error.position ++ place pattern.toList error.position

end DeclIndex.Pattern
