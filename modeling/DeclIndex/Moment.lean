/-!
# Dates and times

Days, times of day and both together, with or without an offset from universal time, as settings have them.
-/

namespace DeclIndex

def Date.daysIn (year month : Nat) : Nat :=
  match month with
  | 2 => if year % 4 = 0 ∧ (year % 100 ≠ 0 ∨ year % 400 = 0) then 29 else 28
  | 4 | 6 | 9 | 11 => 30
  | _ => 31

/-- A day of the calendar. -/
structure Date where
  year : Nat
  month : Nat
  day : Nat
  inYear : 1 ≤ year ∧ year ≤ 9999
  inMonth : 1 ≤ month ∧ month ≤ 12
  inDays : 1 ≤ day ∧ day ≤ Date.daysIn year month

structure TimeOfDay where
  hour : Fin 24
  minute : Fin 60
  second : Fin 60
  microsecond : Fin 1000000

/-- How many minutes a clock is ahead of universal time, less than a day in either direction. -/
structure Offset where
  minutes : Int
  withinDay : -1440 < minutes ∧ minutes < 1440

inductive Moment where
  | date (day : Date)
  | time (clock : TimeOfDay)
  | dateTime (day : Date) (clock : TimeOfDay) (offset : Option Offset)

/-- A number with zeros in front, up to a width. -/
def Moment.padded (width n : Nat) : String :=
  let digits := Nat.toDigits 10 n
  String.ofList (List.replicate (width - digits.length) '0' ++ digits)

namespace Date
open Moment

def text (date : Date) : String :=
  padded 4 date.year ++ "-" ++ padded 2 date.month ++ "-" ++ padded 2 date.day

/-- What a date is made from, as messages show it. -/
def parts (date : Date) : List String :=
  [toString date.year, toString date.month, toString date.day]

end Date

namespace TimeOfDay
open Moment

def text (time : TimeOfDay) : String :=
  padded 2 time.hour ++ ":" ++ padded 2 time.minute ++ ":" ++ padded 2 time.second ++
    (if time.microsecond.val = 0 then "" else "." ++ padded 6 time.microsecond)

/-- What a time is made from, as messages show it. Seconds and their fraction are left out if nothing but zeros
is left. -/
def parts (time : TimeOfDay) : List String :=
  let upToMinute := [toString time.hour.val, toString time.minute.val]
  if time.microsecond.val ≠ 0 then upToMinute ++ [toString time.second.val, toString time.microsecond.val]
  else if time.second.val ≠ 0 then upToMinute ++ [toString time.second.val]
  else upToMinute

end TimeOfDay

namespace Offset
open Moment

def text (offset : Offset) : String :=
  let size := offset.minutes.natAbs
  (if offset.minutes < 0 then "-" else "+") ++ padded 2 (size / 60) ++ ":" ++ padded 2 (size % 60)

/-- An offset as messages show it: whole days, which are negative behind universal time, and seconds. -/
def literal (offset : Offset) : String :=
  if offset.minutes = 0 then "datetime.timezone.utc"
  else
    let days := offset.minutes.fdiv 1440
    let seconds := offset.minutes.fmod 1440 * 60
    let parts := (if days = 0 then [] else ["days=" ++ toString days]) ++
      (if seconds = 0 then [] else ["seconds=" ++ toString seconds])
    "datetime.timezone(datetime.timedelta(" ++ ", ".intercalate parts ++ "))"

end Offset

namespace Moment

/-- The kind of a moment, as messages name it. -/
def kind : Moment → String
  | .date _ => "datetime.date"
  | .time _ => "datetime.time"
  | .dateTime _ _ _ => "datetime.datetime"

def text : Moment → String
  | .date day => day.text
  | .time clock => clock.text
  | .dateTime day clock offset => day.text ++ " " ++ clock.text ++ (offset.map Offset.text).getD ""

/-- A moment as messages show it. -/
def literal (moment : Moment) : String :=
  let parts := match moment with
    | .date day => day.parts
    | .time clock => clock.parts
    | .dateTime day clock offset => day.parts ++ clock.parts ++ (offset.map ("tzinfo=" ++ ·.literal)).toList
  moment.kind ++ "(" ++ ", ".intercalate parts ++ ")"

/-- How deep calls are nested in one another to show a moment. Its offset is shown by a call of its own, and so is
the difference in an offset. -/
def nesting : Moment → Nat
  | .dateTime _ _ (some offset) => if offset.minutes = 0 then 2 else 3
  | _ => 1

end Moment

end DeclIndex
