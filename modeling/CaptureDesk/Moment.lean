import CaptureDesk.Decimal.Shortest

/-!
# Dates and times

The calendar values that a settings file can hold, and their two texts: the plain one, and the
constructor form that stands for them inside a quoted list or table.
-/

namespace CaptureDesk

open Decimal (padded)

/-- A day of the calendar. -/
structure Date where
  year : Nat
  month : Nat
  day : Nat
  deriving DecidableEq, Repr

/-- A time of day. -/
structure Clock where
  hour : Nat
  minute : Nat
  second : Nat
  micros : Nat
  deriving DecidableEq, Repr

/-- A date, a time, or both, the last with an optional offset from UTC in minutes. -/
inductive Moment where
  | date (d : Date)
  | time (t : Clock)
  | both (d : Date) (t : Clock) (offset : Option Int)
  deriving DecidableEq, Repr

namespace Date

/-- Whether a year has a leap day. -/
def isLeap (year : Nat) : Bool :=
  year % 4 == 0 && (year % 100 != 0 || year % 400 == 0)

/-- The number of days of a month. -/
def daysIn (year month : Nat) : Nat :=
  if month = 2 then (if isLeap year then 29 else 28)
  else if month = 4 ∨ month = 6 ∨ month = 9 ∨ month = 11 then 30 else 31

/-- A date of the years 1 to 9999 that is in the calendar. -/
def isValid (d : Date) : Bool :=
  1 ≤ d.year && d.year ≤ 9999 && 1 ≤ d.month && d.month ≤ 12 && 1 ≤ d.day &&
    d.day ≤ daysIn d.year d.month

/-- A date as `1979-05-27`. -/
def text (d : Date) : List Char :=
  padded 4 d.year ++ '-' :: (padded 2 d.month ++ '-' :: padded 2 d.day)

/-- The numbers of a date. -/
def parts (d : Date) : List Nat := [d.year, d.month, d.day]

end Date

namespace Clock

/-- A time as `07:32:00`, with six decimals of a second when they are not all zero. -/
def text (t : Clock) : List Char :=
  padded 2 t.hour ++ ':' :: (padded 2 t.minute ++ ':' :: padded 2 t.second) ++
    if t.micros = 0 then [] else '.' :: padded 6 t.micros

/-- The numbers of a time, without zeros that the constructor form leaves out. -/
def parts (t : Clock) : List Nat :=
  if t.micros ≠ 0 then [t.hour, t.minute, t.second, t.micros]
  else if t.second ≠ 0 then [t.hour, t.minute, t.second]
  else [t.hour, t.minute]

end Clock

namespace Moment

/-- An offset as `+01:00`. -/
def offsetText (minutes : Int) : List Char :=
  (if minutes < 0 then '-' else '+') ::
    (padded 2 (minutes.natAbs / 60) ++ ':' :: padded 2 (minutes.natAbs % 60))

/-- The plain text of a moment. -/
def text : Moment → List Char
  | .date d => d.text
  | .time t => t.text
  | .both d t offset => d.text ++ ' ' :: (t.text ++ (offset.map offsetText).getD [])

/-- The name of the kind of a moment. -/
def kind : Moment → String
  | .date _ => "date"
  | .time _ => "time"
  | .both .. => "datetime"

/-- Numbers separated by commas. -/
def commaList (numbers : List Nat) : String :=
  ", ".intercalate (numbers.map toString)

/-- An offset in constructor form: whole days and the seconds after them. -/
def offsetForm (minutes : Int) : String :=
  if minutes = 0 then "datetime.timezone.utc"
  else
    let seconds := "seconds=" ++ toString (minutes * 60 % 86400)
    let span := if minutes < 0 then "days=-1, " ++ seconds else seconds
    "datetime.timezone(datetime.timedelta(" ++ span ++ "))"

/-- The constructor form of a moment. -/
def form (m : Moment) : String :=
  let arguments := match m with
    | .date d => commaList d.parts
    | .time t => commaList t.parts
    | .both d t none => commaList (d.parts ++ t.parts)
    | .both d t (some offset) =>
        commaList (d.parts ++ t.parts) ++ ", tzinfo=" ++ offsetForm offset
  "datetime." ++ m.kind ++ "(" ++ arguments ++ ")"

end Moment

end CaptureDesk
