import CaptureDesk.Moment

/-!
# Instants

The moment at which the program runs, in UTC and to the second: from the count of seconds that a
clock shows, and to the two texts in which it is written.
-/

namespace CaptureDesk

open Decimal (padded)

/-- An instant in UTC, to the second. -/
structure Instant where
  date : Date
  clock : Clock
  deriving DecidableEq, Repr

namespace Instant

/-- The number of days from the first of January 1970 to the first of a month of a year. -/
def daysBefore (year month : Nat) : Nat :=
  let years := (List.range (year - 1970)).map fun n => if Date.isLeap (1970 + n) then 366 else 365
  let months := (List.range (month - 1)).map fun n => Date.daysIn year (n + 1)
  years.foldl (· + ·) 0 + months.foldl (· + ·) 0

/-- The instant that comes so many seconds after the beginning of 1970. -/
def ofSeconds (seconds : Nat) : Instant :=
  let day := seconds / 86400
  let second := seconds % 86400
  -- no year is shorter than 365 days, so the year is not after this one
  let latest := 1970 + day / 365
  let year :=
    ((List.range (latest - 1969)).map (latest - ·)).find? (daysBefore · 1 ≤ day) |>.getD 1970
  let month := ((List.range 12).map (12 - ·)).find? (daysBefore year · ≤ day) |>.getD 1
  { date := { year, month, day := day - daysBefore year month + 1 }
    clock :=
      { hour := second / 3600, minute := second / 60 % 60, second := second % 60, micros := 0 } }

/-- An instant as fourteen digits. -/
def digits (i : Instant) : List Char :=
  padded 4 i.date.year ++ padded 2 i.date.month ++ padded 2 i.date.day ++ padded 2 i.clock.hour ++
    padded 2 i.clock.minute ++ padded 2 i.clock.second

/-- An instant as `2026-01-02T03:04:05+00:00`. -/
def text (i : Instant) : List Char :=
  i.date.text ++ 'T' :: (i.clock.text ++ ['+', '0', '0', ':', '0', '0'])

example : ofSeconds 1767323045 = ⟨⟨2026, 1, 2⟩, ⟨3, 4, 5, 0⟩⟩ := by decide +kernel

example : (ofSeconds 951782400).date = ⟨2000, 2, 29⟩ := by decide +kernel

end Instant

end CaptureDesk
