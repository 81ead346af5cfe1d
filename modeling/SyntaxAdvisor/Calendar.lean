import SyntaxAdvisor.Decimal.Fixed

/-!
# Dates and times

Calendar dates and local times with microseconds and an optional offset from UTC, and their
ISO 8601 text: `YYYY-MM-DD`, then `T` and `HH:MM:SS`, the microseconds after a point when there
are any, and the offset as `±HH:MM`, with seconds and microseconds when it has them.
-/

namespace SyntaxAdvisor

/-- A date of the proleptic Gregorian calendar. -/
structure Date where
  /-- The year, from 1 to 9999. -/
  year : Nat
  /-- The month, from 1 to 12. -/
  month : Nat
  /-- The day of the month. -/
  day : Nat
deriving Repr, Inhabited, BEq

/-- A date and a time of day, perhaps with an offset from UTC. -/
structure DateTime where
  /-- The date. -/
  date : Date
  /-- The hour, from 0 to 23. -/
  hour : Nat := 0
  /-- The minute. -/
  minute : Nat := 0
  /-- The second. -/
  second : Nat := 0
  /-- The microsecond. -/
  micro : Nat := 0
  /-- The offset from UTC in microseconds, if the time is aware of one. -/
  offset : Option Int := none
deriving Repr, Inhabited, BEq

open Decimal in
/-- The ISO text of a date. -/
def Date.isoformat (d : Date) : String :=
  padDigits d.year 4 ++ "-" ++ padDigits d.month 2 ++ "-" ++ padDigits d.day 2

open Decimal in
/-- The ISO text of an offset from UTC given in microseconds. -/
def offsetText (off : Int) : String :=
  let sign := if off < 0 then "-" else "+"
  let a := off.natAbs
  let micro := a % 1000000
  let secs := a / 1000000
  let base := sign ++ padDigits (secs / 3600) 2 ++ ":" ++ padDigits (secs / 60 % 60) 2
  if micro != 0 then base ++ ":" ++ padDigits (secs % 60) 2 ++ "." ++ padDigits micro 6
  else if secs % 60 != 0 then base ++ ":" ++ padDigits (secs % 60) 2
  else base

open Decimal in
/-- The ISO text of a date and time, with `T` between them. -/
def DateTime.isoformat (t : DateTime) : String :=
  let time := padDigits t.hour 2 ++ ":" ++ padDigits t.minute 2 ++ ":" ++ padDigits t.second 2
  let frac := if t.micro == 0 then "" else "." ++ padDigits t.micro 6
  t.date.isoformat ++ "T" ++ time ++ frac ++ (t.offset.map offsetText).getD ""

/-- The moment the clock reads whenever the library asks for the present time. -/
def DateTime.fixedNow : DateTime := { date := ⟨2024, 1, 1⟩, hour := 12 }

end SyntaxAdvisor
