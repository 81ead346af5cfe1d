import SyntaxAdvisor.Calendar.IsoText
import SyntaxAdvisor.Value.Basic

/-!
# YAML timestamps

A timestamp is a date `YYYY-M-D` (month and day of one or two digits), optionally followed by
a time: `T`, `t` or blanks, then `H:MM:SS` (hour of one or two digits), an optional fraction
after a point, and an optional zone after optional blanks: `Z`, or a sign, an hour of one or two
digits and optional `:MM`. The text may end with one line feed.

A timestamp with a time is a date-time, otherwise a date. The fraction is cut or padded to six
digits of microseconds. A zone with a sign is an offset that must be shorter than a day; it is
checked before the fields of the date and time are checked for range, in the order year, month,
day, hour, minute, second.
-/

namespace SyntaxAdvisor.Yaml

/-- A zone of a timestamp, as written. -/
inductive ZoneText where
  /-- `Z`. -/
  | utc
  /-- A signed offset: hours and optional minutes. -/
  | offset (negative : Bool) (hour : List Char) (minute : Option (List Char))

/-- The time of a timestamp, as written. -/
structure TimeText where
  /-- One or two digits. -/
  hour : List Char
  /-- Two digits. -/
  minute : List Char
  /-- Two digits. -/
  second : List Char
  /-- The digits after the point, if there is a point. -/
  fraction : Option (List Char)
  /-- The zone, if any. -/
  zone : Option ZoneText

/-- A timestamp, as written. -/
structure Timestamp where
  /-- Four digits. -/
  year : List Char
  /-- One or two digits. -/
  month : List Char
  /-- One or two digits. -/
  day : List Char
  /-- The time, if any. -/
  time : Option TimeText

namespace Timestamp

/-- Splits off a run of one or two ASCII digits (as many as there are). -/
def digits12 : List Char → Option (List Char × List Char)
  | a :: b :: rest =>
    if a.isDigit then (if b.isDigit then some ([a, b], rest) else some ([a], b :: rest)) else none
  | [a] => if a.isDigit then some ([a], []) else none
  | [] => none

/-- Splits off exactly `n` ASCII digits. -/
def digitsN (n : Nat) (cs : List Char) : Option (List Char × List Char) :=
  if (cs.take n).length == n && (cs.take n).all Char.isDigit then some (cs.take n, cs.drop n)
  else none

/-- Whether a character is a blank or a tab. -/
def isBlank (c : Char) : Bool := c == ' ' || c == '\t'

/-- Whether what is left is the end of the text, or a line feed ending it. -/
def atEnd (cs : List Char) : Bool := cs.isEmpty || cs == ['\n']

/-- Reads a zone that ends the text. -/
def readZone (cs : List Char) : Option ZoneText :=
  match cs.dropWhile isBlank with
  | 'Z' :: rest => if atEnd rest then some .utc else none
  | s :: rest =>
    if s != '-' && s != '+' then none
    else do
      let (h, rest) ← digits12 rest
      match rest with
      | ':' :: more =>
        let (m, rest) ← digitsN 2 more
        if atEnd rest then some (.offset (s == '-') h (some m)) else none
      | _ => if atEnd rest then some (.offset (s == '-') h none) else none
  | [] => none

/-- Reads a time that ends the text. -/
def readTime (cs : List Char) : Option TimeText := do
  let cs ← match cs with
    | 'T' :: rest | 't' :: rest => some rest
    | c :: rest => if isBlank c then some (rest.dropWhile isBlank) else none
    | [] => none
  let (hour, cs) ← digits12 cs
  let cs ← match cs with
    | ':' :: rest => some rest
    | _ => none
  let (minute, cs) ← digitsN 2 cs
  let cs ← match cs with
    | ':' :: rest => some rest
    | _ => none
  let (second, cs) ← digitsN 2 cs
  let (fraction, cs) := match cs with
    | '.' :: rest => (some (rest.takeWhile Char.isDigit), rest.dropWhile Char.isDigit)
    | _ => (none, cs)
  if atEnd cs then pure { hour, minute, second, fraction, zone := none }
  else
    let zone ← readZone cs
    pure { hour, minute, second, fraction, zone := some zone }

/-- Reads a timestamp that takes the whole text. -/
def read (cs : List Char) : Option Timestamp := do
  let (year, cs) ← digitsN 4 cs
  let cs ← match cs with
    | '-' :: rest => some rest
    | _ => none
  let (month, cs) ← digits12 cs
  let cs ← match cs with
    | '-' :: rest => some rest
    | _ => none
  let (day, cs) ← digits12 cs
  if atEnd cs then pure { year, month, day, time := none }
  else
    let time ← readTime cs
    pure { year, month, day, time := some time }

/-- The value of ASCII digits. -/
def number (ds : List Char) : Nat := ds.foldl (fun n d => n * 10 + (d.toNat - 48)) 0

/-- The microseconds a fraction stands for: its first six digits, padded with zeros. -/
def micros (fraction : List Char) : Nat :=
  let ds := fraction.take 6
  number (ds ++ List.replicate (6 - ds.length) '0')

/-- The offset in microseconds of a zone, checked to be shorter than a day. -/
def zoneOffset : ZoneText → Except Failure Int
  | .utc => .ok 0
  | .offset negative hour minute =>
    let secs : Int := number hour * 3600 + number (minute.getD []) * 60
    let total := (if negative then -secs else secs) * 1000000
    if total ≤ -IsoText.dayMicros || total ≥ IsoText.dayMicros then
      .error (.valueError ("offset must be a timedelta strictly between " ++
        "-timedelta(hours=24) and timedelta(hours=24), not " ++ IsoText.spanRepr total ++ "."))
    else .ok total

/-- The date or date-time a timestamp stands for. -/
def toValue (t : Timestamp) : Except Failure Value := do
  let year : Int := number t.year
  let month : Int := number t.month
  let day : Int := number t.day
  match t.time with
  | none =>
    let d ← IsoText.build year month day {} none
    pure (.date d.date)
  | some time =>
    let micro := match time.fraction with
      | some f => if f.isEmpty then 0 else micros f
      | none => 0
    let offset ← match time.zone with
      | some z => some <$> zoneOffset z
      | none => pure none
    let clock : IsoText.Clock :=
      { hour := number time.hour, minute := number time.minute, second := number time.second,
        micro }
    pure (.datetime (← IsoText.build year month day clock offset))

end Timestamp

end SyntaxAdvisor.Yaml
