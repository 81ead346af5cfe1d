import SyntaxAdvisor.Calendar
import SyntaxAdvisor.Failure
import SyntaxAdvisor.Text.Utf8

/-!
# Reading ISO 8601 date-times

`DateTime.ofIsoText` reads a date, optionally followed by one separator character of any kind
and a time, the time optionally followed by `Z` or a signed offset. The reader works on the
UTF-8 bytes of the text, which it sees as ending in a zero byte.

* The date is `YYYY-MM-DD`, `YYYYMMDD`, or an ISO week date `YYYY-Www[-D]` / `YYYYWww[D]`. Where
  the separator stands is decided from the shape of the first characters (`separator`); the
  date is then read from the start without checking that it reaches the separator.
* The time is `HH[:MM[:SS[.f]]]` or the same without colons; the fraction may follow `.` or `,`,
  is read to six digits (shorter fractions are scaled), and further digits are skipped. After
  the seconds a colon may also introduce the fraction.
* An offset has the form of a time; `Z` must end the text. An offset of zero seconds is UTC
  whatever its fraction; otherwise it must be shorter than a day.

A text that does not have this form is an invalid string. Fields out of range are reported in
the order year, month, day, hour, minute, second, after the offset is checked.
-/

-- Powers of naturals are `Nat.pow`, whatever other power instances are in scope.
attribute [local instance (2000)] instPowNat

namespace SyntaxAdvisor

namespace IsoText

/-- The byte at position `i` of a text's bytes; past the end, the zero that ends the text. -/
def byteAt (s : Array UInt8) (i : Nat) : Nat := (s.getD i 0).toNat

/-- Whether a byte is an ASCII digit. -/
def isDigit (b : Nat) : Bool := 48 ≤ b && b ≤ 57

/-- Reads `n` digits from position `i`: their value and the position after them. -/
def digits (s : Array UInt8) (i n : Nat) : Option (Nat × Nat) :=
  (List.range n).foldlM (fun (v, j) _ =>
    if isDigit (byteAt s j) then some (v * 10 + (byteAt s j - 48), j + 1) else none) (0, i)

/-- The first position from `i` on that does not hold a digit, looking at most `fuel` bytes. -/
def skipDigits (s : Array UInt8) : Nat → Nat → Nat
  | 0, i => i
  | fuel + 1, i => if isDigit (byteAt s i) then skipDigits s fuel (i + 1) else i

/-- Where the separator between date and time stands, judged from the shape of the date; none
when the shape cannot be told. -/
def separator (s : Array UInt8) : Option Nat :=
  let len := s.size
  if len == 7 then some 7
  else if byteAt s 4 == 45 then
    if byteAt s 5 == 87 then
      if len < 8 then none
      else if len > 8 && byteAt s 8 == 45 then
        if len == 9 then none
        else if len > 10 && isDigit (byteAt s 10) then some 8
        else some 10
      else some 8
    else some 10
  else if byteAt s 4 == 87 then
    let idx := if len ≤ 7 then 7 else skipDigits s (len - 7) 7
    if idx < 9 then some idx
    else if idx % 2 == 0 then some 7 else some 8
  else some 8

/-- Whether a year is a leap year. -/
def isLeap (year : Int) : Bool :=
  year % 4 == 0 && (year % 100 != 0 || year % 400 == 0)

/-- The days before each month of a common year. -/
def daysBeforeMonth : List Int := [0, 0, 31, 59, 90, 120, 151, 181, 212, 243, 273, 304, 334]

/-- The days in each month of a common year. -/
def daysInMonthTable : List Int := [0, 31, 28, 31, 30, 31, 30, 31, 31, 30, 31, 30, 31]

/-- The days in a month of a year. -/
def daysInMonth (year month : Int) : Int :=
  if month == 2 && isLeap year then 29 else daysInMonthTable.getD month.toNat 0

/-- The ordinal of the first day of a year, day 1 being the first of January of year 1;
division truncates, as it does for the years before year 1 that a week date can name. -/
def firstOrdinal (year : Int) : Int :=
  let y := year - 1
  y * 365 + y.tdiv 4 - y.tdiv 100 + y.tdiv 400 + 1

/-- The ordinal of the Monday that starts week 1 of an ISO year. -/
def weekOneMonday (year : Int) : Int :=
  let first := firstOrdinal year
  let weekday := (first + 6).tmod 7
  let monday := first - weekday
  if weekday > 3 then monday + 7 else monday

/-- The date of a positive ordinal. An ordinal that is not positive comes from a week date of
year 0, and stands for a date of year 1 with no valid month. -/
def ofOrdinal (ordinal : Int) : Int × Int × Int :=
  if ordinal ≤ 0 then (1, 0, 0)
  else
    let n := ordinal - 1
    let n400 := n / 146097
    let n := n % 146097
    let n100 := n / 36524
    let n := n % 36524
    let n4 := n / 1461
    let n := n % 1461
    let n1 := n / 365
    let n := n % 365
    let year := n400 * 400 + 1 + n100 * 100 + n4 * 4 + n1
    if n1 == 4 || n100 == 4 then (year - 1, 12, 31)
    else
      let leap := n1 == 3 && (n4 != 24 || n100 == 3)
      let before (m : Int) : Int := daysBeforeMonth.getD m.toNat 0 + if m > 2 && leap then 1 else 0
      let month := (n + 50) / 32
      let (month, preceding) :=
        if before month > n then (month - 1, before month - daysInMonth year (month - 1))
        else (month, before month)
      (year, month, n - preceding + 1)

/-- The date of an ISO week date; none for a week or weekday out of range. -/
def ofWeekDate (year week day : Int) : Option (Int × Int × Int) :=
  let weekFits :=
    (0 < week && week < 53) ||
      (week == 53 &&
        let weekday := (firstOrdinal year + 6).tmod 7
        weekday == 3 || (weekday == 2 && isLeap year))
  if !weekFits then none
  else if day ≤ 0 || day ≥ 8 then none
  else some (ofOrdinal (weekOneMonday year + (week - 1) * 7 + day - 1))

/-- Reads the date that ends before the separator at `sep`: year, month and day, not yet
checked for range. -/
def readDate (s : Array UInt8) (sep : Nat) : Option (Int × Int × Int) := do
  let (year, p) ← digits s 0 4
  let dashed := byteAt s p == 45
  let p := if dashed then p + 1 else p
  if byteAt s p == 87 then
    let (week, p) ← digits s (p + 1) 2
    let day ← if p < sep then
        if dashed && byteAt s p != 45 then none
        else (digits s (if dashed then p + 1 else p) 1).map (·.1)
      else some 1
    ofWeekDate year week day
  else
    let (month, p) ← digits s p 2
    if dashed && byteAt s p != 45 then none
    let (day, _) ← digits s (if dashed then p + 1 else p) 2
    pure (year, month, day)

/-- Hours, minutes, seconds and microseconds. -/
structure Clock where
  /-- The hours. -/
  hour : Nat := 0
  /-- The minutes. -/
  minute : Nat := 0
  /-- The seconds. -/
  second : Nat := 0
  /-- The microseconds. -/
  micro : Nat := 0

/-- How reading the whole-number fields of a time ended: at its end (with whether text
follows), or at the start of a fraction. -/
inductive FieldsEnd where
  /-- The fields reached the end; `more` tells whether the text goes on. -/
  | finished (fields : List Nat) (more : Bool)
  /-- A fraction starts at `p`. -/
  | fraction (fields : List Nat) (p : Nat)

/-- Reads up to `fuel` more two-digit fields from `p`, before `stop`. -/
def readFields (s : Array UInt8) (stop : Nat) :
    Nat → Nat → Bool → Bool → List Nat → Option FieldsEnd
  | 0, p, _, _, fields => some (.fraction fields p)
  | fuel + 1, p, first, colons, fields => do
    let (v, p) ← digits s p 2
    let c := byteAt s p
    let p := p + 1
    let colons := if first then c == 58 else colons
    let fields := fields ++ [v]
    if p ≥ stop then some (.finished fields (c != 0))
    else if colons && c == 58 then readFields s stop fuel p false colons fields
    else if c == 46 || c == 44 then some (.fraction fields p)
    else if !colons then readFields s stop fuel (p - 1) false colons fields
    else none

/-- Reads a time from `start` up to `stop`: the clock, and whether text follows it. -/
def readClock (s : Array UInt8) (start stop : Nat) : Option (Clock × Bool) := do
  let clock (fields : List Nat) (micro : Nat) : Clock :=
    { hour := fields.getD 0 0, minute := fields.getD 1 0, second := fields.getD 2 0, micro }
  match ← readFields s stop 3 start true true [] with
  | .finished fields more => pure (clock fields 0, more)
  | .fraction fields p =>
    let n := min 6 (stop - p)
    let (v, q) ← digits s p n
    let q := skipDigits s s.size q
    pure (clock fields (v * 10 ^ (6 - n)), byteAt s q != 0)

/-- Where the offset of a time starting at `start` begins: the first `Z`, `+` or `-`, else
the end (or just past the start, when the time is empty). -/
def offsetStart (s : Array UInt8) (start : Nat) : Nat :=
  let isMark (i : Nat) : Bool := byteAt s i == 90 || byteAt s i == 43 || byteAt s i == 45
  if isMark start then start
  else match (List.range (s.size - start - 1)).find? (fun k => isMark (start + 1 + k)) with
    | some k => start + 1 + k
    | none => max s.size (start + 1)

/-- Reads the time that starts at `start` and runs to the end: the clock, and the offset as
seconds and microseconds when there is one. -/
def readTime (s : Array UInt8) (start : Nat) : Option (Clock × Option (Int × Int)) := do
  let tz := offsetStart s start
  let (clock, more) ← readClock s start tz
  if tz == s.size then
    if more then none else pure (clock, none)
  else if byteAt s tz == 90 then
    if byteAt s (tz + 1) != 0 then none else pure (clock, some (0, 0))
  else
    let sign : Int := if byteAt s tz == 45 then -1 else 1
    let (off, more) ← readClock s (tz + 1) s.size
    if more then none
    else pure (clock, some (sign * (off.hour * 3600 + off.minute * 60 + off.second : Nat),
      sign * (off.micro : Int)))

/-- How many bytes the separator between date and time takes, judged from its first byte as
UTF-8 judges a lead byte: one for ASCII, three after a 1110 lead, four after a 1111 lead and
two otherwise. -/
def separatorWidth (lead : Nat) : Nat :=
  if lead < 0x80 then 1
  else if lead / 16 == 0xE then 3
  else if lead / 16 == 0xF then 4
  else 2

/-- The microseconds of a day. -/
def dayMicros : Int := 86400 * 1000000

/-- How a span of microseconds is written as days, seconds and microseconds. -/
def spanRepr (total : Int) : String :=
  let days := total / dayMicros
  let rest := total % dayMicros
  let parts :=
    (if days != 0 then ["days=" ++ toString days] else []) ++
    (if rest / 1000000 != 0 then ["seconds=" ++ toString (rest / 1000000)] else []) ++
    (if rest % 1000000 != 0 then ["microseconds=" ++ toString (rest % 1000000)] else [])
  "datetime.timedelta(" ++ (if parts.isEmpty then "0" else ", ".intercalate parts) ++ ")"

/-- The offset in microseconds that an offset read as seconds and microseconds stands for. -/
def offsetOf (secs micros : Int) : Except Failure Int :=
  if secs == 0 then .ok 0
  else
    let total := secs * 1000000 + micros
    if total ≤ -dayMicros || total ≥ dayMicros then
      .error (.valueError ("offset must be a timedelta strictly between " ++
        "-timedelta(hours=24) and timedelta(hours=24), not " ++ spanRepr total ++ "."))
    else .ok total

/-- Checks the fields of a date-time for range and builds it. -/
def build (year month day : Int) (c : Clock) (offset : Option Int) : Except Failure DateTime := do
  if year < 1 || year > 9999 then
    throw (.valueError ("year " ++ toString year ++ " is out of range"))
  if month < 1 || month > 12 then throw (.valueError "month must be in 1..12")
  if day < 1 || day > daysInMonth year month then
    throw (.valueError "day is out of range for month")
  if c.hour > 23 then throw (.valueError "hour must be in 0..23")
  if c.minute > 59 then throw (.valueError "minute must be in 0..59")
  if c.second > 59 then throw (.valueError "second must be in 0..59")
  pure { date := ⟨year.toNat, month.toNat, day.toNat⟩, hour := c.hour, minute := c.minute,
         second := c.second, micro := c.micro, offset }

end IsoText

open IsoText in
/-- Reads a date-time from its ISO text. -/
def DateTime.ofIsoText (text : String) : Except Failure DateTime := do
  let s := (Text.encodeUtf8 text).toArray
  let invalid : Failure := .valueError ("Invalid isoformat string: " ++ quoteText text)
  let some sep := separator s | throw invalid
  let some (year, month, day) := readDate s sep | throw invalid
  let some (clock, tz) := (if sep < s.size then readTime s (sep + separatorWidth (byteAt s sep))
      else some ({}, none))
    | throw invalid
  let offset ← match tz with
    | some (secs, micros) => (offsetOf secs micros).map some
    | none => pure none
  build year month day clock offset

/-- The day number of a date, counted from the first day of year 1 as day 1. -/
def Date.dayNumber (d : Date) : Int :=
  let m := d.month
  IsoText.firstOrdinal d.year + IsoText.daysBeforeMonth.getD m 0 +
    (if m > 2 && IsoText.isLeap d.year then 1 else 0) + d.day - 1

/-- The local reading of a date and time, in microseconds from the start of day 1. -/
def DateTime.localMicros (t : DateTime) : Int :=
  (((t.date.dayNumber * 24 + t.hour) * 60 + t.minute) * 60 + t.second) * 1000000 + t.micro

/-- Whether two date-times are equal: two without an offset by their reading, two with one by
the instant they stand for; one with an offset is never equal to one without. -/
def DateTime.equals (s t : DateTime) : Bool :=
  match s.offset, t.offset with
  | none, none => s.date == t.date && s.hour == t.hour && s.minute == t.minute &&
      s.second == t.second && s.micro == t.micro
  | some o, some p => s.localMicros - o == t.localMicros - p
  | _, _ => false

end SyntaxAdvisor
