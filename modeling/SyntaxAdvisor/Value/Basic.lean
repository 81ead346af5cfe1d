import SyntaxAdvisor.Calendar
import SyntaxAdvisor.Decimal.Notation
import SyntaxAdvisor.Text.Printable
import SyntaxAdvisor.Text.Surrogate

/-!
# Dynamic values

The data that settings files, service replies and report fields hold: nothing, truth values,
integers, doubles, text, bytes, lists, mappings in insertion order, sets, dates and times.
Each kind has a name (used in error messages), a truth value, and two texts: the quoted form
that shows what kind a value is (`'a'`, `[1, 'b']`), and the plain form used when a value is
put into a message (`a`).
-/

-- Powers of naturals are `Nat.pow`, whatever other power instances are in scope.
attribute [local instance (2000)] instPowNat

namespace SyntaxAdvisor

/-- A dynamic value. -/
inductive Value where
  /-- Nothing. -/
  | none
  /-- A truth value. -/
  | bool (b : Bool)
  /-- An integer of any size. -/
  | int (n : Int)
  /-- A double. -/
  | float (x : Float)
  /-- Text. -/
  | str (s : String)
  /-- Bytes. -/
  | bytes (data : List UInt8)
  /-- A list. -/
  | list (items : List Value)
  /-- A mapping, in insertion order. -/
  | dict (entries : List (Value × Value))
  /-- A set, in the order of its items. -/
  | set (items : List Value)
  /-- A calendar date. -/
  | date (d : Date)
  /-- A date and time. -/
  | datetime (t : DateTime)
deriving Inhabited

namespace Value

/-- The name of a value's kind, as errors about the value give it. -/
def typeName : Value → String
  | .none => "NoneType"
  | .bool _ => "bool"
  | .int _ => "int"
  | .float _ => "float"
  | .str _ => "str"
  | .bytes _ => "bytes"
  | .list _ => "list"
  | .dict _ => "dict"
  | .set _ => "set"
  | .date _ => "datetime.date"
  | .datetime _ => "datetime.datetime"

/-- The truth value of a value: nothing, false, zero and empty containers are false. -/
def truthy : Value → Bool
  | .none => false
  | .bool b => b
  | .int n => n != 0
  | .float x => !(x == 0.0)
  | .str s => !s.isEmpty
  | .bytes d => !d.isEmpty
  | .list xs => !xs.isEmpty
  | .dict es => !es.isEmpty
  | .set xs => !xs.isEmpty
  | .date _ => true
  | .datetime _ => true

end Value

/-- The hexadecimal digits of `n`, lowercase, at least `width` of them. -/
def hexDigits (n width : Nat) : String :=
  let s := String.ofList (Nat.toDigits 16 n)
  String.ofList (List.replicate (width - s.length) '0') ++ s

/-- The escape of a character that quoted text cannot show as it is; a lone surrogate is
escaped by its own code. -/
def escapeChar (c : Char) : String :=
  let n := Text.codePoint c
  if c == '\t' then "\\t"
  else if c == '\n' then "\\n"
  else if c == '\r' then "\\r"
  else if n < 0x100 then "\\x" ++ hexDigits n 2
  else if n < 0x10000 then "\\u" ++ hexDigits n 4
  else "\\U" ++ hexDigits n 8

/-- The quoted form of text: in single quotes, or in double quotes when the text holds a single
quote and no double quote; backslashes, the chosen quote and unprintable characters are
escaped. -/
def quoteText (s : String) : String :=
  let cs := s.toList
  let q := if cs.contains '\'' && !cs.contains '"' then '"' else '\''
  let body := cs.foldl (fun acc c =>
    if c == '\\' then acc ++ "\\\\"
    else if c == q then acc.push '\\' |>.push c
    else if c.toNat < 0x7f && c.toNat ≥ 0x20 then acc.push c
    else if c.toNat ≥ 0x80 && Text.isPrintable c then acc.push c
    else acc ++ escapeChar c) ""
  String.singleton q ++ body ++ String.singleton q

/-- The quoted form of bytes: `b` and the bytes in quotes, ASCII printable bytes as they are,
others escaped. -/
def quoteBytes (data : List UInt8) : String :=
  let q := if data.contains 39 && !data.contains 34 then '"' else '\''
  let body := data.foldl (fun acc b =>
    let n := b.toNat
    if n == 92 then acc ++ "\\\\"
    else if n == q.toNat then acc.push '\\' |>.push q
    else if n == 9 then acc ++ "\\t"
    else if n == 10 then acc ++ "\\n"
    else if n == 13 then acc ++ "\\r"
    else if n < 0x20 || n ≥ 0x7f then acc ++ "\\x" ++ hexDigits n 2
    else acc.push (Char.ofNat n)) ""
  "b" ++ String.singleton q ++ body ++ String.singleton q

/-- The arguments of a date's constructor form. -/
def Date.fields (d : Date) : List String := [toString d.year, toString d.month, toString d.day]

/-- The constructor form of a time offset. -/
def offsetRepr (off : Int) : String :=
  if off == 0 then "datetime.timezone.utc"
  else
    let a := off.natAbs
    let days := if off < 0 then -(((a + 86399999999) / 86400000000 : Nat) : Int) else (a / 86400000000 : Nat)
    let rest := (off - days * 86400000000).toNat
    let secs := rest / 1000000
    let micro := rest % 1000000
    let parts := (if days != 0 then ["days=" ++ toString days] else []) ++
      (if secs != 0 then ["seconds=" ++ toString secs] else []) ++
      (if micro != 0 then ["microseconds=" ++ toString micro] else [])
    "datetime.timezone(datetime.timedelta(" ++ ", ".intercalate parts ++ "))"

namespace Value

mutual

/-- The quoted form of a value. -/
def repr : Value → String
  | .none => "None"
  | .bool b => if b then "True" else "False"
  | .int n => toString n
  | .float x => Decimal.floatText x
  | .str s => quoteText s
  | .bytes d => quoteBytes d
  | .list xs => "[" ++ ", ".intercalate (reprItems xs) ++ "]"
  | .dict es => "\x7b" ++ ", ".intercalate (reprEntries es) ++ "\x7d"
  | .set xs => if xs.isEmpty then "set()" else "\x7b" ++ ", ".intercalate (reprItems xs) ++ "\x7d"
  | .date d => "datetime.date(" ++ ", ".intercalate d.fields ++ ")"
  | .datetime t =>
    let time := [toString t.hour, toString t.minute] ++
      (if t.second != 0 || t.micro != 0 then [toString t.second] else []) ++
      (if t.micro != 0 then [toString t.micro] else [])
    let zone := (t.offset.map fun o => ["tzinfo=" ++ offsetRepr o]).getD []
    "datetime.datetime(" ++ ", ".intercalate (t.date.fields ++ time ++ zone) ++ ")"

/-- The quoted forms of list items. -/
def reprItems : List Value → List String
  | [] => []
  | x :: xs => repr x :: reprItems xs

/-- The quoted forms of mapping entries. -/
def reprEntries : List (Value × Value) → List String
  | [] => []
  | (k, v) :: rest => (repr k ++ ": " ++ repr v) :: reprEntries rest

end

/-- The plain form of a value: text as it is, dates and times in ISO form (with a blank
between date and time), everything else in its quoted form. -/
def text : Value → String
  | .str s => s
  | .date d => d.isoformat
  | .datetime t =>
    let iso := t.isoformat
    String.ofList (iso.toList.map fun c => if c == 'T' then ' ' else c)
  | v => v.repr

/-- The most decimal digits an integer may have to be written out: writing a longer one is
refused, since the conversion takes time quadratic in the length. -/
def maxTextDigits : Nat := 4300

mutual

/-- Whether every integer in a value is short enough to be written out. -/
def writable : Value → Bool
  | .int n => n.natAbs < 10 ^ maxTextDigits
  | .list xs | .set xs => writableItems xs
  | .dict es => writableEntries es
  | _ => true

/-- Whether every integer in list items is short enough to be written out. -/
def writableItems : List Value → Bool
  | [] => true
  | x :: xs => writable x && writableItems xs

/-- Whether every integer in mapping entries is short enough to be written out. -/
def writableEntries : List (Value × Value) → Bool
  | [] => true
  | (k, v) :: rest => writable k && writable v && writableEntries rest

end

end Value

end SyntaxAdvisor
