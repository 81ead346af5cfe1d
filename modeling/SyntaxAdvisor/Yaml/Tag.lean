import SyntaxAdvisor.Yaml.Timestamp

/-!
# Tags and the kinds of plain scalars

Every node of a YAML document has a tag that says what kind of value it stands for. Tags of the
core schema are written in full as `tag:yaml.org,2002:name`.

A scalar with no tag (or the non-specific tag `!`) whose kind is to be found from its text gets
the tag of the first kind whose form its whole text has, looking only at the kinds its first
character can start:

* bool: `yes`, `no`, `true`, `false`, `on`, `off`, each in lower, capitalised or upper case;
* float: digits with a point, an optional fraction and a signed exponent; a point and digits;
  base-60 digits with a point; `.inf` with a sign or none, `.nan`;
* int: binary `0b`, octal `0`, decimal, hexadecimal `0x`, base-60 `1:20`;
* merge `<<`, null (`~`, `null` in three cases, or nothing), timestamp, value `=`.

Underscores may stand among the digits. As with a pattern anchored at the end of the text, a
form also fits a text that has it followed by one line feed. Everything else is text.
-/

namespace SyntaxAdvisor.Yaml

namespace Tag

/-- The full name of a tag of the core schema. -/
def core (name : String) : String := "tag:yaml.org,2002:" ++ name

/-- The tag of nothing. -/
def null : String := core "null"
/-- The tag of truth values. -/
def bool : String := core "bool"
/-- The tag of integers. -/
def int : String := core "int"
/-- The tag of doubles. -/
def float : String := core "float"
/-- The tag of text. -/
def str : String := core "str"
/-- The tag of bytes written in base 64. -/
def binary : String := core "binary"
/-- The tag of dates and times. -/
def timestamp : String := core "timestamp"
/-- The tag of sequences. -/
def seq : String := core "seq"
/-- The tag of mappings. -/
def map : String := core "map"
/-- The tag of sets. -/
def set : String := core "set"
/-- The tag of ordered mappings. -/
def omap : String := core "omap"
/-- The tag of lists of pairs. -/
def pairs : String := core "pairs"
/-- The tag of the merge key `<<`. -/
def merge : String := core "merge"
/-- The tag of the value key `=`. -/
def value : String := core "value"
/-- The tag of the indicators `!`, `&` and `*` standing alone. -/
def yaml : String := core "yaml"
/-- The tag a fixed sequence of values is written with. -/
def tuple : String := core "python/tuple"

end Tag

namespace Plain

/-- Drops a leading sign. -/
def dropSign : List Char → List Char
  | '-' :: r | '+' :: r => r
  | cs => cs

/-- An ASCII digit or an underscore. -/
def isDigitMark (c : Char) : Bool := c.isDigit || c == '_'

/-- A nonzero ASCII digit. -/
def isNonzeroDigit (c : Char) : Bool := '1' ≤ c && c ≤ '9'

/-- One base-60 digit group: one digit, or two whose first is at most 5. -/
def isSixtyGroup : List Char → Bool
  | [d] => d.isDigit
  | [a, b] => '0' ≤ a && a ≤ '5' && b.isDigit
  | _ => false

/-- One or more base-60 groups, each after a colon. -/
def isSixtyTail : List Char → Bool
  | ':' :: rest => ((String.ofList rest).splitOn ":").all fun g => isSixtyGroup g.toList
  | _ => false

/-- A signed exponent `e+12`, or nothing. -/
def isExponentOrEmpty : List Char → Bool
  | [] => true
  | e :: s :: ds => (e == 'e' || e == 'E') && (s == '-' || s == '+') && !ds.isEmpty && ds.all Char.isDigit
  | _ => false

/-- Digits, a point, an optional fraction and an optional exponent: `1.5`, `1.`, `1_0.5e+3`. -/
def isPointFloat : List Char → Bool
  | d :: r =>
    d.isDigit &&
      match r.dropWhile isDigitMark with
      | '.' :: frac => isExponentOrEmpty (frac.dropWhile isDigitMark)
      | _ => false
  | [] => false

/-- A point followed by digits and an optional exponent: `.5`. -/
def isFractionFloat : List Char → Bool
  | '.' :: d :: r => d.isDigit && isExponentOrEmpty (r.dropWhile isDigitMark)
  | _ => false

/-- Base-60 digits followed by a point and a fraction: `1:30.5`. -/
def isSixtyFloat : List Char → Bool
  | d :: r =>
    let rest := r.dropWhile isDigitMark
    let groups := rest.takeWhile (· != '.')
    d.isDigit && isSixtyTail groups &&
      match rest.dropWhile (· != '.') with
      | '.' :: frac => frac.all isDigitMark
      | _ => false
  | [] => false

/-- Whether a text has the form of a double. -/
def isFloat (cs : List Char) : Bool :=
  let body := dropSign cs
  isPointFloat body || isFractionFloat cs || isSixtyFloat body ||
    body == ['.', 'i', 'n', 'f'] || body == ['.', 'I', 'n', 'f'] || body == ['.', 'I', 'N', 'F'] ||
    cs == ['.', 'n', 'a', 'n'] || cs == ['.', 'N', 'a', 'N'] || cs == ['.', 'N', 'A', 'N']

/-- Whether a text has the form of an integer. -/
def isInt (cs : List Char) : Bool :=
  match dropSign cs with
  | '0' :: 'b' :: r => !r.isEmpty && r.all fun c => c == '0' || c == '1' || c == '_'
  | '0' :: 'x' :: r => !r.isEmpty && r.all fun c => c.isDigit || ('a' ≤ c && c ≤ 'f') || ('A' ≤ c && c ≤ 'F') || c == '_'
  | ['0'] => true
  | '0' :: r => r.all fun c => ('0' ≤ c && c ≤ '7') || c == '_'
  | d :: r =>
    isNonzeroDigit d &&
      (r.all isDigitMark || isSixtyTail (r.dropWhile isDigitMark))
  | [] => false

/-- Whether a text is a truth value word. -/
def isBool (s : String) : Bool :=
  ["yes", "Yes", "YES", "no", "No", "NO", "true", "True", "TRUE", "false", "False", "FALSE",
   "on", "On", "ON", "off", "Off", "OFF"].contains s

/-- Whether a text stands for nothing. -/
def isNull (s : String) : Bool := ["~", "null", "Null", "NULL", ""].contains s

/-- Whether a text has the form of a timestamp: a date `2001-12-14`, or a date with a time. -/
def isTimestamp (cs : List Char) : Bool :=
  match Timestamp.read cs with
  | some t => t.time.isSome || (t.month.length == 2 && t.day.length == 2)
  | none => false

/-- The kinds a plain scalar starting with `c` may have, in the order they are tried, each with
the test of its form. -/
def candidates (c : Option Char) : List (String × (List Char → Bool)) :=
  let bool := (Tag.bool, fun cs => isBool (String.ofList cs))
  let null := (Tag.null, fun cs => isNull (String.ofList cs))
  match c with
  | none => [null]
  | some c =>
    if c == '-' || c == '+' then [(Tag.float, isFloat), (Tag.int, isInt)]
    else if c.isDigit then [(Tag.float, isFloat), (Tag.int, isInt), (Tag.timestamp, isTimestamp)]
    else if c == '.' then [(Tag.float, isFloat)]
    else if "yYtTfFoO".contains c then [bool]
    else if c == 'n' || c == 'N' then [bool, null]
    else if c == '~' then [null]
    else if c == '<' then [(Tag.merge, fun cs => cs == ['<', '<'])]
    else if c == '=' then [(Tag.value, fun cs => cs == ['='])]
    else if c == '!' || c == '&' || c == '*' then
      [(Tag.yaml, fun cs => cs == ['!'] || cs == ['&'] || cs == ['*'])]
    else []

/-- Whether a text has a form, or has it followed by one line feed. -/
def fitsAtEnd (form : List Char → Bool) (cs : List Char) : Bool :=
  form cs || (cs.getLast? == some '\n' && form cs.dropLast)

end Plain

/-- The tag of a scalar whose kind is found from its text. -/
def implicitTag (text : String) : String :=
  let cs := text.toList
  match (Plain.candidates cs.head?).find? fun (_, form) => Plain.fitsAtEnd form cs with
  | some (tag, _) => tag
  | none => Tag.str

end SyntaxAdvisor.Yaml
