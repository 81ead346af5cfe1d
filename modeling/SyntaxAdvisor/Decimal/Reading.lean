import SyntaxAdvisor.Decimal.Nearest
import SyntaxAdvisor.Text.Blank
import SyntaxAdvisor.Text.Digit

/-!
# Reading a number from text

`readFloat` reads a text as a double, the way a text is turned into a floating-point number:

* every blank beyond ASCII is read as a space and every decimal digit beyond ASCII as the ASCII
  digit of its value; any other character from the delete character on makes the text
  unreadable;
* ASCII spaces at both ends are dropped;
* an underscore may stand only between two digits, and is then ignored;
* what is left is an optional sign and either a decimal `digits[.digits][e[±]digits]` (with at
  least one digit before the exponent) or, in any case, `inf`, `infinity` or `nan`.

The decimal reads as the double nearest to it (`nearestDouble`).

`readInt` reads a text as an integer in a base from 2 to 36 the same way: the characters are
mapped and the ends stripped as for a double, then come an optional sign, for bases 2, 8 and 16
an optional prefix `0b`, `0o` or `0x` (in any case, and which one underscore may follow), and
digits of the base, single underscores standing between them.
-/

-- Powers of naturals are `Nat.pow`, whatever other power instances are in scope.
attribute [local instance (2000)] instPowNat

namespace SyntaxAdvisor.Decimal

/-- A character as the number reader sees it; none for a character that cannot occur. An
ASCII character below the delete character stays itself. -/
def asciiForm (c : Char) : Option Char :=
  if c.toNat < 127 then some c
  else if Text.isBlank c then some ' '
  else (Text.digitValue? c).map fun d => Char.ofNat (48 + d)

/-- Whether a character is an ASCII space, tab, line end or page break. -/
def isAsciiSpace (c : Char) : Bool :=
  c == ' ' || c == '\t' || c == '\n' || c == '\x0b' || c == '\x0c' || c == '\r'

/-- Whether every underscore stands between two digits. -/
def underscoresFit (cs : List Char) : Bool :=
  let a := cs.toArray
  (List.range a.size).all fun i =>
    a[i]! != '_' ||
      (0 < i && (a[i - 1]!).isDigit && i + 1 < a.size && (a[i + 1]!).isDigit)

/-- Splits off a leading sign: whether it was a minus, and the rest. -/
def splitSign : List Char → Bool × List Char
  | '-' :: rest => (true, rest)
  | '+' :: rest => (false, rest)
  | cs => (false, cs)

/-- The value of a list of ASCII digits. -/
def digitsValue (ds : List Char) : Nat :=
  ds.foldl (fun n d => n * 10 + (d.toNat - 48)) 0

/-- Reads an unsigned decimal that takes the whole text: mantissa and exponent. -/
def readDecimal (cs : List Char) : Option (Nat × Int) :=
  let whole := cs.takeWhile Char.isDigit
  let rest := cs.dropWhile Char.isDigit
  let (frac, rest) := match rest with
    | '.' :: more => (more.takeWhile Char.isDigit, more.dropWhile Char.isDigit)
    | _ => ([], rest)
  if whole.isEmpty && frac.isEmpty then none
  else
    let mantissa := digitsValue (whole ++ frac)
    let scale : Int := -(frac.length : Int)
    match rest with
    | [] => some (mantissa, scale)
    | e :: more =>
      if e != 'e' && e != 'E' then none
      else
        let (negative, ds) := splitSign more
        if ds.isEmpty || !ds.all Char.isDigit then none
        else
          let ex : Int := digitsValue ds
          some (mantissa, scale + if negative then -ex else ex)

/-- The positive infinity. -/
def infinity : Float := floatOfFields false 2047 0

/-- A quiet not-a-number. -/
def notANumber : Float := floatOfFields false 2047 (2 ^ (51 : Nat))

/-- Reads `inf`, `infinity` or `nan`, in any case. -/
def readSpecial (cs : List Char) : Option Float :=
  let word := String.ofList (cs.map Char.toLower)
  if word == "inf" || word == "infinity" then some infinity
  else if word == "nan" then some notANumber
  else none

/-- Reads a text as a double; none when the text is not a number. -/
def readFloat (s : String) : Option Float := do
  let cs ← s.toList.mapM asciiForm
  let cs := ((cs.dropWhile isAsciiSpace).reverse.dropWhile isAsciiSpace).reverse
  if !underscoresFit cs then none
  let cs := cs.filter (· != '_')
  let (negative, body) := splitSign cs
  match readDecimal body with
  | some (mantissa, exponent) => some (nearestDouble negative mantissa exponent)
  | none =>
    let x ← readSpecial body
    some (if negative then -x else x)

/-- The value of a digit or letter as a digit of some base. -/
def digitOf (c : Char) : Option Nat :=
  if c.isDigit then some (c.toNat - 48)
  else if 'a' ≤ c && c ≤ 'z' then some (c.toNat - 87)
  else if 'A' ≤ c && c ≤ 'Z' then some (c.toNat - 55)
  else none

/-- The digits of a base with single underscores between them: their value. -/
def readDigits (base : Nat) (cs : List Char) : Option Nat :=
  if cs.isEmpty || cs.head? == some '_' || cs.getLast? == some '_' then none
  else
    cs.foldlM (fun (acc : Nat × Bool) c =>
      let (n, afterMark) := acc
      if c == '_' then (if afterMark then none else some (n, true))
      else match digitOf c with
        | some d => if d < base then some (n * base + d, false) else none
        | none => none) (0, false) |>.map Prod.fst

/-- The prefix that a base may be written with. -/
def basePrefix (base : Nat) : Option Char :=
  if base == 2 then some 'b' else if base == 8 then some 'o'
  else if base == 16 then some 'x' else none

/-- Reads a text as an integer in a base; none when the text is not one. -/
def readInt (s : String) (base : Nat) : Option Int := do
  let cs ← s.toList.mapM asciiForm
  let cs := ((cs.dropWhile isAsciiSpace).reverse.dropWhile isAsciiSpace).reverse
  let (negative, body) := splitSign cs
  let body := match body, basePrefix base with
    | '0' :: p :: rest, some q =>
      if p.toLower == q then (match rest with | '_' :: more => more | _ => rest) else body
    | _, _ => body
  let n ← readDigits base body
  pure (if negative then -(n : Int) else n)

/-- The most digits that a text in a base other than a power of two may have and still be read
as an integer; a longer one is refused before any arithmetic is done on it. -/
def maxIntDigits : Nat := 4300

/-- What reading a text as an integer gives. -/
inductive IntReading where
  /-- The integer the text stands for. -/
  | value (n : Int)
  /-- The text is not an integer. -/
  | invalid
  /-- The text has this many digits, more than `maxIntDigits`. -/
  | tooLong (digits : Nat)

/-- The digits in the run of digits of a base and underscores that starts a number; none when
an underscore doubles or ends the run, since the text is then refused as it is scanned. -/
def digitRun (base : Nat) : List Char → Bool → Nat → Option Nat
  | [], afterMark, n => if afterMark then none else some n
  | c :: rest, afterMark, n =>
    if c == '_' then (if afterMark then none else digitRun base rest true n)
    else match digitOf c with
      | some d =>
        if d < base then digitRun base rest false (n + 1)
        else if afterMark then none else some n
      | none => if afterMark then none else some n

/-- Whether a base is a power of two, whose texts are read in time linear in their length and
so have no length limit. -/
def isBinaryBase (base : Nat) : Bool :=
  base == 2 || base == 4 || base == 8 || base == 16 || base == 32

/-- Reads a text as an integer in a base, with the length limit: the digits are counted first,
over the leading run of digits that the reader scans before it looks at what follows, and a
run longer than `maxIntDigits` is refused whatever comes after it. A character the reader
cannot map ends the text there. -/
def readIntLimited (s : String) (base : Nat) : IntReading :=
  let cs := (s.toList.map fun c => (asciiForm c).getD '?').takeWhile (· != '?')
  let (_, body) := splitSign (cs.dropWhile isAsciiSpace)
  let count :=
    if isBinaryBase base || body.head? == some '_' then none else digitRun base body false 0
  match count.filter (· > maxIntDigits), readInt s base with
  | some n, _ => .tooLong n
  | none, some v => .value v
  | none, none => .invalid

end SyntaxAdvisor.Decimal
