import SyntaxAdvisor.Decimal.Binary

/-!
# Fixed-point text of a double

A finite double written with a fixed number of decimals is its exact binary value rounded to
that many decimals, a tie going to the even last digit. The sign is kept even when the rounded
value is zero. A percentage is the double times a hundred, so written.
-/

-- Powers of naturals are `Nat.pow`, whatever other power instances are in scope.
attribute [local instance (2000)] instPowNat

namespace SyntaxAdvisor.Decimal

/-- The digits of `n`, at least `width` of them, with leading zeros. -/
def padDigits (n width : Nat) : String :=
  let s := Nat.repr n
  String.ofList (List.replicate (width - s.length) '0') ++ s

/-- The text of a finite double with `places` decimals: a minus sign for a negative value, the
integer part, and a point with the decimals when there are any. -/
def fixedText (v : BinaryFloat) (places : Nat) : String :=
  let x := Ratio.ofBinary v.significand v.exponent
  let num := x.num * 10 ^ places
  let q := num / x.den
  let r := num % x.den
  let n := if 2 * r > x.den || (2 * r == x.den && q % 2 == 1) then q + 1 else q
  let whole := Nat.repr (n / 10 ^ places)
  let body := if places == 0 then whole else whole ++ "." ++ padDigits (n % 10 ^ places) places
  (if v.negative then "-" else "") ++ body

/-- The text of a double as a percentage with `places` decimals: the double is multiplied by a
hundred (rounded as a double) and written in fixed point, followed by `%`. -/
def percentText (x : Float) (places : Nat) : String :=
  match DoubleKind.ofFloat (x * 100.0) with
  | .finite v => fixedText v places ++ "%"
  | .infinity negative => (if negative then "-inf" else "inf") ++ "%"
  | .nan => "nan%"

end SyntaxAdvisor.Decimal
