import SyntaxAdvisor.Decimal.Shortest

/-!
# The written form of a double

A double is written with its shortest digits (see `Shortest`): positionally while the decimal
point falls between four places left of the first digit and sixteen places right of it, and
otherwise as one digit, the other digits after a point, and an exponent `e` with a sign and at
least two digits. A positional value with no fraction keeps a `.0`. Infinities and not-a-number
are written `inf`, `-inf` and `nan`; a negative zero keeps its sign.
-/

namespace SyntaxAdvisor.Decimal

/-- Writes digits `ds` whose decimal point stands `point` places from their start (negative:
to their left). -/
def placeDigits (ds : String) (point : Int) : String :=
  let n : Int := ds.length
  if point ≤ 0 then "0." ++ String.ofList (List.replicate (-point).toNat '0') ++ ds
  else if point ≥ n then ds ++ String.ofList (List.replicate (point - n).toNat '0') ++ ".0"
  else (ds.take point.toNat).toString ++ "." ++ (ds.drop point.toNat).toString

/-- Writes digits `ds` in exponent form, the point standing `point` places from their start. -/
def scientificDigits (ds : String) (point : Int) : String :=
  let mantissa :=
    if ds.length == 1 then ds else (ds.take 1).toString ++ "." ++ (ds.drop 1).toString
  let exp := point - 1
  let sign := if exp < 0 then "-" else "+"
  let digits := Nat.repr exp.natAbs
  mantissa ++ "e" ++ sign ++ (if digits.length < 2 then "0" ++ digits else digits)

/-- The written form of a double. -/
def floatText (x : Float) : String :=
  match DoubleKind.ofFloat x with
  | .nan => "nan"
  | .infinity neg => if neg then "-inf" else "inf"
  | .finite v =>
    let sign := if v.negative then "-" else ""
    if v.significand == 0 then sign ++ "0.0"
    else
      let (c, k) := shortestDigits v.significand v.exponent
      let ds := Nat.repr c
      let point := (ds.length : Int) + k
      sign ++ (if point < -3 || point > 16 then scientificDigits ds point else placeDigits ds point)

end SyntaxAdvisor.Decimal
