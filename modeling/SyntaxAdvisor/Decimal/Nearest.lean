import SyntaxAdvisor.Decimal.Binary

/-!
# The double nearest to a decimal

A decimal `mantissa · 10^exponent` reads as the double nearest to it, a tie going to the double
with the even significand. Values beyond the largest double read as infinity; values below
half the smallest subnormal read as zero.
-/

-- Powers of naturals are `Nat.pow`, whatever other power instances are in scope.
attribute [local instance (2000)] instPowNat

namespace SyntaxAdvisor.Decimal

/-- The double nearest to `(-1)^negative · mantissa · 10^exponent`. -/
def nearestDouble (negative : Bool) (mantissa : Nat) (exponent : Int) : Float :=
  if mantissa == 0 then floatOfFields negative 0 0
  else if exponent > 400 then floatOfFields negative 2047 0
  else if exponent < -800 && (decimalLength mantissa : Int) + exponent < -400 then
    floatOfFields negative 0 0
  else
    let v := Ratio.ofDecimal mantissa exponent
    -- the binary exponent that puts the significand in [2^52, 2^53), at least -1074
    let lg : Int := (Nat.log2 v.num : Int) - (Nat.log2 v.den : Int)
    let e0 := max (lg - 53) (-1074)
    let rec settle (e : Int) : Nat → Int
      | 0 => e
      | fuel + 1 =>
        let q := (Ratio.mk (v.num * 2 ^ (-e).toNat) (v.den * 2 ^ e.toNat)).floor
        if q ≥ 2 ^ (53 : Nat) then settle (e + 1) fuel else e
    let e := settle e0 4
    let num := v.num * 2 ^ (-e).toNat
    let den := v.den * 2 ^ e.toNat
    let q := num / den
    let r := num % den
    -- round half to even
    let q := if 2 * r > den || (2 * r == den && q % 2 == 1) then q + 1 else q
    let (q, e) := if q == 2 ^ (53 : Nat) then (2 ^ (52 : Nat), e + 1) else (q, e)
    if q < 2 ^ (52 : Nat) then floatOfFields negative 0 q
    else if e > 971 then floatOfFields negative 2047 0
    else floatOfFields negative (e + 1075).toNat (q - 2 ^ (52 : Nat))

end SyntaxAdvisor.Decimal
