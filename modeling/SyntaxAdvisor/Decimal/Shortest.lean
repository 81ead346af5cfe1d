import SyntaxAdvisor.Decimal.Binary

/-!
# Shortest decimal digits of a double

The shortest digits of a positive double are the fewest significant decimal digits whose value
reads back as the same double: it lies strictly inside the interval of reals that round to the
double, or on its boundary when the significand is even (ties go to the even significand).
Among candidates with that many digits, the one nearest to the double wins, and of two at the
same distance, the even one.

For `n` digits the candidates are the two multiples of `10^k` around the double, where
`10^(k+n-1)` is the largest power of ten not above it; seventeen digits always suffice.
-/

-- Powers of naturals are `Nat.pow`, whatever other power instances are in scope.
attribute [local instance (2000)] instPowNat

namespace SyntaxAdvisor.Decimal

/-- Removes the trailing zeros of `c · 10^k`, moving them into the exponent. -/
def dropTrailingZeros (c : Nat) (k : Int) : Nat → Nat × Int
  | 0 => (c, k)
  | fuel + 1 =>
    if c != 0 && c % 10 == 0 then dropTrailingZeros (c / 10) (k + 1) fuel else (c, k)

/-- The shortest digits `c` and exponent `k` with `c · 10^k` reading back as the positive
double `m · 2^e` (`m > 0`); `c` has no trailing zeros. -/
def shortestDigits (m : Nat) (e : Int) : Nat × Int :=
  let v := Ratio.ofBinary m e
  -- the rounding interval, in units of 2^(e-2); below a power of two the gap halves
  let lowGap := if m == 2 ^ (52 : Nat) && e > -1074 then 1 else 2
  let lo := Ratio.ofBinary (4 * m - lowGap) (e - 2)
  let hi := Ratio.ofBinary (4 * m + 2) (e - 2)
  let inclusive := m % 2 == 0
  let inside (c : Nat) (k : Int) : Bool :=
    let x := Ratio.ofDecimal c k
    (if inclusive then lo.le x && x.le hi else lo.lt x && x.lt hi)
  let t := v.log10
  let pick (n : Nat) : Option (Nat × Int) :=
    let k := t - (n : Int) + 1
    let q := (Ratio.mk (v.num * 10 ^ (-k).toNat) (v.den * 10 ^ k.toNat)).floor
    let lower := inside q k
    let upper := inside (q + 1) k
    if lower && upper then
      -- compare 2v with (2q + 1) · 10^k: below, q is nearer; above, q + 1
      let mid := Ratio.ofDecimal (2 * q + 1) k
      let twice := Ratio.mk (2 * v.num) v.den
      if twice.lt mid then some (q, k)
      else if mid.lt twice then some (q + 1, k)
      else some (if q % 2 == 0 then q else q + 1, k)
    else if lower then some (q, k)
    else if upper then some (q + 1, k)
    else none
  let found := (List.range 17).findSome? (fun i => pick (i + 1))
  let (c, k) := found.getD (m, e)
  dropTrailingZeros c k (decimalLength c + 1)

end SyntaxAdvisor.Decimal
