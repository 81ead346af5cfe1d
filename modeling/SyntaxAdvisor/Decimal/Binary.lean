/-!
# Doubles as exact binary numbers

A finite double is exactly `±significand · 2^exponent`. Reading a double this way lets the
printers below work in exact natural-number arithmetic: a double holds no decimal digits of its
own, and every decimal text of it is a choice made by a rule stated on these exact values.
-/

-- Powers of naturals are `Nat.pow`, whatever other power instances are in scope.
attribute [local instance (2000)] instPowNat

namespace SyntaxAdvisor.Decimal

/-- A finite binary floating-point value `(-1)^negative · significand · 2^exponent`. -/
structure BinaryFloat where
  /-- The sign. -/
  negative : Bool
  /-- The significand; below `2^53`. -/
  significand : Nat
  /-- The exponent of two. -/
  exponent : Int
deriving Repr, Inhabited, BEq

/-- What a double is. -/
inductive DoubleKind where
  /-- A finite value, zero included. -/
  | finite (v : BinaryFloat)
  /-- An infinity. -/
  | infinity (negative : Bool)
  /-- Not a number. -/
  | nan
deriving Repr, Inhabited, BEq

/-- Decodes a double from its bits: subnormals have exponent `-1074`, normal values carry the
hidden bit `2^52` in their significand. -/
def DoubleKind.ofFloat (x : Float) : DoubleKind :=
  let bits : Nat := x.toBits.toNat
  let negative := bits ≥ 2 ^ (63 : Nat)
  let field : Nat := (bits / 2 ^ (52 : Nat)) % 2 ^ (11 : Nat)
  let fraction : Nat := bits % 2 ^ (52 : Nat)
  if field == 2047 then (if fraction == 0 then .infinity negative else .nan)
  else if field == 0 then .finite ⟨negative, fraction, -1074⟩
  else .finite ⟨negative, fraction + 2 ^ (52 : Nat), (field : Int) - 1075⟩

/-- The double with the given sign, significand and exponent field. -/
def floatOfFields (negative : Bool) (field fraction : Nat) : Float :=
  Float.ofBits (UInt64.ofNat ((if negative then 2 ^ (63 : Nat) else 0) + field * 2 ^ (52 : Nat) + fraction))

/-- A positive rational `num / den`, with `den > 0`, used for exact comparisons. -/
structure Ratio where
  /-- The numerator. -/
  num : Nat
  /-- The denominator. -/
  den : Nat
deriving Repr, Inhabited

/-- `m · 2^e` as a ratio. -/
def Ratio.ofBinary (m : Nat) (e : Int) : Ratio :=
  ⟨m * 2 ^ e.toNat, 2 ^ (-e).toNat⟩

/-- `c · 10^k` as a ratio. -/
def Ratio.ofDecimal (c : Nat) (k : Int) : Ratio :=
  ⟨c * 10 ^ k.toNat, 10 ^ (-k).toNat⟩

/-- Strict order of ratios. -/
def Ratio.lt (a b : Ratio) : Bool := a.num * b.den < b.num * a.den

/-- Order of ratios. -/
def Ratio.le (a b : Ratio) : Bool := a.num * b.den ≤ b.num * a.den

/-- The integer part of a ratio. -/
def Ratio.floor (a : Ratio) : Nat := a.num / a.den

/-- The number of decimal digits of a positive number. -/
def decimalLength (n : Nat) : Nat := (Nat.repr n).length

/-- The largest `t` with `10^t ≤ a`, for a positive ratio `a`. -/
def Ratio.log10 (a : Ratio) : Int :=
  let t0 : Int := (decimalLength a.num : Int) - (decimalLength a.den : Int)
  -- the estimate is at most one too large or one too small
  let t1 := if (Ratio.ofDecimal 1 t0).le a then t0 else t0 - 1
  let t2 := if (Ratio.ofDecimal 1 (t1 + 1)).le a then t1 + 1 else t1
  if (Ratio.ofDecimal 1 t2).le a then t2 else t2 - 1

end SyntaxAdvisor.Decimal
