import SyntaxAdvisor.Failure
import SyntaxAdvisor.Decimal.Nearest

/-!
# Numbers among values

Truth values, integers and doubles are the numbers: a truth value counts as 0 or 1. Arithmetic
on two integers stays exact; with a double involved, the integer is first rounded to the nearest
double (too large an integer fails). Comparison is exact in every case, and not-a-number is
neither smaller nor larger than anything, nor equal to it.
-/

namespace SyntaxAdvisor

/-- A number. -/
inductive Number where
  /-- An integer. -/
  | int (n : Int)
  /-- A double. -/
  | float (x : Float)
deriving Inhabited

namespace Number

/-- The value of a number. -/
def toValue : Number → Value
  | .int n => .int n
  | .float x => .float x

/-- The nearest double to an integer, if it is not too large. -/
def intToFloat (n : Int) : Except Failure Float :=
  let x := Decimal.nearestDouble (n < 0) n.natAbs 0
  match Decimal.DoubleKind.ofFloat x with
  | .infinity _ => .error (.raised "OverflowError" "int too large to convert to float")
  | _ => .ok x

/-- The double of a number. -/
def toFloat : Number → Except Failure Float
  | .int n => intToFloat n
  | .float x => .ok x

/-- Applies an integer and a double operation to two numbers. -/
def combine (fi : Int → Int → Int) (ff : Float → Float → Float) :
    Number → Number → Except Failure Number
  | .int a, .int b => .ok (.int (fi a b))
  | a, b => do
    let x ← a.toFloat
    let y ← b.toFloat
    pure (.float (ff x y))

/-- The exact value of a number as a sign and a ratio, for finite numbers. -/
def exact : Number → Option (Bool × Decimal.Ratio)
  | .int n => some (n < 0, ⟨n.natAbs, 1⟩)
  | .float x =>
    match Decimal.DoubleKind.ofFloat x with
    | .finite v => some (v.negative && v.significand != 0,
        Decimal.Ratio.ofBinary v.significand v.exponent)
    | _ => Option.none

/-- Compares two numbers exactly: `none` when one of them is not a number. -/
def compare (a b : Number) : Option Ordering :=
  let special : Number → Option (Option Bool) := fun
    | .float x =>
      match Decimal.DoubleKind.ofFloat x with
      | .nan => some none
      | .infinity neg => some (some neg)
      | .finite _ => none
    | .int _ => none
  match special a, special b with
  | some none, _ | _, some none => none
  | some (some na), some (some nb) =>
    some (if na == nb then .eq else if na then .lt else .gt)
  | some (some na), none => some (if na then .lt else .gt)
  | none, some (some nb) => some (if nb then .gt else .lt)
  | none, none =>
    match a.exact, b.exact with
    | some (sa, ra), some (sb, rb) =>
      let za := ra.num == 0
      let zb := rb.num == 0
      let sa := sa && !za
      let sb := sb && !zb
      if sa != sb then some (if sa then .lt else .gt)
      else
        let o := if ra.lt rb then Ordering.lt else if rb.lt ra then .gt else .eq
        some (if sa then o.swap else o)
    | _, _ => none

end Number

namespace Value

/-- The number a value is, if it is one. -/
def number? : Value → Option Number
  | .bool b => some (.int (if b then 1 else 0))
  | .int n => some (.int n)
  | .float x => some (.float x)
  | _ => Option.none

/-- The failure of an arithmetic operator on values it does not apply to. -/
def operandError (sym : String) (a b : Value) : Failure :=
  .typeError ("unsupported operand type(s) for " ++ sym ++ ": '" ++ a.typeName ++ "' and '" ++
    b.typeName ++ "'")

/-- Subtraction of numbers. -/
def sub (a b : Value) : Except Failure Value :=
  match a.number?, b.number? with
  | some x, some y => (Number.combine (· - ·) (· - ·) x y).map Number.toValue
  | _, _ => .error (operandError "-" a b)

/-- Addition of numbers. -/
def add (a b : Value) : Except Failure Value :=
  match a.number?, b.number? with
  | some x, some y => (Number.combine (· + ·) (· + ·) x y).map Number.toValue
  | _, _ => .error (operandError "+" a b)

/-- The failure of an order comparison between values it does not apply to. -/
def orderError (sym : String) (a b : Value) : Failure :=
  .typeError ("'" ++ sym ++ "' not supported between instances of '" ++ a.typeName ++
    "' and '" ++ b.typeName ++ "'")

/-- Whether `a < b`: numbers compare by value, texts by code points. -/
def lt (a b : Value) : Except Failure Bool :=
  match a.number?, b.number?, a, b with
  | some x, some y, _, _ => .ok (x.compare y == some .lt)
  | _, _, .str s, .str t => .ok (Text.textBefore s t)
  | _, _, _, _ => .error (orderError "<" a b)

/-- Whether `a > b`. -/
def gt (a b : Value) : Except Failure Bool :=
  match a.number?, b.number?, a, b with
  | some x, some y, _, _ => .ok (x.compare y == some .gt)
  | _, _, .str s, .str t => .ok (Text.textBefore t s)
  | _, _, _, _ => .error (orderError ">" a b)

/-- Whether `a ≥ b`. -/
def ge (a b : Value) : Except Failure Bool :=
  match a.number?, b.number?, a, b with
  | some x, some y, _, _ => .ok (x.compare y == some .gt || x.compare y == some .eq)
  | _, _, .str s, .str t => .ok (!Text.textBefore s t)
  | _, _, _, _ => .error (orderError ">=" a b)

/-- The larger of two values, the first on ties or when they do not compare. -/
def max (a b : Value) : Except Failure Value := do
  if ← gt b a then pure b else pure a

/-- The smaller of two values, the first on ties or when they do not compare. -/
def min (a b : Value) : Except Failure Value := do
  if ← lt b a then pure b else pure a

/-- The integer a value stands for where an index or count is needed. -/
def asIndex (v : Value) : Except Failure Int :=
  match v with
  | .int n => .ok n
  | .bool b => .ok (if b then 1 else 0)
  | _ => .error (.typeError ("'" ++ v.typeName ++ "' object cannot be interpreted as an integer"))

end Value

end SyntaxAdvisor
