import SyntaxAdvisor.Value.Number

/-!
# Hashes of numbers and the order of a set's members

A set does not keep its members in the order they were added: it lists them in the order of the
slots they take in its hash table. That order matters where a set's members are listed and no
sorting puts them in order afterwards (a set of numbers holding not-a-number, or of values of
different kinds).

The hash of a number is fixed by its value: a rational `p / q` hashes to `p · q⁻¹` modulo the
prime `2^61 - 1`, with the sign of the number, and `-1` becomes `-2`; the infinities hash to
`±314159`. Truth values hash as `0` and `1`. The hash of anything else (text, dates,
not-a-number) depends on the run and is unknown here.

A set made in one go from `n` distinct members has a table of `8` slots when `n < 5`, and
otherwise of the least power of two above `2n`, never grown while the members go in. A member
goes to the slot its hash picks (the hash's low bits); when that is taken, to the next free one
of the following nine, if they lie within the table, and otherwise to slots picked by mixing in
more and more of the hash's higher bits (`perturb`). Members of unknown hash are listed after
the others, in the order they were added.
-/

-- Powers of naturals are `Nat.pow`, whatever other power instances are in scope.
attribute [local instance (2000)] instPowNat

namespace SyntaxAdvisor

namespace SetOrder

/-- The modulus of number hashes, the prime `2^61 - 1`. -/
def modulus : Nat := 2 ^ (61 : Nat) - 1

/-- The hash of the infinities, by sign. -/
def infinityHash : Nat := 314159

/-- A hash as it is finally given: `-1` is kept for failures and becomes `-2`. -/
def finish (h : Int) : Int := if h == -1 then -2 else h

/-- The hash of a non-negative rational `num / den` whose denominator is a power of two. -/
def ratioHash (num den : Nat) : Nat :=
  let inverse := 2 ^ ((60 * Nat.log2 den) % 61) % modulus
  (num % modulus) * inverse % modulus

/-- The hash of a value, when it is a number whose hash is known. -/
def hash? (v : Value) : Option Int :=
  match v.number? with
  | some (.int n) =>
    let h : Int := (n.natAbs % modulus : Nat)
    some (finish (if n < 0 then -h else h))
  | some (.float x) =>
    match Decimal.DoubleKind.ofFloat x with
    | .nan => none
    | .infinity neg => some (if neg then -(infinityHash : Int) else infinityHash)
    | .finite f =>
      let r := Decimal.Ratio.ofBinary f.significand f.exponent
      let h : Int := ratioHash r.num r.den
      some (finish (if f.negative then -h else h))
  | none => none

/-- The number of slots of the table of a set made from `n` distinct members. -/
def tableSize (n : Nat) : Nat :=
  if n < 5 then 8 else 2 ^ (Nat.log2 (2 * n) + 1)

/-- How many slots past the first a member may take before the search jumps. -/
def linearProbes : Nat := 9

/-- The slot a member of hash `h` (as an unsigned word) takes in a table of `size` slots whose
taken slots `taken` tells: the search starts at the slot the low bits pick. -/
def slotFrom (taken : Nat → Bool) (size : Nat) : Nat → Nat → Nat → Nat
  | 0, i, _ => i
  | fuel + 1, i, perturb =>
    let mask := size - 1
    let span := if i + linearProbes ≤ mask then linearProbes + 1 else 1
    match (List.range span).find? (fun j => !taken (i + j)) with
    | some j => i + j
    | none =>
      let perturb := perturb / 32
      slotFrom taken size fuel ((i * 5 + 1 + perturb) % size) perturb

/-- The slot a member of hash `h` takes. -/
def slot (taken : Nat → Bool) (size : Nat) (h : Int) : Nat :=
  let word := (h % (2 ^ (64 : Nat) : Int)).toNat
  slotFrom taken size (size + 64) (word % size) word

/-- The order in which a set lists its members, given each member's hash when it is known, in
the order the members were added: the positions of the members. -/
def order (hashes : List (Option Int)) : List Nat :=
  let size := tableSize hashes.length
  let known := (hashes.zipIdx).filterMap fun (h, i) => h.map fun h => (h, i)
  let placed := known.foldl (fun (acc : List (Nat × Nat)) (h, i) =>
    let s := slot (fun j => acc.any (·.1 == j)) size h
    acc ++ [(s, i)]) []
  let bySlot := (placed.toArray.qsort (fun a b => a.1 < b.1)).toList.map (·.2)
  let unknown := (hashes.zipIdx).filterMap fun (h, i) => if h.isSome then none else some i
  bySlot ++ unknown

end SetOrder

end SyntaxAdvisor
