/-!
# Code point classes as sorted ranges

A class of code points, such as a Unicode property, is kept as a sorted array of disjoint
closed ranges. Tables are written compactly: each range is `gap:span` in hexadecimal, where
`gap` is the distance from one past the end of the previous range to the range's first code
point and `span` is the range's length less one. Membership is a binary search.
-/

namespace SyntaxAdvisor.Text

/-- A closed range `lo ..= hi` of code points. -/
structure CodeRange where
  /-- The first code point of the range. -/
  lo : Nat
  /-- The last code point of the range. -/
  hi : Nat
deriving Repr, Inhabited

/-- The value of one hexadecimal digit; other characters count as zero. -/
def hexDigitValue (c : Char) : Nat :=
  if '0' ≤ c ∧ c ≤ '9' then c.toNat - '0'.toNat
  else if 'a' ≤ c ∧ c ≤ 'f' then c.toNat - 'a'.toNat + 10
  else if 'A' ≤ c ∧ c ≤ 'F' then c.toNat - 'A'.toNat + 10
  else 0

/-- The value of a string of hexadecimal digits. -/
def hexValue (s : String) : Nat :=
  s.foldl (fun n c => n * 16 + hexDigitValue c) 0

/-- Reads a table of `gap:span` entries separated by blanks into its ranges. -/
def decodeRanges (table : String) : Array CodeRange :=
  let entries := (table.splitOn " ").filter (· ≠ "")
  let step : Nat × Array CodeRange → String → Nat × Array CodeRange := fun (next, acc) e =>
    match e.splitOn ":" with
    | [gap, span] =>
      let lo := next + hexValue gap
      let hi := lo + hexValue span
      (hi + 1, acc.push ⟨lo, hi⟩)
    | _ => (next, acc)
  (entries.foldl step (0, #[])).2

/-- Whether `n` lies in one of the ranges `rs[lo:hi]`, which are sorted and disjoint. -/
def rangesContain (rs : Array CodeRange) (n : Nat) (lo hi : Nat) : Bool :=
  if h : lo < hi then
    let mid := (lo + hi) / 2
    let r := rs[mid]!
    if n < r.lo then rangesContain rs n lo mid
    else if r.hi < n then rangesContain rs n (mid + 1) hi
    else true
  else false
termination_by hi - lo

/-- Whether the code point `n` belongs to the class given by the sorted ranges `rs`. -/
def CodeRange.member (rs : Array CodeRange) (n : Nat) : Bool :=
  rangesContain rs n 0 rs.size

end SyntaxAdvisor.Text
