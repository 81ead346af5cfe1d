/-!
# Sorting by natural runs

`RunSort.sort` is a stable sort that finds the runs already ordered in its input, lengthens
short runs by binary insertion, and merges runs pairwise, galloping through long stretches that
come from one run. It is the sort used to order the entries of a mapping before they are
written, and it has to be reproduced comparison for comparison: the relation it sorts by need
not be a strict weak order (not-a-number is neither before nor after anything), and then where
such an item lands depends on exactly which pairs are compared, in which order.

The steps:

* runs are found left to right: a run is a strictly descending stretch (then reversed) or a
  stretch in which no item is before the one ahead of it; a run shorter than `minRun` of the
  whole length is lengthened by binary insertion up to that length;
* each new run gets a power, the depth of the boundary between it and the run before in the
  binary split of the whole length (`power`); runs on the stack of higher power than the new
  boundary are merged first, and at the end the runs left are merged from the top, the smaller
  neighbour first;
* a merge first skips the head of the left run that is already in place and the tail of the
  right run that is, then merges from the low end when the left run is the shorter and from the
  high end otherwise, switching to galloping when one side wins `minGallop` times in a row and
  back when neither wins seven times; the threshold moves down while galloping pays and up when
  it stops paying, and is kept from merge to merge.

Every loop is bounded by an explicit count derived from the length, so the sort is total.
-/

namespace SyntaxAdvisor.RunSort

/-- How many wins in a row make galloping pay for itself. -/
def gallopWins : Nat := 7

/-- The shortest run for `n` items: `n` below 64, otherwise the six leading bits of `n`, plus
one when any bit below them is set. -/
def minRunFrom (n extra : Nat) : Nat :=
  if n < 64 then n + extra else minRunFrom (n / 2) (if n % 2 == 1 then 1 else extra)
termination_by n
decreasing_by omega

/-- The shortest run for `n` items. -/
def minRun (n : Nat) : Nat := minRunFrom n 0

/-- The power of the boundary between a run of `n1` items starting at `s1` and the next run
of `n2` items, in a sequence of `n` items: the first bit at which the binary expansions of the
two runs' midpoints, as fractions of `n`, differ. -/
def power (s1 n1 n2 n : Nat) : Nat := Id.run do
  let mut a := 2 * s1 + n1
  let mut b := a + n1 + n2
  let mut result := 0
  for _ in [0:130] do
    result := result + 1
    if a ≥ n then
      a := a - n
      b := b - n
    else if b ≥ n then
      break
    a := 2 * a
    b := 2 * b
  return result

/-- A run waiting to be merged: where it starts, its length and the power of its boundary with
the run after it. -/
structure Run where
  /-- Where the run starts. -/
  base : Nat
  /-- How many items the run has. -/
  len : Nat
  /-- The power of the boundary after the run. -/
  power : Nat := 0
deriving Inhabited

variable {α : Type} [Inhabited α]

/-- How many items after the first two continue a run starting at `k`: each before the one
ahead of it when `down`, none before the one ahead of it otherwise. -/
def runOn (before : α → α → Bool) (a : Array α) (down : Bool) (k hi : Nat) : Nat :=
  if k < hi then
    if before (a.getD k default) (a.getD (k - 1) default) == down then
      runOn before a down (k + 1) hi + 1
    else 0
  else 0
termination_by hi - k

/-- The run that starts at `lo` in `a[lo:hi]`: its length and whether it descends. -/
def countRun (before : α → α → Bool) (a : Array α) (lo hi : Nat) : Nat × Bool :=
  if lo + 1 ≥ hi then (1, false)
  else
    let down := before (a.getD (lo + 1) default) (a.getD lo default)
    (runOn before a down (lo + 2) hi + 2, down)

/-- The place in `a[l:r]` where `pivot` goes: after every item it is not before. -/
def insertionPlace (before : α → α → Bool) (a : Array α) (pivot : α) (l r : Nat) : Nat :=
  if l < r then
    let p := l + (r - l) / 2
    if before pivot (a.getD p default) then insertionPlace before a pivot l p
    else insertionPlace before a pivot (p + 1) r
  else l
termination_by r - l

/-- `a` with the item at `i` moved to place `l`, for `l ≤ i`. -/
def moveBack (a : Array α) (i l : Nat) : Array α :=
  a.extract 0 l ++ #[a.getD i default] ++ a.extract l i ++ a.extract (i + 1) a.size

/-- Sorts `a[lo:hi]` by binary insertion, given that `a[lo:start]` is sorted already. -/
def binarySort (before : α → α → Bool) (a : Array α) (lo hi start : Nat) : Array α := Id.run do
  let mut a := a
  let first := if start == lo then start + 1 else start
  for i in [first:hi] do
    let pivot := a.getD i default
    a := moveBack a i (insertionPlace before a pivot lo i)
  return a

/-- The first place in `[lo, hi)` where `goesRight` fails, found by halving, given that it
holds before that place and fails after; `hi` when it holds throughout. -/
def halve (goesRight : Nat → Bool) (lo hi : Nat) : Nat :=
  if lo < hi then
    let m := lo + (hi - lo) / 2
    if goesRight m then halve goesRight (m + 1) hi else halve goesRight lo m
  else hi
termination_by hi - lo

/-- Where `key` goes among the `n` sorted items `at 0, …, at (n-1)`, before every item it is
not after (to the left of equal items), searching outwards from `hint` by doubling steps and
then by halving. -/
def gallopLeft (before : α → α → Bool) (key : α) (at_ : Nat → α) (n hint : Nat) : Nat :=
  Id.run do
    let mut last := 0
    let mut ofs := 1
    if before (at_ hint) key then
      let most := n - hint
      for _ in [0:n + 1] do
        if ofs < most && before (at_ (hint + ofs)) key then
          last := ofs
          ofs := 2 * ofs + 1
        else break
      if ofs > most then ofs := most
      return halve (fun m => before (at_ m) key) (hint + last + 1) (hint + ofs)
    else
      let most := hint + 1
      for _ in [0:n + 1] do
        if ofs < most && !before (at_ (hint - ofs)) key then
          last := ofs
          ofs := 2 * ofs + 1
        else break
      if ofs > most then ofs := most
      return halve (fun m => before (at_ m) key) (hint + 1 - ofs) (hint - last)

/-- Where `key` goes among the `n` sorted items `at 0, …, at (n-1)`, after every item it is
not before (to the right of equal items), searching outwards from `hint` by doubling steps and
then by halving. -/
def gallopRight (before : α → α → Bool) (key : α) (at_ : Nat → α) (n hint : Nat) : Nat :=
  Id.run do
    let mut last := 0
    let mut ofs := 1
    if before key (at_ hint) then
      let most := hint + 1
      for _ in [0:n + 1] do
        if ofs < most && before key (at_ (hint - ofs)) then
          last := ofs
          ofs := 2 * ofs + 1
        else break
      if ofs > most then ofs := most
      return halve (fun m => !before key (at_ m)) (hint + 1 - ofs) (hint - last)
    else
      let most := n - hint
      for _ in [0:n + 1] do
        if ofs < most && !before key (at_ (hint + ofs)) then
          last := ofs
          ofs := 2 * ofs + 1
        else break
      if ofs > most then ofs := most
      return halve (fun m => !before key (at_ m)) (hint + last + 1) (hint + ofs)

/-- How a merge goes on: one comparison at a time, counting the wins in a row of each side, or
galloping. -/
inductive Pace where
  /-- Comparing one pair at a time; the wins in a row of the left and the right run. -/
  | single (leftWins rightWins : Nat)
  /-- Galloping. -/
  | gallop
deriving Inhabited

/-- A merge from the low end: the left run `a` from `ia` on, the right run `b` from `ib` on,
the items placed so far and the gallop threshold. The left run has at least two items left and
the right run at least one. -/
def mergeLowFrom (before : α → α → Bool) (a b : Array α) :
    Nat → Pace → Nat → Nat → Array α → Nat → Array α × Nat
  | 0, _, ia, ib, out, mg => (out ++ a.extract ia a.size ++ b.extract ib b.size, mg)
  | fuel + 1, pace, ia, ib, out, mg =>
    let done (ia ib : Nat) (out : Array α) (mg : Nat) : Array α × Nat :=
      (out ++ a.extract ia a.size ++ b.extract ib b.size, mg)
    let lastOfLeft (ia ib : Nat) (out : Array α) (mg : Nat) : Array α × Nat :=
      (out ++ b.extract ib b.size ++ a.extract ia a.size, mg)
    match pace with
    | .single aw bw =>
      if before (b.getD ib default) (a.getD ia default) then
        let out := out.push (b.getD ib default)
        if ib + 1 == b.size then done ia (ib + 1) out mg
        else if bw + 1 ≥ mg then mergeLowFrom before a b fuel .gallop ia (ib + 1) out (mg + 1)
        else mergeLowFrom before a b fuel (.single 0 (bw + 1)) ia (ib + 1) out mg
      else
        let out := out.push (a.getD ia default)
        if ia + 2 == a.size then lastOfLeft (ia + 1) ib out mg
        else if aw + 1 ≥ mg then mergeLowFrom before a b fuel .gallop (ia + 1) ib out (mg + 1)
        else mergeLowFrom before a b fuel (.single (aw + 1) 0) (ia + 1) ib out mg
    | .gallop =>
      let mg := if mg > 1 then mg - 1 else mg
      let na := a.size - ia
      let k := gallopRight before (b.getD ib default) (fun i => a.getD (ia + i) default) na 0
      let out := out ++ a.extract ia (ia + k)
      let ia := ia + k
      if k > 0 && a.size - ia == 1 then lastOfLeft ia ib out mg
      else if k > 0 && a.size - ia == 0 then done ia ib out mg
      else
        let out := out.push (b.getD ib default)
        let ib := ib + 1
        if ib == b.size then done ia ib out mg
        else
          let nb := b.size - ib
          let j := gallopLeft before (a.getD ia default) (fun i => b.getD (ib + i) default) nb 0
          let out := out ++ b.extract ib (ib + j)
          let ib := ib + j
          if j > 0 && ib == b.size then done ia ib out mg
          else
            let out := out.push (a.getD ia default)
            let ia := ia + 1
            if a.size - ia == 1 then lastOfLeft ia ib out mg
            else if k ≥ gallopWins || j ≥ gallopWins then
              mergeLowFrom before a b fuel .gallop ia ib out mg
            else mergeLowFrom before a b fuel (.single 0 0) ia ib out (mg + 1)

/-- Merges two sorted runs from the low end, `a` the shorter: the merged items and the gallop
threshold after. The first item of `b` is known to go first. -/
def mergeLow (before : α → α → Bool) (a b : Array α) (mg : Nat) : Array α × Nat :=
  let out := #[b.getD 0 default]
  if b.size == 1 then (out ++ a, mg)
  else if a.size == 1 then (out ++ b.extract 1 b.size ++ a, mg)
  else mergeLowFrom before a b (4 * (a.size + b.size) + 4) (.single 0 0) 0 1 out mg

/-- A merge from the high end: the left run `a` up to `na`, the right run `b` up to `nb`, the
items placed so far at the end (in order) and the gallop threshold. The left run has at least
one item left and the right run at least two. -/
def mergeHighFrom (before : α → α → Bool) (a b : Array α) :
    Nat → Pace → Nat → Nat → List α → Nat → List α × Nat
  | 0, _, na, nb, placed, mg => ((a.extract 0 na).toList ++ (b.extract 0 nb).toList ++ placed, mg)
  | fuel + 1, pace, na, nb, placed, mg =>
    let done (na nb : Nat) (placed : List α) (mg : Nat) : List α × Nat :=
      ((a.extract 0 na).toList ++ (b.extract 0 nb).toList ++ placed, mg)
    let firstOfRight (na : Nat) (placed : List α) (mg : Nat) : List α × Nat :=
      (b.getD 0 default :: (a.extract 0 na).toList ++ placed, mg)
    match pace with
    | .single aw bw =>
      if before (b.getD (nb - 1) default) (a.getD (na - 1) default) then
        let placed := a.getD (na - 1) default :: placed
        if na == 1 then done 0 nb placed mg
        else if aw + 1 ≥ mg then mergeHighFrom before a b fuel .gallop (na - 1) nb placed (mg + 1)
        else mergeHighFrom before a b fuel (.single (aw + 1) 0) (na - 1) nb placed mg
      else
        let placed := b.getD (nb - 1) default :: placed
        if nb == 2 then firstOfRight na placed mg
        else if bw + 1 ≥ mg then mergeHighFrom before a b fuel .gallop na (nb - 1) placed (mg + 1)
        else mergeHighFrom before a b fuel (.single 0 (bw + 1)) na (nb - 1) placed mg
    | .gallop =>
      let mg := if mg > 1 then mg - 1 else mg
      let k := na - gallopRight before (b.getD (nb - 1) default) (fun i => a.getD i default)
        na (na - 1)
      let placed := (a.extract (na - k) na).toList ++ placed
      let na := na - k
      if k > 0 && na == 0 then done na nb placed mg
      else
        let placed := b.getD (nb - 1) default :: placed
        let nb := nb - 1
        if nb == 1 then firstOfRight na placed mg
        else
          let j := nb - gallopLeft before (a.getD (na - 1) default) (fun i => b.getD i default)
            nb (nb - 1)
          let placed := (b.extract (nb - j) nb).toList ++ placed
          let nb := nb - j
          if j > 0 && nb == 1 then firstOfRight na placed mg
          else if j > 0 && nb == 0 then done na nb placed mg
          else
            let placed := a.getD (na - 1) default :: placed
            let na := na - 1
            if na == 0 then done na nb placed mg
            else if k ≥ gallopWins || j ≥ gallopWins then
              mergeHighFrom before a b fuel .gallop na nb placed mg
            else mergeHighFrom before a b fuel (.single 0 0) na nb placed (mg + 1)

/-- Merges two sorted runs from the high end, `b` the shorter: the merged items and the gallop
threshold after. The last item of `a` is known to go last. -/
def mergeHigh (before : α → α → Bool) (a b : Array α) (mg : Nat) : Array α × Nat :=
  let placed := [a.getD (a.size - 1) default]
  if a.size == 1 then ((b.toList ++ placed).toArray, mg)
  else if b.size == 1 then ((b.toList ++ (a.extract 0 (a.size - 1)).toList ++ placed).toArray, mg)
  else
    let (items, mg) := mergeHighFrom before a b (4 * (a.size + b.size) + 4) (.single 0 0)
      (a.size - 1) b.size placed mg
    (items.toArray, mg)

/-- The state of a sort: the items, the runs waiting to be merged, and the gallop threshold. -/
structure State (α : Type) where
  /-- The items, sorted run by run. -/
  items : Array α
  /-- The runs waiting to be merged, left to right. -/
  runs : Array Run := #[]
  /-- How many wins in a row start galloping. -/
  minGallop : Nat := gallopWins

/-- Merges the runs at `i` and `i + 1`. -/
def mergeAt (before : α → α → Bool) (s : State α) (i : Nat) : State α :=
  let ra := s.runs.getD i default
  let rb := s.runs.getD (i + 1) default
  let runs := s.runs.set! i { ra with len := ra.len + rb.len }
  let runs := if i + 3 == runs.size then runs.set! (i + 1) (runs.getD (i + 2) default) else runs
  let s := { s with runs := runs.pop }
  let xs := s.items
  let k := gallopRight before (xs.getD rb.base default) (fun j => xs.getD (ra.base + j) default)
    ra.len 0
  let baseA := ra.base + k
  let na := ra.len - k
  if na == 0 then s
  else
    let nb := gallopLeft before (xs.getD (baseA + na - 1) default)
      (fun j => xs.getD (rb.base + j) default) rb.len (rb.len - 1)
    if nb == 0 then s
    else
      let a := xs.extract baseA (baseA + na)
      let b := xs.extract rb.base (rb.base + nb)
      let (merged, mg) :=
        if na ≤ nb then mergeLow before a b s.minGallop else mergeHigh before a b s.minGallop
      { s with items := xs.extract 0 baseA ++ merged ++ xs.extract (rb.base + nb) xs.size,
               minGallop := mg }

/-- Takes note of a new run of `n2` items about to be pushed: merges the waiting runs whose
boundary has a higher power than the new one's, and records the new power. -/
def foundRun (before : α → α → Bool) (s : State α) (n2 : Nat) : State α := Id.run do
  if s.runs.isEmpty then return s
  let top := s.runs.getD (s.runs.size - 1) default
  let p := power top.base top.len n2 s.items.size
  let mut s := s
  for _ in [0:s.runs.size] do
    if s.runs.size > 1 && (s.runs.getD (s.runs.size - 2) default).power > p then
      s := mergeAt before s (s.runs.size - 2)
    else break
  return { s with runs := s.runs.modify (s.runs.size - 1) fun r => { r with power := p } }

/-- Merges the runs left at the end, from the top, the smaller neighbour first. -/
def collapse (before : α → α → Bool) (s : State α) : State α := Id.run do
  let mut s := s
  for _ in [0:s.runs.size] do
    if s.runs.size > 1 then
      let n := s.runs.size - 2
      let n := if n > 0 && (s.runs.getD (n - 1) default).len < (s.runs.getD (n + 1) default).len
        then n - 1 else n
      s := mergeAt before s n
  return s

/-- `a` with `a[lo:hi]` reversed. -/
def reverseSpan (a : Array α) (lo hi : Nat) : Array α :=
  a.extract 0 lo ++ (a.extract lo hi).reverse ++ a.extract hi a.size

/-- Sorts items stably by `before`. -/
def sort (before : α → α → Bool) (xs : Array α) : Array α := Id.run do
  let n := xs.size
  if n < 2 then return xs
  let least := minRun n
  let mut s : State α := { items := xs }
  let mut lo := 0
  for _ in [0:n] do
    if lo < n then
      let (found, down) := countRun before s.items lo n
      if down then s := { s with items := reverseSpan s.items lo (lo + found) }
      let mut len := found
      if found < least then
        len := min (n - lo) least
        s := { s with items := binarySort before s.items lo (lo + len) (lo + found) }
      s := foundRun before s len
      s := { s with runs := s.runs.push { base := lo, len } }
      lo := lo + len
  return (collapse before s).items

end SyntaxAdvisor.RunSort
