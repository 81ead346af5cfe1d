/-!
# Similar words

Two texts are compared by their matching characters: the longest common run of characters is
taken (the one starting first in the first text, and among those the one starting first in the
second), then the same is done to the parts on its left and on its right, and so on. The
similarity of the texts is twice the number of matched characters over their total length.

`closeMatches` picks, among candidates, those at least 60% similar to a word: the three most
similar, the more similar (and, between equals, the greater in text order) first.
-/

namespace SyntaxAdvisor.Text

/-- The longest common run of `a[alo:ahi]` and `b[blo:bhi]`: its start in `a`, its start in
`b` and its length. Runs are found by their end in `a`, then in `b`; the first longest one
wins. -/
def longestMatch (a b : Array Char) (alo ahi blo bhi : Nat) : Nat × Nat × Nat :=
  let step := fun (acc : List Nat × (Nat × Nat × Nat)) (i : Nat) =>
    let (prev, best) := acc
    let (row, best) := (List.range (bhi - blo)).foldl (fun (racc : List Nat × (Nat × Nat × Nat)) d =>
      let (row, best) := racc
      let j := blo + d
      if a.getD i ' ' == b.getD j ' ' then
        let k := (if d == 0 then 0 else prev.getD (d - 1) 0) + 1
        let best := if k > best.2.2 then (i + 1 - k, j + 1 - k, k) else best
        (row ++ [k], best)
      else (row ++ [0], best)) ([], best)
    (row, best)
  ((List.range (ahi - alo)).map (alo + ·)).foldl step ([], (alo, blo, 0)) |>.2

/-- The number of characters matched between `a[alo:ahi]` and `b[blo:bhi]`, looking at most
`fuel` levels deep. -/
def matchedCount (a b : Array Char) : Nat → Nat → Nat → Nat → Nat → Nat
  | 0, _, _, _, _ => 0
  | fuel + 1, alo, ahi, blo, bhi =>
    let (i, j, k) := longestMatch a b alo ahi blo bhi
    if k == 0 then 0
    else
      let left := if alo < i && blo < j then matchedCount a b fuel alo i blo j else 0
      let right := if i + k < ahi && j + k < bhi then matchedCount a b fuel (i + k) ahi (j + k) bhi
        else 0
      k + left + right

/-- The number of characters matched between two texts. -/
def matched (a b : String) : Nat :=
  let a := a.toList.toArray
  let b := b.toList.toArray
  matchedCount a b (a.size + 1) 0 a.size 0 b.size

/-- Whether `candidate` is at least 60% similar to `word`. -/
def isClose (word candidate : String) : Bool :=
  let total := word.length + candidate.length
  total == 0 || 10 * (2 * matched candidate word) ≥ 6 * total

/-- Whether `x`, a similarity with its candidate, ranks before `y`: more similar first, and
between equals the greater candidate first. -/
def ranksBefore (x y : (Nat × Nat) × String) : Bool :=
  let ((mx, tx), sx) := x
  let ((my, ty), sy) := y
  mx * ty > my * tx || (mx * ty == my * tx && sx > sy)

/-- The candidates at least 60% similar to `word`, at most `count`, the most similar first. -/
def closeMatches (word : String) (candidates : List String) (count : Nat) : List String :=
  let scored := (candidates.filter (isClose word)).map fun c =>
    ((2 * matched c word, word.length + c.length), c)
  ((scored.mergeSort fun x y => ranksBefore x y || !ranksBefore y x).take count).map (·.2)

end SyntaxAdvisor.Text
