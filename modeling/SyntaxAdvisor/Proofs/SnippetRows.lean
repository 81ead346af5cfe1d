import Mathlib
import SyntaxAdvisor.Report.Snippet
import SyntaxAdvisor.Proofs.IntValues

/-!
# Snippet rows

A report whose error line lies inside its context renders, for any number of lines before and
after, the rows of a contiguous range of context indices: from `before` lines above the error
line (but not above the first context line) to `after` lines below it (but not below the last).
Each row is the line's number, right-aligned in three columns, and its code; the error line's
row is marked. `snippet_eq` states this for integer arguments, given that every line number of
the context can be written out.
-/

namespace SyntaxAdvisor

/-- A row of a snippet: the mark of the error line or four blanks, the line number right-aligned
in three columns, and the code. -/
def snippetRow (number : Int) (marked : Bool) (code : String) : String :=
  (if marked then ">>> " else "    ") ++ padLeft (toString number) 3 ++ ": " ++ code

/-- The rows for context indices `lo` up to (not including) `hi` of a context that starts at
line `first`, with the error at index `errorIndex`. -/
def snippetRows (first errorIndex lo hi : Int) (ctx : List String) : List String :=
  ((List.range (hi - lo).toNat).map fun k : Nat => lo + (k : Int)).map fun i =>
    snippetRow (first + i) (i == errorIndex) (ctx.getD i.toNat "")

/-- Mapping with a function that succeeds everywhere succeeds with the mapped list. -/
theorem mapM_except_ok {ε α β : Type} (f : α → Except ε β) (g : α → β) :
    ∀ xs : List α, (∀ x ∈ xs, f x = .ok (g x)) → xs.mapM f = .ok (xs.map g)
  | [], _ => rfl
  | x :: xs, h => by
    have hx := h x List.mem_cons_self
    have hxs := mapM_except_ok f g xs fun y hy => h y (List.mem_cons_of_mem _ hy)
    simp [List.mapM_cons, hx, hxs]

/-- A context given as text values is looked up as text. -/
theorem getItem_text (ctx : List String) (i : Int) (h0 : 0 ≤ i) (h : i < ctx.length) :
    Value.getItem (.list (ctx.map .str)) (.int i) = .ok (.str (ctx.getD i.toNat "")) := by
  have hi : i.toNat < ctx.length := by omega
  have hp : Value.position i ctx.length = some i.toNat := by
    simp only [Value.position]
    split_ifs <;> simp_all <;> omega
  simp [Value.getItem, Value.number?, hp, List.getD_eq_getElem?_getD, hi]

namespace Event

variable {e : Event} {n first : Int} {ctx : List String}

/-- The snippet of a report whose error line lies within its context: the rows of the indices
from `before` lines above the error line to `after` lines below it, clamped to the context. -/
theorem snippet_eq (before after : Int) (hline : e.line = .int n)
    (hfirst : e.contextStart = .int first) (hctx : e.context = .list (ctx.map .str))
    (hne : ctx ≠ []) (hlo : first ≤ n) (hhi : n < first + ctx.length)
    (hw : ∀ k : Nat, k < ctx.length → (first + k).natAbs < 10 ^ Value.maxTextDigits) :
    e.snippet (.int before) (.int after) =
      .ok ("\n".intercalate (snippetRows first (n - first)
        (Max.max 0 (n - first - before)) (Min.min ctx.length (n - first + after + 1)) ctx)) := by
  have hnot : ¬ n - first < 0 := by omega
  have hin : ¬ n - first ≥ ctx.length := by omega
  have hempty : (ctx.map Value.str).isEmpty = false := by simpa using hne
  simp only [snippet, hline, hfirst, hctx, Value.truthy_list, hempty, Value.sub_int,
    Value.lt_int, Value.len_list, List.length_map, Value.ge_int, Value.max_int, Value.add_int,
    Value.min_int, Value.asIndex_int, except_ok_bind, hnot, hin, decide_false, Bool.not_false,
    Bool.false_eq_true, ↓reduceIte]
  rw [mapM_except_ok _ (fun i => snippetRow (first + i) (i == n - first) (ctx.getD i.toNat ""))]
  · rfl
  -- every row's index is within the context, so its number and code can be written
  intro i hi'
  obtain ⟨k, hk, rfl⟩ := List.mem_map.mp hi'
  have hk' : (k : Int) < Min.min (ctx.length : Int) (n - first + after + 1) -
      Max.max 0 (n - first - before) := by
    have := List.mem_range.mp hk
    omega
  have h0 : 0 ≤ Max.max 0 (n - first - before) + k := by omega
  have hlt : Max.max 0 (n - first - before) + k < ctx.length := by omega
  have hnum : (first + (Max.max 0 (n - first - before) + k)).natAbs < 10 ^ Value.maxTextDigits := by
    have := hw (Max.max 0 (n - first - before) + k).toNat (by omega)
    rwa [Int.toNat_of_nonneg h0] at this
  simp [getItem_text ctx _ h0 hlt, Value.shown_int _ hnum, snippetRow]

end Event

end SyntaxAdvisor
