import Mathlib
import SyntaxAdvisor.Proofs.PatternWindow

/-!
# Snippets for any numbers of lines around the error

For any integers `before` and `after`, the snippet of a report whose error line lies inside its
context shows the rows of the context indices from `before` lines above the error line to
`after` lines below it, clamped to the context: from `max 0 (e - before)` up to, and not
including, `min L (e + after + 1)`, where `e` is the error line's index in the context and `L`
the number of context lines. When the bounds cross, no row is shown. The error line's row is
among the rows, and is then the one marked row, exactly when neither number is negative.

Each row writes out its line number, so the snippet fails, with the refusal to write a number
that long, as soon as the window holds a line whose number has more digits than the language
writes out.
-/

namespace SyntaxAdvisor

/-- A traversal in which every step gives `g x` or fails with one and the same error: it gives
the mapped list when every step succeeds, and that error otherwise. -/
theorem mapM_except_eq_ite {ε α β : Type} (p : α → Prop) [DecidablePred p]
    (f : α → Except ε β) (g : α → β) (err : ε) :
    ∀ xs : List α, (∀ x ∈ xs, f x = if p x then .ok (g x) else .error err) →
      xs.mapM f = if ∀ x ∈ xs, p x then .ok (xs.map g) else .error err
  | [], _ => by simp
  | x :: xs, h => by
    have hxs := mapM_except_eq_ite p f g err xs fun y hy => h y (List.mem_cons_of_mem _ hy)
    rw [List.mapM_cons, h x List.mem_cons_self]
    rw [hxs]
    by_cases hx : p x
    · by_cases hall : ∀ y ∈ xs, p y
      · rw [if_pos hx, if_pos hall, if_pos (List.forall_mem_cons.2 ⟨hx, hall⟩)]
        rfl
      · rw [if_pos hx, if_neg hall, if_neg (fun h => hall (List.forall_mem_cons.1 h).2)]
        rfl
    · rw [if_neg hx, if_neg (fun h => hx (List.forall_mem_cons.1 h).1)]
      rfl

/-- An integer is written out when it has at most `maxTextDigits` digits, and refused
otherwise. -/
theorem Value.shown_int_eq_ite (a : Int) :
    Value.shown (.int a) =
      if a.natAbs < 10 ^ Value.maxTextDigits then .ok (toString a) else .error .tooLongToWrite := by
  split
  · exact Value.shown_int a ‹_›
  · rename_i hlong
    have hw : (Value.int a).writable = false := by simpa [Value.writable] using hlong
    rw [Value.shown, hw]
    rfl

/-- The indices of a window are the integers from its lower bound up to its upper one. -/
theorem mem_window_iff (lo hi i : Int) :
    i ∈ (List.range (hi - lo).toNat).map (fun k : Nat => lo + (k : Int)) ↔
      lo ≤ i ∧ i < hi := by
  simp only [List.mem_map, List.mem_range]
  constructor
  · rintro ⟨k, hk, rfl⟩
    omega
  · rintro ⟨hlo, hhi⟩
    exact ⟨(i - lo).toNat, by omega, by omega⟩

/-- A window has one row for each of its indices, none when its bounds cross. -/
theorem length_snippetRows (first errorIndex lo hi : Int) (ctx : List String) :
    (snippetRows first errorIndex lo hi ctx).length = (hi - lo).toNat := by
  simp [snippetRows]

/-- The marked rows of a window: the error line's row when the window holds its index, and
none otherwise. -/
theorem marked_snippetRows (first errorIndex lo hi : Int) (ctx : List String) :
    (snippetRows first errorIndex lo hi ctx).filter (·.startsWith ">>>") =
      if lo ≤ errorIndex ∧ errorIndex < hi then
        [snippetRow (first + errorIndex) true (ctx.getD errorIndex.toNat "")]
      else [] := by
  set window := (List.range (hi - lo).toNat).map (fun k : Nat => lo + (k : Int))
  -- the window's indices are distinct, so the error line's index occurs in it at most once
  have hnodup : window.Nodup :=
    List.Nodup.map (fun a b (hab : lo + (a : Int) = lo + (b : Int)) => by omega) List.nodup_range
  have hpick : window.filter (· == errorIndex) =
      if lo ≤ errorIndex ∧ errorIndex < hi then [errorIndex] else [] := by
    rw [List.filter_beq]
    split
    · rw [List.count_eq_one_of_mem hnodup ((mem_window_iff lo hi errorIndex).2 ‹_›)]
      rfl
    · rw [List.count_eq_zero_of_not_mem (mt (mem_window_iff lo hi errorIndex).1 ‹_›)]
      rfl
  rw [snippetRows, List.filter_map]
  simp only [Function.comp_def, snippetRow_startsWith]
  rw [hpick]
  split <;> simp

/-- A row that is not marked starts with four blanks. -/
theorem snippetRow_unmarked_startsWith (number : Int) (code : String) :
    (snippetRow number false code).startsWith "    " = true := by
  simp [snippetRow, String.startsWith_string_iff]

namespace Event

open Classical

variable {e : Event} {n first : Int} {ctx : List String}

/-- The snippet of a report whose error line lies within its context, for any numbers of lines
before and after it: the rows of the window's indices, when every line number in the window can
be written out, and the refusal to write a number that long otherwise. -/
theorem snippet_eq_ite (before after : Int) (hline : e.line = .int n)
    (hfirst : e.contextStart = .int first) (hctx : e.context = .list (ctx.map .str))
    (hne : ctx ≠ []) (hlo : first ≤ n) (hhi : n < first + ctx.length) :
    e.snippet (.int before) (.int after) =
      if ∀ i, Max.max 0 (n - first - before) ≤ i →
          i < Min.min (ctx.length : Int) (n - first + after + 1) →
          (first + i).natAbs < 10 ^ Value.maxTextDigits then
        .ok ("\n".intercalate (snippetRows first (n - first)
          (Max.max 0 (n - first - before)) (Min.min ctx.length (n - first + after + 1)) ctx))
      else .error .tooLongToWrite := by
  have hnot : ¬ n - first < 0 := by omega
  have hin : ¬ n - first ≥ ctx.length := by omega
  have hempty : (ctx.map Value.str).isEmpty = false := by simpa using hne
  simp only [snippet, hline, hfirst, hctx, Value.truthy_list, hempty, Value.sub_int,
    Value.lt_int, Value.len_list, List.length_map, Value.ge_int, Value.max_int, Value.add_int,
    Value.min_int, Value.asIndex_int, except_ok_bind, hnot, hin, decide_false, Bool.not_false,
    Bool.false_eq_true, ↓reduceIte]
  set lo := Max.max 0 (n - first - before)
  set hi := Min.min (ctx.length : Int) (n - first + after + 1)
  rw [mapM_except_eq_ite (fun i => (first + i).natAbs < 10 ^ Value.maxTextDigits) _
    (fun i => snippetRow (first + i) (i == n - first) (ctx.getD i.toNat "")) .tooLongToWrite]
  · -- the condition over the window's list is the condition over its range of integers
    have hiff : (∀ i ∈ (List.range (hi - lo).toNat).map (fun k : Nat => lo + (k : Int)),
        (first + i).natAbs < 10 ^ Value.maxTextDigits) ↔
        ∀ i, lo ≤ i → i < hi → (first + i).natAbs < 10 ^ Value.maxTextDigits := by
      simp only [mem_window_iff]
      exact ⟨fun h i h1 h2 => h i ⟨h1, h2⟩, fun h i hi' => h i hi'.1 hi'.2⟩
    by_cases hall : ∀ i, lo ≤ i → i < hi → (first + i).natAbs < 10 ^ Value.maxTextDigits
    · rw [if_pos (hiff.2 hall), if_pos hall]
      rfl
    · rw [if_neg (mt hiff.1 hall), if_neg hall]
      rfl
  -- each row looks its code up within the context and writes its number, or refuses to
  · intro i hi'
    obtain ⟨hlo', hhi'⟩ := (mem_window_iff lo hi i).1 hi'
    have h0 : 0 ≤ i := by omega
    have hlt : i < ctx.length := by omega
    by_cases hw : (first + i).natAbs < 10 ^ Value.maxTextDigits
    · simp [getItem_text ctx i h0 hlt, Value.shown_int _ hw, snippetRow, hw]
    · simp [getItem_text ctx i h0 hlt, Value.shown_int_eq_ite, hw]

/-- For any integers `before` and `after`, the snippet of a report with `L` text context lines
whose error line, at index `e = n - first`, lies among them: with the window running from
`max 0 (e - before)` up to `min L (e + after + 1)`, it is the line-feed join of the window's
rows, one for each index, each numbered from the first context line, when every line number in
the window can be written out, and fails with the refusal to write a number that long otherwise.
The error line's row is marked, and it is the only marked row, exactly when neither `before` nor
`after` is negative; every other row starts with four blanks. -/
theorem snippet_window_rows (before after : Int) (hline : e.line = .int n)
    (hfirst : e.contextStart = .int first) (hctx : e.context = .list (ctx.map .str))
    (hne : ctx ≠ []) (hlo : first ≤ n) (hhi : n < first + ctx.length) :
    let lo := Max.max 0 (n - first - before)
    let hi := Min.min (ctx.length : Int) (n - first + after + 1)
    let rows := snippetRows first (n - first) lo hi ctx
    e.snippet (.int before) (.int after) =
      (if ∀ i, lo ≤ i → i < hi → (first + i).natAbs < 10 ^ Value.maxTextDigits then
        Except.ok ("\n".intercalate rows) else Except.error Failure.tooLongToWrite) ∧
    rows.length = (hi - lo).toNat ∧
    rows.filter (·.startsWith ">>>") =
      (if 0 ≤ before ∧ 0 ≤ after then [snippetRow n true (ctx.getD (n - first).toNat "")]
       else []) ∧
    ∀ r ∈ rows, r.startsWith ">>>" = false → r.startsWith "    " = true := by
  intro lo hi rows
  -- the window holds the error line's index exactly when neither bound is negative
  have hholds : (lo ≤ n - first ∧ n - first < hi) ↔ (0 ≤ before ∧ 0 ≤ after) := by
    simp only [lo, hi]
    omega
  refine ⟨snippet_eq_ite before after hline hfirst hctx hne hlo hhi,
    length_snippetRows _ _ _ _ _, ?_, ?_⟩
  · rw [marked_snippetRows, if_congr hholds rfl rfl, show first + (n - first) = n by omega]
  · intro r hr hunmarked
    obtain ⟨i, -, rfl⟩ := List.mem_map.mp hr
    rw [snippetRow_startsWith] at hunmarked
    rw [hunmarked]
    exact snippetRow_unmarked_startsWith _ _

end Event

open Classical in
/-- Three lines of context with the error on the second, one line asked for before it and a
negative number after it: the window holds only the first line, unmarked. -/
theorem snippet_window_rows_before_error :
    let e : Event := { path := "t.py", line := .int 2, kind := .str "SyntaxError",
                       message := .str "m", context := .list (["a", "b", "c"].map .str),
                       contextStart := .int 1 }
    let lo := Max.max 0 ((2 : Int) - 1 - 1)
    let hi := Min.min ((["a", "b", "c"].length : Nat) : Int) ((2 : Int) - 1 + -1 + 1)
    let rows := snippetRows 1 (2 - 1) lo hi ["a", "b", "c"]
    e.snippet (.int 1) (.int (-1)) =
      (if ∀ i, lo ≤ i → i < hi → ((1 : Int) + i).natAbs < 10 ^ Value.maxTextDigits then
        Except.ok ("\n".intercalate rows) else Except.error Failure.tooLongToWrite) ∧
    rows.length = (hi - lo).toNat ∧
    rows.filter (·.startsWith ">>>") =
      (if 0 ≤ (1 : Int) ∧ 0 ≤ (-1 : Int) then
        [snippetRow 2 true (["a", "b", "c"].getD ((2 : Int) - 1).toNat "")] else []) ∧
    ∀ r ∈ rows, r.startsWith ">>>" = false → r.startsWith "    " = true :=
  Event.snippet_window_rows 1 (-1) rfl rfl rfl (by simp) (by decide) (by decide)

open Classical in
/-- A context starting at the largest line number the language writes out: the second context
line's number has one digit too many, and the default snippet fails. -/
theorem snippet_fails_past_longest_number :
    ({ path := "f.py", line := .int (10 ^ 4300 - 1), kind := .str "E", message := .str "m",
       context := .list (["a", "b"].map .str), contextStart := .int (10 ^ 4300 - 1) } :
      Event).defaultSnippet = .error .tooLongToWrite := by
  rw [Event.defaultSnippet, Event.snippet_eq_ite 3 3 rfl rfl rfl (by simp) le_rfl
    (Int.lt_add_of_pos_right _ (by decide)), if_neg]
  intro hall
  have hsecond := hall 1 (by rw [Int.sub_self]; decide) (by rw [Int.sub_self]; decide)
  -- the second line's number is `10 ^ 4300`, one digit longer than the longest written out
  have hnumber : ((10 : Int) ^ 4300 - 1 + 1).natAbs = 10 ^ Value.maxTextDigits := by
    rw [Int.sub_add_cancel, Int.natAbs_pow]
    congr 1
  rw [hnumber] at hsecond
  exact Nat.lt_irrefl _ hsecond

end SyntaxAdvisor
