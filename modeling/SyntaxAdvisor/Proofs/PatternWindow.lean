import SyntaxAdvisor.Proofs.LineChecks
import SyntaxAdvisor.Proofs.SnippetRows
import SyntaxAdvisor.Proofs.TextLines
import Mathlib.Tactic.Set

/-!
# The window of a line-check report

A report of the line checks carries the lines from three before its line to three after it,
cut off at the ends of the file. The window and the snippet agree at every boundary: the
report's line lies in its window, the window is a contiguous run of the file's lines starting
at the recorded first line, and the default snippet shows the whole window, one row for each of
its lines, with exactly one row marked, the one that the check command prints.
-/

namespace SyntaxAdvisor

/-- The most items a list of the language can hold: the largest value of its size type,
`sys.maxsize`. -/
def maxListSize : Nat := 2 ^ 63 - 1

/-- A slice whose bounds lie within the list. -/
theorem sliceList_of_le {α : Type} (xs : List α) (a b : Nat) (hab : a ≤ b)
    (hb : b ≤ xs.length) : sliceList xs a b = (xs.drop a).take (b - a) := by
  have ha' : ¬ (a : Int) < 0 := by omega
  have hb' : ¬ (b : Int) < 0 := by omega
  have hmina : Min.min (a : Int) xs.length = a := by omega
  have hminb : Min.min (b : Int) xs.length = b := by omega
  simp [sliceList, ha', hb', hmina, hminb]

namespace Event

variable (file : String) (line kind message : Value) (lines : List String) (i : Nat)

@[simp] theorem ofPattern_line : (ofPattern file line kind message lines i).line = line := rfl

/-- The first context line of a report at 0-based line `i` is three lines above it, or the
first line of the file. -/
theorem ofPattern_contextStart :
    (ofPattern file line kind message lines i).contextStart = .int ((i - 3 : Nat) + 1) := by
  have h : Max.max 0 ((i : Int) - 3) = ((i - 3 : Nat) : Int) := by omega
  simp [ofPattern, h]

/-- The context of a report at 0-based line `i` of the file: the lines from three above it to
three below it, within the file. -/
theorem ofPattern_context (hi : i < lines.length) :
    (ofPattern file line kind message lines i).context =
      .list (((lines.drop (i - 3)).take (Min.min lines.length (i + 4) - (i - 3))).map .str) := by
  have hlo : Max.max 0 ((i : Int) - 3) = ((i - 3 : Nat) : Int) := by omega
  have hhi : Min.min (lines.length : Int) (i + 4) = ((Min.min lines.length (i + 4) : Nat) : Int) := by
    omega
  simp only [ofPattern, hlo, hhi]
  rw [sliceList_of_le _ _ _ (by omega) (by omega)]

end Event

/-- A line number has no line feed in its text. -/
theorem newline_not_mem_toString (a : Int) : '\n' ∉ (toString a).toList := by
  have hdigits : ∀ m : Nat, '\n' ∉ (Nat.repr m).toList := by
    intro m hm
    rw [Nat.repr_eq_ofList_toDigits, String.toList_ofList] at hm
    have := Nat.isDigit_of_mem_toDigits (by decide) (by decide) hm
    simp [Char.isDigit] at this
  rw [Int.toString_eq_repr, Int.repr_eq_if]
  split
  · exact hdigits _
  · simpa using hdigits _

/-- A snippet row holds a line feed only where its code does. -/
theorem newline_not_mem_snippetRow (number : Int) (marked : Bool) (code : String)
    (h : '\n' ∉ code.toList) : '\n' ∉ (snippetRow number marked code).toList := by
  have hnum := newline_not_mem_toString number
  cases marked <;> simp_all [snippetRow, padLeft]

/-- A snippet row starts with the marker exactly when it is marked. -/
theorem snippetRow_startsWith (number : Int) (marked : Bool) (code : String) :
    (snippetRow number marked code).startsWith ">>>" = marked := by
  cases marked <;> simp [snippetRow, String.startsWith_string_iff, String.startsWith_string_eq_false_iff]

/-- The rows of a whole context, one for each of its lines, numbered on from its first line. -/
theorem snippetRows_whole (first errorIndex : Int) (ctx : List String) :
    snippetRows first errorIndex 0 ctx.length ctx =
      (List.range ctx.length).map fun k : Nat =>
        snippetRow (first + k) ((k : Int) == errorIndex) (ctx.getD k "") := by
  simp [snippetRows, Function.comp_def]

/-- Among the rows of a context starting at line `first`, exactly the row of line `n` is
marked. -/
theorem marked_rows (first n : Nat) (ctx : List String) (hlo : first ≤ n)
    (hhi : n < first + ctx.length) :
    ((List.range ctx.length).map fun k : Nat =>
        snippetRow (first + k : Nat) (first + k == n) (ctx.getD k "")).filter
      (·.startsWith ">>>") = [snippetRow n true (ctx.getD (n - first) "")] := by
  have hpred : (fun k : Nat => first + k == n) = (· == n - first) := by
    funext k
    exact Bool.eq_iff_iff.mpr (by simp only [beq_iff_eq]; omega)
  have hpick : (List.range ctx.length).filter (· == n - first) = [n - first] := by
    simp [List.filter_beq, show n - first < ctx.length by omega]
  rw [List.filter_map]
  simp only [Function.comp_def, snippetRow_startsWith, hpred, hpick, List.map_cons, List.map_nil,
    show first + (n - first) = n by omega, beq_self_eq_true]

/-- The window of the report at 0-based line `i`: its first line and its lines. -/
theorem ofPattern_window (file : String) (kind message : Value) (lines : List String) (i : Nat)
    (hi : i < lines.length) :
    let first := i - 3 + 1
    let ctx := (lines.drop (i - 3)).take (Min.min lines.length (i + 4) - (i - 3))
    (Event.ofPattern file (.int ((i + 1 : Nat) : Int)) kind message lines i).contextStart =
      .int (first : Nat) ∧
    (Event.ofPattern file (.int ((i + 1 : Nat) : Int)) kind message lines i).context =
      .list (ctx.map .str) ∧
    ctx.length = Min.min lines.length (i + 4) - (i - 3) ∧
    (∃ pre post, lines = pre ++ ctx ++ post ∧ pre.length + 1 = first) := by
  intro first ctx
  refine ⟨Event.ofPattern_contextStart .., Event.ofPattern_context _ _ _ _ _ _ hi, ?_, ?_⟩
  · simp only [ctx, List.length_take, List.length_drop]
    omega
  · refine ⟨lines.take (i - 3), lines.drop (Min.min lines.length (i + 4)), ?_, ?_⟩
    · have hrest : lines.drop (Min.min lines.length (i + 4)) =
          (lines.drop (i - 3)).drop (Min.min lines.length (i + 4) - (i - 3)) := by
        rw [List.drop_drop]
        congr 1
        omega
      simp only [ctx, List.append_assoc]
      rw [hrest, List.take_append_drop, List.take_append_drop]
    · simp only [List.length_take, first]
      omega

/-- A line of a window of the file holds no line feed when no line of the file does. -/
theorem newline_not_mem_window {lines : List String} (hlines : ∀ l ∈ lines, '\n' ∉ l.toList)
    (a b k : Nat) : '\n' ∉ (((lines.drop a).take b).getD k "").toList := by
  rw [List.getD_eq_getElem?_getD]
  cases hk : ((lines.drop a).take b)[k]? with
  | none => simp
  | some code =>
    have hmem : code ∈ lines :=
      List.mem_of_mem_drop (List.mem_of_mem_take (List.mem_of_getElem? hk))
    simpa using hlines code hmem

/-- The default snippet of the report at 0-based line `i` shows its whole window `ctx`, one row
for each of its lines, when the file is no longer than a list can be (so that every line number
can be written out). -/
theorem ofPattern_defaultSnippet (file : String) (kind message : Value) (lines : List String)
    (i : Nat) {ctx : List String} (hi : i < lines.length) (hsize : lines.length ≤ maxListSize)
    (hc : (lines.drop (i - 3)).take (Min.min lines.length (i + 4) - (i - 3)) = ctx) :
    (Event.ofPattern file (.int ((i + 1 : Nat) : Int)) kind message lines i).defaultSnippet =
      .ok ("\n".intercalate ((List.range ctx.length).map fun k : Nat =>
        snippetRow (i - 3 + 1 + k : Nat) (i - 3 + 1 + k == i + 1) (ctx.getD k ""))) := by
  obtain ⟨hstart, hctx, hlen, -⟩ := ofPattern_window file kind message lines i hi
  rw [hc] at hctx hlen
  have hline : (Event.ofPattern file (.int ((i + 1 : Nat) : Int)) kind message lines i).line =
      .int ((i + 1 : Nat) : Int) := rfl
  -- a line number of a list no longer than the largest size has at most nineteen digits
  have hw : ∀ k : Nat, k < ctx.length →
      (((i - 3 + 1 : Nat) : Int) + k).natAbs < 10 ^ Value.maxTextDigits := by
    intro k hk
    have : 10 ^ 19 ≤ 10 ^ Value.maxTextDigits := Nat.pow_le_pow_right (by decide) (by decide)
    have : maxListSize < 10 ^ 19 := by decide
    omega
  rw [Event.defaultSnippet, Event.snippet_eq 3 3 hline hstart hctx
    (by intro h; simp [h] at hlen; omega) (by omega) (by omega) hw]
  -- the window never reaches beyond three lines from the error line, so all of it is shown
  have hfrom : Max.max 0 (((i + 1 : Nat) : Int) - ((i - 3 + 1 : Nat) : Int) - 3) = 0 := by omega
  have hto : Min.min (ctx.length : Int) (((i + 1 : Nat) : Int) - ((i - 3 + 1 : Nat) : Int) + 3 + 1) =
      ctx.length := by
    omega
  rw [hfrom, hto, snippetRows_whole]
  congr 2
  refine List.map_congr_left fun k _ => ?_
  congr 1
  exact Bool.eq_iff_iff.mpr (by simp only [beq_iff_eq]; omega)

/-- Every report of the line checks on lines without line feeds refers to a line of the file and
carries a contiguous run of the file's lines around it, starting at its recorded first line. Its
default snippet renders that whole run, one row for each line, numbered on from the first, with
exactly one marked row: the error line's, which is the code the check command prints. -/
theorem pattern_report_window (file : String) (lines : List String)
    (hsize : lines.length ≤ maxListSize) (hlines : ∀ l ∈ lines, '\n' ∉ l.toList)
    (e : Event) (he : e ∈ detectErrors file lines) :
    ∃ (n first : Nat) (ctx : List String),
      e.line = .int n ∧ e.contextStart = .int first ∧ e.context = .list (ctx.map .str) ∧
      1 ≤ n ∧ n ≤ lines.length ∧ first ≤ n ∧ n < first + ctx.length ∧
      (∃ pre post, lines = pre ++ ctx ++ post ∧ pre.length + 1 = first) ∧
      ∃ snippet, e.defaultSnippet = .ok snippet ∧
        snippet.splitOn "\n" = (List.range ctx.length).map (fun k : Nat =>
          snippetRow (first + k : Nat) (first + k == n) (ctx.getD k "")) ∧
        (snippet.splitOn "\n").filter (·.startsWith ">>>") =
          [snippetRow n true (lines.getD (n - 1) "")] ∧
        Event.markedLine snippet = snippetRow n true (lines.getD (n - 1) "") := by
  obtain ⟨i, raw, f, hraw, -, -, -, rfl⟩ := mem_detectErrors.mp he
  have hi : i < lines.length := (List.getElem?_eq_some_iff.mp hraw).1
  obtain ⟨hstart, hctx, hlen, hsplit⟩ :=
    ofPattern_window file (.str "SyntaxError") (.str f.message) lines i hi
  generalize hc : (lines.drop (i - 3)).take (Min.min lines.length (i + 4) - (i - 3)) = ctx
    at hctx hlen hsplit
  have hsnippet :=
    ofPattern_defaultSnippet file (.str "SyntaxError") (.str f.message) lines i hi hsize hc
  set first := i - 3 + 1
  have hline : (Event.ofPattern file (.int (i + 1)) (.str "SyntaxError") (.str f.message) lines
      i).line = .int ((i + 1 : Nat) : Int) := by simp
  have hlo : first ≤ i + 1 := by omega
  have hhi : i + 1 < first + ctx.length := by omega
  -- the rows of the whole window, one for each line of it
  set rows := (List.range ctx.length).map fun k : Nat =>
    snippetRow (first + k : Nat) (first + k == i + 1) (ctx.getD k "")
  have hne : rows ≠ [] := by
    simp only [rows, ne_eq, List.map_eq_nil_iff, List.range_eq_nil]
    omega
  have hnewline : ∀ r ∈ rows, '\n' ∉ r.toList := by
    intro r hr
    obtain ⟨k, -, rfl⟩ := List.mem_map.mp hr
    apply newline_not_mem_snippetRow
    rw [← hc]
    exact newline_not_mem_window hlines _ _ k
  have hcode : ctx.getD (i + 1 - first) "" = lines.getD (i + 1 - 1) "" := by
    rw [← hc, List.getD_eq_getElem?_getD, List.getD_eq_getElem?_getD, List.getElem?_take,
      if_pos (by omega), List.getElem?_drop]
    congr 2
    omega
  have hrows := splitOn_intercalate_newline rows hne hnewline
  have hmarked := marked_rows first (i + 1) ctx hlo hhi
  refine ⟨i + 1, first, ctx, hline, hstart, hctx, by omega, by omega, hlo, hhi, hsplit,
    "\n".intercalate rows, hsnippet, hrows, ?_, ?_⟩
  · rw [hrows, hmarked, hcode]
  · rw [Event.markedLine, ← List.head?_filter, hrows, hmarked, hcode]
    rfl

/-- The missing colon on the first of two lines: the window is cut at both ends of the file. -/
theorem first_line_window :
    ["def f()", "  pass"].length ≤ maxListSize ∧ (∀ l ∈ ["def f()", "  pass"], '\n' ∉ l.toList) ∧
    Event.ofPattern "t.py" (.int ((0 : Nat) + 1)) (.str "SyntaxError")
      (.str Finding.missingColon.message) ["def f()", "  pass"] (0 : Nat) ∈
        detectErrors "t.py" ["def f()", "  pass"] ∧
    ∃ (n first : Nat) (ctx : List String),
      let e := Event.ofPattern "t.py" (.int ((0 : Nat) + 1)) (.str "SyntaxError")
        (.str Finding.missingColon.message) ["def f()", "  pass"] (0 : Nat)
      e.line = .int n ∧ e.contextStart = .int first ∧ e.context = .list (ctx.map .str) ∧
      1 ≤ n ∧ n ≤ ["def f()", "  pass"].length ∧ first ≤ n ∧ n < first + ctx.length ∧
      (∃ pre post, ["def f()", "  pass"] = pre ++ ctx ++ post ∧ pre.length + 1 = first) ∧
      ∃ snippet, e.defaultSnippet = .ok snippet ∧
        snippet.splitOn "\n" = (List.range ctx.length).map (fun k : Nat =>
          snippetRow (first + k : Nat) (first + k == n) (ctx.getD k "")) ∧
        (snippet.splitOn "\n").filter (·.startsWith ">>>") =
          [snippetRow n true (["def f()", "  pass"].getD (n - 1) "")] ∧
        Event.markedLine snippet = snippetRow n true (["def f()", "  pass"].getD (n - 1) "") := by
  have hsize : ["def f()", "  pass"].length ≤ maxListSize := by decide
  have hlines : ∀ l ∈ ["def f()", "  pass"], '\n' ∉ l.toList := by decide
  have hmem : Event.ofPattern "t.py" (.int ((0 : Nat) + 1)) (.str "SyntaxError")
      (.str Finding.missingColon.message) ["def f()", "  pass"] (0 : Nat) ∈
        detectErrors "t.py" ["def f()", "  pass"] := by
    have hstrip : Text.strip "def f()" = "def f()" := by cbv
    refine mem_detectErrors.mpr ⟨0, "def f()", .missingColon, rfl, ?_, ?_, ?_, rfl⟩ <;>
      rw [hstrip] <;> decide +kernel
  exact ⟨hsize, hlines, hmem, pattern_report_window "t.py" _ hsize hlines _ hmem⟩

end SyntaxAdvisor
