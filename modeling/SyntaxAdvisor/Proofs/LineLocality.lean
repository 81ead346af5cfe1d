import SyntaxAdvisor.Proofs.LineChecks

/-!
# The line checks look at one line at a time

The line checks carry nothing from one line to the next. Apart from the context lines around it,
a report says three things: its line number, its kind and its message (`Event.summary`). These
depend only on the text of the line reported: a line's findings (`Finding.ofRawLine`) come in
the order the checks run, each at most once, and the reports of a file are the findings of its
lines in turn, numbered from 1 (`lineFindings`), so they are sorted by line number.

Hence checking two lists of lines joined together reports what checking each reports, the line
numbers of the second moved down by the length of the first (`detectErrors_append_summary`).
-/

namespace SyntaxAdvisor

namespace Finding

/-- The four findings, in the order the checks run. -/
def all : List Finding :=
  [.missingColon, .unclosedParenthesis, .unclosedBracket, .unterminatedString]

/-- The findings on a line as it stands in a file: a line that is empty or a comment once
stripped has none. -/
def ofRawLine (raw : String) : List Finding :=
  if (Text.strip raw).isEmpty || (Text.strip raw).startsWith "#" then []
  else ofLine (Text.strip raw)

/-- A line's findings come in the order the checks run, each at most once. -/
theorem ofLine_sublist_all (s : String) : (ofLine s).Sublist all := by
  simp only [ofLine, all]
  -- each check adds its finding or nothing, in the order of `all`
  split <;> split <;> split <;> split <;> simp

theorem ofRawLine_sublist_all (raw : String) : (ofRawLine raw).Sublist all := by
  unfold ofRawLine
  split
  · exact List.nil_sublist _
  · exact ofLine_sublist_all _

end Finding

/-- What a report says apart from its file and context: its line, kind and message. -/
def Event.summary (e : Event) : Value × Value × Value := (e.line, e.kind, e.message)

/-- A summary whose line number is `k` lines further down. -/
def shiftSummary (k : Nat) : Value × Value × Value → Value × Value × Value
  | (.int n, kind, message) => (.int (n + k), kind, message)
  | s => s

/-- The summary of the report of a finding at a line. -/
def summaryAt (p : Nat × Finding) : Value × Value × Value :=
  (.int p.1, .str "SyntaxError", .str p.2.message)

/-- The findings on lines numbered from `n`, each with its line number, in the order the checks
report them. -/
def lineFindings (n : Nat) (lines : List String) : List (Nat × Finding) :=
  (lines.zipIdx n).flatMap fun (raw, k) => (Finding.ofRawLine raw).map ((k, ·))

@[simp] theorem lineFindings_nil (n : Nat) : lineFindings n [] = [] := rfl

theorem lineFindings_cons (n : Nat) (raw : String) (rest : List String) :
    lineFindings n (raw :: rest) =
      (Finding.ofRawLine raw).map ((n, ·)) ++ lineFindings (n + 1) rest := by
  simp [lineFindings, List.zipIdx_cons]

theorem lineFindings_append (n : Nat) (xs ys : List String) :
    lineFindings n (xs ++ ys) = lineFindings n xs ++ lineFindings (n + xs.length) ys := by
  simp [lineFindings, List.zipIdx_append]

/-- Numbering lines from further down moves every finding down as far. -/
theorem lineFindings_add (n k : Nat) (lines : List String) :
    lineFindings (n + k) lines = (lineFindings n lines).map fun (m, f) => (m + k, f) := by
  induction lines generalizing n with
  | nil => rfl
  | cons raw rest ih =>
    rw [lineFindings_cons, lineFindings_cons, show n + k + 1 = n + 1 + k by omega, ih]
    simp [Function.comp_def]

/-- Every finding lies on one of the lines. -/
theorem bounds_of_mem_lineFindings {n : Nat} {lines : List String} {p : Nat × Finding}
    (h : p ∈ lineFindings n lines) : n ≤ p.1 ∧ p.1 < n + lines.length := by
  obtain ⟨⟨raw, k⟩, hk, hp⟩ := List.mem_flatMap.mp h
  obtain ⟨f, -, rfl⟩ := List.mem_map.mp hp
  have hk' := List.snd_lt_add_of_mem_zipIdx hk
  have hk'' := List.le_snd_of_mem_zipIdx hk
  exact ⟨hk'', hk'⟩

/-- The findings are sorted by line number. -/
theorem lineFindings_sorted (n : Nat) (lines : List String) :
    ((lineFindings n lines).map Prod.fst).Pairwise (· ≤ ·) := by
  induction lines generalizing n with
  | nil => simp
  | cons raw rest ih =>
    rw [lineFindings_cons, List.map_append, List.pairwise_append]
    refine ⟨?_, ih (n + 1), ?_⟩
    · -- the findings of one line all carry its number
      rw [List.map_map, List.pairwise_map]
      exact List.pairwise_of_forall fun _ _ => Nat.le_refl n
    · intro a ha b hb
      -- every finding of the first line carries its number `n`
      rw [List.map_map, List.mem_map] at ha
      obtain ⟨f, -, rfl⟩ := ha
      obtain ⟨p, hp, rfl⟩ := List.mem_map.mp hb
      exact Nat.le_of_succ_le (bounds_of_mem_lineFindings hp).1

/-- The summaries of the line checks' reports are the findings of the lines numbered from 1. -/
theorem detectErrors_summary (file : String) (lines : List String) :
    (detectErrors file lines).map Event.summary = (lineFindings 1 lines).map summaryAt := by
  rw [detectErrors, zip_range_length, lineFindings, List.zipIdx_succ, List.flatMap_map,
    List.map_flatMap, List.map_flatMap]
  congr 1
  funext p
  obtain ⟨raw, i⟩ := p
  simp only [Finding.ofRawLine]
  split <;> simp [Function.comp_def, Event.summary, summaryAt, Event.ofPattern]

/-- Moving the findings' lines down moves their reports' summaries down as far. -/
theorem map_summaryAt_shift (k : Nat) (ps : List (Nat × Finding)) :
    (ps.map fun (m, f) => (m + k, f)).map summaryAt = (ps.map summaryAt).map (shiftSummary k) := by
  simp [Function.comp_def, summaryAt, shiftSummary]

/-- Checking two lists of lines joined reports what checking each reports, the line numbers of
the second moved down by the length of the first; the reports are the findings of the lines in
turn, so they are sorted by line, and each line's come in the order the checks run, each at most
once. -/
theorem detectErrors_append_summary (file : String) (xs ys : List String) :
    (detectErrors file (xs ++ ys)).map Event.summary =
        (detectErrors file xs).map Event.summary ++
          ((detectErrors file ys).map Event.summary).map (shiftSummary xs.length) ∧
      (detectErrors file (xs ++ ys)).map Event.summary =
        (lineFindings 1 (xs ++ ys)).map summaryAt ∧
      ((lineFindings 1 (xs ++ ys)).map Prod.fst).Pairwise (· ≤ ·) ∧
      ∀ raw ∈ xs ++ ys, (Finding.ofRawLine raw).Sublist Finding.all := by
  refine ⟨?_, detectErrors_summary file _, lineFindings_sorted 1 _,
    fun raw _ => Finding.ofRawLine_sublist_all raw⟩
  rw [detectErrors_summary, detectErrors_summary, detectErrors_summary, lineFindings_append,
    lineFindings_add, List.map_append, map_summaryAt_shift]

end SyntaxAdvisor
