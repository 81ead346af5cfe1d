import Mathlib
import SyntaxAdvisor.Scan.Analysis

/-!
# What the line checks report

When a file does not parse, its reports are exactly the failures of the four line checks on its
lines: a line is looked at only when, stripped, it is neither empty nor a comment, and it gets
one report for each check that fails on it. So a file that does not parse gets a report if and
only if one of its lines is flagged; a file whose error none of the checks sees gets none.
-/

namespace SyntaxAdvisor

namespace Finding

/-- The check behind a finding fails on a stripped line. -/
def Fails : Finding → String → Prop
  | .missingColon, s => (∃ p ∈ blockOpeners, s.startsWith p = true) ∧ s.endsWith ":" = false
  | .unclosedParenthesis, s => s.toList.count ')' < s.toList.count '('
  | .unclosedBracket, s => s.toList.count ']' < s.toList.count '['
  | .unterminatedString, s => (s.toList.count '\'' - escapedOccurrences '\'' s.toList) % 2 = 1

instance decFails : (f : Finding) → (s : String) → Decidable (f.Fails s)
  | .missingColon, s =>
    inferInstanceAs (Decidable ((∃ p ∈ blockOpeners, s.startsWith p = true) ∧ _))
  | .unclosedParenthesis, _ => inferInstanceAs (Decidable (_ < _))
  | .unclosedBracket, _ => inferInstanceAs (Decidable (_ < _))
  | .unterminatedString, _ => inferInstanceAs (Decidable (_ = _))

/-- The findings of a line are the checks that fail on it. -/
theorem mem_ofLine {f : Finding} {s : String} : f ∈ ofLine s ↔ f.Fails s := by
  cases f <;> simp [ofLine, Fails, occurrences]

end Finding

/-- A line the checks flag: stripped, it is neither empty nor a comment, and a check fails on
it. -/
def Flagged (raw : String) : Prop :=
  Text.strip raw ≠ "" ∧ (Text.strip raw).startsWith "#" = false ∧
    ∃ f : Finding, f.Fails (Text.strip raw)

/-- Numbering the lines of a list by zipping it with its indices. -/
theorem zip_range_length {α : Type} (xs : List α) : xs.zip (List.range xs.length) = xs.zipIdx := by
  rw [List.zipIdx_eq_zip_range', List.range_eq_range']

/-- The reports of the line checks are, line by line, one for each check that fails on a line
that is neither empty nor a comment. -/
theorem mem_detectErrors {file : String} {lines : List String} {e : Event} :
    e ∈ detectErrors file lines ↔
      ∃ (i : Nat) (raw : String) (f : Finding), lines[i]? = some raw ∧
        Text.strip raw ≠ "" ∧ (Text.strip raw).startsWith "#" = false ∧
        f.Fails (Text.strip raw) ∧
        e = Event.ofPattern file (.int (i + 1)) (.str "SyntaxError") (.str f.message) lines i := by
  rw [detectErrors, zip_range_length]
  simp only [List.mem_flatMap, Prod.exists, List.mem_zipIdx_iff_getElem?]
  constructor
  · rintro ⟨raw, i, hraw, he⟩
    by_cases hskip : (Text.strip raw).isEmpty || (Text.strip raw).startsWith "#"
    · simp [hskip] at he
    · simp only [hskip, Bool.false_eq_true, ↓reduceIte, List.mem_map, Finding.mem_ofLine] at he
      obtain ⟨f, hf, rfl⟩ := he
      simp only [Bool.or_eq_true, not_or, String.isEmpty_iff, Bool.not_eq_true] at hskip
      exact ⟨i, raw, f, hraw, hskip.1, hskip.2, hf, rfl⟩
  · rintro ⟨i, raw, f, hraw, hne, hcomment, hf, rfl⟩
    refine ⟨raw, i, hraw, ?_⟩
    have hkeep : ((Text.strip raw).isEmpty || (Text.strip raw).startsWith "#") = false := by
      simp [hne, hcomment]
    simp only [hkeep, Bool.false_eq_true, ↓reduceIte, List.mem_map, Finding.mem_ofLine]
    exact ⟨f, hf, rfl⟩

/-- The line checks report nothing exactly when no line is flagged. -/
theorem detectErrors_eq_nil_iff {file : String} {lines : List String} :
    detectErrors file lines = [] ↔ ∀ raw ∈ lines, ¬ Flagged raw := by
  rw [List.eq_nil_iff_forall_not_mem]
  constructor
  · rintro hnone raw hraw ⟨hne, hcomment, f, hf⟩
    obtain ⟨i, hi, rfl⟩ := List.getElem_of_mem hraw
    exact hnone _ (mem_detectErrors.mpr
      ⟨i, _, f, List.getElem?_eq_getElem hi, hne, hcomment, hf, rfl⟩)
  · rintro hflag e he
    obtain ⟨i, raw, f, hraw, hne, hcomment, hf, -⟩ := mem_detectErrors.mp he
    exact hflag raw (List.mem_of_getElem? hraw) ⟨hne, hcomment, f, hf⟩

/-- Text that does not parse is handed to the line checks, line by line. -/
theorem analyzeText_of_syntaxError {frames : Nat} {file text : String}
    (h : Python.Verdict.ofSource frames text = .syntaxError) :
    analyzeText frames file text = .ok (detectErrors file (Text.splitLines text)) := by
  simp [analyzeText, h]

/-- Bytes that decode are analysed as their text. -/
theorem analyzeBytes_of_readText {frames : Nat} {file : String} {data : List UInt8}
    {text : String} (h : readText data = .ok text) :
    analyzeBytes frames file data = analyzeText frames file text := by
  simp [analyzeBytes, h]

/-- A file that decodes and that the parser rejects gets a report exactly when one of its
lines, split at every line break, is flagged by a line check. -/
theorem rejected_source_reported_iff_flagged (frames : Nat) (file : String) (data : List UInt8)
    (text : String) (hread : readText data = .ok text)
    (hrejected : Python.Verdict.ofSource frames text = .syntaxError) :
    ∃ events, analyzeBytes frames file data = .ok events ∧
      (events ≠ [] ↔ ∃ raw ∈ Text.splitLines text, Flagged raw) := by
  refine ⟨_, (analyzeBytes_of_readText hread).trans (analyzeText_of_syntaxError hrejected), ?_⟩
  rw [Ne, detectErrors_eq_nil_iff]
  simp

/-- A file with a NUL character after an opener without its colon decodes, is rejected, and is
reported exactly as its flagged lines say. -/
theorem nul_after_opener_reported_iff_flagged :
    readText (Text.encodeUtf8 "def f()\x00\n") = .ok "def f()\x00\n" ∧
    Python.Verdict.ofSource 6 "def f()\x00\n" = .syntaxError ∧
    ∃ events, analyzeBytes 6 "/work/t.py" (Text.encodeUtf8 "def f()\x00\n") = .ok events ∧
      (events ≠ [] ↔ ∃ raw ∈ Text.splitLines "def f()\x00\n", Flagged raw) := by
  have hread : readText (Text.encodeUtf8 "def f()\x00\n") = .ok "def f()\x00\n" := by cbv
  have hrejected : Python.Verdict.ofSource 6 "def f()\x00\n" = .syntaxError := by
    simp [Python.Verdict.ofSource]
  exact ⟨hread, hrejected,
    rejected_source_reported_iff_flagged 6 "/work/t.py" _ _ hread hrejected⟩

/-- A file that decodes, holds a NUL character and is rejected by the parser for it, while
none of its lines is flagged: it gets no report, so a project made of it has no reported
syntax error. -/
theorem nul_source_rejected_unreported :
    readText (Text.encodeUtf8 "x = 1\x00\n") = .ok "x = 1\x00\n" ∧
    Python.Verdict.ofSource 6 "x = 1\x00\n" = .syntaxError ∧
    analyzeBytes 6 "/work/t.py" (Text.encodeUtf8 "x = 1\x00\n") = .ok [] := by
  have hread : readText (Text.encodeUtf8 "x = 1\x00\n") = .ok "x = 1\x00\n" := by cbv
  have hrejected : Python.Verdict.ofSource 6 "x = 1\x00\n" = .syntaxError := by
    simp [Python.Verdict.ofSource]
  have hlines : Text.splitLines "x = 1\x00\n" = ["x = 1\x00"] := by cbv
  have hstrip : Text.strip "x = 1\x00" = "x = 1\x00" := by cbv
  -- the NUL character is no blank, and the line trips none of the four checks
  have hclean : ∀ raw ∈ Text.splitLines "x = 1\x00\n", ¬ Flagged raw := by
    rw [hlines]
    rintro raw hraw ⟨-, -, f, hf⟩
    rw [List.mem_singleton.mp hraw, hstrip] at hf
    revert hf
    cases f <;> decide +kernel
  refine ⟨hread, hrejected, ?_⟩
  rw [analyzeBytes_of_readText hread, analyzeText_of_syntaxError hrejected,
    detectErrors_eq_nil_iff.mpr hclean]

end SyntaxAdvisor
