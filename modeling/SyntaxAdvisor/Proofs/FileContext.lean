import SyntaxAdvisor.Proofs.PatternWindow

/-!
# Report windows and file windows

The line checks number the lines of a text split at every line break, while the context of a
line is read back from the file line by line, split at line feeds only. Reading a file as text
leaves no carriage return, so the two numberings part exactly at the other line breaks: the
vertical tab, the form feed, the file, group and record separators, the next-line character
and the line and paragraph separators. Where the text holds none of them, every report of a
file that decodes names one of its physical lines, and reading the context of that line from
the file, three lines before and three after, gives the report's own context and first line.
-/

namespace SyntaxAdvisor

namespace Text

/-- The line breaks other than the line feed and the carriage return. -/
def extraLineBreaks : List Char :=
  ['\x0b', '\x0c', '\x1c', '\x1d', '\x1e', '\x85', '\u2028', '\u2029']

/-- A line break is a line feed, a carriage return or one of the other breaks. -/
theorem isLineBreak_iff (c : Char) :
    isLineBreak c = true ↔ c = '\n' ∨ c = '\r' ∨ c ∈ extraLineBreaks := by
  simp only [isLineBreak, List.contains_eq_mem, decide_eq_true_eq, extraLineBreaks,
    List.mem_cons, List.not_mem_nil, or_false, ← Char.toNat_inj, Char.reduceToNat]
  omega

/-- Text read from a file and holding none of the other breaks breaks lines only at line
feeds. -/
theorem onlyLineFeeds_of_readText {data : List UInt8} {text : String}
    (hread : readText data = .ok text) (hbreaks : ∀ c ∈ text.toList, c ∉ extraLineBreaks) :
    OnlyLineFeeds text.toList := by
  intro c hc hbreak
  have hcr : c ≠ '\r' := fun h => cr_not_mem_readText hread (h ▸ hc)
  rcases (isLineBreak_iff c).mp hbreak with h | h | h
  · exact h
  · exact absurd h hcr
  · exact absurd h (hbreaks c hc)

end Text

/-- Slicing commutes with mapping. -/
theorem sliceList_map {α β : Type} (f : α → β) (xs : List α) (a b : Int) :
    sliceList (xs.map f) a b = (sliceList xs a b).map f := by
  simp [sliceList, List.map_drop, List.map_take]

/-- The context of line `n` of a file that decodes, for integer bounds: the lines read from the
file from line `n - before` (at least the first) to line `n + after` (at most the last), line
ends dropped, and the number of the first. -/
theorem extractContext_int {d : Disk} {path shown : String} {data : List UInt8} {text : String}
    (hfile : d.readFile path shown = .ok data) (hread : readText data = .ok text)
    (n before after : Int) :
    extractContext d path shown (.int n) (.int before) (.int after) =
      .ok ((sliceList (Text.readLines text) (Max.max 1 (n - before) - 1)
        (Min.min (Text.readLines text).length (n + after))).map dropLineEnds,
        .int (Max.max 1 (n - before))) := by
  simp [extractContext, hfile, hread]

/-- Every report of a file that decodes comes from the line checks on its lines. -/
theorem mem_detectErrors_of_analyzeBytes {frames : Nat} {file : String} {data : List UInt8}
    {text : String} {events : List Event} (hread : readText data = .ok text)
    (hevents : analyzeBytes frames file data = .ok events) {e : Event} (he : e ∈ events) :
    e ∈ detectErrors file (Text.splitLines text) := by
  rw [analyzeBytes_of_readText hread, analyzeText] at hevents
  split at hevents
  · cases hevents
    simp at he
  · cases hevents
    exact he
  all_goals cases hevents

/-- Where a file that decodes holds no line break other than the line feed, every report of it
names one of its physical lines, and reading three lines either side of that line from the file
gives the report's context and its first line number. -/
theorem report_context_of_line_feeds (frames : Nat) (d : Disk) (path shown file : String)
    (data : List UInt8) (text : String) (hfile : d.readFile path shown = .ok data)
    (hread : readText data = .ok text)
    (hbreaks : ∀ c ∈ text.toList, c ∉ Text.extraLineBreaks)
    (events : List Event) (hevents : analyzeBytes frames file data = .ok events)
    (e : Event) (he : e ∈ events) :
    ∃ (n : Nat) (ctx : List String), e.line = .int n ∧ 1 ≤ n ∧
      n ≤ (Text.readLines text).length ∧ e.context = .list (ctx.map .str) ∧
      extractContext d path shown e.line (.int 3) (.int 3) = .ok (ctx, e.contextStart) := by
  obtain ⟨i, raw, f, hraw, -, -, -, rfl⟩ :=
    mem_detectErrors.mp (mem_detectErrors_of_analyzeBytes hread hevents he)
  -- split at line feeds only, the lines of the checks are the lines read from the file
  have hlines : Text.splitLines text = (Text.readLines text).map dropLineEnds :=
    Text.splitLines_eq_readLines text (Text.onlyLineFeeds_of_readText hread hbreaks)
  have hi : i < (Text.readLines text).length := by
    have := (List.getElem?_eq_some_iff.mp hraw).1
    rwa [hlines, List.length_map] at this
  have hstop : (i : Int) + 1 + 3 = i + 4 := by omega
  have hfirst : Max.max 1 ((i : Int) + 1 - 3) = Max.max 0 ((i : Int) - 3) + 1 := by omega
  refine ⟨i + 1, (sliceList (Text.readLines text) (Max.max 0 ((i : Int) - 3))
    (Min.min (Text.readLines text).length ((i : Int) + 4))).map dropLineEnds,
    by simp, by omega, by omega, ?_, ?_⟩
  · simp [Event.ofPattern, hlines, sliceList_map]
  · simp [Event.ofPattern, hlines, extractContext_int hfile hread, hstop, hfirst]

/-- A one-line file with a NUL character after an opener without its colon: its report is read
back from the file. -/
theorem nul_after_opener_context_read_back :
    Disk.readFile ⟨[("/t.py", .file (Text.encodeUtf8 "def f()\x00\n"))]⟩ "/t.py" "/t.py" =
      .ok (Text.encodeUtf8 "def f()\x00\n") ∧
    readText (Text.encodeUtf8 "def f()\x00\n") = .ok "def f()\x00\n" ∧
    (∀ c ∈ "def f()\x00\n".toList, c ∉ Text.extraLineBreaks) ∧
    analyzeBytes 6 "/t.py" (Text.encodeUtf8 "def f()\x00\n") =
      .ok (detectErrors "/t.py" (Text.splitLines "def f()\x00\n")) ∧
    Event.ofPattern "/t.py" (.int ((0 : Nat) + 1)) (.str "SyntaxError")
      (.str Finding.missingColon.message) (Text.splitLines "def f()\x00\n") (0 : Nat) ∈
        detectErrors "/t.py" (Text.splitLines "def f()\x00\n") ∧
    ∃ (n : Nat) (ctx : List String),
      let e := Event.ofPattern "/t.py" (.int ((0 : Nat) + 1)) (.str "SyntaxError")
        (.str Finding.missingColon.message) (Text.splitLines "def f()\x00\n") (0 : Nat)
      e.line = .int n ∧ 1 ≤ n ∧ n ≤ (Text.readLines "def f()\x00\n").length ∧
      e.context = .list (ctx.map .str) ∧
      extractContext ⟨[("/t.py", .file (Text.encodeUtf8 "def f()\x00\n"))]⟩ "/t.py" "/t.py"
        e.line (.int 3) (.int 3) = .ok (ctx, e.contextStart) := by
  have hfile : Disk.readFile ⟨[("/t.py", .file (Text.encodeUtf8 "def f()\x00\n"))]⟩ "/t.py" "/t.py" =
      .ok (Text.encodeUtf8 "def f()\x00\n") := by
    -- the path is split at its slashes through the characters, which the kernel evaluates
    have hparts : Path.parts "/t.py" = ["t.py"] := by
      rw [Path.parts, show "/" = String.singleton '/' from rfl, splitOn_singleton]
      decide +kernel
    have hlong : Disk.nameTooLong "/t.py" = false := by
      rw [Disk.nameTooLong, hparts]
      decide +kernel
    have hunder : Disk.underFile ⟨[("/t.py", .file (Text.encodeUtf8 "def f()\x00\n"))]⟩ "/t.py" =
        false := by
      rw [Disk.underFile, Path.parents, hparts]
      decide +kernel
    rw [Disk.readFile, hlong, hunder]
    rfl
  have hread : readText (Text.encodeUtf8 "def f()\x00\n") = .ok "def f()\x00\n" := by cbv
  have hbreaks : ∀ c ∈ "def f()\x00\n".toList, c ∉ Text.extraLineBreaks := by
    simp [Text.extraLineBreaks]
  have hrejected : Python.Verdict.ofSource 6 "def f()\x00\n" = .syntaxError := by
    simp [Python.Verdict.ofSource]
  have hevents : analyzeBytes 6 "/t.py" (Text.encodeUtf8 "def f()\x00\n") =
      .ok (detectErrors "/t.py" (Text.splitLines "def f()\x00\n")) :=
    (analyzeBytes_of_readText hread).trans (analyzeText_of_syntaxError hrejected)
  have hlines : Text.splitLines "def f()\x00\n" = ["def f()\x00"] := by cbv
  have hstrip : Text.strip "def f()\x00" = "def f()\x00" := by cbv
  have he : Event.ofPattern "/t.py" (.int ((0 : Nat) + 1)) (.str "SyntaxError")
      (.str Finding.missingColon.message) (Text.splitLines "def f()\x00\n") (0 : Nat) ∈
        detectErrors "/t.py" (Text.splitLines "def f()\x00\n") := by
    refine mem_detectErrors.mpr ⟨0, "def f()\x00", .missingColon, by rw [hlines]; rfl, ?_, ?_, ?_, rfl⟩ <;>
      rw [hstrip] <;> decide +kernel
  exact ⟨hfile, hread, hbreaks, hevents, he,
    report_context_of_line_feeds 6 _ "/t.py" "/t.py" "/t.py" _ _ hfile hread hbreaks _ hevents _ he⟩

end SyntaxAdvisor
