import SyntaxAdvisor.Scan.Context
import Mathlib.Data.String.Basic

/-!
# Lines of text

Three ways of cutting text into lines meet in the library. Splitting a text at a one-character
separator is splitting its characters at that character, so joining lines that do not hold the
separator and splitting again gives the lines back. Splitting into lines at every line break
(`Text.splitLines`) and reading a file line by line (`Text.readLines`, each line keeping its
line feed) agree, line ends dropped, on text whose only line breaks are line feeds; reading a
file as text leaves no carriage return in it, but the vertical tab, the form feed, the
separators and the Unicode line ends remain and are breaks only for the first splitting.
-/

namespace SyntaxAdvisor

open String in
/-- The separator search of `String.splitOn` for a one-character separator, started after the
characters `l` with the current piece `m`, cuts the rest at that character. -/
theorem splitOnAux_singleton (c : Char) (l m r : List Char) (acc : List String) :
    splitOnAux (ofList (l ++ m ++ r)) (singleton c) ⟨utf8Len l⟩ ⟨utf8Len l + utf8Len m⟩ 0 acc =
      acc.reverse ++ (List.splitOnPPrepend (· == c) r m.reverse).map ofList := by
  rw [splitOnAux]
  simp only [List.append_assoc, atEnd_iff, rawEndPos_ofList, utf8Len_append, Pos.Raw.mk_le_mk,
    Nat.add_le_add_iff_left, (by omega : utf8Len m + utf8Len r ≤ utf8Len m ↔ utf8Len r = 0),
    utf8Len_eq_zero]
  split
  · subst r
    simpa using extract_of_valid l m []
  · obtain ⟨d, r, rfl⟩ := r.exists_cons_of_ne_nil ‹_›
    have hget : Pos.Raw.get (ofList (l ++ (m ++ d :: r))) ⟨utf8Len l + utf8Len m⟩ = d := by
      simpa using get_of_valid (l ++ m) (d :: r)
    have hsep : Pos.Raw.get (singleton c) 0 = c := by
      simpa using get_of_valid [] [c]
    have hnext : Pos.Raw.next (ofList (l ++ (m ++ d :: r))) ⟨utf8Len l + utf8Len m⟩ =
        ⟨utf8Len l + utf8Len m + d.utf8Size⟩ := by
      simpa using next_of_valid (l ++ m) d r
    have hsepnext : Pos.Raw.next (singleton c) 0 = ⟨c.utf8Size⟩ := by
      simpa using next_of_valid [] c []
    have hend : (singleton c).rawEndPos = ⟨c.utf8Size⟩ := by
      rw [singleton_eq_ofList, rawEndPos_ofList]
      simp
    have hzero : ∀ p : Pos.Raw, p.unoffsetBy 0 = p := fun p => by
      simp [Pos.Raw.unoffsetBy]
    simp only [hget, hsep, hsepnext, hend, hnext, hzero, Pos.Raw.le_refl, ↓reduceIte]
    split
    · -- the separator: the piece so far is cut off, and a new one starts after it
      rename_i h
      have hdc : d = c := by simpa using h
      subst hdc
      have hback : (⟨utf8Len l + utf8Len m + d.utf8Size⟩ : Pos.Raw).unoffsetBy ⟨d.utf8Size⟩ =
          ⟨utf8Len l + utf8Len m⟩ := by
        simp [Pos.Raw.unoffsetBy]
      rw [hback, show ofList (l ++ (m ++ d :: r)) = ofList (l ++ m ++ (d :: r)) by simp,
        extract_of_valid]
      simpa [Nat.add_assoc, List.splitOnPPrepend_cons_eq_if] using
        splitOnAux_singleton d (l ++ m ++ [d]) [] r (ofList m :: acc)
    · -- any other character extends the current piece
      rename_i h
      simpa [Nat.add_assoc, List.splitOnPPrepend_cons_eq_if, h] using
        splitOnAux_singleton c l (m ++ [d]) r acc

/-- Splitting at a one-character separator splits the characters at that character. -/
theorem splitOn_singleton (s : String) (c : Char) :
    s.splitOn (String.singleton c) = (s.toList.splitOn c).map String.ofList := by
  have hsep : (String.singleton c == "") = false := by
    rw [beq_eq_false_iff_ne]
    intro h
    simpa using congrArg String.toList h
  have h := splitOnAux_singleton c [] [] s.toList []
  simp only [List.nil_append, String.ofList_toList, String.utf8Len_nil, Nat.add_zero,
    List.reverse_nil] at h
  rw [String.splitOn, hsep, if_neg Bool.false_ne_true, List.splitOn_eq_splitOnP,
    List.splitOnP_eq_splitOnPPrepend]
  exact h

/-- No piece of characters split at a separator holds the separator. -/
theorem not_mem_of_mem_splitOn {c : Char} {xs l : List Char} (h : l ∈ xs.splitOn c) : c ∉ l := by
  induction xs generalizing l with
  | nil =>
    rw [List.splitOn_nil, List.mem_singleton] at h
    subst h
    simp
  | cons x xs ih =>
    rw [List.splitOn_cons_eq_if_modifyHead] at h
    split at h
    · rcases List.mem_cons.1 h with rfl | h
      · simp
      · exact ih h
    · -- a character other than the separator starts the first piece
      rename_i hx
      obtain ⟨l0, rest, hsp⟩ := List.exists_cons_of_ne_nil (List.splitOn_ne_nil c xs)
      rw [hsp, List.modifyHead_cons, List.mem_cons] at h
      rw [hsp] at ih
      rcases h with rfl | h
      · have hx' : x ≠ c := by simpa using hx
        simpa [Ne.symm hx'] using ih List.mem_cons_self
      · exact ih (List.mem_cons_of_mem _ h)

/-- Lines joined by line feeds, none holding a line feed, split back into themselves. -/
theorem splitOn_intercalate_newline (rows : List String) (hne : rows ≠ [])
    (hrows : ∀ r ∈ rows, '\n' ∉ r.toList) :
    ("\n".intercalate rows).splitOn "\n" = rows := by
  rw [show "\n" = String.singleton '\n' from rfl, splitOn_singleton, String.toList_intercalate,
    String.toList_singleton, List.splitOn_intercalate]
  · simp only [List.map_map, Function.comp_def, String.ofList_toList, List.map_id']
  · intro l hl
    obtain ⟨r, hr, rfl⟩ := List.mem_map.mp hl
    exact hrows r hr
  · simpa only [ne_eq, List.map_eq_nil_iff] using hne

namespace Text

/-- Dropping the line ends of a line that holds none changes nothing. -/
theorem dropLineEnds_of_not_mem (cs : List Char) (h : '\n' ∉ cs) :
    dropLineEnds (String.ofList cs) = String.ofList cs := by
  cases hc : cs.reverse with
  | nil => simp_all [dropLineEnds]
  | cons d ds =>
    have hd : (d == '\n') = false := by
      have : d ∈ cs := List.mem_reverse.mp (by simp [hc])
      simpa using fun hd : d = '\n' => h (hd ▸ this)
    rw [dropLineEnds, String.toList_ofList, hc, List.dropWhile_cons_of_neg (by simp [hd]),
      ← hc, List.reverse_reverse]

/-- Dropping the line ends of a line read from a file takes off its line feed. -/
theorem dropLineEnds_newline (cs : List Char) (h : '\n' ∉ cs) :
    dropLineEnds (String.ofList (cs ++ ['\n'])) = String.ofList cs := by
  rw [← dropLineEnds_of_not_mem cs h, dropLineEnds, dropLineEnds, String.toList_ofList,
    String.toList_ofList, List.reverse_append, List.reverse_singleton, List.singleton_append,
    List.dropWhile_cons_of_pos (by simp)]

/-- Text whose only line break is the line feed. -/
def OnlyLineFeeds (cs : List Char) : Prop := ∀ c ∈ cs, isLineBreak c = true → c = '\n'

/-- Where every line break is a line feed, splitting into lines is reading line by line with
the line ends dropped, for any line read so far. -/
theorem splitLinesFrom_eq_readLinesFrom (cur cs : List Char) (hcur : '\n' ∉ cur)
    (hcs : OnlyLineFeeds cs) :
    splitLinesFrom cur cs = (readLinesFrom cur cs).map dropLineEnds := by
  induction cs generalizing cur with
  | nil =>
    by_cases hnil : cur = []
    · simp [splitLinesFrom, readLinesFrom, hnil]
    · simp [splitLinesFrom, readLinesFrom, hnil,
        dropLineEnds_of_not_mem cur.reverse (by simpa using hcur)]
  | cons c rest ih =>
    have hrest : OnlyLineFeeds rest := fun d hd => hcs d (List.mem_cons_of_mem _ hd)
    by_cases hc : c = '\n'
    · subst hc
      have hread : readLinesFrom cur ('\n' :: rest) =
          String.ofList (cur.reverse ++ ['\n']) :: readLinesFrom [] rest := by
        simp [readLinesFrom]
      have hsplit : splitLinesFrom cur ('\n' :: rest) =
          String.ofList cur.reverse :: splitLinesFrom [] rest := by
        simp [splitLinesFrom, isLineBreak]
      rw [hread, hsplit, List.map_cons, dropLineEnds_newline _ (by simpa using hcur),
        ih [] (by simp) hrest]
    · -- a character other than a line feed is no line break, not even a carriage return
      have hbreak : isLineBreak c = false := by
        cases h : isLineBreak c
        · rfl
        · exact absurd (hcs c List.mem_cons_self h) hc
      have hcr : c ≠ '\r' := fun hr => by simp [hr, isLineBreak] at hbreak
      have hread : readLinesFrom cur (c :: rest) = readLinesFrom (c :: cur) rest := by
        simp [readLinesFrom, hc]
      have hsplit : splitLinesFrom cur (c :: rest) = splitLinesFrom (c :: cur) rest := by
        rw [splitLinesFrom.eq_3 _ _ _ (fun _ h _ => hcr h), hbreak]
        rfl
      rw [hread, hsplit, ih (c :: cur) (by simp [Ne.symm hc, hcur]) hrest]

/-- Where every line break is a line feed, splitting a text into lines is reading it line by
line with the line ends dropped. -/
theorem splitLines_eq_readLines (s : String) (h : OnlyLineFeeds s.toList) :
    splitLines s = (readLines s).map dropLineEnds :=
  splitLinesFrom_eq_readLinesFrom [] s.toList (by simp) h

/-- Translating line ends leaves no carriage return, after characters that hold none. -/
theorem cr_not_mem_translateNewlinesOnto (acc cs : List Char) (h : '\r' ∉ acc) :
    '\r' ∉ translateNewlinesOnto acc cs := by
  fun_induction translateNewlinesOnto acc cs with
  | case1 acc => simpa using h
  | case2 acc rest ih => exact ih (by simp [h])
  | case3 acc rest _ ih => exact ih (by simp [h])
  | case4 acc c rest hcrlf hcr ih =>
    apply ih
    simp only [List.mem_cons, not_or]
    refine ⟨fun hc => ?_, h⟩
    subst hc
    exact hcr rfl

/-- Text read from a file holds no carriage return. -/
theorem cr_not_mem_readText {data : List UInt8} {text : String} (h : readText data = .ok text) :
    '\r' ∉ text.toList := by
  simp only [readText, Except.map] at h
  split at h
  · simp at h
  · cases h
    simpa [translateNewlines] using cr_not_mem_translateNewlinesOnto [] _ (by simp)

end Text

end SyntaxAdvisor
