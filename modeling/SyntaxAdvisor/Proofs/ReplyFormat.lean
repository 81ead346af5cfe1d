import SyntaxAdvisor.Proofs.AdviceOutcome
import SyntaxAdvisor.Proofs.FloatText

/-!
# Reading a reply in the requested format

The prompt asks for a reply in three sections: an `EXPLANATION:` line and the lines that
continue it, a `SUGGESTED FIX:` line and its continuation lines, and a `CONFIDENCE:` line with a
number. Such a reply, after any preamble, is read back section by section: the explanation is
the non-empty stripped explanation lines joined by spaces, the fix likewise, and the confidence
is the number clamped to the unit interval.

The marker is removed from its line by replacing every occurrence of it, so this holds only
when the text on the marker line does not itself contain the marker; a first explanation line
`EXPLANATION:` is read as no text at all.
-/

namespace SyntaxAdvisor

namespace Text

/-! ## Stripping, characterised by its blank ends -/

theorem stripChars_blank_append {as cs : List Char} (has : ∀ c ∈ as, isBlank c = true) :
    stripChars (as ++ cs) = stripChars cs := by
  unfold stripChars
  rw [List.dropWhile_append_of_pos has]

/-- A text is its stripped form between blanks. -/
theorem exists_blank_ends (cs : List Char) :
    ∃ as bs, (∀ c ∈ as, isBlank c = true) ∧ (∀ c ∈ bs, isBlank c = true) ∧
      cs = as ++ stripChars cs ++ bs := by
  set front := cs.dropWhile isBlank
  -- the stripped characters are `front` less the blanks at its end
  have hfront : front = stripChars cs ++ (front.reverse.takeWhile isBlank).reverse := by
    conv_lhs => rw [← List.reverse_reverse front,
      ← List.takeWhile_append_dropWhile (p := isBlank) (l := front.reverse)]
    rw [List.reverse_append]
    rfl
  refine ⟨cs.takeWhile isBlank, (front.reverse.takeWhile isBlank).reverse,
    fun c hc => List.mem_takeWhile_imp hc, fun c hc => List.mem_takeWhile_imp
      (List.mem_reverse.1 hc), ?_⟩
  rw [List.append_assoc, ← hfront]
  exact (List.takeWhile_append_dropWhile).symm

/-- Characters between blanks that neither start nor end with a blank are what stripping
leaves. -/
theorem stripChars_between_blanks {as ys bs : List Char} (has : ∀ c ∈ as, isBlank c = true)
    (hbs : ∀ c ∈ bs, isBlank c = true) (hhead : ∀ c ∈ ys.head?, isBlank c = false)
    (hlast : ∀ c ∈ ys.getLast?, isBlank c = false) : stripChars (as ++ ys ++ bs) = ys := by
  rw [List.append_assoc, stripChars_blank_append has]
  cases ys with
  | nil =>
    rw [List.nil_append]
    unfold stripChars
    rw [List.dropWhile_eq_nil_iff.2 hbs]
    rfl
  | cons y ys => exact stripChars_append_blanks (hhead y rfl) hlast hbs

/-! ## Removing a marker -/

/-- A search that meets no occurrence of the pattern copies the text. -/
theorem replaceOnto_of_not_infix {p : Char} {ps rep acc cs : List Char}
    (h : ¬(p :: ps) <:+: cs) : replaceOnto p ps rep acc cs = acc.reverse ++ cs := by
  induction cs generalizing acc with
  | nil => rw [replaceOnto, List.append_nil]
  | cons c cs ih =>
    have hprefix : ¬(p :: ps).isPrefixOf (c :: cs) = true :=
      fun hpre => h (List.isPrefixOf_iff_prefix.1 hpre).isInfix
    rw [replaceOnto, if_neg hprefix, ih fun hin => h (hin.trans (List.suffix_cons _ _).isInfix)]
    simp

/-- The pattern at the start of the text is replaced. -/
theorem replaceOnto_pattern_append {p : Char} {ps rep acc rest : List Char} :
    replaceOnto p ps rep acc (p :: ps ++ rest) = replaceOnto p ps rep (rep.reverse ++ acc) rest := by
  have hpre : (p :: ps).isPrefixOf (p :: (ps ++ rest)) = true :=
    List.isPrefixOf_iff_prefix.2 (List.prefix_append (p :: ps) rest)
  rw [List.cons_append, replaceOnto, if_pos hpre, List.drop_left]

/-- A marker that neither starts nor ends with a blank, then a space and a text: stripping keeps
the marker and a start `R` of the rest that strips as the text does. -/
theorem exists_stripChars_marker_line {P S : List Char} (hne : P ≠ [])
    (hhead : ∀ c ∈ P.head?, isBlank c = false) (hlast : ∀ c ∈ P.getLast?, isBlank c = false) :
    ∃ R, stripChars (P ++ ' ' :: S) = P ++ R ∧ R <+: ' ' :: S ∧ stripChars R = stripChars S := by
  obtain ⟨as, bs, has, hbs, hsplit⟩ := exists_blank_ends S
  have hspace : isBlank ' ' = true := rfl
  by_cases hcore : stripChars S = []
  · -- a blank text: only the marker is left
    have hblank : ∀ c ∈ ' ' :: S, isBlank c = true := by
      rw [hsplit, hcore, List.append_nil]
      intro c hc
      rcases List.mem_cons.1 hc with rfl | hc
      · exact hspace
      · rcases List.mem_append.1 hc with hc | hc
        · exact has c hc
        · exact hbs c hc
    refine ⟨[], ?_, List.nil_prefix, by rw [hcore]; rfl⟩
    rw [← List.nil_append (P ++ ' ' :: S), ← List.append_assoc, List.append_nil,
      stripChars_between_blanks (fun c hc => by cases hc) hblank hhead hlast]
  · -- otherwise the space, the blanks before the text and the stripped text remain
    refine ⟨' ' :: as ++ stripChars S, ?_, ?_, ?_⟩
    · have hends : P ++ ' ' :: S = [] ++ (P ++ (' ' :: as ++ stripChars S)) ++ bs := by
        conv_lhs => rw [hsplit]
        simp
      rw [hends, stripChars_between_blanks (fun c hc => by cases hc) hbs]
      · rw [List.head?_append_of_ne_nil _ hne]
        exact hhead
      · rw [List.getLast?_append_of_ne_nil _ (by simp),
          List.getLast?_append_of_ne_nil _ hcore]
        exact getLast?_stripChars S
    · conv_rhs => rw [hsplit]
      exact ⟨bs, by simp⟩
    · have hends : ' ' :: as ++ stripChars S = (' ' :: as) ++ stripChars S ++ [] := by simp
      rw [hends, stripChars_between_blanks _ (fun c hc => by cases hc) (head?_stripChars S)
        (getLast?_stripChars S)]
      intro c hc
      rcases List.mem_cons.1 hc with rfl | hc
      · exact hspace
      · exact has c hc

/-- Stripping a text that does not end with a blank only drops its leading blanks. -/
theorem stripChars_of_getLast {cs : List Char} (hlast : ∀ c ∈ cs.getLast?, isBlank c = false) :
    stripChars cs = cs.dropWhile isBlank := by
  obtain ⟨as, bs, has, hbs, hsplit⟩ := exists_blank_ends cs
  -- the text does not end with a blank, so no blanks follow the stripped text
  have hbs_nil : bs = [] := by
    by_contra hne
    have hb := List.getLast?_eq_some_getLast hne
    have hb' := hlast _ (by rw [hsplit, List.getLast?_append_of_ne_nil _ hne, hb]; rfl)
    rw [hbs _ (List.getLast_mem hne)] at hb'
    cases hb'
  conv_rhs => rw [hsplit, hbs_nil, List.append_nil, List.dropWhile_append_of_pos has]
  cases h : stripChars cs with
  | nil => rfl
  | cons c rest =>
    have hc : isBlank c = false := head?_stripChars cs c (by rw [h]; rfl)
    exact (List.dropWhile_cons_of_neg (by simp [hc])).symm

/-- A text that is its own stripped form and not empty. -/
def Trimmed (s : String) : Prop := s ≠ "" ∧ strip s = s

theorem Trimmed.ends {s : String} (h : Trimmed s) :
    s.toList ≠ [] ∧ (∀ c ∈ s.toList.head?, isBlank c = false) ∧
      ∀ c ∈ s.toList.getLast?, isBlank c = false := by
  have hchars : s.toList = stripChars s.toList := by
    conv_lhs => rw [← h.2, strip, String.toList_ofList]
  refine ⟨by simpa using h.1, ?_, ?_⟩
  · rw [hchars]
    exact head?_stripChars _
  · rw [hchars]
    exact getLast?_stripChars _

/-- Two trimmed texts with a space between them are trimmed. -/
theorem Trimmed.append_space {a b : String} (ha : Trimmed a) (hb : Trimmed b) :
    Trimmed (a ++ " " ++ b) := by
  obtain ⟨hane, hahead, -⟩ := ha.ends
  obtain ⟨hbne, -, hblast⟩ := hb.ends
  refine ⟨by simp [ha.1], ?_⟩
  have hchars : (a ++ " " ++ b).toList = [] ++ (a.toList ++ ' ' :: b.toList) ++ [] := by
    simp [String.toList_append]
  rw [strip, hchars, stripChars_between_blanks (fun c hc => by cases hc) (fun c hc => by cases hc)]
  · rw [← String.toList_inj, String.toList_ofList]
    simp [String.toList_append]
  · rw [List.head?_append_of_ne_nil _ hane]
    exact hahead
  · rw [show a.toList ++ ' ' :: b.toList = (a.toList ++ [' ']) ++ b.toList by simp,
      List.getLast?_append_of_ne_nil _ hbne]
    exact hblast

/-- Trimmed texts joined by single spaces make a trimmed text. -/
theorem Trimmed.intercalate {ks : List String} (hne : ks ≠ []) (hks : ∀ k ∈ ks, Trimmed k) :
    Trimmed (" ".intercalate ks) := by
  induction ks with
  | nil => exact absurd rfl hne
  | cons k ks ih =>
    cases ks with
    | nil => simpa using hks k List.mem_cons_self
    | cons k' ks =>
      rw [String.intercalate_cons_cons]
      exact (hks k List.mem_cons_self).append_space
        (ih (List.cons_ne_nil _ _) fun x hx => hks x (List.mem_cons_of_mem _ hx))

/-- Texts joined by single spaces: the first, then each of the others after a space. -/
theorem intercalate_space_cons (k : String) (ks : List String) :
    " ".intercalate (k :: ks) = k ++ String.join (ks.map (" " ++ ·)) := by
  induction ks generalizing k with
  | nil => simp
  | cons k' ks ih =>
    rw [String.intercalate_cons_cons, ih, List.map_cons, String.join_cons]
    simp only [String.append_assoc]

/-- Joining texts with a separator: the last one comes after the others and a separator. -/
theorem intercalate_concat (sep t : String) :
    ∀ {l : List String}, l ≠ [] → sep.intercalate (l ++ [t]) = sep.intercalate l ++ sep ++ t
  | [a], _ => by simp [String.intercalate_cons_cons]
  | a :: b :: l, _ => by
    rw [List.cons_append, List.cons_append, String.intercalate_cons_cons, ← List.cons_append,
      intercalate_concat sep t (List.cons_ne_nil b l), String.intercalate_cons_cons]
    simp only [String.append_assoc]

/-- A text that is a pattern, a space and the pattern again loses both occurrences: only the
space is left. -/
theorem replace_pattern_space_pattern {pat : String} (hpat : Trimmed pat) :
    replace (pat ++ " " ++ pat) pat "" = " " := by
  obtain ⟨hne, hhead, -⟩ := hpat.ends
  obtain ⟨p, ps, hps⟩ := List.exists_cons_of_ne_nil hne
  -- the pattern does not start at the space, since it does not start with a blank
  have hspace : ¬(p :: ps).isPrefixOf (' ' :: (p :: ps ++ [])) = true := by
    intro h
    have hp : p = ' ' := (List.cons_prefix_cons.1 (List.isPrefixOf_iff_prefix.1 h)).1
    have := hhead p (by rw [hps]; rfl)
    rw [hp] at this
    cases this
  unfold replace
  rw [if_neg (by simpa using hpat.1), hps]
  dsimp only
  rw [String.toList_append, String.toList_append, hps, show " ".toList = [' '] from rfl,
    String.toList_empty, List.append_assoc, replaceOnto_pattern_append, List.singleton_append,
    ← List.append_nil (p :: ps), replaceOnto, if_neg hspace, replaceOnto_pattern_append,
    replaceOnto]
  rfl
/-- A printable ASCII character is not blank. -/
theorem isBlank_eq_false_of_printable {c : Char} (h1 : 32 < c.toNat) (h2 : c.toNat < 127) :
    isBlank c = false := by
  unfold isBlank blankCodes
  simp only [List.contains_eq_mem, decide_eq_false_iff_not, List.mem_cons, List.not_mem_nil,
    or_false]
  omega

end Text

namespace Reply

/-! ## Lines with a marker -/

section Markers

variable {pat s : String}

/-- A marker that neither starts nor ends with a blank, a space and a text: stripped, the marker
and a start `R` of the space and the text, which strips as the text does. -/
theorem strip_marker_line (hpat : Text.Trimmed pat) :
    ∃ R : String, Text.strip (pat ++ " " ++ s) = pat ++ R ∧ R.toList <+: ' ' :: s.toList ∧
      Text.strip R = Text.strip s := by
  obtain ⟨hne, hhead, hlast⟩ := hpat.ends
  obtain ⟨R, hstrip, hprefix, hR⟩ :=
    Text.exists_stripChars_marker_line (S := s.toList) hne hhead hlast
  refine ⟨String.ofList R, ?_, by rwa [String.toList_ofList], ?_⟩
  · have hline : (pat ++ " " ++ s).toList = pat.toList ++ ' ' :: s.toList := by
      simp [String.toList_append]
    rw [Text.strip, hline, hstrip, ← String.toList_inj, String.toList_ofList, String.toList_append,
      String.toList_ofList]
  · rw [Text.strip, Text.strip, String.toList_ofList, hR]

/-- Replacing a marker by nothing in a text that starts with it and does not contain it
afterwards leaves the rest. -/
theorem replace_marker_append (hpat : pat ≠ "") {R : String} (hR : ¬pat.toList <:+: R.toList) :
    Text.replace (pat ++ R) pat "" = R := by
  obtain ⟨p, ps, hps⟩ := List.exists_cons_of_ne_nil (by simpa using hpat : pat.toList ≠ [])
  unfold Text.replace
  rw [if_neg (by simpa using hpat), hps]
  dsimp only
  rw [String.toList_append, hps, String.toList_empty, Text.replaceOnto_pattern_append,
    Text.replaceOnto_of_not_infix (hps ▸ hR)]
  simp

/-- The text after a marker, on a line that is the marker, a space and a text without the
marker: that text, stripped. -/
theorem contentAfter_marker (hpat : Text.Trimmed pat) (hs : ¬pat.toList <:+: s.toList) :
    contentAfter (Text.strip (pat ++ " " ++ s)) pat = Text.strip s := by
  obtain ⟨R, hstrip, hprefix, hR⟩ := strip_marker_line (s := s) hpat
  obtain ⟨hne, hhead, -⟩ := hpat.ends
  -- the marker does not start at the space, so `R` holds no marker
  have hnot : ¬pat.toList <:+: R.toList := by
    intro hin
    rcases List.infix_cons_iff.1 (hin.trans hprefix.isInfix) with ⟨t, ht⟩ | hin
    · obtain ⟨p, ps, hps⟩ := List.exists_cons_of_ne_nil hne
      rw [hps, List.cons_append, List.cons.injEq] at ht
      have hp := hhead p (by rw [hps]; rfl)
      rw [ht.1] at hp
      cases hp
    · exact hs hin
  rw [contentAfter, hstrip, replace_marker_append hpat.1 hnot, hR]

/-- The marker of each section. -/
def marker : ReplySection → String
  | .explanation => "EXPLANATION:"
  | .fix => "SUGGESTED FIX:"

theorem trimmed_marker (sec : ReplySection) : Text.Trimmed (marker sec) := by
  cases sec
  · exact ⟨by simp [marker], by cbv⟩
  · exact ⟨by simp [marker], by cbv⟩

theorem trimmed_confidence : Text.Trimmed "CONFIDENCE:" := ⟨by simp, by cbv⟩

end Markers

/-! ## Reading lines -/

/-- The text a section holds. -/
def Reading.text (r : Reading) : ReplySection → String
  | .explanation => r.explanation
  | .fix => r.fix

/-- A reading with the text of one section replaced. -/
def Reading.withText (r : Reading) : ReplySection → String → Reading
  | .explanation, t => { r with explanation := t }
  | .fix, t => { r with fix := t }

section Sections

variable {r : Reading} {sec : ReplySection} {t t' : String}

@[simp] theorem Reading.current_withText : (r.withText sec t).current = r.current := by
  cases sec <;> rfl

@[simp] theorem Reading.text_withText : (r.withText sec t).text sec = t := by
  cases sec <;> rfl

@[simp] theorem Reading.withText_withText : (r.withText sec t).withText sec t' = r.withText sec t' := by
  cases sec <;> rfl

@[simp] theorem Reading.withText_text : r.withText sec (r.text sec) = r := by
  cases sec <;> rfl

end Sections

/-- Whether a stripped line starts with one of the three markers. -/
def startsWithMarker (line : String) : Bool :=
  line.startsWith "EXPLANATION:" || line.startsWith "SUGGESTED FIX:" || line.startsWith "CONFIDENCE:"

/-- A section's text continued by a line: after a space, unless the line is empty. -/
def continued (text line : String) : String := if line.isEmpty then text else text ++ " " ++ line

section Steps

variable {r : Reading} {line : String}

/-- An empty line changes nothing. -/
theorem step_empty (r : Reading) : step r "" = r := by
  unfold step
  simp

/-- A line without a marker, read before any section has started, changes nothing. -/
theorem step_unmarked_none (hcur : r.current = none) (hline : startsWithMarker line = false) :
    step r line = r := by
  simp only [startsWithMarker, Bool.or_eq_false_iff] at hline
  obtain ⟨⟨h1, h2⟩, h3⟩ := hline
  unfold step
  rw [if_neg (by simp [h1]), if_neg (by simp [h2]), if_neg (by simp [h3]), hcur]
  split <;> rfl

/-- A line without a marker, read in a section, continues the section's text. -/
theorem step_continuation {sec : ReplySection} (hcur : r.current = some sec)
    (hline : startsWithMarker line = false) :
    step r line = r.withText sec (continued (r.text sec) line) := by
  simp only [startsWithMarker, Bool.or_eq_false_iff] at hline
  obtain ⟨⟨h1, h2⟩, h3⟩ := hline
  unfold step continued
  rw [if_neg (by simp [h1]), if_neg (by simp [h2]), if_neg (by simp [h3])]
  by_cases hempty : line.isEmpty
  · rw [if_pos hempty, if_pos hempty, Reading.withText_text]
  · rw [if_neg hempty, if_neg hempty]
    obtain ⟨explanation, fix, confidence, current⟩ := r
    subst hcur
    cases sec <;> rfl

/-- A section's marker line starts the section, with the line's text when that is not empty. -/
theorem step_marker (sec : ReplySection) {s : String}
    (hs : ¬(marker sec).toList <:+: s.toList) :
    step r (Text.strip (marker sec ++ " " ++ s)) =
      { r.withText sec (if (Text.strip s).isEmpty then r.text sec else Text.strip s) with
        current := some sec } := by
  obtain ⟨R, hstrip, -, -⟩ := strip_marker_line (s := s) (trimmed_marker sec)
  have hcontent := contentAfter_marker (trimmed_marker sec) hs
  unfold step
  rw [hstrip] at hcontent ⊢
  cases sec
  · rw [if_pos (by simp [marker]), ← marker, hcontent]
    dsimp only [Reading.withText, Reading.text]
  · rw [if_neg (by simp [marker]), if_pos (by simp [marker]), ← marker, hcontent]
    dsimp only [Reading.withText, Reading.text]

/-- A marker line whose text is the marker again: both are removed, so the line starts its
section and leaves the section's text as it was. -/
theorem step_marker_twice (sec : ReplySection) :
    step r (Text.strip (marker sec ++ " " ++ marker sec)) = { r with current := some sec } := by
  have hline := (trimmed_marker sec).append_space (trimmed_marker sec)
  have hcontent : contentAfter (marker sec ++ " " ++ marker sec) (marker sec) = "" := by
    rw [contentAfter, Text.replace_pattern_space_pattern (trimmed_marker sec)]
    rfl
  unfold step
  rw [hline.2]
  cases sec
  · rw [if_pos (by simp [marker]), ← marker, hcontent]
    rfl
  · rw [if_neg (by simp [marker]), if_pos (by simp [marker]), ← marker, hcontent]
    rfl

/-- The confidence line sets the confidence to the number its text reads as. -/
theorem step_confidence {s : String} (hs : ¬"CONFIDENCE:".toList <:+: s.toList) :
    step r (Text.strip ("CONFIDENCE:" ++ " " ++ s)) =
      { r with confidence := confidenceOf (Text.strip s) } := by
  obtain ⟨R, hstrip, -, -⟩ := strip_marker_line (s := s) trimmed_confidence
  have hcontent := contentAfter_marker trimmed_confidence hs
  unfold step
  rw [hstrip] at hcontent ⊢
  rw [if_neg (by simp), if_neg (by simp), if_pos (by simp), hcontent]

end Steps

/-! ## Reading runs of lines -/

section Runs

variable {r : Reading} {ls : List String}

/-- Lines without markers, read before any section has started, change nothing. -/
theorem foldl_unmarked_none (hcur : r.current = none)
    (hls : ∀ l ∈ ls, startsWithMarker (Text.strip l) = false) :
    ls.foldl (fun r l => step r (Text.strip l)) r = r := by
  induction ls with
  | nil => rfl
  | cons l ls ih =>
    rw [List.foldl_cons, step_unmarked_none hcur (hls l List.mem_cons_self)]
    exact ih fun l' hl' => hls l' (List.mem_cons_of_mem _ hl')

/-- Lines without markers, read in a section, continue its text one after another. -/
theorem foldl_continuation {sec : ReplySection} (hcur : r.current = some sec)
    (hls : ∀ l ∈ ls, startsWithMarker (Text.strip l) = false) :
    ls.foldl (fun r l => step r (Text.strip l)) r =
      r.withText sec (ls.foldl (fun t l => continued t (Text.strip l)) (r.text sec)) := by
  induction ls generalizing r with
  | nil => simp
  | cons l ls ih =>
    rw [List.foldl_cons, step_continuation hcur (hls l List.mem_cons_self),
      ih (by simp [hcur]) fun l' hl' => hls l' (List.mem_cons_of_mem _ hl')]
    simp

end Runs

/-- Continuing a text by lines adds each non-empty stripped line after a space. -/
theorem foldl_continued (a : String) (ls : List String) :
    ls.foldl (fun t l => continued t (Text.strip l)) a =
      a ++ String.join (((ls.map Text.strip).filter fun l => !l.isEmpty).map (" " ++ ·)) := by
  induction ls generalizing a with
  | nil => simp
  | cons l ls ih =>
    rw [List.foldl_cons, ih, continued, List.map_cons, List.filter_cons]
    split <;> rename_i h
    · simp [h]
    · simp [h, String.append_assoc]

/-- The text of a section: its non-empty stripped lines joined by spaces, or a stock text when
there is none. -/
def sectionText (lines : List String) (stock : String) : String :=
  match (lines.map Text.strip).filter fun l => !l.isEmpty with
  | [] => stock
  | kept => " ".intercalate kept

/-- A section read from its marker line's text and its continuation lines, then stripped, or
replaced by the stock text when blank, is the section text of those lines. -/
theorem orElse_foldl_continued (a : String) (ls : List String) (stock : String) :
    (if (Text.strip (ls.foldl (fun t l => continued t (Text.strip l)) (Text.strip a))).isEmpty
      then stock else Text.strip (ls.foldl (fun t l => continued t (Text.strip l)) (Text.strip a)))
      = sectionText (a :: ls) stock := by
  rw [foldl_continued]
  generalize hkept : ((ls.map Text.strip).filter fun l => !l.isEmpty) = kept
  -- every kept line is trimmed
  have htrim : ∀ k ∈ kept, Text.Trimmed k := by
    intro k hk
    rw [← hkept, List.mem_filter, List.mem_map] at hk
    obtain ⟨⟨l, -, rfl⟩, hne⟩ := hk
    exact ⟨by simpa using hne, Text.strip_strip l⟩
  unfold sectionText
  rw [List.map_cons, List.filter_cons, hkept]
  by_cases ha : (Text.strip a).isEmpty
  · -- an empty marker text: the lines alone, after a leading space
    rw [String.isEmpty_iff.1 ha]
    simp only [show (!"".isEmpty) = false from rfl, Bool.false_eq_true, if_false,
      String.empty_append]
    cases kept with
    | nil => simp [show Text.strip "" = "" from rfl]
    | cons k ks =>
      have hjoin := Text.Trimmed.intercalate (List.cons_ne_nil k ks) htrim
      rw [List.map_cons, String.join_cons, String.append_assoc, ← Text.intercalate_space_cons,
        Text.strip, String.toList_append, show " ".toList = [' '] from rfl,
        Text.stripChars_blank_append (by simp; rfl), ← Text.strip, hjoin.2]
      simp [hjoin.1]
  · -- the marker text first, then the lines
    have hfirst : Text.Trimmed (Text.strip a) := ⟨by simpa using ha, Text.strip_strip a⟩
    have hjoin := Text.Trimmed.intercalate (List.cons_ne_nil _ kept)
      (List.forall_mem_cons.2 ⟨hfirst, htrim⟩)
    rw [← Text.intercalate_space_cons] at ⊢
    simp only [ha, Bool.not_false, ↓reduceIte, hjoin.2]
    simp [hjoin.1]

/-! ## Stripping the reply first -/

section Lines

variable (r : Reading)

/-- A blank at the start of a reply changes nothing: it is a blank line of its own, or it is
stripped from the first line. -/
theorem foldl_lines_blank_cons {a : Char} (ha : Text.isBlank a = true) (cs : List Char) :
    (((a :: cs).splitOn '\n').map String.ofList).foldl (fun r l => step r (Text.strip l)) r =
      ((cs.splitOn '\n').map String.ofList).foldl (fun r l => step r (Text.strip l)) r := by
  rw [List.splitOn_cons_eq_if_modifyHead]
  split
  · -- a line feed: an empty first line
    rw [List.map_cons, List.foldl_cons, show Text.strip (String.ofList []) = "" from rfl,
      step_empty]
  · -- another blank: stripped from the first line
    obtain ⟨l, ls, hsplit⟩ := List.exists_cons_of_ne_nil (List.splitOn_ne_nil '\n' cs)
    have hstrip : Text.strip (String.ofList (a :: l)) = Text.strip (String.ofList l) := by
      rw [Text.strip, Text.strip, String.toList_ofList, String.toList_ofList,
        ← List.singleton_append, Text.stripChars_blank_append (by simpa using ha)]
    rw [hsplit, List.modifyHead_cons, List.map_cons, List.map_cons, List.foldl_cons,
      List.foldl_cons, hstrip]

theorem foldl_lines_dropWhile (cs : List Char) :
    (((cs.dropWhile Text.isBlank).splitOn '\n').map String.ofList).foldl
        (fun r l => step r (Text.strip l)) r =
      ((cs.splitOn '\n').map String.ofList).foldl (fun r l => step r (Text.strip l)) r := by
  induction cs with
  | nil => rfl
  | cons a cs ih =>
    by_cases ha : Text.isBlank a = true
    · rw [List.dropWhile_cons_of_pos ha, ih, foldl_lines_blank_cons r ha]
    · rw [List.dropWhile_cons_of_neg ha]

/-- The reader strips the reply before cutting it into lines; for a reply that does not end
with a blank, that changes nothing to what the lines say. -/
theorem foldl_strip_reply {response : String}
    (hlast : ∀ c ∈ response.toList.getLast?, Text.isBlank c = false) :
    ((Text.strip response).splitOn "\n").foldl (fun r l => step r (Text.strip l)) r =
      (response.splitOn "\n").foldl (fun r l => step r (Text.strip l)) r := by
  rw [show "\n" = String.singleton '\n' from rfl, splitOn_singleton, splitOn_singleton, Text.strip,
    String.toList_ofList, Text.stripChars_of_getLast hlast, foldl_lines_dropWhile]

end Lines

/-! ## A reply in the requested format -/

section Requested

variable (pre : List String) (e1 : String) (es : List String) (f1 : String) (fs : List String)
  (c : Float)

theorem floatText_not_blank : ∀ ch ∈ (Decimal.floatText c).toList, Text.isBlank ch = false :=
  fun ch hch => Text.isBlank_eq_false_of_printable (Decimal.floatText_chars c |>.2 ch hch).1
    (Decimal.floatText_chars c |>.2 ch hch).2.1

theorem newline_not_mem_floatText : '\n' ∉ (Decimal.floatText c).toList := fun hch => by
  have := (Decimal.floatText_chars c |>.2 _ hch).1
  simp at this

/-- The confidence line with the written form of a double sets the confidence to the double,
clamped. -/
theorem step_confidence_floatText (r : Reading) :
    step r (Text.strip ("CONFIDENCE: " ++ Decimal.floatText c)) =
      { r with confidence := clampUnit c } := by
  have hblank := floatText_not_blank c
  -- the written form has no upper-case letter, so no `C` of the marker
  have hm : ¬"CONFIDENCE:".toList <:+: (Decimal.floatText c).toList := fun hin => by
    have hC := (Decimal.floatText_chars c |>.2 'C' (hin.subset (by simp))).2.2
    revert hC
    decide
  have hstrip : Text.strip (Decimal.floatText c) = Decimal.floatText c := by
    rw [Text.strip, Text.stripChars_of_ends, String.ofList_toList]
    · intro ch hch
      exact hblank ch (List.mem_of_mem_head? hch)
    · intro ch hch
      exact hblank ch (List.mem_of_getLast? hch)
  rw [show "CONFIDENCE: " ++ Decimal.floatText c = "CONFIDENCE:" ++ " " ++ Decimal.floatText c
    from rfl, step_confidence hm, hstrip, confidenceOf, Decimal.readFloat_floatText]

/-- The lines of the requested reply before the confidence line. -/
def requestedLines : List String :=
  pre ++ ("EXPLANATION: " ++ e1) :: es ++ ("SUGGESTED FIX: " ++ f1) :: fs

/-- The requested reply: preamble lines, the explanation's marker line and its continuation
lines, the fix's marker line and its continuation lines, and the confidence line with the
written form of a double. -/
def requestedReply : String :=
  "\n".intercalate (requestedLines pre e1 es f1 fs ++ ["CONFIDENCE: " ++ Decimal.floatText c])

/-- The requested reply is read line by line, the confidence line last. -/
theorem foldl_requestedReply (r : Reading)
    (hnl : ∀ l ∈ requestedLines pre e1 es f1 fs, '\n' ∉ l.toList) :
    ((Text.strip (requestedReply pre e1 es f1 fs c)).splitOn "\n").foldl
        (fun r l => step r (Text.strip l)) r =
      { (requestedLines pre e1 es f1 fs).foldl (fun r l => step r (Text.strip l)) r with
        confidence := clampUnit c } := by
  have hinit : requestedLines pre e1 es f1 fs ≠ [] := by simp [requestedLines]
  -- the reply ends with the written number, so stripping it first changes nothing
  have hlast : ∀ ch ∈ (requestedReply pre e1 es f1 fs c).toList.getLast?,
      Text.isBlank ch = false := by
    rw [requestedReply, Text.intercalate_concat "\n" _ hinit, ← String.append_assoc,
      String.toList_append, List.getLast?_append_of_ne_nil _ (Decimal.floatText_chars c).1]
    intro ch hch
    exact floatText_not_blank c ch (List.mem_of_getLast? hch)
  have hrows : ∀ l ∈ requestedLines pre e1 es f1 fs ++ ["CONFIDENCE: " ++ Decimal.floatText c],
      '\n' ∉ l.toList := by
    intro l hl
    rcases List.mem_append.1 hl with hl | hl
    · exact hnl l hl
    · rw [List.mem_singleton.1 hl]
      simpa [String.toList_append] using newline_not_mem_floatText c
  rw [foldl_strip_reply _ hlast, requestedReply, splitOn_intercalate_newline _ (by simp) hrows,
    List.foldl_append, List.foldl_cons, List.foldl_nil, step_confidence_floatText]

end Requested

theorem ite_isEmpty_self (t : String) : (if t.isEmpty = true then "" else t) = t := by
  split
  · rename_i h
    exact (String.isEmpty_iff.1 h).symm
  · rfl

/-- A line that continues a section or precedes the first one: no line feed, and stripped it
does not start with a marker. -/
def PlainLine (l : String) : Prop := '\n' ∉ l.toList ∧ startsWithMarker (Text.strip l) = false

/-- A line with no line feed, no blank at either end and no marker at its start is plain:
stripping leaves it as it is. -/
theorem plainLine_of_ends {l : String} (hnl : '\n' ∉ l.toList)
    (hhead : ∀ c ∈ l.toList.head?, Text.isBlank c = false)
    (hlast : ∀ c ∈ l.toList.getLast?, Text.isBlank c = false) (hm : startsWithMarker l = false) :
    PlainLine l := by
  refine ⟨hnl, ?_⟩
  rw [Text.strip, Text.stripChars_of_ends hhead hlast, String.ofList_toList]
  exact hm

theorem parse_requestedReply (pre : List String) (e1 : String) (es : List String) (f1 : String)
    (fs : List String) (c : Float) (hpre : ∀ l ∈ pre, PlainLine l)
    (hes : ∀ l ∈ es, PlainLine l) (hfs : ∀ l ∈ fs, PlainLine l)
    (he1 : '\n' ∉ e1.toList) (he1m : ¬"EXPLANATION:".toList <:+: e1.toList)
    (hf1 : '\n' ∉ f1.toList) (hf1m : ¬"SUGGESTED FIX:".toList <:+: f1.toList) :
    parse (requestedReply pre e1 es f1 fs c) =
      { explanation := sectionText (e1 :: es) "Unable to analyze this error",
        fix := sectionText (f1 :: fs) "No specific fix suggested",
        confidence := clampUnit c } := by
  have hnl : ∀ l ∈ requestedLines pre e1 es f1 fs, '\n' ∉ l.toList := by
    intro l hl
    simp only [requestedLines, List.mem_append, List.mem_cons] at hl
    rcases hl with ((hl | rfl | hl) | rfl | hl)
    · exact (hpre l hl).1
    · simpa [String.toList_append] using he1
    · exact (hes l hl).1
    · simpa [String.toList_append] using hf1
    · exact (hfs l hl).1
  -- the preamble is skipped, each marker line starts its section, and the lines after it
  -- continue it
  have hfold : (requestedLines pre e1 es f1 fs).foldl (fun r l => step r (Text.strip l)) {} =
      { explanation := es.foldl (fun t l => continued t (Text.strip l)) (Text.strip e1),
        fix := fs.foldl (fun t l => continued t (Text.strip l)) (Text.strip f1),
        current := some .fix } := by
    simp only [requestedLines, List.foldl_append, List.foldl_cons]
    rw [foldl_unmarked_none rfl fun l hl => (hpre l hl).2,
      show "EXPLANATION: " ++ e1 = marker .explanation ++ " " ++ e1 from rfl,
      step_marker .explanation he1m, foldl_continuation rfl fun l hl => (hes l hl).2,
      show "SUGGESTED FIX: " ++ f1 = marker .fix ++ " " ++ f1 from rfl,
      step_marker .fix hf1m, foldl_continuation rfl fun l hl => (hfs l hl).2]
    -- a marker text that is empty leaves the section empty, as it was
    dsimp only [Reading.withText, Reading.text]
    rw [ite_isEmpty_self, ite_isEmpty_self]
  unfold parse
  dsimp only
  rw [foldl_requestedReply _ _ _ _ _ _ _ hnl, hfold]
  dsimp only
  rw [orElse_foldl_continued, orElse_foldl_continued]


theorem parse_requestedReply_colon :
    parse (requestedReply ["Here is my analysis:"] "A colon is missing." ["after the def line."]
      "Add a colon." [] 0.9) =
      { explanation := sectionText ["A colon is missing.", "after the def line."]
          "Unable to analyze this error",
        fix := sectionText ["Add a colon."] "No specific fix suggested",
        confidence := clampUnit 0.9 } := by
  -- both lines have no blank at either end and no marker at the start
  have hplain : ∀ l ∈ ["Here is my analysis:", "after the def line."], PlainLine l := by
    simp only [List.forall_mem_cons, List.not_mem_nil, IsEmpty.forall_iff, implies_true, and_true]
    constructor <;>
    refine plainLine_of_ends (by simp) ?_ ?_ (by simp +decide [startsWithMarker]) <;>
      simp only [String.reduceToList, List.head?_cons, List.getLast?_cons_cons,
        List.getLast?_singleton, Option.mem_def, Option.some.injEq, forall_eq'] <;>
      decide
  apply parse_requestedReply
  · exact fun l hl => hplain l (by simp [List.mem_singleton.mp hl])
  · exact fun l hl => hplain l (by simp [List.mem_singleton.mp hl])
  · simp
  · simp
  · simp +decide
  · simp
  · simp +decide

/-- Lines are stripped before their marker is looked for, so a preamble line that starts with
a blank and then a marker starts that section: with no text on the explanation's own marker
line, the preamble's text is the explanation. -/
theorem parse_preamble_marker_after_blank :
    (parse (requestedReply ["p", " EXPLANATION: x"] "" [] "f" [] 0.5)).explanation = "x" := by
  have hnl : ∀ l ∈ requestedLines ["p", " EXPLANATION: x"] "" [] "f" [], '\n' ∉ l.toList := by
    simp only [requestedLines, List.cons_append, List.nil_append, List.mem_cons, List.not_mem_nil,
      or_false]
    rintro l (rfl | rfl | rfl | rfl) <;> simp +decide
  have hp : step {} (Text.strip "p") = {} := step_unmarked_none rfl (by cbv)
  have hblank : Text.strip " EXPLANATION: x" = Text.strip (marker .explanation ++ " " ++ "x") := by
    simp +decide
  have hx : ¬(marker .explanation).toList <:+: "x".toList := fun h => by
    have := h.length_le
    simp [marker] at this
  have hempty : ¬(marker .explanation).toList <:+: "".toList := fun h => by
    have := h.length_le
    simp [marker] at this
  have hf : ¬(marker .fix).toList <:+: "f".toList := fun h => by
    have := h.length_le
    simp [marker] at this
  unfold parse
  dsimp only
  rw [foldl_requestedReply _ _ _ _ _ _ _ hnl, requestedLines]
  simp only [List.foldl_append, List.foldl_cons, List.foldl_nil]
  rw [hp, hblank, step_marker .explanation hx,
    show "EXPLANATION: " ++ "" = marker .explanation ++ " " ++ "" from rfl,
    step_marker .explanation hempty,
    show "SUGGESTED FIX: " ++ "f" = marker .fix ++ " " ++ "f" from rfl, step_marker .fix hf]
  dsimp only [Reading.withText, Reading.text]
  simp +decide

/-- A marker is removed from its line wherever it occurs, so an explanation whose first line is
the marker itself leaves the marker line without text: the stock text is given, not that line. -/
theorem parse_explanation_marker_twice :
    (parse (requestedReply [] "EXPLANATION:" [] "f" [] 0.5)).explanation ≠
      sectionText ["EXPLANATION:"] "Unable to analyze this error" := by
  have hnl : ∀ l ∈ requestedLines [] "EXPLANATION:" [] "f" [], '\n' ∉ l.toList := by
    simp only [requestedLines, List.nil_append, List.cons_append, List.mem_cons,
      List.not_mem_nil, or_false]
    rintro l (rfl | rfl) <;> simp +decide
  have hf : ¬(marker .fix).toList <:+: "f".toList := fun h => by
    have := h.length_le
    simp [marker] at this
  have hexpl : ∀ e, "EXPLANATION: " ++ e = marker .explanation ++ " " ++ e := fun _ => rfl
  have hfix : ∀ e, "SUGGESTED FIX: " ++ e = marker .fix ++ " " ++ e := fun _ => rfl
  unfold parse
  dsimp only
  rw [foldl_requestedReply _ _ _ _ _ _ _ hnl, requestedLines]
  simp only [List.nil_append, List.cons_append, List.foldl_cons, List.foldl_nil]
  -- `rw` with these literal equations is slow; `simp only` finds the marker lines at once
  simp only [hexpl, hfix, show "EXPLANATION:" = marker .explanation from rfl]
  rw [step_marker_twice, step_marker .fix hf]
  dsimp only [Reading.withText, Reading.text]
  simp +decide

end Reply

end SyntaxAdvisor
