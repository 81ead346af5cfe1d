import Mathlib
import SyntaxAdvisor.Proofs.IsoRoundTrip
import SyntaxAdvisor.Proofs.TextLines

/-!
# Reading a report back from its mapping view

A report that the library makes, by its constructor or by reading a mapping, is read back from its
own mapping view as itself, so the view of the report read back is the view it came from. Three
encodings meet on the way. The file is kept as a normal path, and putting a normal path in normal
form again changes nothing. A missing context or set of local variables is kept as an empty list
or mapping, which the reader keeps as it is. The time is written as ISO text, which is read back
to the same date-time (`DateTime.ofIsoText_isoformat`).
-/

namespace SyntaxAdvisor

namespace Path

/-! ## Normal paths -/

theorem splitOn_slash (s : String) :
    s.splitOn "/" = (s.toList.splitOn '/').map String.ofList := by
  rw [show "/" = String.singleton '/' from rfl, splitOn_singleton]

/-- A part that a normal path keeps: not empty, not `.`, and without a slash. -/
def IsPart (p : String) : Prop := p ≠ "" ∧ p ≠ "." ∧ '/' ∉ p.toList

theorem isPart_of_mem_parts {s p : String} (h : p ∈ parts s) : IsPart p := by
  rw [parts, splitOn_slash, List.mem_filter, List.mem_map] at h
  obtain ⟨⟨l, hl, rfl⟩, hkeep⟩ := h
  simp only [Bool.and_eq_true, bne_iff_ne, ne_eq] at hkeep
  exact ⟨hkeep.1, hkeep.2, by simpa using not_mem_of_mem_splitOn hl⟩

theorem splitOn_replicate_append (k : Nat) (l : List Char) :
    (List.replicate k '/' ++ l).splitOn '/' = List.replicate k [] ++ l.splitOn '/' := by
  induction k with
  | zero => simp
  | succ k ih => simp [List.replicate_succ, List.splitOn_cons_eq_if_modifyHead, ih]

/-- Parts joined by slashes after a root of `k` slashes are the parts of the path so written: the
slashes of the root only add empty pieces, which are dropped. -/
theorem parts_slashes_intercalate {ps : List String} (hps : ∀ p ∈ ps, IsPart p) (k : Nat) :
    parts (String.ofList (List.replicate k '/') ++ "/".intercalate ps) = ps := by
  have hkeep : ∀ p ∈ ps, (p != "" && p != ".") = true := fun p hp => by
    simp [(hps p hp).1, (hps p hp).2.1]
  rw [parts, splitOn_slash, String.toList_append, String.toList_ofList, splitOn_replicate_append,
    String.toList_intercalate]
  cases ps with
  | nil => simp
  | cons p rest =>
    rw [show "/".toList = ['/'] from rfl, List.splitOn_intercalate]
    · simp only [List.map_append, List.map_replicate, List.map_map, Function.comp_def,
        String.ofList_toList, List.map_id', List.filter_append, List.filter_replicate]
      simp [List.filter_eq_self.2 hkeep]
    · intro l hl
      obtain ⟨q, hq, rfl⟩ := List.mem_map.1 hl
      exact (hps q hq).2.2
    · simp

/-- Parts joined by slashes do not start with a slash. -/
theorem not_slash_prefix_intercalate {ps : List String} (hps : ∀ p ∈ ps, IsPart p) :
    ¬ ['/'] <+: ("/".intercalate ps).toList := by
  cases ps with
  | nil => simp
  | cons p rest =>
    obtain ⟨hne, -, hslash⟩ := hps p List.mem_cons_self
    obtain ⟨c, cs, hp⟩ := List.exists_cons_of_ne_nil (by simpa using hne : p.toList ≠ [])
    rw [String.toList_intercalate, List.map_cons, hp, List.intercalate_cons_cons_left,
      List.cons_prefix_cons, not_and]
    intro hc
    rw [hp, ← hc] at hslash
    exact absurd List.mem_cons_self hslash

/-- A root of at most two slashes, followed by text that does not start with a slash, is the root
of the whole. -/
theorem root_slashes_append {X : String} (hX : ¬ ['/'] <+: X.toList) {k : Nat} (hk : k ≤ 2) :
    root (String.ofList (List.replicate k '/') ++ X) = String.ofList (List.replicate k '/') := by
  have hX2 : ¬ ['/', '/'] <+: X.toList := fun h => hX (List.IsPrefix.trans (by simp) h)
  rcases (by omega : k = 0 ∨ k = 1 ∨ k = 2) with rfl | rfl | rfl <;> simp_all [root]

theorem root_cases (s : String) : ∃ k ≤ 2, root s = String.ofList (List.replicate k '/') := by
  unfold root
  split_ifs
  · exact ⟨2, by omega, rfl⟩
  · exact ⟨1, by omega, rfl⟩
  · exact ⟨0, by omega, rfl⟩

/-- Putting a normal path in normal form again changes nothing: its root and parts are its own. -/
theorem normal_normal (s : String) : normal (normal s) = normal s := by
  obtain ⟨k, hk, hr⟩ := root_cases s
  have hps : ∀ p ∈ parts s, IsPart p := fun p hp => isPart_of_mem_parts hp
  by_cases hdot : ((root s).isEmpty && (parts s).isEmpty) = true
  · -- nothing is left: the normal form is `.`, which is its own normal form
    have hn : normal s = "." := by rw [normal, build, if_pos hdot]
    rw [hn]
    cbv
  · have hn : normal s = String.ofList (List.replicate k '/') ++ "/".intercalate (parts s) := by
      rw [normal, build, if_neg hdot, hr]
    rw [hn, normal, root_slashes_append (not_slash_prefix_intercalate hps) hk,
      parts_slashes_intercalate hps, build, ← hr, if_neg hdot]

end Path

/-! ## The fields of the mapping view -/

/-- The path a value names is normal. -/
theorem pathOfValue_normal {v : Value} {p : String} (h : pathOfValue v = .ok p) :
    Path.normal p = p := by
  cases v with
  | str s =>
    simp only [pathOfValue, Except.ok.injEq] at h
    subst h
    exact Path.normal_normal s
  | _ => simp [pathOfValue] at h

/-- The clock's fixed reading is a date-time the library can hold. -/
theorem DateTime.fixedNow_valid : DateTime.fixedNow.Valid where
  year := by decide
  month := by decide
  day := ⟨by decide, by decide⟩
  hour := by decide
  minute := by decide
  second := by decide
  micro := by decide
  offset := by simp [DateTime.fixedNow]

/-- A report as the library makes it: its file in normal form, its context and local variables
true as values or empty, and its time one the library can hold. -/
structure Event.WellFormed (e : Event) : Prop where
  path : Path.normal e.path = e.path
  context : e.context.truthy = true ∨ e.context = .list []
  locals : e.locals.truthy = true ∨ e.locals = .dict []
  timestamp : e.timestamp.Valid

/-- The constructor makes well-formed reports. -/
theorem Event.create_wellFormed {file line kind message context start trace locals : Value}
    {e : Event} (h : Event.create file line kind message context start trace locals = .ok e) :
    e.WellFormed := by
  cases hf : pathOfValue file with
  | error f => simp [Event.create, hf] at h
  | ok p =>
    simp only [Event.create, hf, except_ok_bind, except_pure, Except.ok.injEq] at h
    subst h
    refine ⟨pathOfValue_normal hf, ?_, ?_, DateTime.fixedNow_valid⟩
    · by_cases hc : context.truthy = true <;> simp [hc]
    · by_cases hl : locals.truthy = true <;> simp [hl]

/-- Reading a mapping makes well-formed reports: the constructor makes the report, and a time
read from text is one the library can hold. -/
theorem Event.fromDict_wellFormed {d : Value} {e : Event} (h : Event.fromDict d = .ok e) :
    e.WellFormed := by
  simp only [Event.fromDict, except_bind_eq_ok] at h
  obtain ⟨file, -, line, -, kind, -, message, -, e0, hcreate, h⟩ := h
  have he0 := Event.create_wellFormed hcreate
  split at h
  · simp only [except_pure, Except.ok.injEq] at h
    exact h ▸ he0
  · rename_i s _
    rw [except_bind_eq_ok] at h
    obtain ⟨t, ht, h⟩ := h
    simp only [except_pure, Except.ok.injEq] at h
    subst h
    exact ⟨he0.path, he0.context, he0.locals, DateTime.ofIsoText_valid ht⟩
  · simp at h

/-- A well-formed report is read back from its mapping view as itself. -/
theorem Event.fromDict_toValue {e : Event} (h : e.WellFormed) : Event.fromDict e.toValue = .ok e := by
  have hcontext : (if e.context.truthy then e.context else .list []) = e.context := by
    rcases h.context with hc | hc <;> simp [hc]
  have hlocals : (if e.locals.truthy then e.locals else .dict []) = e.locals := by
    rcases h.locals with hl | hl <;> simp [hl]
  simp [Event.fromDict, Event.toValue, Value.getItem, Value.unhashable, Value.lookup, Value.field?,
    Event.create, pathOfValue, h.path, hcontext, hlocals,
    DateTime.ofIsoText_isoformat h.timestamp]

/-- For every report the library makes, by its constructor from any arguments or by reading any
mapping, reading back its mapping view gives a report with the same view. -/
theorem Event.toValue_fromDict_toValue {e : Event}
    (h : (∃ file line kind message context start trace locals,
        Event.create file line kind message context start trace locals = .ok e) ∨
      ∃ d, Event.fromDict d = .ok e) :
    (Event.fromDict e.toValue).map Event.toValue = .ok e.toValue := by
  have hwf : e.WellFormed := by
    rcases h with ⟨_, _, _, _, _, _, _, _, hcreate⟩ | ⟨d, hread⟩
    · exact Event.create_wellFormed hcreate
    · exact Event.fromDict_wellFormed hread
  rw [Event.fromDict_toValue hwf]
  rfl

/-- A report read from a mapping with a path to normalise, a false context and set of local
variables, and a time in the basic ISO form with a comma before its fraction and an offset west
of UTC: its view is read back to the same view. -/
theorem Event.toValue_fromDict_toValue_basic_form :
    Event.fromDict (.dict [(.str "file_path", .str "a//b/./c/"), (.str "line_number", .int 3),
        (.str "error_type", .str "SyntaxError"), (.str "message", .str "expected ':'"),
        (.str "code_context", .str ""), (.str "local_variables", .int 0),
        (.str "timestamp", .str "20240630T235959,5-0530")]) =
      .ok { path := Path.normal "a//b/./c/", line := .int 3, kind := .str "SyntaxError",
            message := .str "expected ':'", context := .list [], locals := .dict [],
            timestamp := { date := ⟨2024, 6, 30⟩, hour := 23, minute := 59, second := 59,
                           micro := 500000, offset := some (-19800000000) } } ∧
    (Event.fromDict (Event.toValue
        { path := Path.normal "a//b/./c/", line := .int 3, kind := .str "SyntaxError",
          message := .str "expected ':'", context := .list [], locals := .dict [],
          timestamp := { date := ⟨2024, 6, 30⟩, hour := 23, minute := 59, second := 59,
                         micro := 500000, offset := some (-19800000000) } })).map Event.toValue =
      .ok (Event.toValue
        { path := Path.normal "a//b/./c/", line := .int 3, kind := .str "SyntaxError",
          message := .str "expected ':'", context := .list [], locals := .dict [],
          timestamp := { date := ⟨2024, 6, 30⟩, hour := 23, minute := 59, second := 59,
                         micro := 500000, offset := some (-19800000000) } }) := by
  have hread : Event.fromDict (.dict [(.str "file_path", .str "a//b/./c/"),
      (.str "line_number", .int 3), (.str "error_type", .str "SyntaxError"),
      (.str "message", .str "expected ':'"), (.str "code_context", .str ""),
      (.str "local_variables", .int 0), (.str "timestamp", .str "20240630T235959,5-0530")]) =
      .ok { path := Path.normal "a//b/./c/", line := .int 3, kind := .str "SyntaxError",
            message := .str "expected ':'", context := .list [], locals := .dict [],
            timestamp := { date := ⟨2024, 6, 30⟩, hour := 23, minute := 59, second := 59,
                           micro := 500000, offset := some (-19800000000) } } := by rfl
  exact ⟨hread, Event.toValue_fromDict_toValue (.inr ⟨_, hread⟩)⟩

end SyntaxAdvisor
