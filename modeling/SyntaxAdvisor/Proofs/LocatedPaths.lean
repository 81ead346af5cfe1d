import SyntaxAdvisor.Proofs.ReportRoundTrip
import SyntaxAdvisor.Proofs.SettingsSources

/-!
# Paths located from a working directory

Two facts make the path functions run on literal text under `simp`: `String.startsWith` and
`String.isEmpty` read on the characters of the text, where `simp`'s `String` simprocs take
literals apart. A bound does the rest of the work for names: every character takes at most four
bytes in UTF-8, and a part is never longer than its path, so a path of fewer than 64 characters
is never refused for the length of its name.

The machines of the examples work in the directory `/w`, with `/h` as their home directory on a
POSIX system; the last section gives the paths they locate.
-/

namespace SyntaxAdvisor

/-! ## Text read on its characters -/

theorem startsWith_eq_isPrefixOf (s p : String) :
    s.startsWith p = p.toList.isPrefixOf s.toList := by
  rw [Bool.eq_iff_iff, String.startsWith_string_iff, List.isPrefixOf_iff_prefix]

theorem isEmpty_eq_toList_isEmpty (s : String) : s.isEmpty = s.toList.isEmpty := by
  rw [Bool.eq_iff_iff, String.isEmpty_iff, List.isEmpty_iff, String.toList_eq_nil_iff]

/-! ## Lengths of names -/

namespace Text

theorem length_encodeChar_le (c : Char) : (encodeChar c).length ≤ 4 := by
  unfold encodeChar
  dsimp only
  split_ifs <;> simp

theorem length_encodeUtf8_le (s : String) : (encodeUtf8 s).length ≤ 4 * s.length := by
  rw [encodeUtf8, ← String.length_toList]
  induction s.toList with
  | nil => simp
  | cons c cs ih =>
    have hc := length_encodeChar_le c
    simp only [List.flatMap_cons, List.length_append, List.length_cons]
    omega

end Text

/-- Each list that a separator joins is a sublist of the joined list. -/
theorem sublist_intercalate_of_mem {α : Type} (sep : List α) :
    ∀ {ls : List (List α)} {l : List α}, l ∈ ls → l.Sublist (sep.intercalate ls)
  | [], _, h => absurd h List.not_mem_nil
  | [a], l, h => by
    rw [List.mem_singleton] at h
    subst h
    simp
  | a :: b :: rest, l, h => by
    rw [List.intercalate_cons_cons]
    rcases List.mem_cons.1 h with rfl | hrest
    · exact (List.sublist_append_left _ _).trans (List.sublist_append_left _ _)
    · exact (sublist_intercalate_of_mem sep hrest).trans (List.sublist_append_right _ _)

namespace Path

/-- A part of a path is no longer than the path. -/
theorem length_le_of_mem_parts {s p : String} (h : p ∈ parts s) : p.length ≤ s.length := by
  rw [parts, splitOn_slash, List.mem_filter, List.mem_map] at h
  obtain ⟨⟨l, hl, rfl⟩, -⟩ := h
  -- the pieces of the split, joined by slashes again, give back the whole path
  have hsub : l.Sublist s.toList := by
    have hjoin : ['/'].intercalate (s.toList.splitOn '/') = s.toList := List.intercalate_splitOn '/'
    rw [← hjoin]
    exact sublist_intercalate_of_mem ['/'] hl
  rw [← String.length_toList, ← String.length_toList, String.toList_ofList]
  exact hsub.length_le

end Path

namespace Disk

/-- A path of fewer than 64 characters is never refused for the length of its name. -/
theorem nameTooLong_eq_false {s : String} (h : s.length < 64) : nameTooLong s = false := by
  have hwhole := Text.length_encodeUtf8_le s
  have hparts : ∀ p ∈ Path.parts s, (Text.encodeUtf8 p).length ≤ 255 := by
    intro p hp
    have := Text.length_encodeUtf8_le p
    have := Path.length_le_of_mem_parts hp
    omega
  simp only [nameTooLong, Bool.or_eq_false_iff, decide_eq_false_iff_not, List.any_eq_false]
  exact ⟨by omega, fun p hp => by simpa using hparts p hp⟩

end Disk

/-! ## The paths of a machine working in `/w` -/

namespace Host

variable {h : Host}

theorem dotenvPath_of_cwd (hcwd : h.cwd = "/w") : h.dotenvPath = "/w/.env" := by
  simp +decide only [dotenvPath, hcwd, Path.join, Path.normal, Path.parts, Path.splitOn_slash,
    Path.root, Path.build, startsWith_eq_isPrefixOf, isEmpty_eq_toList_isEmpty,
    String.reduceToList, String.reduceAppend, List.isPrefixOf, List.splitOn, List.splitOnP,
    List.splitOnPPrepend]

/-- The `.env` file of `/w` is located where it is named: the path is absolute and normal. -/
theorem locate_dotenv (h : Host) : h.locate "/w/.env" = "/w/.env" := by
  simp +decide only [locate, Path.resolve, Path.parts, Path.splitOn_slash, Path.collapse,
    Path.build, startsWith_eq_isPrefixOf, isEmpty_eq_toList_isEmpty, String.reduceToList,
    List.isPrefixOf, List.splitOn, List.splitOnP, List.splitOnPPrepend, ite_true, ite_false,
    List.map, List.filter, List.reverse_cons, List.reverse_nil, String.reduceOfList,
    String.reduceBNe]

theorem locate_settingsFile_of_cwd (hcwd : h.cwd = "/w") :
    h.locate (Path.join h.cwd "pycodeadvisor.yaml") = "/w/pycodeadvisor.yaml" := by
  simp +decide only [locate, hcwd, Path.resolve, Path.join, Path.normal, Path.parts,
    Path.splitOn_slash, Path.root, Path.collapse, Path.build, startsWith_eq_isPrefixOf,
    isEmpty_eq_toList_isEmpty, String.reduceToList, String.reduceAppend, String.reduceOfList,
    List.isPrefixOf, List.splitOn, List.splitOnP, List.splitOnPPrepend, ite_true, ite_false,
    List.map, List.filter, List.reverse_cons, List.reverse_nil, String.reduceBNe]

/-- On a POSIX system, working in `/w` with the home directory `/h`, the settings are looked for
at these three paths. -/
theorem settingsPaths_of_cwd (hcwd : h.cwd = "/w") (hhome : h.env.get? "HOME" = some "/h")
    (hos : h.osName = "posix") :
    h.settingsPaths.map h.locate = ["/w/pycodeadvisor.yaml", "/h/.pycodeadvisor/config.yaml",
      "/h/.config/pycodeadvisor/config.yaml"] := by
  simp +decide only [settingsPaths, systemSettingsDir, home, locate, hcwd, hhome, hos,
    Option.getD_some, Path.resolve, Path.join, Path.normal, Path.parts, Path.splitOn_slash,
    Path.root, Path.collapse, Path.build, startsWith_eq_isPrefixOf, isEmpty_eq_toList_isEmpty,
    String.reduceToList, String.reduceAppend, String.reduceOfList, List.isPrefixOf, List.splitOn,
    List.splitOnP, List.splitOnPPrepend, List.map_cons, ite_true, ite_false, List.map,
    List.filter, List.reverse_cons, List.reverse_nil, String.reduceBNe, String.reduceBEq]

end Host

namespace Settings

/-- No settings file is found when each candidate, located, is short and absent from the disk. -/
theorem firstExisting_eq_ok_none_of_located {h : Host} {ps : List String}
    (hps : ∀ q ∈ ps.map h.locate, q.length < 64 ∧ h.disk.entry? q = none) :
    firstExisting h ps = .ok none := by
  apply firstExisting_eq_ok_none
  rw [List.all_eq_true]
  intro p hp
  obtain ⟨hshort, hnone⟩ := hps (h.locate p) (List.mem_map_of_mem hp)
  simp [Disk.nameTooLong_eq_false hshort, hnone]

/-- A POSIX machine working in `/w`, with the home directory `/h`, whose disk holds neither a
settings file nor a `.env` file loads the built-in settings with the environment's overrides, and
its host stays as it was. -/
theorem load_of_absent_in_w {h : Host} (depth : Nat) {doc : Shared} (hcwd : h.cwd = "/w")
    (hhome : h.env.get? "HOME" = some "/h") (hos : h.osName = "posix")
    (habsent : ∀ q ∈ ["/w/pycodeadvisor.yaml", "/h/.pycodeadvisor/config.yaml",
      "/h/.config/pycodeadvisor/config.yaml", "/w/.env"], h.disk.entry? q = none)
    (hover : applyOverrides h.env (Shared.ofValue defaults) = .ok doc) :
    load h none depth = .ok ({ doc := doc }, h) := by
  have hpath := Host.dotenvPath_of_cwd hcwd
  refine load_of_no_files depth ?_ ?_ hover
  · apply firstExisting_eq_ok_none_of_located
    rw [Host.settingsPaths_of_cwd hcwd hhome hos]
    intro q hq
    simp only [List.mem_cons, List.not_mem_nil, or_false] at hq
    rcases hq with rfl | rfl | rfl
    all_goals exact ⟨by decide, habsent _ (by simp)⟩
  · apply Host.loadDotenv_of_not_exists
    · rw [hpath]
      exact Disk.nameTooLong_eq_false (by decide)
    · rw [hpath, habsent "/w/.env" (by simp)]
      rfl

end Settings

end SyntaxAdvisor
