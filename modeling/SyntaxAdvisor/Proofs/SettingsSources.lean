import SyntaxAdvisor.Proofs.SettingsOverrides
import SyntaxAdvisor.Proofs.IntValues
import SyntaxAdvisor.Proofs.TextLines

/-!
# Where loaded settings come from

Loading settings with no file named takes three sources in turn. The data is the first settings
file on the disk, among the working directory's `pycodeadvisor.yaml`, the home directory's
`.pycodeadvisor/config.yaml` and the system's settings directory's `config.yaml`, or the
built-in settings without one. The `.env` file of the working directory then sets environment
variables, a later line over an earlier one and any line over the environment. Last, the
variables naming service keys and the default service, when set and not empty, are stored at
their paths in the data.

`load_sources` says what comes out, for every machine on which loading works. What the data says
at the override paths and apart from them holds when the data loaded shares no part (YAML
aliases can make two paths name one mapping, and a store through one then shows through the
other); the built-in settings share none (`holds_ofValue_defaults`).
-/

namespace SyntaxAdvisor

namespace Environment

theorem lookup_map_replace_self {vars : List (String × String)} {n : String} (v : String)
    (h : (vars.lookup n).isSome) :
    (vars.map fun (n', v') => if n' == n then (n', v) else (n', v')).lookup n = some v := by
  induction vars with
  | nil => simp at h
  | cons e vars ih =>
    obtain ⟨a, b⟩ := e
    by_cases ha : a = n
    · subst ha; simp
    · have hna : (n == a) = false := by simpa using Ne.symm ha
      simp only [List.lookup_cons, hna] at h
      simp only [beq_iff_eq] at ih
      simp [List.lookup_cons, ha, hna, ih h]

theorem lookup_map_replace_of_ne {vars : List (String × String)} {n m : String} (v : String)
    (hm : m ≠ n) :
    (vars.map fun (n', v') => if n' == n then (n', v) else (n', v')).lookup m = vars.lookup m := by
  induction vars with
  | nil => rfl
  | cons e vars ih =>
    obtain ⟨a, b⟩ := e
    by_cases ha : a = n
    · subst ha
      have hma : (m == a) = false := by simpa using hm
      simp only [beq_iff_eq] at ih
      simp [List.lookup_cons, hma, ih]
    · simp only [beq_iff_eq] at ih
      simp [List.lookup_cons, ha, ih]

/-- Setting a variable changes its value and no other. -/
theorem get?_set {e e' : Environment} {n v : String} (h : e.set n v = .ok e') (m : String) :
    e'.get? m = if m = n then some v else e.get? m := by
  unfold set at h
  split at h
  · cases h
  split at h
  · cases h
  split at h
  · cases h
  split at h
  case isTrue hset =>
    cases h
    by_cases hm : m = n
    · subst hm
      rw [if_pos rfl]
      exact lookup_map_replace_self v hset
    · rw [if_neg hm]
      exact lookup_map_replace_of_ne v hm
  case isFalse hunset =>
    cases h
    have hnone : e.vars.lookup n = none := Option.not_isSome_iff_eq_none.1 hunset
    by_cases hm : m = n
    · subst hm; simp [get?, List.lookup_append, hnone]
    · have hmn : (m == n) = false := by simpa using hm
      cases hl : e.vars.lookup m <;> simp [get?, List.lookup_append, hl, hm, hmn]

end Environment

namespace Host

/-! ## The `.env` file -/

/-- A line of a `.env` file assigns `value` to `name`: stripped, it does not start with `#` and
reads `name=value`, with no `=` in `name`. -/
def Assigns (line name value : String) : Prop :=
  (Text.strip line).startsWith "#" = false ∧ Text.strip line = name ++ "=" ++ value ∧
    '=' ∉ name.toList

/-- Of the lines, the last that assigns anything to `name` assigns `value`. -/
def LastAssigns (lines : List String) (name value : String) : Prop :=
  ∃ pre line post, lines = pre ++ line :: post ∧ Assigns line name value ∧
    ∀ l ∈ post, ∀ w, ¬ Assigns l name w

/-- The lines of the `.env` file as read; none when there is no such file. -/
def dotenvLines (h : Host) : List String :=
  match h.disk.pathExists h.dotenvPath h.dotenvPath, h.disk.readFile h.dotenvPath h.dotenvPath with
  | .ok true, .ok bytes => (Text.TextFile.ofBytes bytes).readLines.1
  | _, _ => []

theorem split_at_first_eq : ∀ {n : List Char} (v : List Char), '=' ∉ n →
    (n ++ '=' :: v).takeWhile (· != '=') = n ∧ ((n ++ '=' :: v).dropWhile (· != '=')).drop 1 = v
  | [], v, _ => by simp
  | c :: n, v, hn => by
    have hc : c ≠ '=' := fun h => hn (h ▸ List.mem_cons_self)
    obtain ⟨h₁, h₂⟩ := split_at_first_eq v fun h => hn (List.mem_cons_of_mem _ h)
    simp [hc, h₁, h₂]

theorem eq_split_at_first_eq : ∀ {l : List Char}, '=' ∈ l →
    l = l.takeWhile (· != '=') ++ '=' :: (l.dropWhile (· != '=')).drop 1 ∧
      '=' ∉ l.takeWhile (· != '=')
  | [], hl => absurd hl List.not_mem_nil
  | c :: l, hl => by
    by_cases hc : c = '='
    · subst hc; simp
    · have hl' : '=' ∈ l := by simpa [Ne.symm hc] using hl
      obtain ⟨h₁, h₂⟩ := eq_split_at_first_eq hl'
      simp only [List.takeWhile_cons, List.dropWhile_cons, bne_iff_ne, ne_eq, hc,
        not_false_eq_true, if_true, List.cons_append, List.mem_cons, not_or]
      exact ⟨congrArg (c :: ·) h₁, Ne.symm hc, h₂⟩

/-- A line assigns exactly what the reader of `.env` files takes from it: the text before its
first `=` and the text after. -/
theorem assigns_iff {line name value : String} :
    Assigns line name value ↔
      ((Text.strip line).toList.contains '=' && !(Text.strip line).startsWith "#") = true ∧
        name = String.ofList ((Text.strip line).toList.takeWhile (· != '=')) ∧
        value = String.ofList (((Text.strip line).toList.dropWhile (· != '=')).drop 1) := by
  constructor
  · rintro ⟨hhash, hline, hname⟩
    have hchars : (Text.strip line).toList = name.toList ++ '=' :: value.toList := by
      rw [hline]; simp
    obtain ⟨h₁, h₂⟩ := split_at_first_eq value.toList hname
    refine ⟨by simp [hchars, hhash], by rw [hchars, h₁, String.ofList_toList],
      by rw [hchars, h₂, String.ofList_toList]⟩
  · rintro ⟨hcond, rfl, rfl⟩
    simp only [Bool.and_eq_true, List.contains_iff_mem, Bool.not_eq_true'] at hcond
    obtain ⟨h₁, h₂⟩ := eq_split_at_first_eq hcond.1
    refine ⟨hcond.2, ?_, by simpa using h₂⟩
    apply String.toList_injective
    simpa using h₁

/-- One line of a `.env` file applied to the environment. -/
def dotenvStep (env : Environment) (line : String) : Except Failure Environment :=
  let l := Text.strip line
  if l.toList.contains '=' && !l.startsWith "#" then
    let name := String.ofList (l.toList.takeWhile (· != '='))
    let value := String.ofList ((l.toList.dropWhile (· != '=')).drop 1)
    env.set name value
  else pure env

theorem applyDotenv_eq_ok {h h' : Host} {lines : List String} (hrun : h.applyDotenv lines = .ok h') :
    ∃ env, lines.foldlM dotenvStep h.env = .ok env ∧ h' = { h with env } := by
  unfold applyDotenv at hrun
  cases hfold : lines.foldlM dotenvStep h.env with
  | error f =>
    have : (lines.foldlM dotenvStep h.env >>= fun env => pure { h with env }) = .ok h' := hrun
    rw [hfold] at this
    cases this
  | ok env =>
    have : (lines.foldlM dotenvStep h.env >>= fun env => pure { h with env }) = .ok h' := hrun
    rw [hfold] at this
    cases this
    exact ⟨env, rfl, rfl⟩

/-- A line sets the variable it assigns and leaves every other as it was. -/
theorem dotenvStep_get? {env env' : Environment} {line : String}
    (hrun : dotenvStep env line = .ok env') (name : String) :
    (∃ v, Assigns line name v ∧ env'.get? name = some v) ∨
      ((∀ v, ¬ Assigns line name v) ∧ env'.get? name = env.get? name) := by
  unfold dotenvStep at hrun
  dsimp only at hrun
  split at hrun
  case isTrue hcond =>
    rw [Environment.get?_set hrun name]
    by_cases hname : name = String.ofList ((Text.strip line).toList.takeWhile (· != '='))
    · exact .inl ⟨_, assigns_iff.2 ⟨hcond, hname, rfl⟩, if_pos hname⟩
    · exact .inr ⟨fun v hv => hname (assigns_iff.1 hv).2.1, if_neg hname⟩
  case isFalse hcond =>
    cases hrun
    exact .inr ⟨fun v hv => hcond (assigns_iff.1 hv).1, rfl⟩

/-- After the lines of a `.env` file are applied, a variable has the value of the last line that
assigns it, or, when no line does, the value it had. -/
theorem foldlM_dotenvStep : ∀ (lines : List String) {env env' : Environment},
    lines.foldlM dotenvStep env = .ok env' → ∀ name,
      (∃ v, LastAssigns lines name v ∧ env'.get? name = some v) ∨
        ((∀ l ∈ lines, ∀ w, ¬ Assigns l name w) ∧ env'.get? name = env.get? name)
  | [], _, _, hrun, _ => by
    cases hrun
    exact .inr ⟨by simp, rfl⟩
  | line :: lines, env, env', hrun, name => by
    rw [List.foldlM_cons] at hrun
    cases hstep : dotenvStep env line with
    | error f => rw [hstep] at hrun; cases hrun
    | ok env₁ =>
      rw [hstep] at hrun
      rcases foldlM_dotenvStep lines hrun name with ⟨v, ⟨pre, l, post, rfl, hl, hpost⟩, hv⟩ | ⟨hnone, hv⟩
      · -- a later line assigns the variable last
        exact .inl ⟨v, ⟨line :: pre, l, post, rfl, hl, hpost⟩, hv⟩
      · rcases dotenvStep_get? hstep name with ⟨v, hl, hv₁⟩ | ⟨hl, hv₁⟩
        · exact .inl ⟨v, ⟨[], line, lines, rfl, hl, hnone⟩, hv.trans hv₁⟩
        · refine .inr ⟨fun l hmem w => ?_, hv.trans hv₁⟩
          rcases List.mem_cons.1 hmem with rfl | hmem
          · exact hl w
          · exact hnone l hmem w

/-- Reading the `.env` file applies its lines, in order, to the environment. -/
theorem loadDotenv_eq_ok {h h' : Host} (hrun : h.loadDotenv = .ok h') :
    ∃ env, h.dotenvLines.foldlM dotenvStep h.env = .ok env ∧ h' = { h with env } := by
  unfold loadDotenv at hrun
  cases hp : h.disk.pathExists h.dotenvPath h.dotenvPath with
  | error f => simp [hp] at hrun
  | ok b =>
    cases b with
    | false =>
      simp [hp] at hrun
      subst hrun
      exact ⟨h.env, by simp [dotenvLines, hp], rfl⟩
    | true =>
      cases hr : h.disk.readFile h.dotenvPath h.dotenvPath with
      | error f => simp [hp, hr] at hrun
      | ok bytes =>
        cases hl : (Text.TextFile.ofBytes bytes).readLines with
        | mk lines fault =>
          cases ha : h.applyDotenv lines with
          | error f => simp [hp, hr, hl, ha] at hrun
          | ok h₁ =>
            cases fault with
            | some e => simp [hp, hr, hl, ha] at hrun
            | none =>
              simp [hp, hr, hl, ha] at hrun
              subst hrun
              simpa [dotenvLines, hp, hr, hl] using applyDotenv_eq_ok ha

/-- Without a `.env` file, reading it changes nothing. -/
theorem loadDotenv_of_not_exists {h : Host} (hlong : Disk.nameTooLong h.dotenvPath = false)
    (hentry : (h.disk.entry? h.dotenvPath).isSome = false) : h.loadDotenv = .ok h := by
  simp [loadDotenv, Disk.pathExists, hlong, hentry]

end Host

namespace Part

/-- The entries of a mapping part. Parts hold values, which have no decidable equality, so a
store's layout is read through this. -/
def entries? : Part → Option (List (Nat × Nat))
  | .dict es => some es
  | _ => none

theorem eq_dict_of_entries? {p : Part} {es : List (Nat × Nat)} (h : p.entries? = some es) :
    p = .dict es := by
  cases p <;> simp_all [entries?]

end Part

namespace Settings

/-- The settings file found is the first of the candidates that is on the disk. -/
theorem firstExisting_eq_ok {h : Host} : ∀ {ps : List String} {found : Option String},
    firstExisting h ps = .ok found →
      found = ps.find? fun p => (h.disk.entry? (h.locate p)).isSome
  | [], found, hrun => by
    cases hrun
    rfl
  | p :: ps, found, hrun => by
    unfold firstExisting at hrun
    cases hp : h.disk.pathExists (h.locate p) p with
    | error f => simp [hp] at hrun
    | ok b =>
      have hb : b = (h.disk.entry? (h.locate p)).isSome := by
        unfold Disk.pathExists at hp
        split at hp
        · cases hp
        · cases hp
          rfl
      cases b with
      | true =>
        simp [hp] at hrun
        subst hrun
        simp [← hb]
      | false =>
        simp [hp] at hrun
        rw [firstExisting_eq_ok hrun]
        simp [← hb]

/-- With none of the candidates on the disk, no settings file is found. -/
theorem firstExisting_eq_ok_none {h : Host} :
    ∀ {ps : List String}, (ps.all fun p => !Disk.nameTooLong (h.locate p) &&
      !(h.disk.entry? (h.locate p)).isSome) = true → firstExisting h ps = .ok none
  | [], _ => rfl
  | p :: ps, hps => by
    simp only [List.all_cons, Bool.and_eq_true, Bool.not_eq_true'] at hps
    obtain ⟨⟨hlong, hentry⟩, hps⟩ := hps
    simp only [firstExisting, Disk.pathExists, hlong, hentry]
    exact firstExisting_eq_ok_none (by simpa using hps)

/-- The built-in settings hold each text key once in every mapping. -/
theorem keysOnce_defaults : Shared.KeysOnce defaults := by
  simp [defaults, object, Shared.KeysOnce, Shared.ItemsKeysOnce, Shared.EntriesKeysOnce,
    Shared.TextKeysOnce]

/-- The built-in settings, stored, are laid out as a tree. -/
theorem holds_ofValue_defaults :
    ∃ S, Shared.Holds (Shared.ofValue defaults) (Shared.ofValue defaults).root defaults S :=
  Shared.holds_ofValue keysOnce_defaults

theorem overrides_paths_ne_nil : ∀ p ∈ overrides, p.2 ≠ [] := by
  simp [overrides]

theorem overrides_paths_apart : overrides.Pairwise fun a b => Value.Apart a.2 b.2 := by
  simp [overrides, Value.Apart]

/-- With no settings file found and no `.env` file to read, loading gives the built-in settings
with the environment's overrides. -/
theorem load_of_no_files {h : Host} (depth : Nat) {doc : Shared}
    (hfile : firstExisting h h.settingsPaths = .ok none) (hdot : h.loadDotenv = .ok h)
    (hover : applyOverrides h.env (Shared.ofValue defaults) = .ok doc) :
    load h none depth = .ok ({ doc := doc }, h) := by
  rw [load, hfile, except_ok_bind]
  dsimp only
  rw [except_pure, except_ok_bind, hdot, except_ok_bind, hover, except_ok_bind]
  rfl

/-- Loading settings with no file named. The file is the first of the settings paths on the disk,
and without one the built-in settings are loaded. Every variable has the value that the last
line of the `.env` file assigning it gives, or, without such a line, its value in the
environment. And when the data loaded is laid out as a tree, each override path whose variable
is set and not empty holds the variable's value, while every path apart from those reads as in
the data loaded. -/
theorem load_sources {h h' : Host} {depth : Nat} {s : Settings}
    (hload : load h none depth = .ok (s, h')) :
    s.file = h.settingsPaths.find? (fun p => (h.disk.entry? (h.locate p)).isSome) ∧
    (∀ name, (∃ v, Host.LastAssigns h.dotenvLines name v ∧ h'.env.get? name = some v) ∨
      ((∀ l ∈ h.dotenvLines, ∀ w, ¬ Host.Assigns l name w) ∧
        h'.env.get? name = h.env.get? name)) ∧
    ∃ data, ((∃ p, s.file = some p ∧ loadFile h depth p = .ok data) ∨
        (s.file = none ∧ data = Shared.ofValue defaults)) ∧
      ∀ V S, Shared.Holds data data.root V S →
        (∀ var path t, (var, path) ∈ overrides → overrideValue h'.env var = some t →
          s.data.atPath path = some (.str t)) ∧
        ∀ ks, (∀ var path t, (var, path) ∈ overrides → overrideValue h'.env var = some t →
          Value.Apart ks path) → s.data.atPath ks = V.atPath ks := by
  unfold load at hload
  obtain ⟨found, hfound, hload⟩ := except_bind_eq_ok.1 hload
  dsimp only at hload
  -- the data comes from the file found or from the built-in settings
  obtain ⟨data, hdata, hload⟩ : ∃ data, ((∃ p, found = some p ∧ loadFile h depth p = .ok data) ∨
      (found = none ∧ data = Shared.ofValue defaults)) ∧
      (h.loadDotenv >>= fun h₁ => applyOverrides h₁.env data >>= fun doc =>
        pure ({ doc, file := found }, h₁)) = .ok (s, h') := by
    cases found with
    | some p =>
      obtain ⟨data, hdata, hrest⟩ := except_bind_eq_ok.1 hload
      exact ⟨data, .inl ⟨p, rfl, hdata⟩, hrest⟩
    | none => exact ⟨_, .inr ⟨rfl, rfl⟩, hload⟩
  obtain ⟨h₁, hdot, hload⟩ := except_bind_eq_ok.1 hload
  obtain ⟨doc, hover, hload⟩ := except_bind_eq_ok.1 hload
  cases hload
  obtain ⟨env, hfold, rfl⟩ := Host.loadDotenv_eq_ok hdot
  refine ⟨firstExisting_eq_ok hfound, Host.foldlM_dotenvStep _ hfold, data, hdata, ?_⟩
  · intro V S hV
    obtain ⟨V', S', hV', hset, hkeep⟩ := foldlM_overrideStep overrides overrides_paths_ne_nil
      overrides_paths_apart hV ((applyOverrides_eq_foldlM _ _).symm.trans hover)
    have hdoc : (Settings.mk doc found).data = V' := hV'.valueAt
    rw [hdoc]
    exact ⟨hset, hkeep⟩

/-- With no settings file and no `.env` file, and only `OPENAI_API_KEY` set among the
overriding variables, loading stores the key at `providers.openai.api_key` of the built-in
settings and keeps `openai` as the default service. -/
theorem load_sources_env_key_only :
    ∃ s h', load ⟨Disk.empty, ⟨[("HOME", "/h"), ("OPENAI_API_KEY", "k")]⟩, "/w", "posix"⟩ none 0 =
        .ok (s, h') ∧
      s.data.atPath ["providers", "openai", "api_key"] = some (.str "k") ∧
      s.data.atPath ["default_provider"] = some (.str "openai") := by
  -- the built-in settings are stored in 34 parts under root 33; the key goes in part 34, and
  -- the mapping of `openai` (part 6) is rewritten to point at it
  have hload : load ⟨Disk.empty, ⟨[("HOME", "/h"), ("OPENAI_API_KEY", "k")]⟩, "/w", "posix"⟩
      none 0 = .ok ({ doc := ((Shared.ofValue defaults).add (.scalar (.str "k"))).1.put 6
                        (.dict [(2, 34), (4, 5)]) },
        ⟨Disk.empty, ⟨[("HOME", "/h"), ("OPENAI_API_KEY", "k")]⟩, "/w", "posix"⟩) := by
    apply load_of_no_files
    case hfile =>
      apply firstExisting_eq_ok_none
      simp only [Host.settingsPaths, Host.systemSettingsDir, Host.home, Host.locate, Path.resolve,
        Path.join, Path.normal, Disk.nameTooLong, Path.parts,
        show "/" = String.singleton '/' from rfl, splitOn_singleton]
      decide +kernel
    case hdot =>
      apply Host.loadDotenv_of_not_exists
      all_goals
        simp only [Host.dotenvPath, Path.join, Path.normal, Disk.nameTooLong, Path.parts,
          show "/" = String.singleton '/' from rfl, splitOn_singleton]
        decide +kernel
    case hover =>
      have hroot : (Shared.ofValue defaults).root = 33 := by decide +kernel
      have hsize : (Shared.ofValue defaults).parts.size = 34 := by decide +kernel
      have hp33 : ((Shared.ofValue defaults).add (.scalar (.str "k"))).1.part 33 =
          .dict [(0, 19), (20, 21), (22, 32)] := Part.eq_dict_of_entries? (by decide +kernel)
      have hp19 : ((Shared.ofValue defaults).add (.scalar (.str "k"))).1.part 19 =
          .dict [(1, 6), (7, 12), (13, 18)] := Part.eq_dict_of_entries? (by decide +kernel)
      have hp6 : ((Shared.ofValue defaults).add (.scalar (.str "k"))).1.part 6 =
          .dict [(2, 3), (4, 5)] := Part.eq_dict_of_entries? (by decide +kernel)
      have hset : setNestedIn ((Shared.ofValue defaults).add (.scalar (.str "k"))).1 34 33
          (["providers", "openai", "api_key"].map Value.str) =
          (((Shared.ofValue defaults).add (.scalar (.str "k"))).1.put 6
            (.dict [(2, 34), (4, 5)]), none) := by
        simp only [List.map_cons, List.map_nil]
        rw [setNestedIn_descend_of_find? hp33 (j := 0) (c := 19) (by decide +kernel),
          setNestedIn_descend_of_find? hp19 (j := 1) (c := 6) (by decide +kernel),
          setNestedIn_last_of_find? hp6 (j := 2) (c := 3) (by decide +kernel)]
        have hmap : (([(2, 3), (4, 5)] : List (Nat × Nat)).map fun kv =>
            if ((Shared.ofValue defaults).add (.scalar (.str "k"))).1.keyIs kv.1 (.str "api_key")
            then (kv.1, 34) else kv) = [(2, 34), (4, 5)] := by decide +kernel
        rw [hmap]
      have hstep : overrideStep ⟨[("HOME", "/h"), ("OPENAI_API_KEY", "k")]⟩
          (Shared.ofValue defaults) ("OPENAI_API_KEY", ["providers", "openai", "api_key"]) =
          .ok (((Shared.ofValue defaults).add (.scalar (.str "k"))).1.put 6
            (.dict [(2, 34), (4, 5)])) := by
        have hget : Environment.get? ⟨[("HOME", "/h"), ("OPENAI_API_KEY", "k")]⟩
            "OPENAI_API_KEY" = some "k" := by decide +kernel
        have hk : "k".isEmpty = false := by decide
        rw [overrideStep, hget]
        simp only [hk, Bool.false_eq_true, if_false, Shared.add_snd, Shared.root_add, hroot,
          hsize, hset]
        rfl
      -- the other three variables are not set
      rw [applyOverrides_eq_foldlM, overrides, List.foldlM_cons, hstep, except_ok_bind,
        List.foldlM_cons, overrideStep_of_get?_none (by decide +kernel), except_ok_bind,
        List.foldlM_cons, overrideStep_of_get?_none (by decide +kernel), except_ok_bind,
        List.foldlM_cons, overrideStep_of_get?_none (by decide +kernel), except_ok_bind,
        List.foldlM_nil]
      rfl
  obtain ⟨-, -, data, hdata, hread⟩ := load_sources hload
  have hdefaults : data = Shared.ofValue defaults := by
    rcases hdata with ⟨p, hp, -⟩ | ⟨-, hdata⟩
    · exact absurd hp (by simp)
    · exact hdata
  obtain ⟨S, hS⟩ := holds_ofValue_defaults
  rw [← hdefaults] at hS
  obtain ⟨hset, hkeep⟩ := hread defaults S hS
  have hunset : overrideValue ⟨[("HOME", "/h"), ("OPENAI_API_KEY", "k")]⟩
      "PYCODEADVISOR_PROVIDER" = none := by decide +kernel
  refine ⟨_, _, hload, hset "OPENAI_API_KEY" ["providers", "openai", "api_key"] "k"
    (by simp [overrides]) (by decide +kernel), ?_⟩
  rw [hkeep]
  · rfl
  · -- `default_provider` is apart from the key paths, and its own variable is not set
    intro var path t hmem ht
    simp only [overrides, List.mem_cons, Prod.mk.injEq, List.not_mem_nil, or_false] at hmem
    rcases hmem with ⟨rfl, rfl⟩ | ⟨rfl, rfl⟩ | ⟨rfl, rfl⟩ | ⟨rfl, rfl⟩
    · simp [Value.Apart]
    · simp [Value.Apart]
    · simp [Value.Apart]
    · simp [hunset] at ht

/-- A mapping reached under two keys, as a YAML alias makes it, is one part of the store:
storing `OPENAI_API_KEY` at `providers.openai.api_key` changes `providers.anthropic.api_key`
too, which the data gave as `x`. -/
theorem override_through_alias :
    (Shared.value ⟨#[.scalar (.str "providers"), .scalar (.str "openai"), .scalar (.str "api_key"),
        .scalar (.str "x"), .dict [(2, 3)], .scalar (.str "anthropic"), .dict [(1, 4), (5, 4)],
        .dict [(0, 6)]], 7⟩).atPath ["providers", "anthropic", "api_key"] = some (.str "x") ∧
    ∃ D, applyOverrides ⟨[("OPENAI_API_KEY", "k")]⟩ ⟨#[.scalar (.str "providers"),
        .scalar (.str "openai"), .scalar (.str "api_key"), .scalar (.str "x"), .dict [(2, 3)],
        .scalar (.str "anthropic"), .dict [(1, 4), (5, 4)], .dict [(0, 6)]], 7⟩ = .ok D ∧
      D.value.atPath ["providers", "anthropic", "api_key"] = some (.str "k") :=
  ⟨rfl, _, rfl, rfl⟩

end Settings

end SyntaxAdvisor
