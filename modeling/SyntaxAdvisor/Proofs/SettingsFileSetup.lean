import SyntaxAdvisor.Proofs.StoredKeys
import SyntaxAdvisor.Proofs.DotenvSetup

/-!
# Setting up keys in the settings file

Without `--env`, the setup loads the settings, gives built-in settings a file holding the built-in
settings, asks for a key for each of three services, saves the settings after each key typed,
and then makes a configured service the default one and saves again.

What the settings file holds afterwards is the settings as loaded, which includes every key the
environment or the `.env` file put there, changed in two ways only (`setup_saves_loaded_settings`):
each key typed (blanks around it dropped) is stored at its service's `api_key`, and
`default_provider` names a service the saved settings configure. When no service is configured,
nothing is saved: the file is as it was, or holds the built-in settings when there was none
(`Settings.SetupSaved`). This is proved for settings laid out as a tree (`Shared.Holds`); a file
whose aliases share a part between two places is left out. So a key that only the environment
holds ends up in the settings file in the working directory (`setup_saves_environment_key`).
-/

namespace SyntaxAdvisor

namespace Settings

/-- The file settings are saved to, seen from a working directory: their own file, or
`pycodeadvisor.yaml` in the working directory for built-in settings. -/
def savedFile (s : Settings) (cwd : String) : String := s.file.getD (Path.join cwd "pycodeadvisor.yaml")

end Settings

namespace Session

theorem writeText_eq_ok {s s' : Session} {shown text : String} (h : s.writeText shown text = .ok s') :
    s' = { s with host := { s.host with
      disk := s.host.disk.put (s.host.locate shown) (.file (Text.encodeUtf8 text)) } } := by
  unfold writeText at h
  obtain ⟨disk, hw, h⟩ := except_bind_eq_ok.1 h
  rw [Disk.writeFile_eq_ok hw] at h
  exact (Except.ok.inj h).symm

/-- Creating the settings file in the working directory writes the built-in settings to it and
keeps the settings as they are. -/
theorem createFile_eq_ok {s s' : Session} {p : String} (h : s.createFile none = .ok (p, s')) :
    p = Path.join s.host.cwd "pycodeadvisor.yaml" ∧ s'.settings = s.settings ∧
      s'.host.cwd = s.host.cwd ∧
      s'.host.disk.entry? (s.host.locate p) =
        some (.file (Text.encodeUtf8 (Yaml.dump Settings.defaults))) := by
  unfold createFile at h
  obtain ⟨disk, -, h⟩ := except_bind_eq_ok.1 h
  obtain ⟨s₁, hw, h⟩ := except_bind_eq_ok.1 h
  cases h
  rw [writeText_eq_ok hw]
  exact ⟨rfl, rfl, rfl, by simp [Disk.entry?_put, Host.locate]⟩

/-- Saving settings writes them, as YAML, to their file, giving built-in settings the file
`pycodeadvisor.yaml` in the working directory. -/
theorem save_eq_ok {s s' : Session} (h : s.save = (.ok (), s')) :
    s'.settings = { doc := s.settings.doc, file := some (s.settings.savedFile s.host.cwd) } ∧
      s'.host.cwd = s.host.cwd ∧
      s'.host.disk.entry? (s.host.locate (s.settings.savedFile s.host.cwd)) =
        some (.file (Text.encodeUtf8 (Yaml.dumpShared s.settings.doc))) := by
  obtain ⟨⟨doc, file⟩, host⟩ := s
  unfold save at h
  cases file with
  | some p =>
    dsimp only at h
    cases hw : Session.writeText ⟨⟨doc, some p⟩, host⟩ p (Yaml.dumpShared doc) with
    | error f =>
      rw [hw] at h
      cases h
    | ok s₁ =>
      rw [hw] at h
      cases h
      rw [writeText_eq_ok hw]
      exact ⟨rfl, rfl, by simp [Settings.savedFile, Disk.entry?_put, Host.locate]⟩
  | none =>
    dsimp only at h
    cases hc : Session.createFile ⟨⟨doc, none⟩, host⟩ none with
    | error f =>
      rw [hc] at h
      cases h
    | ok r =>
      obtain ⟨p, s₁⟩ := r
      obtain ⟨rfl, hsettings, hcwd, -⟩ := createFile_eq_ok hc
      rw [hc] at h
      dsimp only at h
      split at h
      · rename_i s₂ hw
        cases h
        rw [writeText_eq_ok hw]
        refine ⟨by simp [hsettings, Settings.savedFile], hcwd, ?_⟩
        simp [Settings.savedFile, Disk.entry?_put, Host.locate, hcwd, hsettings]
      · cases h

/-- Setting a service's key that works sets it in the data and saves the settings. -/
theorem setService_eq_ok {s s' : Session} {name key model : Value}
    (h : s.setService name key model = (.ok (), s')) :
    ∃ doc, Settings.withService s.settings.doc name key model = (doc, none) ∧
      Session.save { s with settings := { s.settings with doc } } = (.ok (), s') := by
  unfold setService at h
  rcases hw : Settings.withService s.settings.doc name key model with ⟨doc, _ | f⟩
  · rw [hw] at h
    exact ⟨doc, rfl, h⟩
  · rw [hw] at h
    cases h

end Session


/-! ## Several stores at once -/

namespace Value

/-- `SetAll v sets w`: `w` is `v` with each value of `sets` stored at its path. Reading one of the
paths gives its value, and reading a path apart from all of them gives what `v` gives there. -/
def SetAll (v : Value) (sets : List (List String × Value)) (w : Value) : Prop :=
  (∀ px ∈ sets, w.atPath px.1 = some px.2) ∧
    ∀ ks, (∀ px ∈ sets, Apart ks px.1) → w.atPath ks = v.atPath ks

theorem setAll_nil (v : Value) : SetAll v [] v := ⟨by simp, fun _ _ => rfl⟩

theorem SetAt.setAll {v w x : Value} {p : List String} (h : SetAt v p x w) : SetAll v [(p, x)] w :=
  ⟨by simpa using h.1, fun ks hks => h.2 ks (hks _ List.mem_cons_self)⟩

/-- Two batches of stores whose paths are apart compose into one. -/
theorem SetAll.append {v w u : Value} {s₁ s₂ : List (List String × Value)} (h₁ : SetAll v s₁ w)
    (h₂ : SetAll w s₂ u) (hapart : ∀ a ∈ s₁, ∀ b ∈ s₂, Apart a.1 b.1) : SetAll v (s₁ ++ s₂) u := by
  refine ⟨fun px hpx => ?_, fun ks hks => ?_⟩
  · rcases List.mem_append.1 hpx with h | h
    · rw [h₂.2 px.1 (hapart px h), h₁.1 px h]
    · exact h₂.1 px h
  · rw [h₂.2 ks fun b hb => hks b (List.mem_append_right _ hb),
      h₁.2 ks fun a ha => hks a (List.mem_append_left _ ha)]

end Value

/-! ## The keys typed -/

namespace Settings

/-- The stores of services' keys: each key at its service's `api_key`. -/
def keySets (keys : List (String × String)) : List (List String × Value) :=
  keys.map fun kv => (keyPath kv.1, .str kv.2)

/-- The keys typed at questions about services: each service with the line typed for it, blanks
around it dropped, for the lines that leave something. -/
def typedKeys : List (String × String) → List String → List (String × String)
  | q :: qs, line :: lines =>
    if (Text.strip line).isEmpty then typedKeys qs lines
    else (q.1, Text.strip line) :: typedKeys qs lines
  | _, _ => []

/-- What the settings file holds after the setup, `after`, against what it held, `before`. Either
it holds settings `d` that read as the settings' value with each key of `keys` stored at its
service's `api_key` and a service that `d` configures stored under `default_provider`, nothing
else changed; or no key was typed, no service is configured, and the file holds what it held, or
the built-in settings when the settings came from no file. -/
def SetupSaved (settings : Settings) (keys : List (String × String)) (before after : Option Entry) :
    Prop :=
  (∃ d c names, after = some (.file (Text.encodeUtf8 (Yaml.dumpShared d))) ∧
    ({ doc := d } : Settings).configured = .ok names ∧ c ∈ names ∧
    Value.SetAll settings.data (keySets keys ++ [(["default_provider"], c)]) d.value) ∨
  (keys = [] ∧ settings.configured = .ok [] ∧
    after = if settings.file.isSome then before
      else some (.file (Text.encodeUtf8 (Yaml.dump defaults))))

/-- A key typed is for a service asked about, and is not empty. -/
theorem mem_typedKeys : ∀ {qs : List (String × String)} {lines : List String}
    {kv : String × String}, kv ∈ typedKeys qs lines →
    kv.1 ∈ qs.map Prod.fst ∧ kv.2.isEmpty = false
  | q :: qs, line :: lines, kv, h => by
    unfold typedKeys at h
    split at h
    · obtain ⟨hq, hk⟩ := mem_typedKeys h
      exact ⟨List.mem_cons_of_mem _ hq, hk⟩
    · rename_i hline
      rcases List.mem_cons.1 h with rfl | h
      · exact ⟨List.mem_cons_self, by simpa using hline⟩
      · obtain ⟨hq, hk⟩ := mem_typedKeys h
        exact ⟨List.mem_cons_of_mem _ hq, hk⟩
  | [], _, _, h => by simp [typedKeys] at h
  | _ :: _, [], _, h => by simp [typedKeys] at h

/-- The keys of two different services are stored apart. -/
theorem keyPath_apart {n₁ n₂ : String} (h : n₁ ≠ n₂) : Value.Apart (keyPath n₁) (keyPath n₂) :=
  -- both paths have three keys, so one leads to the other only when they are equal
  ⟨fun hp => h (by simpa [keyPath] using hp.eq_of_length rfl),
    fun hp => h (by simpa [keyPath, eq_comm] using hp.eq_of_length rfl)⟩

theorem keyPath_apart_default (n : String) : Value.Apart (keyPath n) ["default_provider"] := by
  simp [Value.Apart, keyPath]

/-- The key typed first is stored apart from the keys typed after it, which are for other
services. -/
theorem apart_keySets_typedKeys {q : String × String} {qs : List (String × String)}
    {lines : List String} (hnew : q.1 ∉ qs.map Prod.fst) (x : Value) :
    ∀ a ∈ [(keyPath q.1, x)], ∀ b ∈ keySets (typedKeys qs lines), Value.Apart a.1 b.1 := by
  intro a ha b hb
  rw [List.mem_singleton] at ha
  subst ha
  obtain ⟨kv, hkv, rfl⟩ := List.mem_map.1 hb
  refine keyPath_apart fun he => hnew ?_
  rw [he]
  exact (mem_typedKeys hkv).1

/-- A value whose service's key can be read can be stored into along the key's path. -/
theorem storable_keyPath {W services entry key : Value} {name : String}
    (hs : W.get (.str "providers") (.dict []) = .ok services)
    (he : services.get (.str name) (.dict []) = .ok entry)
    (hk : entry.get (.str "api_key") .none = .ok key) : W.Storable (keyPath name) := by
  obtain ⟨⟨fs, rfl⟩, -⟩ := get_apiKey_eq_ok hk
  cases W with
  | dict es =>
    cases services with
    | dict ps =>
      simp only [Value.get_dict_str, Except.ok.injEq] at hs he
      cases hl : Value.lookup es (.str "providers") with
      | none => simp [keyPath, Value.Storable, hl]
      | some c =>
        rw [hl, Option.getD_some] at hs
        subst hs
        cases hl' : Value.lookup ps (.str name) with
        | none => simp [keyPath, Value.Storable, hl, hl']
        | some c' =>
          rw [hl', Option.getD_some] at he
          subst he
          simp [keyPath, Value.Storable, hl, hl']
    | _ => simp [Value.get] at he
  | _ => simp [Value.get] at hs

/-- Storing a value under a key other than `providers` keeps the configured services. -/
theorem configured_of_lookup_providers {s s' : Settings} {es es' : List (Value × Value)}
    (hs : s.data = .dict es) (hs' : s'.data = .dict es')
    (h : Value.lookup es' (.str "providers") = Value.lookup es (.str "providers")) :
    s'.configured = s.configured := by
  unfold configured
  rw [hs, hs', Value.get_dict_str, Value.get_dict_str, h]

/-- A service whose settings hold a key that is true as a value is configured. -/
theorem keyedNames_ne_nil_of_lookup {e : Value} (he : (serviceKey e).truthy = true) :
    ∀ {ps : List (Value × Value)} {key : Value}, Value.lookup ps key = some e → keyedNames ps ≠ []
  | [], _, h => by simp at h
  | (k, v) :: ps, key, h => by
    rw [Value.lookup_cons] at h
    split at h
    · cases h
      simp [he]
    · have ih := keyedNames_ne_nil_of_lookup he h
      rw [keyedNames_cons]
      split
      · exact List.cons_ne_nil _ _
      · exact ih

/-- Settings holding a key that is not empty at a service's `api_key` configure some service. -/
theorem configured_ne_nil {s : Settings} {names : List Value} {n k : String}
    (h : s.configured = .ok names) (hk : s.data.atPath (keyPath n) = some (.str k))
    (hne : k.isEmpty = false) : names ≠ [] := by
  obtain ⟨ps, hps, -, rfl⟩ := configured_eq_ok h
  -- the key is read through a mapping of services, so the service mapping is `ps`
  obtain ⟨es, hes⟩ : ∃ es, s.data = .dict es := by
    cases hd : s.data with
    | dict es => exact ⟨es, rfl⟩
    | _ => simp [hd, keyPath, Value.atPath, Value.field?] at hk
  rw [hes, Value.get_dict_str] at hps
  rw [hes, keyPath, Value.atPath_dict_cons] at hk
  obtain ⟨c, hc, hk⟩ := Option.bind_eq_some_iff.1 hk
  rw [hc, Option.getD_some] at hps
  cases hps
  rw [Value.atPath_dict_cons] at hk
  obtain ⟨e, he, hk⟩ := Option.bind_eq_some_iff.1 hk
  refine keyedNames_ne_nil_of_lookup ?_ he
  have hfield : e.field? "api_key" = some (.str k) := by simpa [Value.atPath] using hk
  have hkey : serviceKey e = .str k := by rw [serviceKey, hfield, Option.getD_some]
  simp [hkey, Value.truthy, hne]

end Settings

/-! ## The steps of the setup -/

namespace Commands

/-- A failure-free run of an operation on the session: the operation's result on the session of
the settings and the machine's host, whose host the machine takes. -/
theorem run_onSession_eq_ok {α : Type} {settings st : Settings} {op : Session → Session.Outcome α}
    {M M' : Machine} {a : α} (h : (onSession settings op).run.run M = (.ok (a, st), M')) :
    ∃ s, op { settings, host := M.host } = (.ok a, s) ∧ st = s.settings ∧
      M' = { M with host := s.host } := by
  unfold onSession at h
  rw [run_get_bind] at h
  rcases hop : op { settings, host := M.host } with ⟨r, s⟩
  rw [hop, run_bind_of_ok (run_set _ _)] at h
  obtain ⟨a', rfl, h⟩ := run_lift_bind_eq_ok h
  obtain ⟨ha, hM⟩ := run_pure_eq_ok h
  injection ha with ha hst
  subst ha
  exact ⟨s, rfl, hst.symm, hM.symm⟩

/-- Making sure of a settings file keeps the settings and reads no input. For settings from no
file it writes the built-in settings to the file they will be saved to, and otherwise it
changes nothing. -/
theorem run_ensureSettingsFile_eq_ok {settings st : Settings} {file : String} {M M' : Machine}
    (h : (ensureSettingsFile settings).run.run M = (.ok (file, st), M')) :
    st = settings ∧ M'.console.input = M.console.input ∧ M'.host.cwd = M.host.cwd ∧
      M'.host.disk.entry? (M.host.locate (settings.savedFile M.host.cwd)) =
        (if settings.file.isSome then M.host.disk.entry? (M.host.locate (settings.savedFile M.host.cwd))
          else some (.file (Text.encodeUtf8 (Yaml.dump Settings.defaults)))) ∧
      (settings.file.isSome → M'.host = M.host) := by
  unfold ensureSettingsFile at h
  split at h
  case h_1 f hf =>
    obtain ⟨hr, rfl⟩ := run_pure_eq_ok h
    injection hr with _ hst
    subst hst
    simp [hf]
  case h_2 hf =>
    obtain ⟨_, M₁, hsay, h⟩ := run_bind_eq_ok h
    obtain ⟨hhost₁, hinput₁⟩ := run_say_quiet hsay
    obtain ⟨⟨p, s₂⟩, M₂, hon, h⟩ := run_bind_eq_ok h
    obtain ⟨s, hop, rfl, rfl⟩ := run_onSession_eq_ok hon
    obtain ⟨_, M₃, hsay, h⟩ := run_bind_eq_ok h
    obtain ⟨hhost₃, hinput₃⟩ := run_say_quiet hsay
    obtain ⟨hr, rfl⟩ := run_pure_eq_ok h
    injection hr with _ hst
    subst hst
    -- the file was created: the operation's result is that of creating it
    split at hop
    case h_2 => cases hop
    case h_1 p' s' hc =>
      injection hop with hp hs
      injection hp with hp
      subst hp hs
      obtain ⟨rfl, hsettings, hcwd, hentry⟩ := Session.createFile_eq_ok hc
      have hcwd₃ : M₃.host.cwd = M.host.cwd := by rw [hhost₃, hcwd, hhost₁]
      refine ⟨hsettings, by rw [hinput₃, hinput₁], hcwd₃, ?_, by simp [hf]⟩
      simp only [hf, Option.isSome_none, Bool.false_eq_true, if_false, Settings.savedFile,
        Option.getD_none]
      rw [hhost₃, ← hentry, hhost₁]

/-- The answer to a question whose default is empty is the line typed. -/
theorem typed_or_empty (line : String) : (if line.isEmpty then "" else line) = line := by
  split
  case isTrue h => exact (String.isEmpty_iff.1 h).symm
  case isFalse => rfl

/-- Asking for a service's key reads one line. When the line leaves nothing once stripped,
nothing changes. Otherwise the key is stored, on settings laid out as a tree, at the service's
`api_key`, and the settings are saved to their file. -/
theorem run_askServiceKey_eq_ok {settings st : Settings} {q : String × String} {M M' : Machine}
    {W : Value} {T : List Nat} (htree : Shared.Holds settings.doc settings.doc.root W T)
    (h : (askServiceKey settings q).run.run M = (.ok st, M')) :
    M'.console.input = (splitLine M.console.input).2 ∧
      ((Text.strip (String.ofList (splitLine M.console.input).1)).isEmpty = true ∧
          st = settings ∧ M'.host = M.host ∨
        (Text.strip (String.ofList (splitLine M.console.input).1)).isEmpty = false ∧
          W.Storable (Settings.keyPath q.1) ∧
          (∃ T', Shared.Holds st.doc st.doc.root
            (W.storeAt (Settings.keyPath q.1) (.str (Text.strip (String.ofList (splitLine M.console.input).1)))) T') ∧
          M'.host.cwd = M.host.cwd ∧ st.savedFile M.host.cwd = settings.savedFile M.host.cwd) := by
  obtain ⟨name, question⟩ := q
  unfold askServiceKey at h
  obtain ⟨services, hs, h₁⟩ := run_lift_bind_eq_ok h
  obtain ⟨entry, he, h₂⟩ := run_lift_bind_eq_ok h₁
  obtain ⟨key, hk, h₃⟩ := run_lift_bind_eq_ok h₂
  obtain ⟨_, M₄, hsay, h₄⟩ := run_bind_eq_ok h₃
  obtain ⟨hhost₄, hinput₄⟩ := run_say_quiet hsay
  obtain ⟨a, M₅, hask, h₅⟩ := run_bind_eq_ok h₄
  obtain ⟨ha, hhost₅, hinput₅⟩ := run_ask_eq_ok hask
  rw [typed_or_empty, hinput₄] at ha
  rw [hinput₄] at hinput₅
  have hhost : M₅.host = M.host := hhost₅.trans hhost₄
  subst ha
  -- the settings read as `W`, and the three reads make it storable along the key's path
  have hdata : settings.data = W := htree.valueAt
  rw [hdata] at hs
  have hst : W.Storable (Settings.keyPath name) := Settings.storable_keyPath hs he hk
  dsimp only at h₅
  split at h₅
  case isTrue hempty =>
    obtain ⟨rfl, rfl⟩ := run_pure_eq_ok h₅
    exact ⟨hinput₅, .inl ⟨hempty, rfl, hhost⟩⟩
  case isFalse hempty =>
    obtain ⟨⟨u, s₆⟩, M₆, hon, h₆⟩ := run_bind_eq_ok h₅
    obtain ⟨s, hop, rfl, rfl⟩ := run_onSession_eq_ok hon
    obtain ⟨_, M₇, hsay, h₇⟩ := run_bind_eq_ok h₆
    obtain ⟨hhost₇, hinput₇⟩ := run_say_quiet hsay
    obtain ⟨rfl, rfl⟩ := run_pure_eq_ok h₇
    obtain ⟨doc, hws, hsave⟩ := Session.setService_eq_ok hop
    obtain ⟨hsettings, hcwd, -⟩ := Session.save_eq_ok hsave
    obtain ⟨T₁, hT₁, hroot⟩ := Settings.withService_storeAt htree hst _ hws
    refine ⟨by rw [hinput₇, hinput₅], .inr ⟨by simpa using hempty, hst, ⟨T₁, ?_⟩, ?_, ?_⟩⟩
    · rw [hsettings]
      dsimp only
      rw [hroot]
      exact hT₁
    · rw [hhost₇, hcwd, hhost]
    · rw [hsettings]
      simp [Settings.savedFile, hhost]

/-- Asking for the keys of services in turn, on settings laid out as a tree, stores each key
typed at its service's `api_key` and changes nothing of the settings' value apart from those
paths; the settings keep the file they are saved to. When no key is typed, nothing changes. -/
theorem run_foldlM_askServiceKey : ∀ (qs : List (String × String)) {settings st : Settings}
    {M M' : Machine} {W : Value} {T : List Nat}, (qs.map Prod.fst).Nodup →
    Shared.Holds settings.doc settings.doc.root W T →
    (qs.foldlM askServiceKey settings).run.run M = (.ok st, M') →
    ∃ w T', Shared.Holds st.doc st.doc.root w T' ∧
      Value.SetAll W (Settings.keySets
        (Settings.typedKeys qs (typedLines qs.length M.console.input))) w ∧
      M'.host.cwd = M.host.cwd ∧ st.savedFile M.host.cwd = settings.savedFile M.host.cwd ∧
      (Settings.typedKeys qs (typedLines qs.length M.console.input) = [] →
        st = settings ∧ M'.host = M.host)
  | [], settings, st, M, M', W, T, _, htree, h => by
    rw [List.foldlM_nil] at h
    obtain ⟨rfl, rfl⟩ := run_pure_eq_ok h
    exact ⟨W, T, htree, Value.setAll_nil W, rfl, rfl, fun _ => ⟨rfl, rfl⟩⟩
  | q :: qs, settings, st, M, M', W, T, hnd, htree, h => by
    rw [List.map_cons, List.nodup_cons] at hnd
    obtain ⟨hnew, hnd⟩ := hnd
    rw [List.foldlM_cons] at h
    obtain ⟨s₁, M₁, hstep, hrest⟩ := run_bind_eq_ok h
    obtain ⟨hinput₁, hcase⟩ := run_askServiceKey_eq_ok htree hstep
    -- the lines typed at the other questions follow the first one
    have hlines : typedLines (q :: qs).length M.console.input =
        String.ofList (splitLine M.console.input).1 :: typedLines qs.length M₁.console.input := by
      rw [hinput₁]
      rfl
    rcases hcase with ⟨hempty, rfl, hhost₁⟩ | ⟨hempty, hst, ⟨T₁, hT₁⟩, hcwd₁, hfile₁⟩
    case inl =>
      obtain ⟨w, T', hT', hset, hcwd, hfile, hnone⟩ := run_foldlM_askServiceKey qs hnd htree hrest
      have hcwd₁ : M₁.host.cwd = M.host.cwd := by rw [hhost₁]
      rw [hlines, Settings.typedKeys, if_pos hempty]
      rw [hcwd₁] at hfile
      refine ⟨w, T', hT', hset, by rw [hcwd, hcwd₁], hfile, fun hkeys => ?_⟩
      obtain ⟨rfl, hhost⟩ := hnone hkeys
      exact ⟨rfl, hhost.trans hhost₁⟩
    case inr =>
      obtain ⟨w, T', hT', hset, hcwd, hfile, -⟩ := run_foldlM_askServiceKey qs hnd hT₁ hrest
      rw [hlines, Settings.typedKeys, if_neg (by simp [hempty])]
      rw [hcwd₁] at hfile
      refine ⟨w, T', hT', ?_, by rw [hcwd, hcwd₁], hfile.trans hfile₁, fun h => absurd h (List.cons_ne_nil _ _)⟩
      exact (Value.setAt_storeAt _ W hst _).setAll.append hset
        (Settings.apart_keySets_typedKeys hnew _)

/-! ## Choosing the default service -/

section MapM

variable {ε α β : Type} {f : α → Except ε β}

/-- A mapping that succeeded took a successful step at every item. -/
theorem exists_ok_of_mapM_eq_ok : ∀ {xs : List α} {ys : List β}, xs.mapM f = .ok ys →
    ∀ x ∈ xs, ∃ r, f x = .ok r
  | [], _, _, x, hx => by simp at hx
  | y :: xs, ys, h, x, hx => by
    rw [List.mapM_cons, except_bind_eq_ok] at h
    obtain ⟨r, hy, h⟩ := h
    obtain ⟨rs, hrs, -⟩ := except_bind_eq_ok.1 h
    rcases List.mem_cons.1 hx with rfl | hx
    · exact ⟨r, hy⟩
    · exact exists_ok_of_mapM_eq_ok hrs x hx

end MapM

/-- Texts that could be joined are all texts. -/
theorem joinTexts_eq_ok {sep t : String} {items : List Value}
    (h : Settings.joinTexts sep items = .ok t) : ∀ v ∈ items, v = .str v.text := by
  unfold Settings.joinTexts at h
  obtain ⟨texts, hm, -⟩ := except_bind_eq_ok.1 h
  intro v hv
  -- each item went through the step with its position
  have hv' : v ∈ (items.zip (List.range items.length)).map Prod.fst := by
    rw [List.map_fst_zip (by simp)]
    exact hv
  obtain ⟨⟨v', i⟩, hp, rfl⟩ := List.mem_map.1 hv'
  obtain ⟨r, hr⟩ := exists_ok_of_mapM_eq_ok hm _ hp
  cases v' with
  | str t => rfl
  | _ => simp at hr

/-- The questions of a choice asked with a default, until one of the choices is typed: the
answer is one of the choices, and the host does not change. -/
theorem run_askChoice_loop_eq_ok {choices : List String} {dflt shown a : String} {n : Nat} :
    ∀ (k : Nat) {M M' : Machine},
      (askChoice.loop choices dflt shown (n + 1) k).run.run M = (.ok a, M') →
      a ∈ choices ∧ M'.host = M.host
  | 0, M, M', h => by
    rw [askChoice.loop] at h
    cases h
  | k + 1, M, M', h => by
    rw [askChoice.loop] at h
    obtain ⟨b, M₁, hb, h₁⟩ := run_bind_eq_ok h
    obtain ⟨-, hhost₁, -⟩ := run_askFor_eq_ok hb
    split at h₁
    case isTrue hmem =>
      obtain ⟨rfl, rfl⟩ := run_pure_eq_ok h₁
      exact ⟨by simpa using hmem, hhost₁⟩
    case isFalse =>
      obtain ⟨_, M₂, hsay, h₂⟩ := run_bind_eq_ok h₁
      obtain ⟨hhost₂, -⟩ := run_say_quiet hsay
      obtain ⟨hmem, hhost⟩ := run_askChoice_loop_eq_ok k h₂
      exact ⟨hmem, hhost.trans (hhost₂.trans hhost₁)⟩

theorem run_askChoice_eq_ok {question dflt a : String} {choices : List String} {M M' : Machine}
    (h : (askChoice question choices dflt).run.run M = (.ok a, M')) :
    a ∈ choices ∧ M'.host = M.host := by
  unfold askChoice at h
  rw [run_get_bind] at h
  exact run_askChoice_loop_eq_ok _ h

/-- Setting the default service on settings laid out as a mapping stores the name under
`default_provider` at the top, which keeps the configured services, and saves the settings to
their file. -/
theorem run_setDefaultService_eq_ok {st st' : Settings} {c : Value} {es : List (Value × Value)}
    {T : List Nat} {M M' : Machine} (htree : Shared.Holds st.doc st.doc.root (.dict es) T)
    (h : (setDefaultService st c).run.run M = (.ok st', M')) :
    ∃ d : Shared, Value.SetAt (.dict es) ["default_provider"] c d.value ∧
      ({ doc := d } : Settings).configured = st.configured ∧ M'.host.cwd = M.host.cwd ∧
      M'.host.disk.entry? (M.host.locate (st.savedFile M.host.cwd)) =
        some (.file (Text.encodeUtf8 (Yaml.dumpShared d))) := by
  unfold setDefaultService at h
  obtain ⟨doc, hset, h₁⟩ := run_lift_bind_eq_ok h
  obtain ⟨⟨u, s₂⟩, M₂, hon, h₂⟩ := run_bind_eq_ok h₁
  obtain ⟨s, hsave, rfl, rfl⟩ := run_onSession_eq_ok hon
  obtain ⟨-, rfl⟩ := run_pure_eq_ok h₂
  obtain ⟨-, hcwd, hentry⟩ := Session.save_eq_ok hsave
  have hvalue := Settings.value_setItem_root htree _ c hset
  refine ⟨doc, hvalue ▸ Value.setAt_setEntry_last es _ c, ?_, hcwd, hentry⟩
  exact Settings.configured_of_lookup_providers htree.valueAt hvalue
    (Value.lookup_setEntry_of_ne es c (by decide))

/-- Choosing the default service, on settings laid out as a tree, either finds no configured
service and changes nothing, or stores a configured service's name under `default_provider`
and saves the settings to their file. -/
theorem run_chooseDefaultService_eq_ok {st : Settings} {w : Value} {T : List Nat}
    {M M' : Machine} (htree : Shared.Holds st.doc st.doc.root w T)
    (h : (chooseDefaultService st).run.run M = (.ok (), M')) :
    st.configured = .ok [] ∧ M'.host = M.host ∨
      ∃ names c d, st.configured = .ok names ∧ c ∈ names ∧
        ({ doc := d } : Settings).configured = .ok names ∧
        Value.SetAt w ["default_provider"] c d.value ∧ M'.host.cwd = M.host.cwd ∧
        M'.host.disk.entry? (M.host.locate (st.savedFile M.host.cwd)) =
          some (.file (Text.encodeUtf8 (Yaml.dumpShared d))) := by
  unfold chooseDefaultService at h
  obtain ⟨names, hnames, h₁⟩ := run_lift_bind_eq_ok h
  -- the services could be listed, so the settings read as a mapping
  obtain ⟨ps, hps, -, -⟩ := Settings.configured_eq_ok hnames
  have hdata : st.data = w := htree.valueAt
  obtain ⟨es, rfl⟩ : ∃ es, w = .dict es := by
    rw [← hdata]
    cases hd : st.data with
    | dict es => exact ⟨es, rfl⟩
    | _ =>
      rw [hd] at hps
      simp [Value.get] at hps
  split at h₁
  case h_1 =>
    exact .inl ⟨hnames, by rw [← (run_pure_eq_ok h₁).2]⟩
  case h_2 only =>
    obtain ⟨st', M₂, hset, h₂⟩ := run_bind_eq_ok h₁
    obtain ⟨d, hsetd, hconf, hcwd, hentry⟩ := run_setDefaultService_eq_ok htree hset
    obtain ⟨hhost, -⟩ := run_say_quiet h₂
    refine .inr ⟨[only], only, d, hnames, List.mem_singleton_self _, hconf.trans hnames, hsetd,
      by rw [hhost, hcwd], by rw [hhost, hentry]⟩
  case h_3 _ first rest _ =>
    obtain ⟨joined, hjoin, h₂⟩ := run_lift_bind_eq_ok h₁
    obtain ⟨_, M₃, hsay, h₃⟩ := run_bind_eq_ok h₂
    obtain ⟨hhost₃, -⟩ := run_say_quiet hsay
    obtain ⟨chosen, M₄, hask, h₄⟩ := run_bind_eq_ok h₃
    obtain ⟨hchosen, hhost₄⟩ := run_askChoice_eq_ok hask
    obtain ⟨st', M₅, hset, h₅⟩ := run_bind_eq_ok h₄
    obtain ⟨d, hsetd, hconf, hcwd, hentry⟩ := run_setDefaultService_eq_ok htree hset
    obtain ⟨hhost, -⟩ := run_say_quiet h₅
    -- the name chosen is the text of a configured name, which is text
    have hmem : Value.str chosen ∈ first :: rest := by
      obtain ⟨v, hv, rfl⟩ := List.mem_map.1 hchosen
      rw [← joinTexts_eq_ok hjoin v hv]
      exact hv
    have hhost₄' : M₄.host = M.host := hhost₄.trans hhost₃
    refine .inr ⟨first :: rest, .str chosen, d, hnames, hmem, hconf.trans hnames, hsetd, ?_, ?_⟩
    · rw [hhost, hcwd, hhost₄']
    · rw [hhost, ← hhost₄', hentry]

/-! ## The setup of the settings file -/

/-- The setup of the settings file, on settings laid out as a tree, leaves the settings file as
`SetupSaved` says. -/
theorem run_setupSettingsFile_eq_ok {settings : Settings} {T : List Nat} {M M' : Machine}
    (htree : Shared.Holds settings.doc settings.doc.root settings.data T)
    (h : (setupSettingsFile settings).run.run M = (.ok (), M')) :
    Settings.SetupSaved settings
      (Settings.typedKeys settingsQuestions (typedLines 3 M.console.input))
      (M.host.disk.entry? (M.host.locate (settings.savedFile M.host.cwd)))
      (M'.host.disk.entry? (M.host.locate (settings.savedFile M.host.cwd))) := by
  unfold setupSettingsFile at h
  obtain ⟨⟨file, s₁⟩, M₁, hrun₁, h₁⟩ := run_bind_eq_ok h
  obtain ⟨hs₁, hinput₁, hcwd₁, hentry₁, -⟩ := run_ensureSettingsFile_eq_ok hrun₁
  rw [hs₁] at h₁
  obtain ⟨_, M₂, hsay₂, h₂⟩ := run_bind_eq_ok h₁
  obtain ⟨hhost₂, hinput₂⟩ := run_say_quiet hsay₂
  obtain ⟨_, M₃, hsay₃, h₃⟩ := run_bind_eq_ok h₂
  obtain ⟨hhost₃, hinput₃⟩ := run_say_quiet hsay₃
  obtain ⟨st, M₄, hloop, h₄⟩ := run_bind_eq_ok h₃
  obtain ⟨w, T', hT', hset, hcwd₄, hfile₄, hnone⟩ :=
    run_foldlM_askServiceKey settingsQuestions (by decide) htree hloop
  -- the three questions read the input as it was: the lines said before read nothing
  have hkeys : Settings.typedKeys settingsQuestions
      (typedLines settingsQuestions.length M₃.console.input) =
      Settings.typedKeys settingsQuestions (typedLines 3 M.console.input) := by
    rw [hinput₃, hinput₂, hinput₁]
    rfl
  rw [hkeys] at hset hnone
  have hcwd₃ : M₃.host.cwd = M.host.cwd := by rw [hhost₃, hhost₂, hcwd₁]
  rcases run_chooseDefaultService_eq_ok hT' h₄ with
    ⟨hnil, hhost₅⟩ | ⟨names, c, d, hnames, hc, hconf, hsetc, hcwd₅, hentry⟩
  case inl =>
    -- no service is configured, so no key was typed: a key typed configures its service
    have hnokeys : Settings.typedKeys settingsQuestions (typedLines 3 M.console.input) = [] := by
      by_contra hne
      obtain ⟨kv, hkv⟩ := List.exists_mem_of_ne_nil _ hne
      have hread := hset.1 _ (List.mem_map_of_mem hkv)
      rw [← hT'.valueAt] at hread
      exact Settings.configured_ne_nil hnil hread (Settings.mem_typedKeys hkv).2 rfl
    obtain ⟨rfl, hhost₄⟩ := hnone hnokeys
    refine .inr ⟨hnokeys, hnil, ?_⟩
    rw [hhost₅, hhost₄, hhost₃, hhost₂, hentry₁]
  case inr =>
    have hF : M₄.host.locate (st.savedFile M₄.host.cwd) =
        M.host.locate (settings.savedFile M.host.cwd) := by
      rw [hcwd₃] at hfile₄
      simp only [Host.locate, hcwd₄, hcwd₃, hfile₄]
    refine .inl ⟨d, c, names, by rw [← hF, hentry], hconf, hc, hset.append hsetc.setAll ?_⟩
    intro a ha b hb
    rw [List.mem_singleton] at hb
    subst hb
    obtain ⟨kv, -, rfl⟩ := List.mem_map.1 ha
    exact Settings.keyPath_apart_default kv.1

/-- After the setup without `--env` completes on settings loaded as a tree, the settings file
(the file the settings came from, or `pycodeadvisor.yaml` in the working directory) holds the
settings as loaded, which include every key that the environment or the `.env` file set, with
each key typed (blanks around it dropped) stored at its service's `api_key` and a service the
saved settings configure stored under `default_provider`, and nothing else of them changed; or,
when no key was typed and no service is configured, nothing was saved. -/
theorem setup_saves_loaded_settings {M M' : Machine} {s : Session}
    (hload : Session.load M.host none M.depth = .ok s)
    (htree : ∃ T, Shared.Holds s.settings.doc s.settings.doc.root s.settings.data T)
    (hrun : (setupWork false).run.run M = (.ok (), M')) :
    Settings.SetupSaved s.settings
      (Settings.typedKeys settingsQuestions (typedLines 3 M.console.input))
      (M.host.disk.entry? (M.host.locate (s.settings.savedFile M.host.cwd)))
      (M'.host.disk.entry? (M.host.locate (s.settings.savedFile M.host.cwd))) := by
  obtain ⟨T, htree⟩ := htree
  unfold setupWork at hrun
  obtain ⟨s', M₁, hrun₁, h₁⟩ := run_bind_eq_ok hrun
  obtain ⟨hconsole₁, env, hhost₁⟩ := run_loadSettings_eq_ok hrun₁
  rw [run_loadSettings hload] at hrun₁
  injection hrun₁ with hs
  injection hs with hs
  rw [← hs] at h₁
  obtain ⟨_, M₂, hsay₂, h₂⟩ := run_bind_eq_ok h₁
  obtain ⟨hhost₂, hinput₂⟩ := run_say_quiet hsay₂
  obtain ⟨_, M₃, hsay₃, h₃⟩ := run_bind_eq_ok h₂
  obtain ⟨hhost₃, hinput₃⟩ := run_say_quiet hsay₃
  obtain ⟨_, M₄, hsetup, h₄⟩ := run_bind_eq_ok h₃
  have hsaved := run_setupSettingsFile_eq_ok htree hsetup
  obtain ⟨_, M₅, hsay₅, h₅⟩ := run_bind_eq_ok h₄
  obtain ⟨hhost₅, -⟩ := run_say_quiet hsay₅
  obtain ⟨hhost', -⟩ := run_say_quiet h₅
  -- loading the settings and saying lines leave the disk, the directory and the input as they were
  have hhost₃' : M₃.host = { M.host with env } := by rw [hhost₃, hhost₂, hhost₁]
  have hinput : M₃.console.input = M.console.input := by rw [hinput₃, hinput₂, hconsole₁]
  rw [hhost', hhost₅]
  rw [hinput, hhost₃'] at hsaved
  exact hsaved

/-- A working directory `/w` holding no file, in a home directory `/h` holding nothing, with a
key for one service in the environment and no `.env` file. -/
def envHost : Host :=
  ⟨⟨[("/", .directory), ("/w", .directory)]⟩, ⟨[("HOME", "/h"), ("OPENAI_API_KEY", "sk-env")]⟩,
    "/w", "posix"⟩

/-- A machine on that host, at which no key is typed. -/
def envMachine : Machine := ⟨envHost, ⟨[], []⟩, { input := "\n\n\n".toList }, 9⟩

/-- The settings loaded on that host: the built-in settings with the environment's overrides. -/
def envDoc : Shared :=
  match Settings.applyOverrides envHost.env (Shared.ofValue Settings.defaults) with
  | .ok d => d
  | .error _ => default

theorem applyOverrides_envHost :
    Settings.applyOverrides envHost.env (Shared.ofValue Settings.defaults) = .ok envDoc := by
  -- the overrides apply to the built-in settings in every environment
  obtain ⟨S, hS⟩ := Settings.holds_ofValue_defaults
  obtain ⟨doc, -, hfold, -⟩ := Settings.foldlM_overrideStep_eq_ok Settings.overrides
    Settings.overrides_paths_ne_nil hS (Settings.storableAlong_defaults envHost.env)
  rw [← Settings.applyOverrides_eq_foldlM] at hfold
  simp only [envDoc, hfold]

theorem load_envHost {doc : Shared}
    (hover : Settings.applyOverrides envHost.env (Shared.ofValue Settings.defaults) = .ok doc) :
    Settings.load envHost none 9 = .ok ({ doc }, envHost) :=
  Settings.load_of_absent_in_w 9 rfl rfl rfl (by simp +decide) hover

/-- The setup of the settings file completes on that machine. -/
theorem setupWork_env_completes : ∃ M', (setupWork false).run.run envMachine = (.ok (), M') := by
  have hload : Session.load envMachine.host none envMachine.depth =
      .ok { settings := { doc := envDoc }, host := envHost } := by
    simp only [Session.load, envMachine, load_envHost applyOverrides_envHost]
    rfl
  unfold setupWork
  rw [run_bind_of_ok (run_loadSettings hload)]
  -- after the settings are loaded, the rest of the work runs on a closed machine
  apply run_completes_of_toBool
  simp only [setupSettingsFile, ensureSettingsFile, chooseDefaultService, setDefaultService,
    Host.locate, Path.resolve, Path.join, Path.normal, Path.parent, Path.parents,
    Disk.nameTooLong, Disk.underFile, Disk.writeFile, Disk.makeDirectories, Path.parts,
    Path.splitOn_slash, onSession, Session.createFile, Session.writeText, Session.save]
  decide +kernel

/-- On that machine the setup writes the key that came only from the environment to the
settings file it makes in the working directory. -/
theorem setup_saves_environment_key :
    ∃ M' d, (setupWork false).run.run envMachine = (.ok (), M') ∧
      M'.host.disk.entry? "/w/pycodeadvisor.yaml" =
        some (.file (Text.encodeUtf8 (Yaml.dumpShared d))) ∧
      d.value.atPath (Settings.keyPath "openai") = some (.str "sk-env") := by
  -- the settings loaded are the built-in settings with the overrides applied, as a tree
  obtain ⟨S, hS⟩ := Settings.holds_ofValue_defaults
  obtain ⟨doc, S', hfold, hdoc⟩ := Settings.foldlM_overrideStep_eq_ok Settings.overrides
    Settings.overrides_paths_ne_nil hS (Settings.storableAlong_defaults envHost.env)
  rw [← Settings.applyOverrides_eq_foldlM] at hfold
  have hload : Session.load envMachine.host none envMachine.depth =
      .ok { settings := { doc }, host := envHost } := by
    simp only [Session.load, envMachine, load_envHost hfold]
    rfl
  have hvalue : ({ doc } : Settings).data =
      Settings.overrides.foldl (Settings.overriddenBy envHost.env) Settings.defaults :=
    hdoc.valueAt
  have htree : ∃ T, Shared.Holds doc doc.root ({ doc } : Settings).data T :=
    ⟨S', by rw [hvalue]; exact hdoc⟩
  rw [Settings.foldl_overriddenBy_defaults] at hvalue
  obtain ⟨M', hrun⟩ := setupWork_env_completes
  have hsaved := setup_saves_loaded_settings hload htree hrun
  have hkeys : Settings.typedKeys settingsQuestions (typedLines 3 envMachine.console.input) = [] := by
    decide
  have hF : envMachine.host.locate (({ doc } : Settings).savedFile envMachine.host.cwd) =
      "/w/pycodeadvisor.yaml" := by
    simp only [Settings.savedFile, Option.getD_none]
    exact Host.locate_settingsFile_of_cwd rfl
  have hkey : Settings.overrideOr envHost.env "OPENAI_API_KEY" .none = .str "sk-env" := rfl
  rw [hkeys, hF] at hsaved
  rcases hsaved with ⟨d, c, names, hentry, -, -, hset⟩ | ⟨-, hnil, -⟩
  case inl =>
    refine ⟨M', d, hrun, hentry, ?_⟩
    -- the key's path is apart from `default_provider`, the one path the setup stored at
    have hapart : ∀ px ∈ Settings.keySets [] ++ [(["default_provider"], c)],
        Value.Apart (Settings.keyPath "openai") px.1 := by
      simp [Settings.keySets, Settings.keyPath_apart_default]
    rw [hset.2 _ hapart, hvalue, hkey]
    rfl
  case inr =>
    rw [Settings.configured_defaultsWith hvalue, hkey] at hnil
    simp [Value.truthy] at hnil

end Commands

end SyntaxAdvisor
