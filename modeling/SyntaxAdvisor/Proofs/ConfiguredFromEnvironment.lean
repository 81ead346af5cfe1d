import SyntaxAdvisor.Proofs.SettingsSources
import SyntaxAdvisor.Proofs.ConfiguredServices
import SyntaxAdvisor.Settings.Session

/-!
# Services configured through the environment

Without a settings file, the built-in settings are loaded and the variables `OPENAI_API_KEY`,
`ANTHROPIC_API_KEY` and `GOOGLE_API_KEY`, as the `.env` file leaves them, give the services their
keys. A service counts as configured when its key is true as a value, so exactly the services
whose variable is set and not empty are configured (`configured_builtin_eq`), in the order of the
built-in settings. A placeholder counts like any other key: the `.env` template, whose keys all
start with `your-`, configures all three services (`template_configures_all`), although the setup
command takes such a key for an unset one.
-/

namespace SyntaxAdvisor

namespace Settings

open Shared

/-- The services a key variable configures, each with its variable, in the order of the built-in
settings. -/
def keyVariables : List (String × String) :=
  [("openai", "OPENAI_API_KEY"), ("anthropic", "ANTHROPIC_API_KEY"), ("google", "GOOGLE_API_KEY")]

/-- The built-in settings with the given keys of the three services and the given default
service. -/
def defaultsWith (openai anthropic google dflt : Value) : Value :=
  object [
    ("providers", object [
      ("openai", object [("api_key", openai), ("model", .str "gpt-3.5-turbo")]),
      ("anthropic", object [("api_key", anthropic), ("model", .str "claude-3-haiku-20240307")]),
      ("google", object [("api_key", google), ("model", .str "gemini-1.5-flash")])]),
    ("default_provider", dflt),
    ("analysis", object [("max_files", .int 100),
      ("excluded_dirs", .list [.str ".git", .str "__pycache__", .str "venv", .str ".pytest_cache",
        .str "node_modules"])])]

theorem defaults_eq_defaultsWith : defaults = defaultsWith .none .none .none (.str "openai") := rfl

/-- What an override leaves at its path: the variable's value when it is set and not empty, and
otherwise what was there. -/
def overrideOr (env : Environment) (var : String) (old : Value) : Value :=
  ((overrideValue env var).map Value.str).getD old

/-- A key stored by an override is never empty, so an unset key stays false. -/
theorem truthy_overrideOr_none (env : Environment) (var : String) :
    (overrideOr env var .none).truthy = (overrideValue env var).isSome := by
  unfold overrideOr overrideValue
  cases env.get? var with
  | none => rfl
  | some v =>
    cases hv : v.isEmpty <;> simp [Option.filter_some, hv, Value.truthy]

/-! ## The overrides on the built-in settings -/

section Overrides

variable (env : Environment) (a b c d : Value)

theorem overriddenBy_openai :
    overriddenBy env (defaultsWith a b c d) ("OPENAI_API_KEY", ["providers", "openai", "api_key"]) =
      defaultsWith (overrideOr env "OPENAI_API_KEY" a) b c d := by
  cases hv : overrideValue env "OPENAI_API_KEY" with
  | none => simp [overriddenBy, overrideOr, hv]
  | some t =>
    -- the value is stored in place, in the entry the path names
    simp only [overriddenBy, overrideOr, hv, Option.map_some, Option.getD_some]
    rfl

theorem overriddenBy_anthropic :
    overriddenBy env (defaultsWith a b c d)
        ("ANTHROPIC_API_KEY", ["providers", "anthropic", "api_key"]) =
      defaultsWith a (overrideOr env "ANTHROPIC_API_KEY" b) c d := by
  cases hv : overrideValue env "ANTHROPIC_API_KEY" with
  | none => simp [overriddenBy, overrideOr, hv]
  | some t =>
    -- the value is stored in place, in the entry the path names
    simp only [overriddenBy, overrideOr, hv, Option.map_some, Option.getD_some]
    rfl

theorem overriddenBy_google :
    overriddenBy env (defaultsWith a b c d) ("GOOGLE_API_KEY", ["providers", "google", "api_key"]) =
      defaultsWith a b (overrideOr env "GOOGLE_API_KEY" c) d := by
  cases hv : overrideValue env "GOOGLE_API_KEY" with
  | none => simp [overriddenBy, overrideOr, hv]
  | some t =>
    -- the value is stored in place, in the entry the path names
    simp only [overriddenBy, overrideOr, hv, Option.map_some, Option.getD_some]
    rfl

theorem overriddenBy_default :
    overriddenBy env (defaultsWith a b c d) ("PYCODEADVISOR_PROVIDER", ["default_provider"]) =
      defaultsWith a b c (overrideOr env "PYCODEADVISOR_PROVIDER" d) := by
  cases hv : overrideValue env "PYCODEADVISOR_PROVIDER" with
  | none => simp [overriddenBy, overrideOr, hv]
  | some t =>
    -- the value is stored in place, in the entry the path names
    simp only [overriddenBy, overrideOr, hv, Option.map_some, Option.getD_some]
    rfl

/-- Every override path can be stored into in the built-in settings, whatever keys they hold. -/
theorem storableAlong_defaults : StorableAlong env defaults overrides := by
  refine ⟨trivial, ?_⟩
  rw [defaults_eq_defaultsWith, overriddenBy_openai]
  refine ⟨trivial, ?_⟩
  rw [overriddenBy_anthropic]
  refine ⟨trivial, ?_⟩
  rw [overriddenBy_google]
  exact ⟨trivial, trivial⟩

/-- The overrides on the built-in settings set each service's key and the default service to
their variables' values, where those are set and not empty. -/
theorem foldl_overriddenBy_defaults :
    overrides.foldl (overriddenBy env) defaults =
      defaultsWith (overrideOr env "OPENAI_API_KEY" .none) (overrideOr env "ANTHROPIC_API_KEY" .none)
        (overrideOr env "GOOGLE_API_KEY" .none) (overrideOr env "PYCODEADVISOR_PROVIDER" (.str "openai")) := by
  simp only [overrides, List.foldl, defaults_eq_defaultsWith, overriddenBy_openai,
    overriddenBy_anthropic, overriddenBy_google, overriddenBy_default]

end Overrides

/-! ## Configured services -/

/-- The configured services of settings whose service mapping is a mapping of mappings: the
names whose settings hold a key. -/
theorem configured_of_dicts {s : Settings} {ps : List (Value × Value)}
    (hservices : s.data.get (.str "providers") (.dict []) = .ok (.dict ps))
    (hdicts : ∀ p ∈ ps, ∃ fs, p.2 = .dict fs) : s.configured = .ok (keyedNames ps) := by
  unfold configured
  rw [hservices]
  show (ps.filterMapM fun p => do
      let key ← p.2.get (.str "api_key") .none
      return if key.truthy then some p.1 else none) = .ok (keyedNames ps)
  apply filterMapM_eq_ok_of_forall
  rintro ⟨name, entry⟩ hp
  obtain ⟨fs, rfl⟩ := hdicts _ hp
  rfl

/-- In the built-in settings with any keys, the configured services are those whose key is true,
in the order of the settings. -/
theorem configured_defaultsWith {s : Settings} {a b c d : Value} (hs : s.data = defaultsWith a b c d) :
    s.configured = .ok ((if a.truthy then [.str "openai"] else []) ++
      (if b.truthy then [.str "anthropic"] else []) ++ (if c.truthy then [.str "google"] else [])) := by
  have hservices : s.data.get (.str "providers") (.dict []) =
      .ok (.dict [(.str "openai", object [("api_key", a), ("model", .str "gpt-3.5-turbo")]),
        (.str "anthropic", object [("api_key", b), ("model", .str "claude-3-haiku-20240307")]),
        (.str "google", object [("api_key", c), ("model", .str "gemini-1.5-flash")])]) := by
    rw [hs]
    rfl
  rw [configured_of_dicts hservices (by simp [object])]
  have hkey : ∀ k m : Value, serviceKey (object [("api_key", k), ("model", m)]) = k := fun _ _ => rfl
  simp only [keyedNames_cons, keyedNames_nil, hkey]
  cases a.truthy <;> cases b.truthy <;> cases c.truthy <;> rfl

/-- Loading settings when there is no settings file works once the `.env` file can be read, and
gives the built-in settings, in which exactly the services whose key variable is set and not
empty after the `.env` file are configured, in the order of the built-in settings: a placeholder
value counts like any other. -/
theorem configured_builtin_eq {h h' : Host} {depth : Nat}
    (hnone : firstExisting h h.settingsPaths = .ok none) (hdot : h.loadDotenv = .ok h') :
    ∃ s, load h none depth = .ok (s, h') ∧ s.file = none ∧
      s.configured = .ok ((keyVariables.filter fun (_, var) => (overrideValue h'.env var).isSome).map
        fun (name, _) => .str name) := by
  obtain ⟨S, hS⟩ := holds_ofValue_defaults
  obtain ⟨doc, S', hover, hdoc⟩ := foldlM_overrideStep_eq_ok overrides overrides_paths_ne_nil hS
    (storableAlong_defaults h'.env)
  refine ⟨{ doc }, ?_, rfl, ?_⟩
  · rw [load, hnone, except_ok_bind]
    dsimp only
    rw [except_pure, except_ok_bind, hdot, except_ok_bind, applyOverrides_eq_foldlM, hover,
      except_ok_bind]
    rfl
  · have hdata : (Settings.mk doc none).data = _ := hdoc.valueAt
    rw [foldl_overriddenBy_defaults] at hdata
    rw [configured_defaultsWith hdata]
    simp only [truthy_overrideOr_none, keyVariables, List.filter_cons, List.filter_nil]
    -- each of the three services is configured or not, on both sides alike
    cases (overrideValue h'.env "OPENAI_API_KEY").isSome <;>
      cases (overrideValue h'.env "ANTHROPIC_API_KEY").isSome <;>
      cases (overrideValue h'.env "GOOGLE_API_KEY").isSome <;> rfl

/-! ## The `.env` template -/

/-- Reading a `.env` file whose lines decode, and whose lines can all be set, sets them. -/
theorem loadDotenv_of_lines {h h' : Host} {bytes : List UInt8} {lines : List String}
    (hexists : h.disk.pathExists h.dotenvPath h.dotenvPath = .ok true)
    (hread : h.disk.readFile h.dotenvPath h.dotenvPath = .ok bytes)
    (hlines : (Text.TextFile.ofBytes bytes).readLines = (lines, none))
    (happly : h.applyDotenv lines = .ok h') : h.loadDotenv = .ok h' := by
  simp only [Host.loadDotenv, hexists, hread, except_ok_bind, if_true, hlines, happly]
  rfl

/-- Lines of a `.env` file that set the variables to `vars` leave the machine with exactly those
variables. -/
theorem applyDotenv_eq_ok_of_vars {h : Host} {lines : List String} {vars : List (String × String)}
    (hvars : (h.applyDotenv lines).toOption.map (·.env.vars) = some vars) :
    h.applyDotenv lines = .ok { h with env := ⟨vars⟩ } := by
  cases hrun : h.applyDotenv lines with
  | error f => simp [hrun, Except.toOption] at hvars
  | ok h' =>
    obtain ⟨env, -, rfl⟩ := Host.applyDotenv_eq_ok hrun
    simp only [hrun, Except.toOption, Option.map_some, Option.some.injEq] at hvars
    rw [← hvars]

/-- The lines of the `.env` template: a comment, then a placeholder for each key. -/
def templateLines : List String :=
  ["# PyCodeAdvisor API Keys\n", "GOOGLE_API_KEY=your-google-key-here\n",
    "OPENAI_API_KEY=your-openai-key-here\n", "ANTHROPIC_API_KEY=your-anthropic-key-here\n"]

/-- The `.env` template reads back as its four lines. -/
theorem readLines_dotenvTemplate :
    (Text.TextFile.ofBytes (Text.encodeUtf8 dotenvTemplate)).readLines = (templateLines, none) :=
  Prod.ext (by decide +kernel) (Option.isNone_iff_eq_none.mp (by decide +kernel))

/-- A working directory `/w` holding only the `.env` template, in a home directory `/h` holding
nothing. -/
def templateHost : Host :=
  ⟨⟨[("/", .directory), ("/w", .directory), ("/w/.env", .file (Text.encodeUtf8 dotenvTemplate))]⟩,
    ⟨[("HOME", "/h")]⟩, "/w", "posix"⟩

/-- The variables after the `.env` template is read: the three placeholder keys. -/
def templateVariables : List (String × String) :=
  [("HOME", "/h"), ("GOOGLE_API_KEY", "your-google-key-here"),
    ("OPENAI_API_KEY", "your-openai-key-here"), ("ANTHROPIC_API_KEY", "your-anthropic-key-here")]

/-- The `.env` template configures all three services, each with a placeholder key starting with
`your-`, which the setup command counts as no key. -/
theorem template_configures_all :
    firstExisting templateHost templateHost.settingsPaths = .ok none ∧
    templateHost.loadDotenv = .ok { templateHost with env := ⟨templateVariables⟩ } ∧
    ∃ s, load templateHost none 9 = .ok (s, { templateHost with env := ⟨templateVariables⟩ }) ∧
      s.file = none ∧ s.configured = .ok [.str "openai", .str "anthropic", .str "google"] := by
  have hnone : firstExisting templateHost templateHost.settingsPaths = .ok none := by
    apply firstExisting_eq_ok_none
    simp only [templateHost, Host.settingsPaths, Host.systemSettingsDir, Host.home, Host.locate,
      Path.resolve, Path.join, Path.normal, Disk.nameTooLong, Path.parts,
      show "/" = String.singleton '/' from rfl, splitOn_singleton]
    decide +kernel
  have hpath : templateHost.dotenvPath = "/w/.env" := by
    simp only [templateHost, Host.dotenvPath, Path.join, Path.normal, Path.parts,
      show "/" = String.singleton '/' from rfl, splitOn_singleton]
    decide +kernel
  have hlong : Disk.nameTooLong "/w/.env" = false := by
    simp only [Disk.nameTooLong, Path.parts, show "/" = String.singleton '/' from rfl,
      splitOn_singleton]
    decide +kernel
  have hunder : templateHost.disk.underFile "/w/.env" = false := by
    simp only [Disk.underFile, Path.parents, Path.root, Path.build, Path.parts,
      show "/" = String.singleton '/' from rfl, splitOn_singleton]
    decide +kernel
  have hdot : templateHost.loadDotenv = .ok { templateHost with env := ⟨templateVariables⟩ } := by
    refine loadDotenv_of_lines (by rw [hpath]; simp [Disk.pathExists, hlong]; rfl)
      (by rw [hpath]; simp [Disk.readFile, hlong, hunder]; rfl) readLines_dotenvTemplate
      (applyDotenv_eq_ok_of_vars (by decide +kernel))
  obtain ⟨s, hload, hfile, hconf⟩ : ∃ s, load templateHost none 9 =
      .ok (s, { templateHost with env := ⟨templateVariables⟩ }) ∧ s.file = none ∧ _ :=
    configured_builtin_eq hnone hdot
  have hall : (keyVariables.filter fun (_, var) =>
      (overrideValue (⟨templateVariables⟩ : Environment) var).isSome) = keyVariables := by
    decide +kernel
  refine ⟨hnone, hdot, s, hload, hfile, ?_⟩
  rw [hconf, hall]
  rfl

end Settings

end SyntaxAdvisor
