import SyntaxAdvisor.Value.Shared

/-!
# Settings

The settings of the advisor are a mapping read from a YAML file (or built in), with the path
of the file they came from. They name, for each assistant service, a key and a model, the
service used when none is named, and limits of the analysis. Since a file may hold any value,
every query treats the settings as the dynamic value they are: a query that needs a mapping and
meets something else fails as a lookup on that value fails.

* A service's client settings need its key to be set (true as a value); the service asked for
  is the default service when none is named, itself `openai` when the settings name none.
* The settings are valid for a service when its client settings can be had; only a missing key
  (or a lookup by a missing key) makes them invalid, any other failure is passed on.
* The configured services are those whose settings hold a key.

The data keeps the parts its file shares (`Shared`): a change made through one path, as setting a
service's key, shows through every path that reaches the same part.
-/

namespace SyntaxAdvisor

/-- Settings as loaded: their data and the file they came from. -/
structure Settings where
  /-- The data, any value a YAML file can hold, with the parts it shares. -/
  doc : Shared
  /-- The path of the file, as it was named; none for the built-in settings. -/
  file : Option String := none
deriving Inhabited

namespace Settings

/-- The data as a plain value. -/
def data (s : Settings) : Value := s.doc.value

/-- A mapping from text keys. -/
def object (kvs : List (String × Value)) : Value := .dict (kvs.map fun (k, v) => (.str k, v))

/-- The built-in settings. -/
def defaults : Value :=
  object [
    ("providers", object [
      ("openai", object [("api_key", .none), ("model", .str "gpt-3.5-turbo")]),
      ("anthropic", object [("api_key", .none), ("model", .str "claude-3-haiku-20240307")]),
      ("google", object [("api_key", .none), ("model", .str "gemini-1.5-flash")])]),
    ("default_provider", .str "openai"),
    ("analysis", object [("max_files", .int 100),
      ("excluded_dirs", .list [.str ".git", .str "__pycache__", .str "venv", .str ".pytest_cache",
        .str "node_modules"])])]

/-- The analysis limits used when the settings name none. -/
def defaultAnalysis : Value :=
  object [("max_files", .int 100),
    ("excluded_dirs", .list [.str ".git", .str "__pycache__", .str "venv"])]

/-- The service asked for: the one named, or the default service. -/
def serviceName (s : Settings) (named : Value) : Except Failure Value :=
  match named with
  | .none => s.data.get (.str "default_provider") (.str "openai")
  | v => .ok v

/-- The client settings of a service: its type, key and model. -/
def clientSettings (s : Settings) (named : Value) : Except Failure Value := do
  let name ← s.serviceName named
  let services ← s.data.get (.str "providers") (.dict [])
  let entry ← services.get name (.dict [])
  let key ← entry.get (.str "api_key") .none
  if !key.truthy then
    let shown ← name.shown
    throw (.valueError ("No API key configured for provider '" ++ shown ++
      "'. Set it in config file or environment variable."))
  let key ← entry.getItem (.str "api_key")
  let model ← entry.get (.str "model") .none
  return object [("type", name), ("api_key", key), ("model", model)]

/-- Whether the settings are valid for a service. -/
def isValid (s : Settings) (named : Value) : Except Failure Bool :=
  match s.clientSettings named with
  | .ok c => do
    let key ← c.get (.str "api_key") .none
    let kind ← c.get (.str "type") .none
    return key.truthy && kind.truthy
  | .error (.valueError _) | .error (.keyError _) => .ok false
  | .error f => .error f

/-- The analysis limits. -/
def analysis (s : Settings) : Except Failure Value := s.data.get (.str "analysis") defaultAnalysis

/-- The services whose settings hold a key, in the order of the settings. -/
def configured (s : Settings) : Except Failure (List Value) := do
  let services ← s.data.get (.str "providers") (.dict [])
  let entries ← services.items
  entries.filterMapM fun (name, entry) => do
    let key ← entry.get (.str "api_key") .none
    return if key.truthy then some name else none

/-- Joins texts with a separator; every item must be text. -/
def joinTexts (sep : String) (items : List Value) : Except Failure String := do
  let texts ← (items.zip (List.range items.length)).mapM fun (v, i) =>
    match v with
    | .str t => Except.ok t
    | _ => .error (.typeError ("sequence item " ++ toString i ++ ": expected str instance, " ++
        v.typeName ++ " found"))
  return sep.intercalate texts

/-- The indentation of the lines of the description. -/
def indent : String := "            "

/-- The description of the settings: file, default service, configured services and the most
files analysed. -/
def describe (s : Settings) : Except Failure String := do
  let names ← s.configured
  let dflt ← s.data.get (.str "default_provider") (.str "openai")
  let joined ← joinTexts ", " names
  let limits ← s.analysis
  let most ← limits.get (.str "max_files") (.str "Not set")
  let dfltText ← dflt.shown
  let mostText ← most.shown
  return "PyCodeAdvisor Configuration:\n" ++
    indent ++ "Config file: " ++ s.file.getD "Not found" ++ "\n" ++
    indent ++ "Default provider: " ++ dfltText ++ "\n" ++
    indent ++ "Configured providers: " ++ (if joined.isEmpty then "None" else joined) ++ "\n" ++
    indent ++ "Analysis max files: " ++ mostText

/-- Stores the part at `x` at a path of keys below the part at `at_`, making a mapping for
each key missing on the way. A change made before a failure stays: the data after the attempt,
and the failure if any. -/
def setNestedIn (s : Shared) (x : Nat) : Nat → List Value → Shared × Option Failure
  | _, [] => (s, some (.indexError "list index out of range"))
  | at_, [k] =>
    match s.setItem at_ k x with
    | .ok s' => (s', none)
    | .error f => (s, some f)
  | at_, k :: rest =>
    match s.contains at_ k with
    | .error f => (s, some f)
    | .ok has =>
      let made : Except Failure Shared :=
        if has then .ok s
        else
          let (s, fresh) := s.add (.dict [])
          s.setItem at_ k fresh
      match made with
      | .error f => (s, some f)
      | .ok s' =>
        match s'.getItem at_ k with
        | .error f => (s', some f)
        | .ok (s'', child) => setNestedIn s'' x child rest

/-- The keys of a path given as a value: the items of a list, the characters of a text, the
byte values of bytes. Any other value cannot be cut into keys. -/
def pathKeys : Value → Except Failure (List Value)
  | .list ks => .ok ks
  | .str t => .ok (t.toList.map fun c => .str (String.singleton c))
  | .bytes bs => .ok (bs.map fun b => .int b.toNat)
  | .dict _ => .error (.typeError "unhashable type: 'slice'")
  | v => .error (.typeError ("'" ++ v.typeName ++ "' object is not subscriptable"))

/-- Sets a value at a path given as a value (see `pathKeys`), making a mapping for each key
missing on the way: the data after the attempt and the failure if any. A path without keys has
no last key to set. -/
def setNested (data : Shared) (path x : Value) : Shared × Option Failure :=
  match pathKeys path with
  | .error f => (data, some f)
  | .ok [] =>
    let what := match path with
      | .str _ => "string"
      | .bytes _ => "index"
      | _ => "list"
    (data, some (.indexError (what ++ " index out of range")))
  | .ok keys =>
    let (data, xi) := data.addValue x
    setNestedIn data xi data.root keys

/-- Runs changes in order, each on the data the one before left, stopping at the first that
fails: the data after the last change that worked, and the failure if any. -/
def runSteps (data : Shared) : List (Shared → Except Failure Shared) → Shared × Option Failure
  | [] => (data, none)
  | step :: rest =>
    match step data with
    | .ok d => runSteps d rest
    | .error f => (data, some f)

/-- Makes sure the part at `at_` holds `key`, storing a new empty mapping under it if not. -/
def ensureMapping (at_ : Nat) (key : Value) (d : Shared) : Except Failure Shared := do
  if ← d.contains at_ key then pure d
  else
    let (d, fresh) := d.add (.dict [])
    d.setItem at_ key fresh

/-- Sets a service's key, and its model when one (true as a value) is given, making the
mappings on the way; the data after the attempt and the failure if any. Each step looks its
way down from the top again. -/
def withService (data : Shared) (name key model : Value) : Shared × Option Failure :=
  let services := Value.str "providers"
  let root := data.root
  let setField (field x : Value) (d : Shared) : Except Failure Shared := do
    let (d, p) ← d.getItem root services
    let (d, e) ← d.getItem p name
    let (d, xi) := d.addValue x
    d.setItem e field xi
  runSteps data [
    ensureMapping root services,
    fun d => do
      let (d, p) ← d.getItem root services
      ensureMapping p name d,
    setField (.str "api_key") key,
    fun d => if model.truthy then setField (.str "model") model d else pure d]

end Settings

end SyntaxAdvisor
