import SyntaxAdvisor.Settings.Load
import SyntaxAdvisor.Yaml.Print

/-!
# Working with settings

A session holds loaded settings and the machine they were loaded on, and answers queries and
makes changes one request after another. A change that fails part of the way keeps what it did
before the failure, so every request gives both its outcome and the session after it.

* Setting a service's key (and model) writes the settings back to their file as YAML. Settings
  that came from no file are first given one: the built-in settings are written to
  `pycodeadvisor.yaml` in the working directory, which then becomes their file.
* Creating a settings file writes the built-in settings (not the current ones) to the path
  given, or to `pycodeadvisor.yaml` in the working directory, making the directories on the
  way; the settings keep their own file.
* Creating a `.env` template writes placeholder keys for the three services to `.env` in the
  working directory.
-/

namespace SyntaxAdvisor

/-- Loaded settings and the machine they live on. -/
structure Session where
  /-- The settings. -/
  settings : Settings
  /-- The machine: its disk and environment. -/
  host : Host
deriving Inhabited

/-- A query or change of a session. -/
inductive Session.Request where
  /-- The client settings of a service (the default service when nothing is named). -/
  | clientSettings (named : Value)
  /-- Whether the settings are valid for a service. -/
  | validate (named : Value)
  /-- The analysis limits. -/
  | analysis
  /-- The services that hold a key. -/
  | configured
  /-- The description of the settings. -/
  | describe
  /-- Sets a service's key, and its model when one is given, and saves the settings. -/
  | setService (name key model : Value)
  /-- Writes the built-in settings to a file. -/
  | createFile (path : Option String)
  /-- Writes a `.env` template. -/
  | createDotenv
  /-- Sets a value at a path of keys, without saving. -/
  | setNested (path x : Value)
  /-- The path of the settings' file. -/
  | filePath
  /-- The values of environment variables. -/
  | environment (names : List String)

/-- The text of a `.env` template. -/
def dotenvTemplate : String :=
  "# PyCodeAdvisor API Keys\nGOOGLE_API_KEY=your-google-key-here\n" ++
  "OPENAI_API_KEY=your-openai-key-here\nANTHROPIC_API_KEY=your-anthropic-key-here\n"

namespace Session

/-- The outcome of a request and the session after it. -/
abbrev Outcome (α : Type) := Except Failure α × Session

/-- Writes text to a file named `shown`, whose directory must exist. -/
def writeText (s : Session) (shown text : String) : Except Failure Session := do
  let disk ← s.host.disk.writeFile (s.host.locate shown) shown (Text.encodeUtf8 text)
  return { s with host := { s.host with disk } }

/-- Writes the built-in settings to a file, by default `pycodeadvisor.yaml` in the working
directory, making its directory first: the path written. -/
def createFile (s : Session) (path : Option String) : Except Failure (String × Session) := do
  let p := match path with
    | some p => Path.normal p
    | none => Path.join s.host.cwd "pycodeadvisor.yaml"
  let dir := Path.parent p
  let disk ← s.host.disk.makeDirectories (s.host.locate dir) dir
  let s' ← { s with host := { s.host with disk } }.writeText p (Yaml.dump Settings.defaults)
  return (p, s')

/-- Writes the settings to their file, giving them one first when they have none. -/
def save (s : Session) : Outcome Unit :=
  match s.settings.file with
  | some p =>
    match s.writeText p (Yaml.dumpShared s.settings.doc) with
    | .ok s' => (.ok (), s')
    | .error f => (.error f, s)
  | none =>
    match s.createFile none with
    | .error f => (.error f, s)
    | .ok (p, s') =>
      let s' := { s' with settings := { s'.settings with file := some p } }
      match s'.writeText p (Yaml.dumpShared s'.settings.doc) with
      | .ok s'' => (.ok (), s'')
      | .error f => (.error f, s')

/-- Sets a service's key, and its model when one (true as a value) is given, then saves. -/
def setService (s : Session) (name key model : Value) : Outcome Unit :=
  let (doc, err) := Settings.withService s.settings.doc name key model
  let s := { s with settings := { s.settings with doc } }
  match err with
  | some f => (.error f, s)
  | none => s.save

/-- Writes the `.env` template to the working directory: its path. -/
def createDotenv (s : Session) : Outcome String :=
  let p := s.host.dotenvPath
  match s.writeText p dotenvTemplate with
  | .ok s' => (.ok p, s')
  | .error f => (.error f, s)

/-- Answers a request. -/
def answer (s : Session) : Request → Outcome Value
  | .clientSettings named => (s.settings.clientSettings named, s)
  | .validate named => (Value.bool <$> s.settings.isValid named, s)
  | .analysis => (s.settings.analysis, s)
  | .configured => (Value.list <$> s.settings.configured, s)
  | .describe => (Value.str <$> s.settings.describe, s)
  | .setService name key model =>
    let (r, s) := s.setService name key model
    ((fun _ => Value.none) <$> r, s)
  | .createFile path =>
    match s.createFile path with
    | .ok (p, s') => (.ok (.str p), s')
    | .error f => (.error f, s)
  | .createDotenv =>
    let (r, s) := s.createDotenv
    (Value.str <$> r, s)
  | .setNested path x =>
    let (doc, err) := Settings.setNested s.settings.doc path x
    let s := { s with settings := { s.settings with doc } }
    (match err with
      | some f => .error f
      | none => .ok .none, s)
  | .filePath => (.ok ((s.settings.file.map Value.str).getD .none), s)
  | .environment names =>
    (.ok (.dict (names.map fun n => (.str n, ((s.host.env.get? n).map Value.str).getD .none))), s)

/-- Loads the settings of a machine, looking first at `given`, for a session made `depth` calls
deep: the session, or the failure. -/
def load (h : Host) (given : Option String) (depth : Nat) : Except Failure Session := do
  let (settings, host) ← Settings.load h given depth
  return { settings, host }

/-- Answers requests in order: each outcome and the session after it. -/
def answerAll (s : Session) : List Request → List (Except Failure Value × Session)
  | [] => []
  | r :: rest =>
    let (out, s') := s.answer r
    (out, s') :: answerAll s' rest

end Session

end SyntaxAdvisor
