import SyntaxAdvisor.Settings.Basic
import SyntaxAdvisor.Environment
import SyntaxAdvisor.Disk
import SyntaxAdvisor.Yaml.Load
import SyntaxAdvisor.Text.Blank
import SyntaxAdvisor.Text.Chunked

/-!
# Finding and loading settings

Settings are looked for, in order, at a path given by the caller (when one is given and it
exists), then in the working directory as `pycodeadvisor.yaml`, in the home directory as
`.pycodeadvisor/config.yaml`, and in the system's settings directory as
`pycodeadvisor/config.yaml`; the first file found is loaded, and without one the built-in
settings are used. The system's settings directory is `.config` in the home directory on POSIX
systems, the directory named by `APPDATA` (or the home directory) on Windows, and
`.pycodeadvisor` in the home directory elsewhere.

A settings file holds YAML; a file whose value is false (empty, nothing, zero) stands for an
empty mapping. A file that is not valid YAML, or cannot be read, makes loading fail with a
message naming it.

After the file, a `.env` file in the working directory sets environment variables: each line,
stripped, that holds `=` and does not start with `#` sets the variable before the first `=` to
the text after it. Last, the variables `OPENAI_API_KEY`, `ANTHROPIC_API_KEY` and
`GOOGLE_API_KEY`, when set and not empty, set the key of their service, and
`PYCODEADVISOR_PROVIDER` the default service.
-/

namespace SyntaxAdvisor

/-- The machine the advisor runs on: its disk, environment, working directory and kind of
system. -/
structure Host where
  /-- The files. -/
  disk : Disk
  /-- The environment variables. -/
  env : Environment
  /-- The working directory, absolute. -/
  cwd : String
  /-- The kind of system: `posix`, `nt` or another name. -/
  osName : String := "posix"
deriving Inhabited

namespace Host

/-- The home directory: the `HOME` variable without trailing slashes, or the root. -/
def home (h : Host) : String :=
  let v := ((h.env.get? "HOME").getD "").toList.reverse.dropWhile (· == '/') |>.reverse
  if v.isEmpty then "/" else Path.normal (String.ofList v)

/-- The absolute path a path names, seen from the working directory. -/
def locate (h : Host) (p : String) : String := Path.resolve h.cwd p

/-- The system's settings directory for the advisor. -/
def systemSettingsDir (h : Host) : String :=
  if h.osName == "posix" then Path.join h.home ".config/pycodeadvisor"
  else if h.osName == "nt" then
    Path.join (Path.normal ((h.env.get? "APPDATA").getD h.home)) "pycodeadvisor"
  else Path.join h.home ".pycodeadvisor"

/-- The places settings are looked for, in order. -/
def settingsPaths (h : Host) : List String :=
  [Path.join h.cwd "pycodeadvisor.yaml", Path.join h.home ".pycodeadvisor/config.yaml",
   Path.join h.systemSettingsDir "config.yaml"]

/-- The path of the `.env` file. -/
def dotenvPath (h : Host) : String := Path.join h.cwd ".env"

/-- Sets the variables that the lines of a `.env` file assign. -/
def applyDotenv (h : Host) (lines : List String) : Except Failure Host := do
  let env ← lines.foldlM (fun env line =>
    let l := Text.strip line
    if l.toList.contains '=' && !l.startsWith "#" then
      let name := String.ofList (l.toList.takeWhile (· != '='))
      let value := String.ofList ((l.toList.dropWhile (· != '=')).drop 1)
      env.set name value
    else pure env) h.env
  return { h with env }

/-- Reads the `.env` file, if there is one, line by line: the lines before a fault in the
bytes are applied before the fault is met. -/
def loadDotenv (h : Host) : Except Failure Host := do
  let p := h.dotenvPath
  if ← h.disk.pathExists p p then
    let bytes ← h.disk.readFile p p
    let (lines, fault) := (Text.TextFile.ofBytes bytes).readLines
    let h ← h.applyDotenv lines
    match fault with
    | some e => throw (.raised "UnicodeDecodeError" e.message)
    | none => return h
  else return h

end Host

namespace Settings

/-- The settings data of a file, named `shown`, for settings made `depth` calls deep: making
them, starting them and looking for their file go three calls deeper, and the file is read one
call deeper still. -/
def loadFile (h : Host) (depth : Nat) (shown : String) : Except Failure Shared := do
  let bytes ← match h.disk.readFile (h.locate shown) shown with
    | .ok b => pure b
    | .error f =>
      throw (.valueError ("Cannot read configuration file " ++ shown ++ ": " ++ f.message))
  match Yaml.loadBytes (depth + 4) bytes with
  | .ok doc => return if doc.truthyAt doc.root then doc else Shared.ofValue (.dict [])
  | .error e =>
    let lead := if e.isYaml then "Invalid YAML configuration file " else "Cannot read configuration file "
    throw (.valueError (lead ++ shown ++ ": " ++ e.describe shown))

/-- The environment variables that override settings, and the paths they set. -/
def overrides : List (String × List String) :=
  [("OPENAI_API_KEY", ["providers", "openai", "api_key"]),
   ("ANTHROPIC_API_KEY", ["providers", "anthropic", "api_key"]),
   ("GOOGLE_API_KEY", ["providers", "google", "api_key"]),
   ("PYCODEADVISOR_PROVIDER", ["default_provider"])]

/-- Applies the environment's overrides to settings data. -/
def applyOverrides (env : Environment) (data : Shared) : Except Failure Shared :=
  overrides.foldlM (fun data (var, path) =>
    match env.get? var with
    | some v =>
      if v.isEmpty then pure data
      else
        let (data, x) := data.add (.scalar (.str v))
        match setNestedIn data x data.root (path.map Value.str) with
        | (d, none) => pure d
        | (_, some f) => throw f
    | none => pure data) data

/-- The first existing path of the candidates, in order. -/
def firstExisting (h : Host) : List String → Except Failure (Option String)
  | [] => pure none
  | p :: rest => do
    if ← h.disk.pathExists (h.locate p) p then return some p
    firstExisting h rest

/-- Loads the settings, looking first at `given` (when it is not empty), for settings made
`depth` calls deep: the settings and the machine after reading the `.env` file. -/
def load (h : Host) (given : Option String) (depth : Nat) :
    Except Failure (Settings × Host) := do
  let candidates := match given with
    | some g => if g.isEmpty then h.settingsPaths else Path.normal g :: h.settingsPaths
    | none => h.settingsPaths
  let found ← firstExisting h candidates
  let data ← match found with
    | some p => loadFile h depth p
    | none => pure (Shared.ofValue defaults)
  let h ← h.loadDotenv
  let doc ← applyOverrides h.env data
  return ({ doc, file := found }, h)

end Settings

end SyntaxAdvisor
