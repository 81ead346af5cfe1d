import SyntaxAdvisor.Commands.Check
import SyntaxAdvisor.Text.Search
import SyntaxAdvisor.Text.Chunked

/-!
# Setting up keys

The setup command asks for a key for each service and stores the keys, in one of two places.

* In the settings file (the default). Settings that came from no file first get one with the
  built-in settings. Each key typed (blanks around it dropped) is stored with its service at
  once. Afterwards, when exactly one service holds a key it becomes the default service; when
  several do, the user chooses among them, the first being the default answer.
* In the `.env` file of the working directory (with `--env`), made from a template when there
  is none. The keys already in it (lines with `=` not starting with `#`, whose value does not
  start with `your-`) are the default answers; the file is then written anew with a line for
  each of the three keys, a placeholder for a key left empty. A `.gitignore` that does not
  mention `.env` gets it added.

Any failure ends the setup with its message.
-/

namespace SyntaxAdvisor.Commands

/-- Runs an operation on the session of settings and the machine's host: its result and the
settings after it. The host keeps what the operation did even when it fails. -/
def onSession {α : Type} (settings : Settings) (op : Session → Session.Outcome α) :
    Work (α × Settings) := do
  let m ← get
  let (r, s) := op { settings, host := m.host }
  set { m with host := s.host }
  let a ← lift r
  pure (a, s.settings)

/-- Whether a path exists on the machine. -/
def pathExists (p : String) : Work Bool := do
  let m ← get
  lift (m.host.disk.pathExists (m.host.locate p) p)

/-- The text of a file, its line ends made line feeds. -/
def readText (p : String) : Work String := do
  let m ← get
  let bytes ← lift (m.host.disk.readFile (m.host.locate p) p)
  match Text.decodeUtf8 bytes with
  | .ok cs => pure (String.ofList (Text.translateNewlines cs))
  | .error e => throw (.raised "UnicodeDecodeError" e.message)

/-- The lines of a file, read line by line, each with its line feed but the last. -/
def readLines (p : String) : Work (List String) := do
  let m ← get
  let bytes ← lift (m.host.disk.readFile (m.host.locate p) p)
  match (Text.TextFile.ofBytes bytes).readLines with
  | (lines, none) => pure lines
  | (_, some e) => throw (.raised "UnicodeDecodeError" e.message)

/-- Writes a file's bytes. -/
def writeBytes (p : String) (data : List UInt8) : Work Unit := do
  let m ← get
  let disk ← lift (m.host.disk.writeFile (m.host.locate p) p data)
  set { m with host := { m.host with disk } }

/-- Adds text at the end of a file, making the file when there is none. -/
def appendText (p : String) (text : String) : Work Unit := do
  let m ← get
  let old := match m.host.disk.entry? (m.host.locate p) with
    | some (.file data) => data
    | _ => []
  writeBytes p (old ++ Text.encodeUtf8 text)

/-- The status of a key, as shown beside its question. -/
def keyStatus (set : Bool) : String := if set then "✓ Configured" else "✗ Not configured"

/-- The services asked about in the settings file, with their questions. -/
def settingsQuestions : List (String × String) :=
  [("openai", "OpenAI API Key (starts with sk-)"),
   ("anthropic", "Anthropic API Key (starts with sk-ant-)"),
   ("google", "Google API Key (starts with AIza)")]

/-- The keys asked about in the `.env` file, with their descriptions. -/
def dotenvQuestions : List (String × String) :=
  [("GOOGLE_API_KEY", "Google Gemini API Key"),
   ("OPENAI_API_KEY", "OpenAI API Key (optional)"),
   ("ANTHROPIC_API_KEY", "Anthropic Claude API Key (optional)")]

/-- A word with its first letter in upper case and the others in lower case. -/
def titleWord (s : String) : String :=
  match s.toList with
  | c :: rest => String.ofList (c.toUpper :: rest.map Char.toLower)
  | [] => ""

/-- Sets the default service and saves the settings. -/
def setDefaultService (settings : Settings) (name : Value) : Work Settings := do
  let (doc, x) := settings.doc.add (.scalar name)
  let doc ← lift (doc.setItem doc.root (.str "default_provider") x)
  let (_, settings) ← onSession { settings with doc } Session.save
  pure settings

/-- The settings file shown to the user: the file the settings came from or, for built-in
settings, a new file holding the built-in settings, made in the working directory (the settings
keep no file); and the settings after. -/
def ensureSettingsFile (settings : Settings) : Work (String × Settings) :=
  match settings.file with
  | some f => pure (f, settings)
  | none => do
    say "No configuration file found. Creating default configuration..."
    let (p, s) ← onSession settings fun s =>
      match s.createFile none with
      | .ok (p, s') => (.ok p, s')
      | .error f => (.error f, s)
    say ("Created config file: " ++ p)
    pure (p, s)

/-- Asks for the key of one service, showing whether its settings hold one, and stores a key
typed (blanks around it dropped) at once: the settings after. -/
def askServiceKey (settings : Settings) : String × String → Work Settings
  | (name, question) => do
    let services ← lift (settings.data.get (.str "providers") (.dict []))
    let entry ← lift (services.get (.str name) (.dict []))
    let key ← lift (entry.get (.str "api_key") .none)
    say ("\n" ++ titleWord name ++ " (" ++ keyStatus key.truthy ++ "):")
    let answer := Text.strip (← ask ("  " ++ question) "")
    if answer.isEmpty then pure settings
    else do
      let (_, s) ← onSession settings fun s => s.setService (.str name) (.str answer) .none
      say ("  ✓ " ++ titleWord name ++ " API key saved")
      pure s

/-- Makes a configured service the default one: the only one, or the one chosen among several. -/
def chooseDefaultService (settings : Settings) : Work Unit := do
  let names ← lift settings.configured
  match names with
  | [] => pure ()
  | [only] =>
    let _ ← setDefaultService settings only
    say ("\nDefault provider set to: " ++ only.text)
  | first :: _ =>
    let joined ← lift (Settings.joinTexts ", " names)
    say ("\nConfigured providers: " ++ joined)
    let chosen ← askChoice "Choose default provider" (names.map Value.text) first.text
    let _ ← setDefaultService settings (.str chosen)
    say ("Default provider set to: " ++ chosen)

/-- Sets up keys in the settings file. -/
def setupSettingsFile (settings : Settings) : Work Unit := do
  let (file, settings) ← ensureSettingsFile settings
  say ("\nConfiguration file: " ++ file)
  say "\nConfigure AI providers (press Enter to skip):"
  let settings ← settingsQuestions.foldlM askServiceKey settings
  chooseDefaultService settings

/-- One line of a `.env` file read for its keys: a line holding `=` and not starting with `#`,
stripped, sets the key before its first `=` to the text after it, unless that text is a
placeholder starting with `your-`. -/
def dotenvKeyStep (keys : List (String × String)) (line : String) : List (String × String) :=
  if line.toList.contains '=' && !line.startsWith "#" then
    let l := Text.strip line
    let key := String.ofList (l.toList.takeWhile (· != '='))
    let value := String.ofList ((l.toList.dropWhile (· != '=')).drop 1)
    if value.startsWith "your-" then keys
    else (keys.filter (·.1 != key)) ++ [(key, value)]
  else keys

/-- The keys that the lines of a `.env` file set to something other than a placeholder. -/
def dotenvKeys (lines : List String) : List (String × String) :=
  lines.foldl dotenvKeyStep []

/-- The header line of a `.env` file written by the setup. -/
def dotenvHeader : String := "# PyCodeAdvisor API Keys\n"

/-- Asks for one key of the `.env` file, its current value (from `current`) being the default
answer: the line setting the key to the answer without surrounding blanks, or to a placeholder
for an empty answer. -/
def askDotenvKey (current : List (String × String)) (question : String × String) :
    Work String := do
  let (key, description) := question
  let known := (current.lookup key).getD ""
  say ("\n" ++ description ++ " (" ++ keyStatus (!known.isEmpty) ++ "):")
  let answer := Text.strip (← ask ("  Enter " ++ key) known)
  pure (key ++ "=" ++ (if answer.isEmpty then "your-key-here" else answer) ++ "\n")

/-- Asks for each key of the `.env` file in turn: the lines setting them. -/
def askDotenvKeys (current : List (String × String)) : Work (List String) :=
  dotenvQuestions.mapM (askDotenvKey current)

/-- Adds `.env` to the `.gitignore` of a directory when that does not mention it yet. -/
def ignoreDotenv (cwd : String) : Work Unit := do
  let ignorePath := Path.join cwd ".gitignore"
  let ignored ← (if ← pathExists ignorePath then readText ignorePath else pure "")
  if !Text.contains ignored ".env" then
    appendText ignorePath "\n# API keys\n.env\n"
    say "Added .env to .gitignore for security."

/-- Writes the `.env` template when there is no `.env` file. -/
def ensureDotenv (settings : Settings) (envPath : String) : Work Unit := do
  if !(← pathExists envPath) then
    say "Creating .env file for API keys..."
    let _ ← onSession settings Session.createDotenv
    say ("Created .env template: " ++ envPath)

/-- The keys already in the `.env` file, if there is one. -/
def currentDotenvKeys (envPath : String) : Work (List (String × String)) := do
  if ← pathExists envPath then dotenvKeys <$> readLines envPath else pure []

/-- Sets up keys in the `.env` file. -/
def setupDotenv (settings : Settings) : Work Unit := do
  let cwd := (← get).host.cwd
  let envPath := Path.join cwd ".env"
  ensureDotenv settings envPath
  say ("\nConfiguration will be saved to: " ++ envPath)
  say "Configure API keys (press Enter to skip):"
  let current ← currentDotenvKeys envPath
  let lines ← askDotenvKeys current
  writeBytes envPath (Text.encodeUtf8 (String.join (dotenvHeader :: lines)))
  say ("\n✓ .env file updated: " ++ envPath)
  say "Your API keys are stored locally and will not be committed to git."
  ignoreDotenv cwd

/-- The work of the setup command, storing keys in the `.env` file when `dotenv`: it stops at
the first failure. -/
def setupWork (dotenv : Bool) : Work Unit := do
  let s ← loadSettings
  say "PyCodeAdvisor Setup"
  say (String.ofList (List.replicate 20 '='))
  if dotenv then setupDotenv s.settings else setupSettingsFile s.settings
  say "\n✓ Setup complete!"
  say "You can now run 'pycodeadvisor check' to analyze your code."

/-- The setup command, storing keys in the `.env` file when `dotenv`; a failure ends it with its
message. -/
def setup (dotenv : Bool) : Work Unit :=
  tryCatch (setupWork dotenv) fun f => say ("Setup failed: " ++ f.message)

end SyntaxAdvisor.Commands
