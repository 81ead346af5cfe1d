import SyntaxAdvisor.Commands.Console
import SyntaxAdvisor.Scan.Project
import SyntaxAdvisor.Advice.Worker
import SyntaxAdvisor.Report.Snippet
import SyntaxAdvisor.Decimal.Fixed

/-!
# Checking a project

The check command analyses the Python files under a directory and shows their errors, file by
file in the order the files were found, each file under a rule of 40 box-drawing characters.
Of each file's errors at most the given number are shown (a negative number leaves out that
many from the end), with a note when some are left out. Each error shows its kind, line and
message and, when it has code around it, the marked line of its snippet.

Unless advice is turned off, the settings are loaded to find a service with a key: the one
asked for, else the default service, when it holds a key, else the first service that does.
Without such a service, or when setting up the service fails, errors are shown without advice;
with one, each error shown gets the service's explanation, fix and confidence, or the reason
the advice failed.

A failure of the analysis itself ends the command with its message, marked as an error for a
wrong value and as unexpected otherwise.
-/

namespace SyntaxAdvisor.Commands

/-- What the check command is asked to do. -/
structure CheckRequest where
  /-- The directory to analyse. -/
  path : String
  /-- Whether to skip advice. -/
  noAdvice : Bool
  /-- The service asked for, if any. -/
  service : Option String
  /-- The most errors shown per file. -/
  maxErrors : Int

/-- Adds a report to the group of its file, or starts a group for a new file. -/
def addToGroup (groups : List (String × List Event)) (e : Event) : List (String × List Event) :=
  if groups.any (·.1 == e.path) then
    groups.map fun (p, es) => if p == e.path then (p, es ++ [e]) else (p, es)
  else groups ++ [(e.path, [e])]

/-- The reports grouped by file, files in order of first appearance. -/
def groupByFile (events : List Event) : List (String × List Event) :=
  events.foldl addToGroup []

/-- The first `n` items, or all but the last `-n` when `n` is negative. -/
def takeUpTo {α : Type} (xs : List α) (n : Int) : List α :=
  if n ≥ 0 then xs.take n.toNat else xs.take (xs.length - n.natAbs)

/-- Loads the settings, keeping the machine's environment as they leave it. -/
def loadSettings : Work Session := do
  let m ← get
  let s ← lift (Session.load m.host none m.depth)
  set { m with host := s.host }
  pure s

/-- Finds the service to advise with, saying which; none when advice is off or unavailable. -/
def adviceService (asked : Option String) : Work (Option Provider) := do
  let s ← loadSettings
  let names ← lift s.settings.configured
  if names.isEmpty then
    say "\nNo API keys configured. Run 'pycodeadvisor setup --env' to configure AI providers."
    return none
  let fallback : Work Value := lift (s.settings.data.get (.str "default_provider") .none)
  let named ← match asked with
    | some a => if a.isEmpty then fallback else pure (Value.str a)
    | none => fallback
  let chosen := if names.any (Value.equal named) then named else names.headD .none
  let config ← lift (s.settings.clientSettings chosen)
  let p ← lift (Provider.ofConfig config)
  say ("Using AI provider: " ++ chosen.text)
  return some p

/-- The text of a recommendation's part, without surrounding blanks. -/
def partText (v : Value) : Except Failure String :=
  match v with
  | .str s => .ok (Text.strip s)
  | _ => .error (.attributeError ("'" ++ v.typeName ++ "' object has no attribute 'strip'"))

/-- Asks a service for advice on a report and shows it. -/
def showAdvice (p : Provider) (e : Event) : Work Unit := do
  let m ← get
  let (n, r) := p.advise m.network e
  set { m with network := n }
  let rec_ ← lift r
  let explanation ← lift (partText rec_.explanation)
  let fix ← lift (partText rec_.fix)
  say ("Explanation: " ++ explanation)
  say ("Fix: " ++ fix)
  say ("Confidence: " ++ Decimal.percentText rec_.confidence 0)

/-- Shows the marked line of a report's snippet, when the report has code around it. -/
def showCode (e : Event) : Work Unit := do
  if e.context.truthy then
    let snippet ← lift e.defaultSnippet
    let marked := Event.markedLine snippet
    if !marked.isEmpty then say ("Code: " ++ marked)

/-- Shows one report, its number among those shown, and its advice. -/
def showReport (advisor : Option Provider) (count : Nat) (i : Nat) (e : Event) : Work Unit := do
  say ("\nError " ++ toString i ++ ": " ++ e.kind.text ++ " at line " ++ e.line.text)
  say ("Message: " ++ e.message.text)
  showCode e
  if let some p := advisor then
    tryCatch (showAdvice p e) fun f => say ("AI analysis failed: " ++ f.message)
  if i < count then say ""

/-- Shows the reports of one file. -/
def showFile (advisor : Option Provider) (most : Int) (path : String) (events : List Event) :
    Work Unit := do
  say ("\n" ++ Path.name path ++ " (" ++ toString events.length ++ " errors)")
  say (String.ofList (List.replicate 40 '─'))
  let shown := takeUpTo events most
  if (events.length : Int) > most then
    say ("Note: Showing first " ++ toString most ++ " of " ++ toString events.length ++ " errors")
  for (e, i) in shown.zip (List.range' 1 shown.length) do
    showReport advisor shown.length i e

/-- The service to advise with: none when advice is off, or when setting it up fails, which is
said. -/
def chooseAdvisor (r : CheckRequest) : Work (Option Provider) :=
  if r.noAdvice then pure none else
    tryCatch (adviceService r.service) fun f => do
      say ("AI setup failed: " ++ f.message)
      pure none

/-- Shows the errors found, file by file, with advice unless it is turned off. -/
def showErrors (r : CheckRequest) (events : List Event) : Work Unit := do
  let files := groupByFile events
  say ("\nFound " ++ toString events.length ++ " syntax errors in " ++ toString files.length ++
    " files")
  let advisor ← chooseAdvisor r
  for (path, es) in files do
    showFile advisor r.maxErrors path es
  say ("\n" ++ String.ofList (List.replicate 50 '='))
  say "Analysis complete"

/-- The check command's work, failing when the analysis fails. -/
def checkWork (r : CheckRequest) : Work Unit := do
  let m ← get
  let project ← lift (Project.open m.host.disk m.host.cwd (.str r.path) .none)
  let (events, printed) ← lift (project.analyze m.host.disk m.parseFrames)
  modify fun m => { m with console := m.console.write printed }
  if events.isEmpty then
    say "✓ No syntax errors found!"
    return
  showErrors r events

/-- The check command. -/
def check (r : CheckRequest) : Work Unit :=
  tryCatch (checkWork r) fun f =>
    say ((if f.isValueError then "Error: " else "Unexpected error: ") ++ f.message)

end SyntaxAdvisor.Commands
