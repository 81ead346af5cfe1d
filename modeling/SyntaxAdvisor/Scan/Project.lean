import SyntaxAdvisor.Scan.Analysis
import SyntaxAdvisor.Disk
import SyntaxAdvisor.Text.Chunked

/-!
# Analysing a project

A project is a directory of a disk. Its sources are the files below it whose names end in
`.py` (a name that is only `.py` included; the match is case-sensitive), in the order of their
paths, less two kinds of file:

* a file in an excluded directory: one whose directory, or an ancestor of it, has a name that
  is `in` the list of excluded names. The test is the membership test of values, so a text in
  place of the list excludes every directory whose name is a part of that text, and since the
  root's name is empty, a text or a list holding the empty name excludes everything;
* a file whose beginning cannot be read as text (`readsAsText`).

Each source is analysed on its own. A source that makes the analysis fail adds a report of the
failure, and the run prints how many sources and reports it found.
-/

namespace SyntaxAdvisor

/-- The directory names excluded when none are given. -/
def defaultExcluded : Value :=
  .list ([".git", "__pycache__", "venv", ".pytest_cache", "node_modules"].map Value.str)

/-- The excluded names in effect: those given, or the default when they are false-valued. -/
def effectiveExcluded (given : Value) : Value := if given.truthy then given else defaultExcluded

/-- Whether a directory is excluded: its name or the name of one of its parents is in the
excluded names. -/
def isExcluded (excluded : Value) (dir : String) : Except Failure Bool := do
  for p in dir :: Path.parents dir do
    if ← Value.contains excluded (.str (Path.name p)) then return true
  return false

/-- How many bytes a reader takes in one go before it decodes them. -/
def chunkSize : Nat := 8192

/-- Whether a text reader can give the first hundred characters of a file's bytes. It decodes
the first chunk of bytes, holding back a character cut at the end of the chunk, and fails at an
invalid byte anywhere in the chunk. If the chunk was the whole file and gave fewer than a hundred
characters, the reader reaches the end of the file, where held-back bytes fail. The characters
are counted as `Text.TextFile.readChunk` hands them out: a carriage return at the end of the
chunk is held back for the line feed that may follow, and line ends are made uniform. -/
def readsAsText (data : List UInt8) : Bool :=
  let chunk := data.take chunkSize
  match Text.decodeUtf8 chunk with
  | .ok _ => true
  | .error e =>
    e.reason == .unexpectedEnd && (data.length > chunkSize ||
      match Text.decodeUtf8 (chunk.take e.start) with
      | .ok cs =>
        let handed := if cs.getLast? == some '\r' then cs.dropLast else cs
        decide ((Text.uniformBreaks handed).length ≥ 100)
      | .error _ => false)

/-- Whether a name matches `*.py`. -/
def isSourceName (name : String) : Bool := name.endsWith ".py"

/-- A project to analyse: its directory and the names of the directories it skips. -/
structure Project where
  /-- The absolute path of the project's directory. -/
  root : String
  /-- The excluded names in effect. -/
  excluded : Value

namespace Project

/-- Opens the project at `path`, resolved against the working directory `cwd`; the path must be
a directory. -/
def «open» (d : Disk) (cwd : String) (path excluded : Value) : Except Failure Project := do
  let given ← pathOfValue path
  let root := Path.resolve cwd given
  unless ← d.pathExists root root do
    throw (.valueError ("Project path does not exist: " ++ path.text))
  unless ← d.isDirectory root root do
    throw (.valueError ("Project path must be a directory, not a file: " ++ path.text))
  pure { root, excluded := effectiveExcluded excluded }

/-- The sources of a project, with their bytes, in the order of their paths. -/
def sources (d : Disk) (p : Project) : Except Failure (List (String × List UInt8)) :=
  (d.below p.root).filterMapM fun (path, e) => do
    if !isSourceName (Path.name path) then return none
    if ← isExcluded p.excluded (Path.parent path) then return none
    match e with
    | .file data => return if readsAsText data then some (path, data) else none
    | .directory => return none

/-- The reports for one source; a failing analysis is itself reported. -/
def analyzeSource (frames : Nat) (path : String) (data : List UInt8) : List Event :=
  match analyzeBytes frames path data with
  | .ok events => events
  | .error f =>
    [{ path := Path.normal path, line := .int 1, kind := .str "AnalysisError",
       message := .str ("Unexpected error during analysis: " ++ f.message) }]

/-- The reports for all sources of a project, and what the run prints; each source is parsed
`frames` calls deep. -/
def analyze (d : Disk) (p : Project) (frames : Nat) : Except Failure (List Event × String) := do
  let files ← p.sources d
  if files.isEmpty then
    return ([], "No Python files found in " ++ p.root ++ "\n")
  let events := files.flatMap fun (path, data) => analyzeSource frames path data
  return (events, "Analyzing " ++ toString files.length ++ " Python files...\n" ++
    "Analysis complete. Found " ++ toString events.length ++ " errors.\n")

end Project

end SyntaxAdvisor
