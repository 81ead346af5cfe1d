import SyntaxAdvisor.Scan.Detector
import SyntaxAdvisor.Python.Verdict
import SyntaxAdvisor.Text.Utf8
import SyntaxAdvisor.Text.LineBreak

/-!
# Analysing a file

A file is read as UTF-8 text with its line ends translated; a file that cannot be read gives
one report of a read error at line 1. Text that parses gives no reports. Text with a syntax
error is handed to the line checks. A text whose syntax tree is too deep, or too deeply nested
to parse, makes the analysis fail. How deep a tree may be depends on how many calls deep the
analysis runs (`frames`, counted at the parse).
-/

namespace SyntaxAdvisor

/-- The message of a syntax tree too deep to be built. -/
def treeTooDeepMessage : String := "maximum recursion depth exceeded during ast construction"

/-- The text of a file's bytes: decoded as UTF-8, line ends translated. -/
def readText (data : List UInt8) : Except Text.DecodeError String :=
  (Text.decodeUtf8 data).map fun cs => String.ofList (Text.translateNewlines cs)

/-- The report of a file that cannot be read. -/
def Event.fileReadError (file : String) (message : String) : Event :=
  { path := Path.normal file, line := .int 1, kind := .str "FileReadError",
    message := .str ("Cannot read file: " ++ message) }

/-- The reports for a file's text. -/
def analyzeText (frames : Nat) (file : String) (text : String) : Except Failure (List Event) :=
  match Python.Verdict.ofSource frames text with
  | .accepted => .ok []
  | .syntaxError => .ok (detectErrors file (Text.splitLines text))
  | .recursionError => .error (.recursionError treeTooDeepMessage)
  | .memoryError => .error .memoryError

/-- The reports for a file's bytes. -/
def analyzeBytes (frames : Nat) (file : String) (data : List UInt8) :
    Except Failure (List Event) :=
  match readText data with
  | .error e => .ok [Event.fileReadError file e.message]
  | .ok text => analyzeText frames file text

end SyntaxAdvisor
