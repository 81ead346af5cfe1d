import SyntaxAdvisor.Settings.Session
import SyntaxAdvisor.Advice.Network
import SyntaxAdvisor.Text.LineBreak

/-!
# The console and the machine commands run on

A command writes to a console and reads typed answers from it. Answers come in one of two ways:

* *shown*: each answer is a line of a script (lines end at a line feed, a carriage return, or
  both), written after its question as if typed there; when the script is used up, every answer
  is empty;
* *hidden*: each answer is a line of standard input (lines end at a line feed only), not
  written; when the input is used up, the question is given up, which fails the command's work
  with an empty message.

A question is asked as its text without trailing blanks, then one blank. An empty answer takes
the question's default when it has one, and otherwise the question is asked again.

Commands run on a machine: the host with its disk and environment, the network and the
console. Work on the machine may fail; what it did before failing stays done.
-/

namespace SyntaxAdvisor.Commands

/-- How typed answers are read. -/
inductive Typing where
  /-- From a script, each answer written after its question. -/
  | shown
  /-- From standard input, unwritten; at its end a question is given up. -/
  | hidden
deriving DecidableEq

/-- A console: what was written, and the typed input not yet read. -/
structure Console where
  /-- Everything written so far. -/
  out : String := ""
  /-- The input not yet read. -/
  input : List Char := []
  /-- How answers are read. -/
  typing : Typing := .shown

/-- The failure of a question given up. -/
def givenUp : Failure := .raised "Abort" ""

/-- A line of input, up to its line feed, and what follows it. -/
def splitLine : List Char → List Char × List Char
  | [] => ([], [])
  | '\n' :: rest => ([], rest)
  | c :: rest =>
    let (l, r) := splitLine rest
    (c :: l, r)

/-- A text without its trailing blanks. -/
def dropTrailingBlanks (s : String) : String :=
  String.ofList (s.toList.reverse.dropWhile (· == ' ')).reverse

namespace Console

/-- A console reading answers from a text; for shown answers, every line end is first made a
line feed. -/
def ofInput (typing : Typing) (text : String) : Console :=
  { typing, input := if typing == .shown then Text.translateNewlines text.toList else text.toList }

/-- Writes text. -/
def write (c : Console) (s : String) : Console := { c with out := c.out ++ s }

/-- Asks a question once: the answer, or none when it is given up. -/
def askOnce (c : Console) (question : String) : Console × Option String :=
  let c := c.write (dropTrailingBlanks question ++ " ")
  match c.typing with
  | .shown =>
    let (line, rest) := splitLine c.input
    let answer := String.ofList line
    ({ c with input := rest, out := c.out ++ answer ++ "\n" }, some answer)
  | .hidden =>
    if c.input.isEmpty then (c, none)
    else
      let (line, rest) := splitLine c.input
      ({ c with input := rest }, some (String.ofList line))

end Console

/-- The machine a command runs on. -/
structure Machine where
  /-- The host: disk, environment, working directory. -/
  host : Host
  /-- The network. -/
  network : Network
  /-- The console. -/
  console : Console
  /-- How many calls deep a command's own work runs. -/
  depth : Nat := 9

/-- How many calls deep a source is parsed when a command analyzes it: four calls below the
command's own work. -/
def Machine.parseFrames (m : Machine) : Nat := m.depth + 4

/-- Work on a machine that may fail, keeping what it did before failing. -/
abbrev Work := ExceptT Failure (StateM Machine)

/-- Fails the work when text cannot be written: the console encodes what it writes as strict
UTF-8, which has no form for a lone surrogate. -/
def encodable (s : String) : Work Unit :=
  match Text.strictEncodeError s with
  | some why => throw (.raised "UnicodeEncodeError" why)
  | none => pure ()

/-- Writes a line to the console; a line that cannot be encoded fails the work unwritten. -/
def say (s : String) : Work Unit := do
  encodable (s ++ "\n")
  modify fun m => { m with console := m.console.write (s ++ "\n") }

/-- Fails the work with a failure, or gives the value. -/
def lift {α : Type} (r : Except Failure α) : Work α :=
  match r with
  | .ok a => pure a
  | .error f => throw f

/-- Asks a question until it has an answer, the empty answer meaning `dflt`: the answer. At most
`fuel` questions are asked; a question that cannot be encoded fails the work unasked. -/
def askFor (question : String) (dflt : Option String) : Nat → Work String
  | 0 => throw givenUp
  | fuel + 1 => do
    encodable (dropTrailingBlanks question)
    let m ← get
    let (c, answer) := m.console.askOnce question
    set { m with console := c }
    match answer with
    | none => throw givenUp
    | some a =>
      if !a.isEmpty then pure a
      else match dflt with
        | some d => pure d
        | none => askFor question dflt fuel

/-- Asks a question (shown followed by a colon) with a default for the empty answer. -/
def ask (question dflt : String) : Work String := do
  let fuel := (← get).console.input.length + 1
  askFor (question ++ ": ") (some dflt) fuel

/-- Asks for one of `choices`, showing them and the default, until a choice is given; each
answer that is not a choice is refused with a message. -/
def askChoice (question : String) (choices : List String) (dflt : String) : Work String := do
  let shown := question ++ " (" ++ ", ".intercalate choices ++ ") [" ++ dflt ++ "]: "
  let fuel := (← get).console.input.length + 1
  let rec loop : Nat → Work String
    | 0 => throw givenUp
    | k + 1 => do
      let a ← askFor shown (some dflt) fuel
      if choices.contains a then pure a
      else
        let all := ", ".intercalate (choices.map quoteText)
        say ("Error: " ++ quoteText a ++
          (if choices.length == 1 then " is not " else " is not one of ") ++ all ++ ".")
        loop k
  loop fuel

end SyntaxAdvisor.Commands
