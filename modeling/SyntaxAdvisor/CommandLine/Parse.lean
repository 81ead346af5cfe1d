import SyntaxAdvisor.CommandLine.Spec
import SyntaxAdvisor.Text.Similarity
import SyntaxAdvisor.Decimal.Reading
import SyntaxAdvisor.Text.Alphanumeric

/-!
# Reading a command line

A command line is read against a group of commands in two passes, first for the group, then for
the command its first remaining word names.

* The group's words are its own options (only `--help`), up to the first other word; `--` ends
  them. No words at all show the group's help. The first remaining word names the command; an
  unknown name that starts with a character that is neither a letter nor numeric shows the
  group's help, whatever follows it.
* A command's words are read from the left. A word that starts with `-` and has more than one
  character is an option: `--name=value` gives its value inline, an option taking a value
  otherwise takes the next word whatever it is, and a switch takes none. `--` ends the options.
  Other words are positional, and fill the arguments in order.
* An unknown `--name` is refused with the known names close to it; an unknown `-x...` is refused
  as `-x`.
* When every word is read, `--help` shows the help page. Otherwise the parameters are
  converted, those given first in the order they were first given, then the others in their
  own order; the first that fails is reported. Words left over after the arguments are an
  error last of all.

A refusal is shown with the usage line of the command (or group) being read, a hint to ask for
its help, and the message; a value missing after an option, or given to a switch, is reported by
its message alone.
-/

namespace SyntaxAdvisor.CommandLine

/-- Why a command line is refused. -/
inductive UsageError where
  /-- An unknown option, with the known names close to it. -/
  | noSuchOption (name : String) (close : List String)
  /-- An option that takes a value, with none after it. -/
  | needsValue (name : String)
  /-- A switch given a value inline. -/
  | takesNoValue (name : String)
  /-- A value that does not convert, with how the parameter is named. -/
  | invalidValue (hint : String) (message : String)
  /-- A positional argument not given, with its placeholder and its choices. -/
  | missingArgument (metavar : String) (choices : List String)
  /-- Words left over. -/
  | extraArguments (words : List String)
  /-- A command name that names no command. -/
  | noSuchCommand (name : String)
  /-- No command name. -/
  | missingCommand

namespace UsageError

/-- The message of a refusal. -/
def message : UsageError → String
  | .noSuchOption n close =>
    let base := "No such option: " ++ n
    match (close.mergeSort fun a b => decide (a ≤ b)) with
    | [] => base
    | [c] => base ++ " Did you mean " ++ c ++ "?"
    | cs => base ++ " (Possible options: " ++ ", ".intercalate cs ++ ")"
  | .needsValue n => "Option " ++ quoteText n ++ " requires an argument."
  | .takesNoValue n => "Option " ++ quoteText n ++ " does not take a value."
  | .invalidValue hint m => "Invalid value for " ++ hint ++ ": " ++ m
  | .missingArgument mv cs =>
    let extra := if cs.isEmpty then "" else " Choose from:\n\t" ++ ",\n\t".intercalate cs
    "Missing argument '" ++ mv ++ "'." ++ extra
  | .extraArguments ws =>
    (if ws.length == 1 then "Got unexpected extra argument (" else "Got unexpected extra arguments (")
      ++ " ".intercalate ws ++ ")"
  | .noSuchCommand n => "No such command " ++ quoteText n ++ "."
  | .missingCommand => "Missing command."

end UsageError

/-- What reading a command line comes to. -/
inductive Outcome where
  /-- A help page to show. -/
  | help (page : String)
  /-- A refusal: the usage line, the path of the command read, and why. -/
  | refused (usage path : String) (error : UsageError)
  /-- A command to run, with the values of its parameters by name. -/
  | run (command : String) (values : List (String × Value))

/-- The text shown for a refusal. -/
def refusalText (usage path : String) (e : UsageError) : String :=
  let shown := "Error: " ++ e.message ++ "\n"
  match e with
  | .needsValue _ | .takesNoValue _ => shown
  | _ => usage ++ "\nTry '" ++ path ++ " " ++ helpName ++ "' for help.\n\n" ++ shown

/-- The words of a command line as read so far. -/
structure Reading where
  /-- Positional words met among the options. -/
  loose : List String := []
  /-- The raw values of the options and switches given, the latest first. -/
  given : List (String × String) := []
  /-- The names of the options given, in the order given. -/
  order : List String := []

/-- Whether a word has the form of an option. -/
def isOptionWord (w : String) : Bool := w.startsWith "-" && w.length > 1

/-- Splits `--name=value` at its first `=`. -/
def splitInline (w : String) : String × Option String :=
  match w.splitOn "=" with
  | name :: v :: rest => (name, some ("=".intercalate (v :: rest)))
  | _ => (w, none)

/-- Reads the option words of a command line whose options are `opts` (switches and options,
by name), from the left: the reading and the words not read. When `interspersed`, positional
words are set aside and reading goes on; otherwise reading stops at the first one. -/
def readOptions (opts : List Param) (interspersed : Bool) :
    List String → Reading → Except UsageError (Reading × List String)
  | [], r => .ok (r, [])
  | w :: rest, r =>
    if w == "--" then .ok (r, rest)
    else if isOptionWord w then
      let (name, inline) := splitInline w
      let note := fun (v : String) => { r with given := (name, v) :: r.given, order := r.order ++ [name] }
      match opts.find? (·.name == name) with
      | some (.switch _ _) =>
        if inline.isSome then .error (.takesNoValue name) else readOptions opts interspersed rest (note "")
      | some _ =>
        match inline, _hr : rest with
        | some v, _ => readOptions opts interspersed rest (note v)
        | none, v :: more => readOptions opts interspersed more (note v)
        | none, [] => .error (.needsValue name)
      | none =>
        if w.startsWith "--" then .error (.noSuchOption name (Text.closeMatches name (opts.map Param.name) 3))
        else .error (.noSuchOption (String.ofList (w.toList.take 2)) [])
    else if interspersed then readOptions opts interspersed rest { r with loose := r.loose ++ [w] }
    else .ok (r, w :: rest)
termination_by ws => ws.length
decreasing_by
  all_goals subst_vars
  all_goals simp only [List.length_cons]
  all_goals omega

/-- Converts a raw value to a value of a kind. -/
def convert (hint : String) (kind : ValueKind) (raw : String) : Except UsageError Value :=
  match kind with
  | .text => .ok (.str raw)
  | .integer =>
    match Decimal.readIntLimited raw 10 with
    | .value n => .ok (.int n)
    | _ => .error (.invalidValue hint (quoteText raw ++ " is not a valid integer."))
  | .choice os =>
    if os.contains raw then .ok (.str raw)
    else
      let shown := ", ".intercalate (os.map quoteText)
      .error (.invalidValue hint (quoteText raw ++
        (if os.length == 1 then " is not " else " is not one of ") ++ shown ++ "."))

/-- The value of a parameter from what was read. -/
def valueOf (r : Reading) (args : List (String × String)) : Param → Except UsageError Value
  | .switch n _ => .ok (.bool (r.given.lookup n).isSome)
  | p@(.option n k _ d) =>
    match r.given.lookup n with
    | some raw => convert p.hint k raw
    | none => .ok d
  | p@(.argument n k) =>
    match args.lookup n with
    | some raw => convert p.hint k raw
    | none =>
      .error (.missingArgument (k.metavar true) (match k with
        | .choice os => os
        | _ => []))

/-- The parameters in the order they are converted: those given, by first use, then the rest. -/
def processingOrder (params : List Param) (order : List String) : List Param :=
  let used := order.eraseDups.filterMap fun n => params.find? (·.name == n)
  used ++ params.filter fun p => !order.contains p.name

/-- Reads a command's words. -/
def readCommand (c : Command) (prog : String) (width : Nat) (words : List String) : Outcome :=
  let path := prog ++ " " ++ c.name
  let refuse := Outcome.refused (c.usage prog) path
  let opts := c.params.filter fun
    | .argument _ _ => false
    | _ => true
  match readOptions (opts ++ [.switch helpName helpText]) true words {} with
  | .error e => refuse e
  | .ok (r, tail) =>
    if (r.given.lookup helpName).isSome then .help (c.helpPage prog width)
    else
      let positional := r.loose ++ tail
      let argParams := c.params.filterMap fun
        | .argument n _ => some n
        | _ => none
      let args := argParams.zip positional
      let extra := positional.drop argParams.length
      let order := r.order ++ argParams
      match (processingOrder c.params order).mapM fun p => (p.name, ·) <$> valueOf r args p with
      | .error e => refuse e
      | .ok values => if extra.isEmpty then .run c.name values else refuse (.extraArguments extra)

/-- Whether a command name starts like an option: with a character that is neither a letter
nor numeric. -/
def startsLikeOption (name : String) : Bool :=
  match name.toList with
  | c :: _ => !Text.isAlphanumeric c
  | [] => false

/-- Reads the group's own words: none, a help request, a refusal, or the words after them. -/
def readGroupWords (g : Group) (prog : String) (width : Nat) (words : List String) :
    Except Outcome (List String) :=
  if words.isEmpty then .error (.help (g.helpPage prog width))
  else match readOptions [.switch helpName helpText] false words {} with
    | .error e => .error (.refused (g.usage prog) prog e)
    | .ok (r, rest) =>
      if (r.given.lookup helpName).isSome then .error (.help (g.helpPage prog width))
      else .ok rest

/-- Reads a command line of program `prog` against a group, help pages at a page width. -/
def read (g : Group) (prog : String) (width : Nat) (words : List String) : Outcome :=
  match readGroupWords g prog width words with
  | .error o => o
  | .ok [] => .refused (g.usage prog) prog .missingCommand
  | .ok (name :: rest) =>
    match g.commands.find? (·.name == name) with
    | some c => readCommand c prog width rest
    | none =>
      if startsLikeOption name then .help (g.helpPage prog width)
      else .refused (g.usage prog) prog (.noSuchCommand name)

end SyntaxAdvisor.CommandLine
