import SyntaxAdvisor.Value.Access
import SyntaxAdvisor.Path

/-!
# Error reports

An error report names the file and line where an error was found, the kind of error and its
message, and may carry the lines of code around it, the line number of the first of those
lines, a stack trace and the local variables at the error. Apart from the file, which is a
path and is kept in its normal form, the fields are dynamic values: a report keeps whatever it
is given. Missing context lines and missing local variables are kept as an empty list and an
empty mapping.

A report also records when it was made; the library's clock always reads the same moment.
-/

namespace SyntaxAdvisor

/-- An error report. -/
structure Event where
  /-- The file, in normal form. -/
  path : String
  /-- The line of the error. -/
  line : Value
  /-- The kind of error. -/
  kind : Value
  /-- The message. -/
  message : Value
  /-- The lines of code around the error (an empty list when none were given). -/
  context : Value := .list []
  /-- The line number of the first context line. -/
  contextStart : Value := .none
  /-- The stack trace, for an error met while running. -/
  trace : Value := .none
  /-- The local variables at the error (an empty mapping when none were given). -/
  locals : Value := .dict []
  /-- When the report was made. -/
  timestamp : DateTime := DateTime.fixedNow
deriving Inhabited

/-- The normal path of a file given as a value; only text names a file. -/
def pathOfValue (v : Value) : Except Failure String :=
  match v with
  | .str s => .ok (Path.normal s)
  | .bytes _ => .error (.typeError
      "argument should be a str object or an os.PathLike object returning str, not <class 'bytes'>")
  | _ => .error (.typeError ("expected str, bytes or os.PathLike object, not " ++ v.typeName))

namespace Event

/-- Makes a report from its fields: a false-valued context or set of local variables counts as
none. -/
def create (file line kind message : Value) (context contextStart trace locals : Value := .none) :
    Except Failure Event := do
  let path ← pathOfValue file
  pure { path, line, kind, message,
         context := if context.truthy then context else .list [],
         contextStart, trace,
         locals := if locals.truthy then locals else .dict [] }

/-- The names of the fields a report is made from, in order; the first four are required. -/
def parameterNames : List String :=
  ["file_path", "line_number", "error_type", "message", "code_context", "context_start_line",
   "stack_trace", "local_variables"]

/-- The words that list missing arguments: `'a'`, `'a' and 'b'`, `'a', 'b', and 'c'`. -/
def listNames (ns : List String) : String :=
  let qs := ns.map (fun n => "'" ++ n ++ "'")
  match qs with
  | [] => ""
  | [a] => a
  | [a, b] => a ++ " and " ++ b
  | _ => ", ".intercalate qs.dropLast ++ ", and " ++ qs.getLastD ""

/-- Makes a report from named arguments, as a call of its constructor does: an unknown name or a
missing required field fails. -/
def ofArguments (args : List (String × Value)) : Except Failure Event := do
  match args.find? (fun (n, _) => !parameterNames.contains n) with
  | some (n, _) =>
    throw (.typeError ("ErrorEvent.__init__() got an unexpected keyword argument '" ++ n ++ "'"))
  | none => pure ()
  let get (n : String) : Option Value := (args.find? (·.1 == n)).map (·.2)
  let missing := (parameterNames.take 4).filter (fun n => (get n).isNone)
  if !missing.isEmpty then
    let word := if missing.length == 1 then "argument" else "arguments"
    throw (.typeError ("ErrorEvent.__init__() missing " ++ toString missing.length ++
      " required positional " ++ word ++ ": " ++ listNames missing))
  let arg (n : String) : Value := (get n).getD .none
  create (arg "file_path") (arg "line_number") (arg "error_type") (arg "message")
    (arg "code_context") (arg "context_start_line") (arg "stack_trace") (arg "local_variables")

/-- The mapping view of a report, with the time in ISO form. -/
def toValue (e : Event) : Value :=
  .dict [(.str "file_path", .str e.path), (.str "line_number", e.line),
         (.str "error_type", e.kind), (.str "message", e.message),
         (.str "code_context", e.context), (.str "context_start_line", e.contextStart),
         (.str "stack_trace", e.trace), (.str "local_variables", e.locals),
         (.str "timestamp", .str e.timestamp.isoformat)]

/-- The one-line description of a report: `file:line: kind - message`. -/
def describe (e : Event) : Except Failure String := do
  let line ← e.line.shown
  let kind ← e.kind.shown
  let message ← e.message.shown
  pure (e.path ++ ":" ++ line ++ ": " ++ kind ++ " - " ++ message)

/-- Whether the report is of an error met while running: it has a stack trace. -/
def isRuntimeError (e : Event) : Bool :=
  match e.trace with
  | .none => false
  | _ => true

end Event

end SyntaxAdvisor
