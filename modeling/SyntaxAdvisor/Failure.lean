import SyntaxAdvisor.Value.Basic

/-!
# Failures

The errors an operation of the library can raise, each with the kind it is reported under and
its message. A failure is a cause, not a text: `Failure.kind` and `Failure.message` give the
words.
-/

namespace SyntaxAdvisor

/-- An error raised by an operation. -/
inductive Failure where
  /-- A value of the wrong kind. -/
  | typeError (message : String)
  /-- A value of the right kind with a wrong content. -/
  | valueError (message : String)
  /-- A missing key of a mapping. -/
  | keyError (key : Value)
  /-- An index outside a sequence. -/
  | indexError (message : String)
  /-- A missing attribute of a value. -/
  | attributeError (message : String)
  /-- A syntax tree too deep to be built. -/
  | recursionError (message : String)
  /-- A parse that ran out of memory. -/
  | memoryError
  /-- An error of the operating system, with the kind of error it is reported as. -/
  | osError (kind : String) (message : String)
  /-- A general error, raised with a message only. -/
  | general (message : String)
  /-- An error of a named kind that the library passes on unchanged. -/
  | raised (kind : String) (message : String)
deriving Inhabited

/-- The kind a failure is reported under. -/
def Failure.kind : Failure → String
  | .typeError _ => "TypeError"
  | .valueError _ => "ValueError"
  | .keyError _ => "KeyError"
  | .indexError _ => "IndexError"
  | .attributeError _ => "AttributeError"
  | .recursionError _ => "RecursionError"
  | .memoryError => "MemoryError"
  | .osError k _ => k
  | .general _ => "Exception"
  | .raised k _ => k

/-- The message of a failure; a missing key is shown in its quoted form. -/
def Failure.message : Failure → String
  | .typeError m | .valueError m | .indexError m | .attributeError m | .recursionError m => m
  | .keyError k => k.repr
  | .memoryError => ""
  | .osError _ m | .general m | .raised _ m => m

/-- Whether a failure is of a kind that counts as a wrong value: a value error, or a failure to
decode or encode text or JSON. -/
def Failure.isValueError : Failure → Bool
  | .valueError _ => true
  | .raised k _ => ["UnicodeDecodeError", "UnicodeEncodeError", "JSONDecodeError"].contains k
  | _ => false

/-- The refusal to write out an integer that is too long. -/
def Failure.tooLongToWrite : Failure :=
  .valueError ("Exceeds the limit (" ++ toString Value.maxTextDigits ++ " digits) for integer " ++
    "string conversion; use sys.set_int_max_str_digits() to increase the limit")

/-- The plain form of a value, refused when it holds an integer too long to write out. -/
def Value.shown (v : Value) : Except Failure String :=
  if v.writable then .ok v.text else .error .tooLongToWrite

end SyntaxAdvisor
