import SyntaxAdvisor.Report.Event
import SyntaxAdvisor.Calendar.IsoText

/-!
# Reports read back from their mapping view

A report is read back from a mapping with the keys of its mapping view. The file, line, kind and
message must be there; the other fields default to none. A time given in ISO text replaces the
present time; a time that is not text cannot be read.
-/

namespace SyntaxAdvisor

/-- Makes a report from its mapping view. -/
def Event.fromDict (data : Value) : Except Failure Event := do
  let file ← data.getItem (.str "file_path")
  let line ← data.getItem (.str "line_number")
  let kind ← data.getItem (.str "error_type")
  let message ← data.getItem (.str "message")
  let optional (k : String) : Value := (data.field? k).getD .none
  let e ← Event.create file line kind message (optional "code_context")
    (optional "context_start_line") (optional "stack_trace") (optional "local_variables")
  match data.field? "timestamp" with
  | none => pure e
  | some (.str s) => pure { e with timestamp := ← DateTime.ofIsoText s }
  | some _ => throw (.typeError "fromisoformat: argument must be str")

end SyntaxAdvisor
