import SyntaxAdvisor.Report.Event

/-!
# The question put to an assistant

The prompt asks for a one-sentence explanation, a one-sentence fix and a confidence, naming the
kind and message of the error and its line, in the layout the reply is read with
(`Reply.parse`): the same three prefixes start the lines of the answer asked for.
-/

namespace SyntaxAdvisor

/-- The prompt for a report. -/
def Event.prompt (e : Event) : Except Failure String := do
  let indent := "        "
  let kind ← e.kind.shown
  let message ← e.message.shown
  let line ← e.line.shown
  pure <| "Fix this Python error with one sentence each:\n\n" ++
  indent ++ "ERROR: " ++ kind ++ " - " ++ message ++ "\n" ++
  indent ++ "LINE: " ++ line ++ "\n\n" ++
  indent ++ "EXPLANATION: [What's wrong in one sentence]\n" ++
  indent ++ "SUGGESTED FIX: [How to fix it in one sentence]\n" ++
  indent ++ "CONFIDENCE: [0.0-1.0]"

end SyntaxAdvisor
