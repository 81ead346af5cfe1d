import SyntaxAdvisor.Report.Event

/-!
# Context snippets

A report's snippet shows the context lines around the error line: up to `before` lines before
it and `after` lines after it, each as its line number right-aligned in three columns, a colon
and the code, the error line marked by `>>>`. A report without context, or without the number
of its first context line, has no snippet; nor does one whose error line falls outside its
context.

The arithmetic is that of the report's dynamic fields: a field of the wrong kind fails the way
the arithmetic on it fails.
-/

namespace SyntaxAdvisor

/-- Text right-aligned in `width` columns. -/
def padLeft (s : String) (width : Nat) : String :=
  String.ofList (List.replicate (width - s.length) ' ') ++ s

namespace Event

/-- The text shown when a report has no context. -/
def noContext : String := "No code context available"

/-- The text shown when the error line falls outside the context. -/
def lineNotInContext : String := "Error line not found in context"

/-- The snippet of a report with `before` lines before the error line and `after` after it. -/
def snippet (e : Event) (before after : Value) : Except Failure String := do
  if !e.context.truthy then return noContext
  if e.contextStart matches .none then return noContext
  let errorIndex ← e.line.sub e.contextStart
  if ← errorIndex.lt (.int 0) then return lineNotInContext
  let n ← e.context.len
  if ← errorIndex.ge (.int n) then return lineNotInContext
  let startIndex ← Value.max (.int 0) (← errorIndex.sub before)
  let endIndex ← Value.min (.int n) (← (← errorIndex.add after).add (.int 1))
  let lo ← startIndex.asIndex
  let hi ← endIndex.asIndex
  let indices := (List.range (hi - lo).toNat).map (fun k : Nat => lo + (k : Int))
  let lines ← indices.mapM fun i => do
    let number ← e.contextStart.add (.int i)
    let code ← e.context.getItem (.int i)
    let mark := if Value.equal (.int i) errorIndex then ">>> " else "    "
    let numberText ← number.shown
    let codeText ← code.shown
    pure (mark ++ padLeft numberText 3 ++ ": " ++ codeText)
  pure ("\n".intercalate lines)

/-- The snippet with three lines before and after the error line. -/
def defaultSnippet (e : Event) : Except Failure String := e.snippet (.int 3) (.int 3)

/-- The first line of a snippet marked as the error line, or empty text when none is. -/
def markedLine (snippet : String) : String :=
  ((snippet.splitOn "\n").find? (·.startsWith ">>>")).getD ""

end Event

end SyntaxAdvisor
