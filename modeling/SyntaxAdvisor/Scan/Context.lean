import SyntaxAdvisor.Scan.Project

/-!
# The lines around a line of a file

The context of line `n` of a file is its lines from `n - before` (at least the first) to
`n + after` (at most the last), each without its line end. The bounds are computed with the
arithmetic of values, so they fail as that arithmetic does, and they must come out as integers.
A file that is missing or cannot be decoded has no context, and then the line asked for is
given back as the first line.
-/

namespace SyntaxAdvisor

/-- Drops the line ends at the end of a line. -/
def dropLineEnds (line : String) : String :=
  String.ofList (line.toList.reverse.dropWhile (· == '\n')).reverse

/-- The lines around line `line` of the file at `path` (`shown` as given), and the number of
the first of them. -/
def extractContext (d : Disk) (path shown : String) (line before after : Value) :
    Except Failure (List String × Value) :=
  let read : Except Failure String := do
    let data ← d.readFile path shown
    match readText data with
    | .ok text => pure text
    | .error e => throw (.raised "UnicodeDecodeError" e.message)
  match read with
  | .error _ => .ok ([], line)
  | .ok text => do
    let lines := Text.readLines text
    let first ← Value.max (.int 1) (← Value.sub line before)
    let last ← Value.min (.int lines.length) (← Value.add line after)
    let a ← sliceBound (← Value.sub first (.int 1))
    let b ← sliceBound last
    pure ((sliceList lines a b).map dropLineEnds, first)

end SyntaxAdvisor
