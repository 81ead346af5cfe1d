import SyntaxAdvisor.Report.Event
import SyntaxAdvisor.Text.Blank

/-!
# Line checks

When a file does not parse, each of its lines is checked on its own for the likely causes. A
line is stripped of blanks first; an empty line and a comment line are skipped. The checks are
independent, and a line may fail several:

* a line that opens a block (`def `, `class `, `if `, `elif `, `else`, `for `, `while `, `try`,
  `except`, `finally`) must end with a colon;
* a line must not open more parentheses than it closes, nor more square brackets;
* a line must hold an even number of single quotes, not counting those after a backslash.

Each finding becomes a report of a syntax error at its line, with up to three lines of context
on either side.
-/

namespace SyntaxAdvisor

/-- A likely cause of a syntax error, found on one line. -/
inductive Finding where
  /-- A block-opening line without its colon. -/
  | missingColon
  /-- More opening than closing parentheses. -/
  | unclosedParenthesis
  /-- More opening than closing square brackets. -/
  | unclosedBracket
  /-- An odd number of single quotes. -/
  | unterminatedString
deriving Repr, BEq, Inhabited

namespace Finding

/-- The message of a finding. -/
def message : Finding → String
  | .missingColon => "expected ':'"
  | .unclosedParenthesis => "'(' was never closed"
  | .unclosedBracket => "'[' was never closed"
  | .unterminatedString => "unterminated string literal"

/-- The beginnings of block-opening lines. -/
def blockOpeners : List String :=
  ["def ", "class ", "if ", "elif ", "else", "for ", "while ", "try", "except", "finally"]

/-- How often a character occurs in a line. -/
def occurrences (c : Char) (cs : List Char) : Nat := cs.count c

/-- How often a backslash is directly followed by `c`, counting on from `n`; pairs do not
overlap. -/
def escapedOccurrencesFrom (c : Char) (n : Nat) : List Char → Nat
  | [] => n
  | '\\' :: d :: rest =>
    if d == c then escapedOccurrencesFrom c (n + 1) rest
    else escapedOccurrencesFrom c n (d :: rest)
  | _ :: rest => escapedOccurrencesFrom c n rest

/-- How often a backslash is directly followed by `c`. -/
def escapedOccurrences (c : Char) (cs : List Char) : Nat := escapedOccurrencesFrom c 0 cs

/-- The findings on a stripped line, in the order the checks run. -/
def ofLine (line : String) : List Finding :=
  let cs := line.toList
  let colon := blockOpeners.any (fun p : String => line.startsWith p) && !line.endsWith ":"
  let paren := occurrences '(' cs > occurrences ')' cs
  let bracket := occurrences '[' cs > occurrences ']' cs
  let quotes := occurrences '\'' cs - escapedOccurrences '\'' cs
  (if colon then [.missingColon] else []) ++
  (if paren then [.unclosedParenthesis] else []) ++
  (if bracket then [.unclosedBracket] else []) ++
  (if quotes % 2 == 1 then [.unterminatedString] else [])

end Finding

/-- The items `xs[start:stop]` of a list, with negative bounds counted from the end and bounds
clamped to the list. -/
def sliceList {α : Type} (xs : List α) (start stop : Int) : List α :=
  let n : Int := xs.length
  let clamp (i : Int) : Nat := (if i < 0 then Max.max (i + n) 0 else Min.min i n).toNat
  let a := clamp start
  let b := clamp stop
  (xs.drop a).take (b - a)

/-- The report of a finding at 0-based line `index` of `lines`, numbered `line`: its context is
the lines from three before to three after it. -/
def Event.ofPattern (file : String) (line : Value) (kind message : Value) (lines : List String)
    (index : Int) : Event :=
  let start := Max.max 0 (index - 3)
  let stop := Min.min (lines.length : Int) (index + 4)
  { path := Path.normal file, line, kind, message,
    context := .list ((sliceList lines start stop).map Value.str),
    contextStart := .int (start + 1) }

/-- The integer a value stands for as a slice bound. -/
def sliceBound (v : Value) : Except Failure Int :=
  match v with
  | .int n => .ok n
  | .bool b => .ok (if b then 1 else 0)
  | _ => .error (.typeError "slice indices must be integers or None or have an __index__ method")

/-- The report of a finding at line `index` of `lines`, where the index is any value: it is
used in the arithmetic of `Event.ofPattern`, which fails as that arithmetic does on values
that are not numbers, and whose bounds must then be integers. -/
def Event.ofPatternAt (file : String) (line : Value) (kind message : Value) (lines : List String)
    (index : Value) : Except Failure Event := do
  let start ← Value.max (.int 0) (← Value.sub index (.int 3))
  let stop ← Value.min (.int lines.length) (← Value.add (← Value.add index (.int 3)) (.int 1))
  let a ← sliceBound start
  let b ← sliceBound stop
  let first ← Value.add start (.int 1)
  pure { path := Path.normal file, line, kind, message,
         context := .list ((sliceList lines a b).map Value.str), contextStart := first }

/-- The reports of all findings on the lines of a file. -/
def detectErrors (file : String) (lines : List String) : List Event :=
  (lines.zip (List.range lines.length)).flatMap fun (raw, i) =>
    let line := Text.strip raw
    if line.isEmpty || line.startsWith "#" then []
    else (Finding.ofLine line).map fun f =>
      Event.ofPattern file (.int (i + 1)) (.str "SyntaxError") (.str f.message) lines i

end SyntaxAdvisor
