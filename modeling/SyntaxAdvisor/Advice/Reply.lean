import SyntaxAdvisor.Decimal.Reading
import SyntaxAdvisor.Text.Search

/-!
# Reading an assistant's reply

A reply is plain text in which sections are marked by line prefixes: `EXPLANATION:` and
`SUGGESTED FIX:` start a section, and `CONFIDENCE:` gives a number. The reply is stripped and
cut at line feeds, and each line is stripped. A line with a prefix has every occurrence of the
prefix removed; what is left, stripped, replaces the section's text when it is not empty.
Other non-empty lines continue the current section, after a space. A confidence that is not a
number counts as one half; a number is clamped to the unit interval, where not-a-number
counts as one.
-/

namespace SyntaxAdvisor

/-- What is read from a reply. -/
structure Reply where
  /-- Why the error occurs. -/
  explanation : String
  /-- How to fix it. -/
  fix : String
  /-- How sure the reply is, from 0 to 1. -/
  confidence : Float

/-- The sections of a reply that text can continue. -/
inductive ReplySection where
  /-- The explanation. -/
  | explanation
  /-- The suggested fix. -/
  | fix
deriving BEq

/-- A number clamped to the unit interval, as `max(0, min(1, x))` with each bound winning
ties and comparisons with not-a-number. -/
def clampUnit (x : Float) : Float :=
  let y := if x < 1.0 then x else 1.0
  if y > 0.0 then y else 0.0

/-- The confidence a `CONFIDENCE:` line gives. -/
def confidenceOf (text : String) : Float :=
  match Decimal.readFloat text with
  | some x => clampUnit x
  | none => 0.5

namespace Reply

/-- A reply as it is being read: what it says so far and the section being continued. -/
structure Reading where
  /-- The explanation so far. -/
  explanation : String := ""
  /-- The suggested fix so far. -/
  fix : String := ""
  /-- The confidence so far. -/
  confidence : Float := 0.5
  /-- The section that text continues, if any. -/
  current : Option ReplySection := none

/-- The text of a line after its prefix. -/
def contentAfter (line pre : String) : String := Text.strip (Text.replace line pre "")

/-- Reads one stripped line. -/
def step (r : Reading) (line : String) : Reading :=
  if line.startsWith "EXPLANATION:" then
    let c := contentAfter line "EXPLANATION:"
    { r with current := some .explanation, explanation := if c.isEmpty then r.explanation else c }
  else if line.startsWith "SUGGESTED FIX:" then
    let c := contentAfter line "SUGGESTED FIX:"
    { r with current := some .fix, fix := if c.isEmpty then r.fix else c }
  else if line.startsWith "CONFIDENCE:" then
    { r with confidence := confidenceOf (contentAfter line "CONFIDENCE:") }
  else if line.isEmpty then r
  else match r.current with
    | some .explanation => { r with explanation := r.explanation ++ " " ++ line }
    | some .fix => { r with fix := r.fix ++ " " ++ line }
    | none => r

/-- Reads a reply; a section left empty gets its stock text. -/
def parse (response : String) : Reply :=
  let lines := (Text.strip response).splitOn "\n"
  let r := lines.foldl (fun r line => step r (Text.strip line)) {}
  let orElse (s d : String) : String := if (Text.strip s).isEmpty then d else Text.strip s
  { explanation := orElse r.explanation "Unable to analyze this error",
    fix := orElse r.fix "No specific fix suggested",
    confidence := r.confidence }

end Reply

end SyntaxAdvisor
