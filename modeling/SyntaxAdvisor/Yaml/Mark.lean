import SyntaxAdvisor.Failure

/-!
# Positions and errors of YAML reading

A mark is a position in the text being read: the index of a character, and its line and column
counted from zero. An error found while reading names what was being read (the context, with
its mark) and what went wrong (the problem, with its mark); either part may be missing. Its text
gives the context, then the context's mark unless it is the problem's mark, then the problem and
its mark, each on a line of its own, a mark written as `  in "<name>", line L, column C` counted
from one.

Reading can also fail outside the YAML rules: a character that may not appear in YAML text, or
a value whose construction fails the way a conversion of the host language fails.
-/

namespace SyntaxAdvisor.Yaml

/-- A position in the text being read. -/
structure Mark where
  /-- The index of the character. -/
  index : Nat
  /-- The line, from zero. -/
  line : Nat
  /-- The column, from zero. -/
  column : Nat
deriving Inhabited, BEq, Repr

/-- The text of a mark in a text called `name`. -/
def Mark.describe (name : String) (m : Mark) : String :=
  "  in \"" ++ name ++ "\", line " ++ toString (m.line + 1) ++ ", column " ++
    toString (m.column + 1)

/-- An error with marks in the text. -/
structure MarkedError where
  /-- What was being read. -/
  context : Option String := none
  /-- Where that began. -/
  contextMark : Option Mark := none
  /-- What went wrong. -/
  problem : Option String := none
  /-- Where it went wrong. -/
  problemMark : Option Mark := none
deriving Inhabited

/-- The text of an error with marks in a text called `name`. -/
def MarkedError.describe (name : String) (e : MarkedError) : String :=
  let contextLine : List String := match e.contextMark with
    | some cm =>
      let same := match e.problem, e.problemMark with
        | some _, some pm => cm.line == pm.line && cm.column == pm.column
        | _, _ => false
      if same then [] else [cm.describe name]
    | none => []
  "\n".intercalate (e.context.toList ++ contextLine ++ e.problem.toList ++
    (e.problemMark.map (·.describe name)).toList)

/-- Why reading a YAML text failed. -/
inductive LoadError where
  /-- An error of the YAML rules, with marks. -/
  | marked (e : MarkedError)
  /-- A character that YAML text may not hold, at a character position. -/
  | unacceptable (code : Nat) (position : Nat)
  /-- A value that could not be built, failing as the host conversion fails. -/
  | foreign (f : Failure)
deriving Inhabited

/-- Whether the error is one of the YAML rules (as opposed to a failed conversion). -/
def LoadError.isYaml : LoadError → Bool
  | .foreign _ => false
  | _ => true

/-- Four hexadecimal digits at least, in lower case. -/
def hexCode (n : Nat) : String :=
  let ds := Nat.toDigits 16 n
  String.ofList (List.replicate (4 - ds.length) '0' ++ ds)

/-- The text of a reading error in a text called `name`. -/
def LoadError.describe (name : String) : LoadError → String
  | .marked e => e.describe name
  | .unacceptable code position =>
    "unacceptable character #x" ++ hexCode code ++ ": special characters are not allowed\n" ++
      "  in \"" ++ name ++ "\", position " ++ toString position
  | .foreign f => f.message

end SyntaxAdvisor.Yaml
