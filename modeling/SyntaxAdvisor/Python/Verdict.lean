import SyntaxAdvisor.Python.Syntax.Engine
import SyntaxAdvisor.Python.Lexer
import SyntaxAdvisor.Python.StringLiteral

/-!
# Whether a source text parses

`Verdict.ofSource` decides how the reference parser responds to a source text: it accepts
it, reports a syntax error, runs out of memory (rule calls nested too deeply), or runs out of
recursion while building the syntax tree (the tree is too deep).

String literals are checked before parsing and the result is kept in their tokens: a faulty
literal ends the parse only if the parse reaches it. The expressions in the fields of an
f-string are parsed on their own, by a parse of their own from the rule `fstring`, in
parentheses, and their depth counts in the depth of the literal.
-/

namespace SyntaxAdvisor.Python

mutual

/-- Lexes and parses `text` from the rule `start`, after checking its string literals;
`fuel` bounds the nesting of f-string expressions. -/
def screen : Nat → String → Rule → Outcome
  | 0, _, _ => .overflow
  | fuel + 1, text, start =>
    let lexed := lex text
    (Stream.ofTokens (lexed.tokens.map (annotateToken fuel)) lexed.broken).parse start

/-- Records in a string token what its check found. -/
def annotateToken : Nat → Token → Token
  | fuel + 1, .string text _ => .string text (literalOf fuel text)
  | _, t => t

/-- Checks a string literal's text. -/
def literalOf : Nat → String → Literal
  | 0, _ => {}
  | fuel + 1, text =>
    let lt := LiteralText.ofToken text
    match lt.fields with
    | none => { bytes := lt.bytes, formatted := lt.formatted, fault := some .malformed }
    | some fields =>
      if lt.formatted then
        match fieldsDepth fuel fields with
        | .ok d => { formatted := true, depth := d }
        | .error f => { formatted := true, fault := some f }
      else { bytes := lt.bytes }

/-- The depth of a joined string made of these fields, or why a field's expression fails. -/
def fieldsDepth : Nat → List Field → Except LiteralFault Nat
  | 0, _ => .ok 1
  | fuel + 1, fields => do
    let ds ← fields.mapM (fieldDepth fuel)
    pure (1 + ds.foldl max 0)

/-- The depth of one field: its expression parsed in parentheses, and its specification. -/
def fieldDepth : Nat → Field → Except LiteralFault Nat
  | 0, _ => .ok 1
  | fuel + 1, .mk expr spec => do
    let e ← match screen fuel ("(" ++ expr ++ ")") .fstring with
      | .accepted d => pure d
      | .rejected => throw .malformed
      | .overflow => throw .tooDeep
    let s ← if spec.isEmpty then pure 0 else fieldsDepth fuel spec
    pure (1 + max e s)

end

/-- How the reference parser responds to a source text. -/
inductive Verdict where
  /-- The text parses. -/
  | accepted
  /-- A syntax error (an indentation or tab error included). -/
  | syntaxError
  /-- The parser ran out of memory: rule calls nested too deeply. -/
  | memoryError
  /-- The syntax tree is too deep to be built. -/
  | recursionError
deriving Repr, BEq, DecidableEq, Inhabited

/-- The deepest syntax tree that can be built by a parse called `frames` calls deep: the tree
is converted by a recursion that may go three levels for each call that the recursion limit of
1000 allows, and the calls in progress count against that limit. -/
def maxTreeDepth (frames : Nat) : Nat := 3000 - 3 * frames

/-- Decides how the reference parser responds to a source text parsed `frames` calls deep. A
text holding a NUL character is refused before parsing. -/
def Verdict.ofSource (frames : Nat) (text : String) : Verdict :=
  if text.toList.contains '\x00' then .syntaxError
  else
    match screen (2 * text.length + 10) text .file with
    | .accepted d => if d > maxTreeDepth frames then .recursionError else .accepted
    | .rejected => .syntaxError
    | .overflow => .memoryError

end SyntaxAdvisor.Python
