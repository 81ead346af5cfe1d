/-!
# Tokens of Python source text

The lexer cuts source text into these tokens; the recognizer reads them. String literals carry
what the recognizer needs after their text has been checked: whether they are bytes, and the
depth of the syntax tree that they stand for (an f-string holds expressions).
-/

namespace SyntaxAdvisor.Python

/-- Why a string literal ends the parse that reaches it. -/
inductive LiteralFault where
  /-- The literal is malformed, or an expression of an f-string does not parse. -/
  | malformed
  /-- An expression of an f-string nests too deeply to be parsed. -/
  | tooDeep
deriving Repr, Inhabited, BEq

/-- What is known of a string literal once its text has been checked. -/
structure Literal where
  /-- A bytes literal (prefix `b`). -/
  bytes : Bool := false
  /-- An f-string (prefix `f`): its fields are checked after the literals before it. -/
  formatted : Bool := false
  /-- The depth of the syntax tree of the literal: one for a constant, more for an f-string. -/
  depth : Nat := 1
  /-- Why the literal ends the parse that reaches it, if it does. -/
  fault : Option LiteralFault := none
deriving Repr, Inhabited, BEq

/-- A token of Python source text. -/
inductive Token where
  /-- A name or keyword, with its text. -/
  | name (text : String)
  /-- A numeric literal, with its text. -/
  | number (text : String)
  /-- A string literal, with its whole text (prefix and quotes included). -/
  | string (text : String) (lit : Literal)
  /-- An operator or delimiter, with its text. -/
  | op (text : String)
  /-- The end of a logical line. -/
  | newline
  /-- One more level of indentation. -/
  | indent
  /-- One level of indentation less. -/
  | dedent
  /-- The end of the text. -/
  | endmarker
deriving Repr, Inhabited, BEq

/-- The reserved words of the language; a name token spelled so is never a plain name. -/
def keywords : List String :=
  ["False", "None", "True", "and", "as", "assert", "async", "await", "break", "class",
   "continue", "def", "del", "elif", "else", "except", "finally", "for", "from", "global",
   "if", "import", "in", "is", "lambda", "nonlocal", "not", "or", "pass", "raise", "return",
   "try", "while", "with", "yield"]

/-- Whether a name token's text is a reserved word. -/
def isKeyword (s : String) : Bool := keywords.contains s

end SyntaxAdvisor.Python
