import SyntaxAdvisor.Python.Token
import SyntaxAdvisor.Text.Identifier

/-!
# The lexer

Cuts Python source text into tokens, by the rules of the language's reference tokenizer:

* A line's indentation is measured twice, with tabs to the next multiple of eight and with
  tabs as one column; the two measures must agree in their order with the enclosing
  indentation levels. A form feed resets both. At most 99 levels may be open.
* Lines holding only blanks and a comment, and all line ends inside brackets, produce no
  token. A backslash must end its physical line and joins it to the next.
* At most 200 brackets may be open, and each closing bracket must match the last one opened.
* Numbers, strings and names are scanned as the reference tokenizer scans them; a name may
  hold non-ASCII characters only if it is a valid identifier.

The lexer stops at the first violation and reports the tokens read before it, so that a
reader of the tokens meets the violation exactly when it asks for the token that follows.
-/

namespace SyntaxAdvisor.Python

open SyntaxAdvisor.Text

/-- An ASCII decimal digit. -/
def isDecimal (c : Char) : Bool := '0' ≤ c && c ≤ '9'

/-- An ASCII hexadecimal digit. -/
def isHexadecimal (c : Char) : Bool :=
  isDecimal c || ('a' ≤ c && c ≤ 'f') || ('A' ≤ c && c ≤ 'F')

/-- An octal digit. -/
def isOctal (c : Char) : Bool := '0' ≤ c && c ≤ '7'

/-- A binary digit. -/
def isBinary (c : Char) : Bool := c == '0' || c == '1'

/-- An ASCII letter. -/
def isAsciiLetter (c : Char) : Bool := ('a' ≤ c && c ≤ 'z') || ('A' ≤ c && c ≤ 'Z')

/-- A character that may begin a name: an ASCII letter, an underscore, or any non-ASCII
character (whose validity is checked once the whole name is read). -/
def mayStartName (c : Char) : Bool := isAsciiLetter c || c == '_' || c.toNat ≥ 128

/-- A character that may continue a name, by the same loose rule. -/
def mayContinueName (c : Char) : Bool := mayStartName c || isDecimal c

/-- The end of a run of digits of class `digit`, in which a single underscore may stand
between two digits; `none` when an underscore is not followed by a digit. -/
def digitRun (src : Array Char) (digit : Char → Bool) (i : Nat) : Option Nat :=
  if h : i < src.size then
    let c := src[i]
    if digit c then digitRun src digit (i + 1)
    else if c == '_' then
      if h2 : i + 1 < src.size then
        if digit src[i + 1] then digitRun src digit (i + 2) else none
      else none
    else some i
  else some i
termination_by src.size - i

/-- Whether the characters from `i` on start with `word`. -/
def textAt (src : Array Char) (i : Nat) (word : List Char) : Bool :=
  match word with
  | [] => true
  | w :: ws => src[i]? == some w && textAt src (i + 1) ws

/-- A number ending before position `j` is well ended: it is followed by no name character,
except where one of the words `and`, `else`, `for`, `if`, `in`, `is`, `not`, `or` begins
(such numbers are accepted with a warning). -/
def numberEndsWell (src : Array Char) (j : Nat) : Bool :=
  match src[j]? with
  | none => true
  | some c =>
    let keywordFollows :=
      (c == 'a' && textAt src (j + 1) ['n', 'd']) ||
      (c == 'e' && textAt src (j + 1) ['l', 's', 'e']) ||
      (c == 'f' && textAt src (j + 1) ['o', 'r']) ||
      (c == 'i' && (src[j + 1]? == some 'f' || src[j + 1]? == some 'n' ||
        src[j + 1]? == some 's')) ||
      (c == 'o' && textAt src (j + 1) ['r']) ||
      (c == 'n' && textAt src (j + 1) ['o', 't'])
    keywordFollows || !mayContinueName c

/-- The imaginary suffix `j` was read; the number ends at `k`. -/
def afterImaginary (src : Array Char) (k : Nat) : Option Nat :=
  if numberEndsWell src k then some k else none

/-- The exponent of a decimal number whose `e` stands at `k`. -/
def afterExponentMark (src : Array Char) (k : Nat) : Option Nat :=
  let next := src[k + 1]?
  let digitsFrom : Nat → Option Nat := fun d => do
    let j ← digitRun src isDecimal d
    match src[j]? with
    | some 'j' | some 'J' => afterImaginary src (j + 1)
    | _ => if numberEndsWell src j then some j else none
  match next with
  | some '+' | some '-' =>
    if (src[k + 2]?).any isDecimal then digitsFrom (k + 3) else none
  | some c =>
    if isDecimal c then digitsFrom (k + 2)
    else if numberEndsWell src k then some k else none
  | none => if numberEndsWell src k then some k else none

/-- The fraction of a decimal number, starting at `k` just after the point. -/
def afterPoint (src : Array Char) (k : Nat) : Option Nat := do
  let j ← if (src[k]?).any isDecimal then digitRun src isDecimal (k + 1) else some k
  match src[j]? with
  | some 'e' | some 'E' => afterExponentMark src j
  | some 'j' | some 'J' => afterImaginary src (j + 1)
  | _ => if numberEndsWell src j then some j else none

/-- A decimal number whose integer digits run to `j`. -/
def afterIntegerDigits (src : Array Char) (j : Nat) : Option Nat :=
  match src[j]? with
  | some '.' => afterPoint src (j + 1)
  | some 'e' | some 'E' => afterExponentMark src j
  | some 'j' | some 'J' => afterImaginary src (j + 1)
  | _ => if numberEndsWell src j then some j else none

/-- The digits of a prefixed integer (`0x`, `0o`, `0b`) starting at `k`: an optional
underscore, then digits of the class; a decimal digit outside the class is an error. -/
def prefixedDigits (src : Array Char) (digit : Char → Bool) (k : Nat) : Option Nat := do
  let k := if src[k]? == some '_' then k + 1 else k
  if !(src[k]?).any digit then none
  let j ← digitRun src digit (k + 1)
  if (src[j]?).any isDecimal then none
  if numberEndsWell src j then some j else none

/-- The end of the number that starts with the digit at `i`, or `none` if it is malformed. -/
def scanNumber (src : Array Char) (i : Nat) : Option Nat :=
  if src[i]? == some '0' then
    match src[i + 1]? with
    | some 'x' | some 'X' => prefixedDigits src isHexadecimal (i + 2)
    | some 'o' | some 'O' => prefixedDigits src isOctal (i + 2)
    | some 'b' | some 'B' => prefixedDigits src isBinary (i + 2)
    | _ => do
      -- zeros, possibly with single underscores between them
      let z ← zeros (i + 1) src.size
      match src[z]? with
      | some c =>
        if isDecimal c then
          let j ← digitRun src isDecimal (z + 1)
          match src[j]? with
          | some '.' | some 'e' | some 'E' | some 'j' | some 'J' => afterIntegerDigits src j
          | _ => none
        else afterIntegerDigits src z
      | none => afterIntegerDigits src z
  else do
    let j ← digitRun src isDecimal (i + 1)
    afterIntegerDigits src j
where
  /-- Skips zeros and single underscores followed by a digit, from `k`. -/
  zeros (k : Nat) : Nat → Option Nat
    | 0 => some k
    | fuel + 1 =>
      match src[k]? with
      | some '_' => if (src[k + 1]?).any isDecimal then zeros (k + 1) fuel else none
      | some '0' => zeros (k + 1) fuel
      | _ => some k

/-- The end of the string literal whose opening quote stands at `i`, or `none` if it is not
closed (a one-quote string may not cross a line end). -/
def scanString (src : Array Char) (i : Nat) : Option Nat :=
  match src[i]? with
  | none => none
  | some quote =>
    let (triple, start, closed) :=
      if src[i + 1]? == some quote then
        if src[i + 2]? == some quote then (true, i + 3, 0) else (false, i + 2, 1)
      else (false, i + 1, 0)
    if !triple && closed == 1 then some start
    else body quote triple start 0 src.size
where
  /-- Reads the body from `k`, having seen `run` closing quotes in a row. -/
  body (quote : Char) (triple : Bool) (k run : Nat) : Nat → Option Nat
    | 0 => none
    | fuel + 1 =>
      match src[k]? with
      | none => none
      | some c =>
        if !triple && c == '\n' then none
        else if c == quote then
          if !triple || run + 1 == 3 then some (k + 1)
          else body quote triple (k + 1) (run + 1) fuel
        else if c == '\\' then body quote triple (k + 2) 0 fuel
        else body quote triple (k + 1) 0 fuel

/-- The operators of three characters. -/
def threeCharOps : List String := ["**=", "//=", "<<=", ">>="]

/-- The operators of two characters (`<>` is read, and never accepted). -/
def twoCharOps : List String :=
  ["!=", "%=", "&=", "**", "*=", "+=", "-=", "->", "//", "/=", ":=", "<<", "<=", "<>", "==",
   ">=", ">>", "@=", "^=", "|="]

/-- The state of the lexer between two steps. -/
structure LexState where
  /-- The next character to read. -/
  pos : Nat
  /-- At the beginning of a physical line, before its indentation was measured. -/
  lineStart : Bool := true
  /-- The current line holds only blanks and perhaps a comment. -/
  blank : Bool := false
  /-- The open indentation levels, innermost first, each as (column, column with tabs as
  one); the outermost is `(0, 0)`. -/
  indents : List (Nat × Nat) := [(0, 0)]
  /-- The open brackets, innermost first. -/
  brackets : List Char := []
  /-- The tokens read so far. -/
  tokens : Array Token := #[]

/-- What one step of the lexer leads to. -/
inductive LexStep where
  /-- More text to read. -/
  | more (st : LexState)
  /-- The text is read to its end. -/
  | done (tokens : Array Token)
  /-- The text broke a lexical rule after these tokens. -/
  | broken (tokens : Array Token)

/-- Measures the indentation at `i`: the position after it, the column with tabs to the next
multiple of eight, the column with tabs as one, and the column at the first backslash that
joined lines (zero if none); `none` when a backslash does not end its line or ends the text. -/
def measureIndent (src : Array Char) (i col alt joined : Nat) : Nat → Option (Nat × Nat × Nat × Nat)
  | 0 => some (i, col, alt, joined)
  | fuel + 1 =>
    match src[i]? with
    | some ' ' => measureIndent src (i + 1) (col + 1) (alt + 1) joined fuel
    | some '\t' => measureIndent src (i + 1) ((col / 8 + 1) * 8) (alt + 1) joined fuel
    | some '\x0c' => measureIndent src (i + 1) 0 0 joined fuel
    | some '\\' =>
      let joined := if joined == 0 then col else joined
      if src[i + 1]? == some '\n' && (src[i + 2]?).isSome then
        measureIndent src (i + 2) col alt joined fuel
      else none
    | _ => some (i, col, alt, joined)

/-- Pops indentation levels deeper than `col`, counting them. -/
def popIndents (col : Nat) : List (Nat × Nat) → Nat → List (Nat × Nat) × Nat
  | (c, a) :: rest@(_ :: _), n => if col < c then popIndents col rest (n + 1) else ((c, a) :: rest, n)
  | levels, n => (levels, n)

/-- The maximal nesting of indentation levels. -/
def maxIndentLevels : Nat := 100

/-- The maximal nesting of brackets. -/
def maxBracketLevels : Nat := 200

/-- Handles the beginning of a line: measures its indentation and, on a line that is neither
blank nor inside brackets, opens or closes indentation levels. -/
def startLine (src : Array Char) (st : LexState) : Option LexState := do
  let (i, col, alt, joined) ← measureIndent src st.pos 0 0 0 (src.size + 1)
  let c := src[i]?
  let blank := c == some '#' || c == some '\n'
  let st := { st with pos := i, lineStart := false, blank := blank }
  if blank || !st.brackets.isEmpty then return st
  let col := if joined != 0 then joined else col
  let alt := if joined != 0 then joined else alt
  match st.indents with
  | [] => none
  | (top, topAlt) :: _ =>
    if col == top then
      if alt != topAlt then none else return st
    else if col > top then
      if st.indents.length + 1 > maxIndentLevels then none
      if alt ≤ topAlt then none
      return { st with indents := (col, alt) :: st.indents, tokens := st.tokens.push .indent }
    else
      let (levels, n) := popIndents col st.indents 0
      match levels with
      | (c', a') :: _ =>
        if col != c' || alt != a' then none
        return { st with indents := levels,
                         tokens := (List.replicate n Token.dedent).foldl Array.push st.tokens }
      | [] => none

/-- The closing bracket that matches an opening one. -/
def closerOf : Char → Char
  | '(' => ')'
  | '[' => ']'
  | _ => '}'

/-- The text of positions `i` up to `j`. -/
def slice (src : Array Char) (i j : Nat) : String := String.ofList (src.extract i j).toList

/-- Reads a name (or a prefixed string literal) starting at `i`. -/
def scanName (src : Array Char) (st : LexState) (i : Nat) : LexStep :=
  -- the letters b, r, u, f before a quote make a string prefix
  let rec prefixEnd (k : Nat) (sawB sawR sawU sawF : Bool) : Nat → Option Nat
    | 0 => none
    | fuel + 1 =>
      match src[k]? with
      | some c =>
        let next := k + 1
        let isPrefix :=
          if (c == 'b' || c == 'B') && !(sawB || sawU || sawF) then some (true, sawR, sawU, sawF)
          else if (c == 'u' || c == 'U') && !(sawB || sawU || sawR || sawF) then
            some (sawB, sawR, true, sawF)
          else if (c == 'r' || c == 'R') && !(sawR || sawU) then some (sawB, true, sawU, sawF)
          else if (c == 'f' || c == 'F') && !(sawF || sawB || sawU) then
            some (sawB, sawR, sawU, true)
          else none
        match isPrefix with
        | some (b, r, u, f) =>
          if src[next]? == some '\'' || src[next]? == some '"' then some next
          else prefixEnd next b r u f fuel
        | none => none
      | none => none
  match prefixEnd i false false false false 4 with
  | some q =>
    match scanString src q with
    | some j => .more { st with pos := j, tokens := st.tokens.push (.string (slice src i j) {}) }
    | none => .broken st.tokens
  | none =>
    let rec nameEnd (k : Nat) : Nat → Nat
      | 0 => k
      | fuel + 1 => if (src[k]?).any mayContinueName then nameEnd (k + 1) fuel else k
    let j := nameEnd i (src.size + 1)
    let text := slice src i j
    let chars := (src.extract i j).toList
    if chars.any (fun c : Char => c.toNat ≥ 128) && !isIdentifier chars then .broken st.tokens
    else .more { st with pos := j, tokens := st.tokens.push (.name text) }

/-- Reads one token, or one line end, comment or continuation, after the blanks at the
current position. -/
def scanToken (src : Array Char) (st : LexState) : LexStep :=
  let rec skipBlanks (k : Nat) : Nat → Nat
    | 0 => k
    | fuel + 1 =>
      match src[k]? with
      | some ' ' | some '\t' | some '\x0c' => skipBlanks (k + 1) fuel
      | _ => k
  let i := skipBlanks st.pos (src.size + 1)
  match src[i]? with
  | none =>
    if st.brackets.isEmpty then .done (st.tokens.push .endmarker) else .broken st.tokens
  | some c =>
    if c == '#' then
      let rec commentEnd (k : Nat) : Nat → Nat
        | 0 => k
        | fuel + 1 =>
          match src[k]? with
          | none | some '\n' => k
          | some _ => commentEnd (k + 1) fuel
      .more { st with pos := commentEnd i (src.size + 1) }
    else if c == '\n' then
      let st := { st with pos := i + 1, lineStart := true }
      if st.blank || !st.brackets.isEmpty then .more st
      else .more { st with tokens := st.tokens.push .newline }
    else if mayStartName c then scanName src st i
    else if c == '.' then
      if (src[i + 1]?).any isDecimal then
        match afterPoint src (i + 1) with
        | some j => .more { st with pos := j, tokens := st.tokens.push (.number (slice src i j)) }
        | none => .broken st.tokens
      else if textAt src (i + 1) ['.', '.'] then
        .more { st with pos := i + 3, tokens := st.tokens.push (.op "...") }
      else .more { st with pos := i + 1, tokens := st.tokens.push (.op ".") }
    else if isDecimal c then
      match scanNumber src i with
      | some j => .more { st with pos := j, tokens := st.tokens.push (.number (slice src i j)) }
      | none => .broken st.tokens
    else if c == '\'' || c == '"' then
      match scanString src i with
      | some j => .more { st with pos := j, tokens := st.tokens.push (.string (slice src i j) {}) }
      | none => .broken st.tokens
    else if c == '\\' then
      if src[i + 1]? == some '\n' && (src[i + 2]?).isSome then .more { st with pos := i + 2 }
      else .broken st.tokens
    else
      let three := slice src i (i + 3)
      let two := slice src i (i + 2)
      if threeCharOps.contains three then
        .more { st with pos := i + 3, tokens := st.tokens.push (.op three) }
      else if twoCharOps.contains two then
        .more { st with pos := i + 2, tokens := st.tokens.push (.op two) }
      else if c == '(' || c == '[' || c == '{' then
        if st.brackets.length ≥ maxBracketLevels then .broken st.tokens
        else .more { st with pos := i + 1, brackets := c :: st.brackets,
                             tokens := st.tokens.push (.op (String.singleton c)) }
      else if c == ')' || c == ']' || c == '}' then
        match st.brackets with
        | opener :: rest =>
          if closerOf opener == c then
            .more { st with pos := i + 1, brackets := rest,
                            tokens := st.tokens.push (.op (String.singleton c)) }
          else .broken st.tokens
        | [] => .broken st.tokens
      else if c.toNat < 0x20 || c.toNat == 0x7f then .broken st.tokens
      else .more { st with pos := i + 1, tokens := st.tokens.push (.op (String.singleton c)) }

/-- One step of the lexer: the start of a line if one is due, then one token. -/
def lexStep (src : Array Char) (st : LexState) : LexStep :=
  if st.lineStart then
    match startLine src st with
    | some st => scanToken src st
    | none => .broken st.tokens
  else scanToken src st

/-- The tokens of a text, and whether the text broke a lexical rule after them. -/
structure Lexed where
  /-- The tokens read. -/
  tokens : Array Token
  /-- The text broke a lexical rule right after these tokens. -/
  broken : Bool
deriving Inhabited

/-- Runs the lexer for at most `fuel` steps; each step reads at least one character. -/
def lexRun (src : Array Char) : Nat → LexState → Lexed
  | 0, st => ⟨st.tokens, true⟩
  | fuel + 1, st =>
    match lexStep src st with
    | .more st' => lexRun src fuel st'
    | .done toks => ⟨toks, false⟩
    | .broken toks => ⟨toks, true⟩

/-- Cuts source text into tokens. The text is first given a final line end if it lacks one,
as the reference tokenizer does for source given as a string. -/
def lex (text : String) : Lexed :=
  let text := if text.endsWith "\n" then text else text.push '\n'
  let src := text.toList.toArray
  lexRun src (2 * src.size + 4) { pos := 0 }

end SyntaxAdvisor.Python
