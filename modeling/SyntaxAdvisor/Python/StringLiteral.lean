import SyntaxAdvisor.Python.Lexer
import SyntaxAdvisor.Text.CharNames

/-!
# String literals

A string literal's text is checked once the lexer has cut it out:

* a bytes literal may hold ASCII characters only, and outside raw literals each `\x` must be
  followed by two hexadecimal digits;
* outside raw literals, a text literal's escapes must be well formed: `\x` takes two
  hexadecimal digits, `\u` four, `\U` eight naming a code point, and `\N{name}` the name
  of a character (`Text.isCharacterName`);
* an f-string is cut into literal text and replacement fields `{expression!c:spec}`, by the
  rules of the reference scanner: doubled braces stand for themselves at the top level, a
  lone `}` is an error, an expression may hold no backslash and no `#`, brackets and quotes
  inside it must balance, the conversion is `s`, `r` or `a`, and a specification may hold
  fields of its own, but those may not hold fields again.

The expressions of the fields are parsed later, by the recognizer itself.
-/

namespace SyntaxAdvisor.Python

/-- A string literal's text, taken apart. -/
structure LiteralText where
  /-- A bytes literal (prefix `b`). -/
  bytes : Bool
  /-- A raw literal (prefix `r`): backslashes stand for themselves. -/
  raw : Bool
  /-- An f-string (prefix `f`). -/
  formatted : Bool
  /-- The characters between the quotes. -/
  body : Array Char

/-- Takes a string token's text apart into its prefix flags and body. -/
def LiteralText.ofToken (text : String) : LiteralText :=
  let cs := text.toList
  let pre := cs.takeWhile (fun c => c != '\'' && c != '"')
  let has (l u : Char) := pre.contains l || pre.contains u
  let rest := (cs.drop pre.length).toArray
  -- `rest` runs from the opening quote to the closing one
  let inner := rest.extract 1 (rest.size - 1)
  let triple := inner.size ≥ 4 && inner[0]? == rest[0]? && inner[1]? == rest[0]?
  let body := if triple then inner.extract 2 (inner.size - 2) else inner
  { bytes := has 'b' 'B', raw := has 'r' 'R', formatted := has 'f' 'F', body := body }

/-- Whether the `n` characters from `i` are hexadecimal digits. -/
def hexDigitsAt (b : Array Char) (i n : Nat) : Bool :=
  (List.range n).all (fun k => (b[i + k]?).any isHexadecimal)

/-- The value of the `n` hexadecimal digits from `i`. -/
def hexValueAt (b : Array Char) (i n : Nat) : Nat :=
  (List.range n).foldl (fun v k => v * 16 + Text.hexDigitValue (b[i + k]?.getD '0')) 0

/-- The position after the `}` that ends a `\N{name}` escape whose name starts at `i`, if the
name is not empty and is the name of a character. -/
def namedEscapeEnd (b : Array Char) (i stop : Nat) : Option Nat :=
  let rest := (b.extract i stop).toList
  let name := rest.takeWhile (· != '}')
  if name.length < rest.length && !name.isEmpty && Text.isCharacterName name then
    some (i + name.length + 1)
  else none

/-- Whether the escapes of text literal characters `b[i:stop]` are well formed. A backslash at
the very end stands for itself. -/
def textEscapesValid (b : Array Char) (i stop : Nat) : Bool :=
  if h : i < stop then
    if b[i]? == some '\\' && i + 1 < stop then
      match b[i + 1]? with
      | some 'x' => hexDigitsAt b (i + 2) 2 && i + 4 ≤ stop && textEscapesValid b (i + 4) stop
      | some 'u' => hexDigitsAt b (i + 2) 4 && i + 6 ≤ stop && textEscapesValid b (i + 6) stop
      | some 'U' =>
        hexDigitsAt b (i + 2) 8 && i + 10 ≤ stop && hexValueAt b (i + 2) 8 ≤ 0x10FFFF &&
          textEscapesValid b (i + 10) stop
      | some 'N' =>
        if b[i + 2]? == some '{' && i + 2 < stop then
          match namedEscapeEnd b (i + 3) stop with
          | some j => if i < j then textEscapesValid b j stop else false
          | none => false
        else false
      | _ => textEscapesValid b (i + 2) stop
    else textEscapesValid b (i + 1) stop
  else true
termination_by stop - i

/-- Whether the escapes of bytes literal characters `b[i:stop]` are well formed: only `\x`
is checked. -/
def bytesEscapesValid (b : Array Char) (i stop : Nat) : Bool :=
  if h : i < stop then
    if b[i]? == some '\\' && i + 1 < stop then
      if b[i + 1]? == some 'x' then
        hexDigitsAt b (i + 2) 2 && i + 4 ≤ stop && bytesEscapesValid b (i + 4) stop
      else bytesEscapesValid b (i + 2) stop
    else bytesEscapesValid b (i + 1) stop
  else true
termination_by stop - i

/-- A replacement field of an f-string: the text of its expression, and the fields of its
format specification. -/
inductive Field where
  | mk (expr : String) (spec : List Field)
deriving Inhabited

/-- How a run of literal text in an f-string ends. -/
inductive LiteralEnd where
  /-- At a doubled brace; scanning goes on at the position given. -/
  | doubled (next : Nat)
  /-- At a single brace, which opens a field or closes a specification. -/
  | brace
  /-- At the end of the body. -/
  | finished

section
variable (b : Array Char) (stop : Nat) (raw : Bool)

/-- The position after the `}` that closes a `\N{` at `k`, or the end. -/
def skipPastClose (k : Nat) : Nat → Nat
  | 0 => k
  | fuel + 1 =>
    if k < stop then
      if b[k]? == some '}' then k + 1 else skipPastClose (k + 1) fuel
    else k

/-- Scans literal text from `s` at nesting level `lvl`: where the literal text ends and how.
Fails on a lone `}` at the top level. -/
def scanLiteral (lvl : Nat) (s : Nat) : Nat → Option (Nat × LiteralEnd)
  | 0 => none
  | fuel + 1 =>
    if s < stop then
      let ch := b[s]?.getD ' '
      let braceCheck (ch : Char) (s : Nat) : Option (Nat × LiteralEnd) :=
        if ch == '{' || ch == '}' then
          if lvl == 0 && s < stop && b[s]? == some ch then some (s, .doubled (s + 1))
          else if lvl == 0 && ch == '}' then none
          else some (s - 1, .brace)
        else scanLiteral lvl s fuel
      if !raw && ch == '\\' && s + 1 < stop then
        let ch2 := b[s + 1]?.getD ' '
        if ch2 == 'N' then
          if s + 2 < stop then
            if b[s + 2]? == some '{' then scanLiteral lvl (skipPastClose b stop (s + 3) stop) fuel
            else scanLiteral lvl (s + 3) fuel
          else scanLiteral lvl (s + 2) fuel
        else braceCheck ch2 (s + 2)
      else braceCheck ch (s + 1)
    else some (s, .finished)

/-- Whether literal text `b[i:j]` of an f-string is well formed. -/
def literalValid (i j : Nat) : Bool := raw || textEscapesValid b i j

/-- The characters that end an expression at bracket depth zero. -/
def endsExpression (c : Char) : Bool := "!:\x7d=<>".toList.contains c

/-- Scans the expression of a field from `s` (just after its `{`): where it ends, or `none`
when it holds a backslash or `#`, or leaves a quote or bracket open or a closing bracket
unmatched. `quote` is the open quote and whether it is tripled; `parens` the open brackets. -/
def scanExpression (s : Nat) (quote : Option (Char × Bool)) (parens : List Char) :
    Nat → Option Nat
  | 0 => none
  | fuel + 1 =>
    if s < stop then
      let ch := b[s]?.getD ' '
      if ch == '\\' then none
      else match quote with
        | some (q, triple) =>
          if ch == q then
            if triple then
              if s + 2 < stop && b[s + 1]? == some q && b[s + 2]? == some q then
                scanExpression (s + 3) none parens fuel
              else scanExpression (s + 1) quote parens fuel
            else scanExpression (s + 1) none parens fuel
          else scanExpression (s + 1) quote parens fuel
        | none =>
          if ch == '\'' || ch == '"' then
            if s + 2 < stop && b[s + 1]? == some ch && b[s + 2]? == some ch then
              scanExpression (s + 3) (some (ch, true)) parens fuel
            else scanExpression (s + 1) (some (ch, false)) parens fuel
          else if ch == '[' || ch == '{' || ch == '(' then
            if parens.length ≥ 200 then none
            else scanExpression (s + 1) quote (ch :: parens) fuel
          else if ch == '#' then none
          else if parens.isEmpty && endsExpression ch then
            let next := b[s + 1]?
            if s + 1 < stop && next == some '=' && (ch == '!' || ch == '=' || ch == '<' || ch == '>') then
              scanExpression (s + 2) quote parens fuel
            else if ch == '<' || ch == '>' then scanExpression (s + 1) quote parens fuel
            else some s
          else if ch == ']' || ch == '}' || ch == ')' then
            match parens with
            | opener :: rest => if closerOf opener == ch then scanExpression (s + 1) quote rest fuel
                                else none
            | [] => none
          else scanExpression (s + 1) quote parens fuel
    else if quote.isSome || !parens.isEmpty then none else some s

/-- The blanks that an expression may consist of and still be empty. -/
def isExpressionBlank (c : Char) : Bool := c == ' ' || c == '\t' || c == '\n' || c == '\x0c'

/-- The blanks skipped after `=` in a field. -/
def isAsciiSpace (c : Char) : Bool :=
  c == ' ' || c == '\t' || c == '\n' || c == '\r' || c == '\x0b' || c == '\x0c'

/-- The position of the first character from `s` that is not an ASCII blank. -/
def skipSpaces (s : Nat) : Nat → Nat
  | 0 => s
  | fuel + 1 => if s < stop && (b[s]?).any isAsciiSpace then skipSpaces (s + 1) fuel else s

mutual

/-- Reads the fields of an f-string body from `s` at nesting level `lvl` (zero at the top,
one in a format specification): the position where reading stopped and the fields. At the
top level reading must reach the end; in a specification it must stop at a `}`. -/
def parseFields (lvl : Nat) (s : Nat) (acc : List Field) : Nat → Option (Nat × List Field)
  | 0 => none
  | fuel + 1 => do
    let (litEnd, how) ← scanLiteral b stop raw lvl s (stop + 1)
    if !literalValid b raw s litEnd then none
    match how with
    | .doubled next => parseFields lvl next acc fuel
    | .finished => if lvl == 0 then some (stop, acc.reverse) else none
    | .brace =>
      if b[litEnd]? == some '}' then
        if lvl == 0 then none else some (litEnd, acc.reverse)
      else
        let (next, field) ← parseField lvl litEnd fuel
        parseFields lvl next (field :: acc) fuel

/-- Reads one field whose `{` stands at `s`: the position after its `}` and the field. -/
def parseField (lvl : Nat) (s : Nat) : Nat → Option (Nat × Field)
  | 0 => none
  | fuel + 1 => do
    if lvl ≥ 2 then none
    let start := s + 1
    let e ← scanExpression b stop start none [] (stop + 1)
    if e ≥ stop then none
    let text := (b.extract start e).toList
    if text.all isExpressionBlank then none
    let mut k := e
    if b[k]? == some '=' then
      k := skipSpaces b stop (k + 1) (stop + 1)
      if k ≥ stop then none
    if b[k]? == some '!' then
      if k + 1 ≥ stop then none
      let conv := b[k + 1]?.getD ' '
      if !(conv == 's' || conv == 'r' || conv == 'a') then none
      k := k + 2
    let mut spec : List Field := []
    if k < stop && b[k]? == some ':' then
      if k + 1 ≥ stop then none
      let (k', fields) ← parseFields (lvl + 1) (k + 1) [] fuel
      k := k'
      spec := fields
    if k ≥ stop || b[k]? != some '}' then none
    return (k + 1, Field.mk (String.ofList text) spec)

end

end

/-- Checks a string token's text: `none` if the literal is malformed, else the fields of the
f-string (none for other literals). -/
def LiteralText.fields (lit : LiteralText) : Option (List Field) :=
  let b := lit.body
  if lit.bytes then
    if b.any (fun c => c.toNat ≥ 128) then none
    else if !lit.raw && !bytesEscapesValid b 0 b.size then none
    else some []
  else if lit.formatted then
    (parseFields b b.size lit.raw 0 0 [] (2 * b.size + 2)).map (·.2)
  else if !lit.raw && !textEscapesValid b 0 b.size then none
  else some []

end SyntaxAdvisor.Python
