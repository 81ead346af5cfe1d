import SyntaxAdvisor.Yaml.Token
import SyntaxAdvisor.Yaml.Stack
import SyntaxAdvisor.Text.Utf8
import SyntaxAdvisor.Text.Ranges

/-!
# Cutting YAML text into tokens

A token stream reads a YAML text from left to right and hands out its tokens on demand. Tokens
are cut only as far as a reader asks for them, so an error late in the text is met only if the
reader gets that far.

Most of the work is local: indicators, scalars, anchors, tags. Two things need memory:

* **Indentation.** Block collections are opened by indentation and closed when it falls back.
  The stream keeps the stack of open indentation columns, and emits a block end for each column
  left behind. In flow context (inside brackets) indentation is ignored.
* **Keys without `?`.** A scalar, alias, anchor, tag or flow collection may turn out to be a
  mapping key once a `:` follows on the same line, within 1024 characters. The stream remembers
  one such possible key per flow level, and only hands out tokens from the place where such a key
  begins once it knows whether a key token goes in front. A key that must be a key (in block
  context at the current indentation) and is given up is an error.

The text ends with the character `\0`, which stands for the end.

Every step of the scanner is also a step of the loader's calls (`Stack`): each function below
that stands for a function of the loader enters a call (`call`), and the reader's moves through
the text (`peek`, `lookAhead`, `forward`, `here`) are calls of their own, which refill the
buffer (`Window`) when they reach past it. The possible keys are kept by flow level in a table
that compares levels by value; a level above 256 is a number made anew each time the level
changes, so looking up a key saved before the last change compares two numbers (`keyCompared`).
-/

namespace SyntaxAdvisor.Yaml

/-- Whether a character breaks a line. -/
def isBreak (c : Char) : Bool :=
  c == '\r' || c == '\n' || c == '\x85' || c == '\u2028' || c == '\u2029'

/-- A line break or the end of the text. -/
def isBreakOrEnd (c : Char) : Bool := c == '\x00' || isBreak c

/-- A blank, a line break or the end of the text. -/
def isSpaceOrEnd (c : Char) : Bool := c == ' ' || isBreakOrEnd c

/-- A blank or tab, a line break or the end of the text. -/
def isBlankOrEnd (c : Char) : Bool := c == '\t' || isSpaceOrEnd c

/-- A character of an anchor, an alias or a directive name: an ASCII letter or digit, `-`
or `_`. -/
def isWordChar (c : Char) : Bool := c.isAlphanum || c == '-' || c == '_'

/-- An ASCII hexadecimal digit. -/
def isHexDigit (c : Char) : Bool :=
  c.isDigit || ('a' ≤ c && c ≤ 'f') || ('A' ≤ c && c ≤ 'F')

/-- A character that may stand in a tag. -/
def isUriChar (c : Char) : Bool := c.isAlphanum || "-;/?:@&=+$,_.!~*'()[]%".contains c

/-- The quoted form of a character, as messages show it. -/
def quoteChar (c : Char) : String := quoteText (String.singleton c)

/-- The character that an escape `\c` stands for in a double-quoted scalar. -/
def escapeReplacement : Char → Option Char
  | '0' => some '\x00'
  | 'a' => some '\x07'
  | 'b' => some '\x08'
  | 't' => some '\t'
  | '\t' => some '\t'
  | 'n' => some '\n'
  | 'v' => some '\x0b'
  | 'f' => some '\x0c'
  | 'r' => some '\r'
  | 'e' => some '\x1b'
  | ' ' => some ' '
  | '"' => some '"'
  | '\\' => some '\\'
  | '/' => some '/'
  | 'N' => some '\x85'
  | '_' => some '\xa0'
  | 'L' => some '\u2028'
  | 'P' => some '\u2029'
  | _ => none

/-- The number of hexadecimal digits an escape `\x`, `\u` or `\U` takes. -/
def escapeCodeLength : Char → Option Nat
  | 'x' => some 2
  | 'u' => some 4
  | 'U' => some 8
  | _ => none

/-- A place where a key without `?` may have begun. -/
structure SimpleKey where
  /-- The number of the token that would follow the key token. -/
  tokenNumber : Nat
  /-- Whether it must turn out to be a key. -/
  required : Bool
  /-- The index of its first character. -/
  index : Nat
  /-- Its line. -/
  line : Nat
  /-- Its column. -/
  column : Nat
  /-- Its mark. -/
  mark : Mark
  /-- How many times the flow level had changed when the key was saved. -/
  epoch : Nat := 0
deriving Inhabited

/-- The state of cutting a text into tokens. -/
structure TokenStream where
  /-- The text, ending with `\0`. -/
  text : Array Char
  /-- The index of the next character. -/
  index : Nat := 0
  /-- Its line. -/
  line : Nat := 0
  /-- Its column. -/
  column : Nat := 0
  /-- Whether the end of the text has been cut. -/
  done : Bool := false
  /-- How deep in brackets the stream is; a stray closing bracket makes it negative. -/
  flowLevel : Int := 0
  /-- How many times the flow level has changed. -/
  flowEpoch : Nat := 0
  /-- The tokens cut and not yet handed out. -/
  pending : List Token := []
  /-- How many tokens have been handed out. -/
  taken : Nat := 0
  /-- The current indentation column, `-1` outside any block collection. -/
  indent : Int := -1
  /-- The columns of the enclosing block collections, innermost first. -/
  indents : List Int := []
  /-- Whether a key without `?` may begin here. -/
  allowSimpleKey : Bool := true
  /-- The possible keys, by flow level, oldest first. -/
  simpleKeys : List (Int × SimpleKey) := []
  /-- How far the stream has looked: one past the last character it has examined, or past
  the character after one it has moved over. The text must have been read this far. -/
  reach : Nat := 0
  /-- The calls of the loader. -/
  stack : Stack := {}
  /-- The reader's buffer. -/
  window : Window := {}
deriving Inhabited

namespace TokenStream

/-- The character `k` places ahead; `\0` past the end. -/
def peekAt (s : TokenStream) (k : Nat) : Char := s.text.getD (s.index + k) '\x00'

/-- Notes that the stream has looked at the `k` characters ahead. -/
def touch (s : TokenStream) (k : Nat) : TokenStream := { s with reach := max s.reach (s.index + k) }

/-- The next `k` characters. -/
def slice (s : TokenStream) (k : Nat) : String :=
  String.ofList (s.text.extract s.index (s.index + k)).toList

/-- The position of the next character. -/
def mark (s : TokenStream) : Mark := ⟨s.index, s.line, s.column⟩

/-- Moves past one character, counting lines and columns; a byte order mark takes no
column. -/
def advance (s : TokenStream) : TokenStream :=
  let c := s.peekAt 0
  let s := s.touch 2
  if c == '\n' || c == '\x85' || c == '\u2028' || c == '\u2029' ||
      (c == '\r' && s.peekAt 1 != '\n') then
    { s with index := s.index + 1, line := s.line + 1, column := 0 }
  else if c == '\uFEFF' then { s with index := s.index + 1 }
  else { s with index := s.index + 1, column := s.column + 1 }

/-- Moves past `k` characters. -/
def skip (s : TokenStream) : Nat → TokenStream
  | 0 => s
  | k + 1 => s.advance.skip k

/-- The smallest token number of the possible keys. -/
def nextSimpleKey (s : TokenStream) : Option Nat :=
  s.simpleKeys.foldl (fun m (_, k) => match m with
    | none => some k.tokenNumber
    | some n => some (Nat.min n k.tokenNumber)) none

/-- Whether a possible key can no longer be a key: it is on an earlier line or too far back. -/
def isStale (s : TokenStream) (k : SimpleKey) : Bool :=
  k.line != s.line || s.index - k.index > 1024

/-- Whether looking up the possible key `k` of the current flow level compares two numbers: the
level is not one of the numbers kept once for all (from -5 to 256), and it has changed since the
key was saved, so the table holds an equal number that is not the same one. -/
def keyCompared (s : TokenStream) (k : SimpleKey) : Bool :=
  (s.flowLevel < -5 || s.flowLevel > 256) && k.epoch != s.flowEpoch

/-- The possible keys without the one of flow level `level`. -/
def dropLevel (level : Int) (ks : List (Int × SimpleKey)) : List (Int × SimpleKey) :=
  ks.filter fun p => p.1 != level

/-- A bound on the steps of any loop over the text. -/
def fuel (s : TokenStream) : Nat := s.text.size + 2

end TokenStream

/-- Cutting tokens: a computation on the stream that may fail, the stream keeping what was read
up to the failure. -/
abbrev ScanM := ExceptT LoadError (StateM TokenStream)

namespace TokenStream

/-! ## Calls -/

/-- Takes steps nested below the current call: fails with a recursion error at the first that
goes past the limit. -/
def steps (p : Steps) : ScanM Unit := do
  match (← get).stack.overflow p with
  | some o => throw (.foreign (.recursionError o.message))
  | none => pure ()

/-- Enters a function called by the current one. -/
def enterCall : ScanM Unit := do
  steps Steps.enter
  modify fun s => { s with stack := s.stack.enter }

/-- Returns from the current function to its caller. -/
def leaveCall : ScanM Unit := modify fun s => { s with stack := s.stack.leave }

/-- Runs `body` as a function called by the current one. -/
def call (body : ScanM α) : ScanM α := do
  enterCall
  let r ← body
  leaveCall
  return r

/-- Makes an object of a class whose initializer is a function: a token, a possible key or an
error. -/
def made : ScanM Unit := steps Steps.make

/-! ## The reader -/

/-- Refills the buffer when fewer than `length` characters wait there: reads of the file (each
a call, which calls the file's buffer and its decoder, a function, when it needs a new chunk
decoded) and checks of what was read (a call that runs a search), until enough wait or the end
mark is in. Whether enough wait is a
comparison that is never made inline: the jump after it is too long to be fused with it. -/
def refill (length : Nat) : ScanM Unit := call do
  if (← get).window.closed then return
  go ((← get).window.size / blockChars + 2)
where
  go : Nat → ScanM Unit
    | 0 => pure ()
    | n + 1 => do
      steps [.compare]
      let s ← get
      if s.window.loaded - s.index ≥ length then return
      call (if s.window.nextChunked then steps [.call, .frame] else pure ())
      modify fun s => { s with window := s.window.read }
      call (steps [.call])
      if (← get).window.closed then return
      go n

/-- The character `k` places ahead, refilling the buffer when it does not reach that far. -/
def peek (k : Nat := 0) : ScanM Char := call do
  let s ← get
  if s.index + k ≥ s.window.ending then refill (k + 1)
  modify (·.touch (k + 1))
  return (← get).peekAt k

/-- The next `k` characters, refilling the buffer when it does not hold them all. -/
def lookAhead (k : Nat) : ScanM String := call do
  let s ← get
  if s.index + k ≥ s.window.ending then refill k
  modify (·.touch k)
  return (← get).slice k

/-- Moves past `k` characters, first refilling the buffer when it does not reach past them. -/
def forward (k : Nat := 1) : ScanM Unit := call do
  let s ← get
  if s.index + k + 1 ≥ s.window.ending then refill (k + 1)
  modify (·.skip k)

/-- A new mark of the position of the next character. -/
def here : ScanM Mark := do
  steps Steps.mark
  return (← get).mark

/-- Counts the characters ahead that satisfy `p`, asking for each in turn and for the one after
the last. -/
def countAhead (p : Char → Bool) : ScanM Nat := do go (← get).fuel 0
where
  go : Nat → Nat → ScanM Nat
    | 0, k => pure k
    | n + 1, k => do if p (← peek k) then go n (k + 1) else pure k

/-- Moves past the characters ahead that satisfy `p`, one at a time, asking for each first. -/
def skipWhile (p : Char → Bool) : ScanM Unit := do go (← get).fuel
where
  go : Nat → ScanM Unit
    | 0 => pure ()
    | n + 1 => do
      if p (← peek) then
        forward 1
        go n

/-- Takes the characters ahead that satisfy `p`: counted, then taken and moved past. -/
def takeWhile (p : Char → Bool) : ScanM String := do
  let n ← countAhead p
  let text ← lookAhead n
  forward n
  return text

/-- Whether a document marker `---` or `...` stands ahead, followed by a blank or the end: the
three characters are taken, and the one after when they are a marker. -/
def atMarker : ScanM Bool := do
  let three ← lookAhead 3
  if three == "---" || three == "..." then return isBlankOrEnd (← peek 3)
  return false

/-! ## Failing -/

/-- Fails at the current position: its mark is made, then the error. -/
def fail (context : Option String) (contextMark : Option Mark) (problem : String) :
    ScanM α := do
  let m ← here
  made
  throw (.marked { context, contextMark, problem := some problem, problemMark := some m })

/-- Fails at the current position with a message that shows the representation of a value,
written before the position's mark is made. -/
def failShowing (context : Option String) (contextMark : Option Mark) (problem : String) :
    ScanM α := do
  steps [.repr]
  fail context contextMark problem

/-- Sets whether a key without `?` may begin here. -/
def setAllowSimpleKey (b : Bool) : ScanM Unit := modify ({ · with allowSimpleKey := b })

/-- Adds a token at the end of the pending tokens. -/
def push (t : Token) : ScanM Unit := modify fun s => { s with pending := s.pending ++ [t] }

/-- Inserts a token among the pending ones, in front of the token numbered `number`. -/
def insertBefore (number : Nat) (t : Token) : ScanM Unit :=
  modify fun s => { s with pending := s.pending.insertIdx (number - s.taken) t }

/-- Changes the flow level by `d`. -/
def shiftFlowLevel (d : Int) : ScanM Unit :=
  modify fun s => { s with flowLevel := s.flowLevel + d, flowEpoch := s.flowEpoch + 1 }

/-- Moves past one line break, giving the break it stands for: `\r\n`, `\r`, `\n` and `\x85`
stand for `\n`, the line and paragraph separators for themselves, and no break for nothing. -/
def lineBreak : ScanM String := call do
  let c ← peek
  if c == '\r' || c == '\n' || c == '\x85' then
    if (← lookAhead 2) == "\r\n" then forward 2 else forward 1
    return "\n"
  else if c == '\u2028' || c == '\u2029' then
    forward 1
    return String.singleton c
  else return ""

/-- Skips blanks, comments and line breaks up to the next token; a line break in block context
allows a key again. A byte order mark at the very start is skipped too. -/
def skipToToken : ScanM Unit := call do
  if (← get).index == 0 then
    if (← peek) == '\uFEFF' then forward 1
  go (← get).fuel
where
  go : Nat → ScanM Unit
    | 0 => pure ()
    | n + 1 => do
      skipWhile (· == ' ')
      if (← peek) == '#' then skipWhile (fun c => !isBreakOrEnd c)
      if (← lineBreak) != "" then
        if (← get).flowLevel == 0 then setAllowSimpleKey true
        go n
      else pure ()

/-! ## Possible keys and indentation -/

/-- The error of a key that had to be a key and is given up. -/
def keyNotFound (k : SimpleKey) : ScanM α :=
  fail (some "while scanning a simple key") (some k.mark) "could not find expected ':'"

/-- Forgets the possible keys that can no longer be keys. -/
def dropStaleKeys : ScanM Unit := call do
  let s ← get
  match s.simpleKeys.find? (fun (_, k) => s.isStale k && k.required) with
  | some (_, k) => keyNotFound k
  | none => set { s with simpleKeys := s.simpleKeys.filter fun (_, k) => !s.isStale k }

/-- The smallest token number of the possible keys, found by a call. -/
def nearestKey : ScanM (Option Nat) := call do
  return (← get).nextSimpleKey

/-- Forgets the possible key of the current flow level. -/
def removeSimpleKey : ScanM Unit := call do
  let s ← get
  match s.simpleKeys.lookup s.flowLevel with
  | some k =>
    if s.keyCompared k then steps [.compare]
    if k.required then keyNotFound k
    set { s with simpleKeys := dropLevel s.flowLevel s.simpleKeys }
  | none => pure ()

/-- Remembers that the next token may begin a key, if keys are allowed here. In block context
whether it must be a key is found by a comparison that is not made inline. -/
def saveSimpleKey : ScanM Unit := call do
  let s ← get
  if s.flowLevel == 0 then steps [.compare]
  let required := s.flowLevel == 0 && s.indent == (s.column : Int)
  if s.allowSimpleKey then
    removeSimpleKey
    let m ← here
    made
    let s ← get
    let k : SimpleKey := { tokenNumber := s.taken + s.pending.length, required,
                           index := s.index, line := s.line, column := s.column, mark := m,
                           epoch := s.flowEpoch }
    set { s with simpleKeys := dropLevel s.flowLevel s.simpleKeys ++ [(s.flowLevel, k)] }

/-- In block context, closes the block collections indented deeper than `column`, one block end
each. -/
def unwindIndent (column : Int) : ScanM Unit := call do
  if (← get).flowLevel != 0 then return
  go (← get).indents.length
where
  go : Nat → ScanM Unit
    | 0 => pure ()
    | n + 1 => do
      let s ← get
      if s.indent > column then
        let m ← here
        made
        modify fun s => { s with indent := s.indents.headD (-1), indents := s.indents.drop 1,
                                 pending := s.pending ++ [⟨.blockEnd, m, m⟩] }
        go n

/-- Opens a block collection at `column` if it is deeper than the current one. -/
def addIndent (column : Int) : ScanM Bool := call do
  let s ← get
  if s.indent < column then
    set { s with indents := s.indent :: s.indents, indent := column }
    return true
  else return false

/-- Cuts the token of an indicator of `k` characters. -/
def indicator (kind : TokenKind) (k : Nat := 1) : ScanM Unit := do
  let start ← here
  forward k
  let stop ← here
  made
  push ⟨kind, start, stop⟩

/-! ## Directives -/

/-- The name of a directive. -/
def directiveName (start : Mark) : ScanM String := call do
  let n ← countAhead isWordChar
  if n == 0 then
    failShowing (some "while scanning a directive") (some start)
      ("expected alphabetic or numeric character, but found " ++ quoteChar ((← get).peekAt 0))
  let name ← lookAhead n
  forward n
  let c ← peek
  if !isSpaceOrEnd c then
    failShowing (some "while scanning a directive") (some start)
      ("expected alphabetic or numeric character, but found " ++ quoteChar c)
  return name

/-- A number of a `%YAML` directive. -/
def versionNumber (start : Mark) : ScanM Nat := call do
  let c ← peek
  if !c.isDigit then
    failShowing (some "while scanning a directive") (some start)
      ("expected a digit, but found " ++ quoteChar c)
  let n ← countAhead Char.isDigit
  let ds ← lookAhead n
  steps [.call]
  forward n
  return ds.foldl (fun n d => n * 10 + (d.toNat - '0'.toNat)) 0

/-- The version of a `%YAML` directive. -/
def versionValue (start : Mark) : ScanM DirectiveValue := call do
  skipWhile (· == ' ')
  let major ← versionNumber start
  if (← peek) != '.' then
    let c ← peek
    failShowing (some "while scanning a directive") (some start)
      ("expected a digit or '.', but found " ++ quoteChar c)
  forward 1
  let minor ← versionNumber start
  if !isSpaceOrEnd (← peek) then
    let c ← peek
    failShowing (some "while scanning a directive") (some start)
      ("expected a digit or ' ', but found " ++ quoteChar c)
  return .version major minor

/-- A tag handle: `!`, `!!` or `!word!`. -/
def tagHandle (name : String) (start : Mark) : ScanM String := call do
  let c ← peek
  if c != '!' then
    failShowing (some ("while scanning a " ++ name)) (some start)
      ("expected '!', but found " ++ quoteChar c)
  let length ← if (← peek 1) != ' ' then do
      let n := 1 + (← go (← get).fuel 1)
      let c ← peek n
      if c != '!' then
        forward n
        failShowing (some ("while scanning a " ++ name)) (some start)
          ("expected '!', but found " ++ quoteChar c)
      pure (n + 1)
    else pure 1
  let handle ← lookAhead length
  forward length
  return handle
where
  /-- The number of word characters from `k` places ahead on, each asked for in turn. -/
  go : Nat → Nat → ScanM Nat
    | 0, _ => pure 0
    | n + 1, k => do if isWordChar (← peek k) then return 1 + (← go n (k + 1)) else return 0

/-- The text of `%xx` escapes in a tag, read as UTF-8. -/
def uriEscapes (name : String) (start : Mark) : ScanM String := call do
  let m ← here
  let bytes ← go (← get).fuel []
  steps [.call]
  match Text.decodeUtf8 bytes with
  | .ok cs => return String.ofList cs
  | .error e =>
    made
    throw (.marked { context := some ("while scanning a " ++ name), contextMark := some start,
                     problem := some e.message, problemMark := some m })
where
  go : Nat → List UInt8 → ScanM (List UInt8)
    | 0, acc => pure acc
    | n + 1, acc => do
      if (← peek) != '%' then return acc
      forward 1
      for k in [0:2] do
        if !isHexDigit (← peek k) then
          let c ← peek k
          failShowing (some ("while scanning a " ++ name)) (some start)
            ("expected URI escape sequence of 2 hexdecimal numbers, but found " ++ quoteChar c)
      let digits ← lookAhead 2
      steps [.call]
      forward 2
      go n (acc ++ [(Text.hexValue digits).toUInt8])

/-- The text of a tag: URI characters, with `%xx` escapes read. -/
def tagUri (name : String) (start : Mark) : ScanM String := call do
  let (text, any) ← go (← get).fuel "" false 0
  if !any then
    failShowing (some ("while parsing a " ++ name)) (some start)
      ("expected URI, but found " ++ quoteChar ((← get).peekAt 0))
  steps [.call]
  return text
where
  /-- Reads from `length` URI characters ahead on: the text so far and whether any part was
  taken. -/
  go : Nat → String → Bool → Nat → ScanM (String × Bool)
    | 0, acc, any, _ => pure (acc, any)
    | n + 1, acc, any, length => do
      let c ← peek length
      if isUriChar c then
        if c == '%' then
          let part ← lookAhead length
          forward length
          let decoded ← uriEscapes name start
          go n (acc ++ part ++ decoded) true 0
        else go n acc any (length + 1)
      else if length > 0 then
        let part ← lookAhead length
        forward length
        pure (acc ++ part, true)
      else pure (acc, any)

/-- The handle of a `%TAG` directive, which a blank must follow. -/
def tagDirectiveHandle (start : Mark) : ScanM String := call do
  let handle ← tagHandle "directive" start
  let c ← peek
  if c != ' ' then
    failShowing (some "while scanning a directive") (some start) ("expected ' ', but found " ++ quoteChar c)
  return handle

/-- The prefix of a `%TAG` directive, which a blank or a line end must follow. -/
def tagDirectivePrefix (start : Mark) : ScanM String := call do
  let pfx ← tagUri "directive" start
  let c ← peek
  if !isSpaceOrEnd c then
    failShowing (some "while scanning a directive") (some start) ("expected ' ', but found " ++ quoteChar c)
  return pfx

/-- The handle and prefix of a `%TAG` directive. -/
def tagDirectiveValue (start : Mark) : ScanM DirectiveValue := call do
  skipWhile (· == ' ')
  let handle ← tagDirectiveHandle start
  skipWhile (· == ' ')
  let pfx ← tagDirectivePrefix start
  return .tagPrefix handle pfx

/-- Skips the rest of a directive's line: blanks and a comment. -/
def directiveLineEnd (start : Mark) : ScanM Unit := call do
  skipWhile (· == ' ')
  if (← peek) == '#' then skipWhile (fun c => !isBreakOrEnd c)
  let c ← peek
  if !isBreakOrEnd c then
    failShowing (some "while scanning a directive") (some start)
      ("expected a comment or a line break, but found " ++ quoteChar c)
  discard lineBreak

/-- A directive. -/
def directive : ScanM Token := call do
  let start ← here
  forward 1
  let name ← directiveName start
  let (value, stop) ← if name == "YAML" then do
      let v ← versionValue start
      pure (v, ← here)
    else if name == "TAG" then do
      let v ← tagDirectiveValue start
      pure (v, ← here)
    else do
      let stop ← here
      skipWhile (fun c => !isBreakOrEnd c)
      pure (DirectiveValue.other, stop)
  directiveLineEnd start
  made
  return ⟨.directive name value, start, stop⟩

/-! ## Anchors, aliases and tags -/

/-- An anchor `&name` or an alias `*name`. -/
def anchorOrAlias (isAlias : Bool) : ScanM Token := call do
  let start ← here
  let what := if isAlias then "alias" else "anchor"
  discard peek
  forward 1
  let n ← countAhead isWordChar
  if n == 0 then
    failShowing (some ("while scanning an " ++ what)) (some start)
      ("expected alphabetic or numeric character, but found " ++ quoteChar ((← get).peekAt 0))
  let name ← lookAhead n
  forward n
  let c ← peek
  if !(isBlankOrEnd c || "?:,]\x7d%@`".contains c) then
    failShowing (some ("while scanning an " ++ what)) (some start)
      ("expected alphabetic or numeric character, but found " ++ quoteChar c)
  let stop ← here
  made
  return ⟨if isAlias then .alias name else .anchor name, start, stop⟩

/-- Whether a `!` comes before the next blank, asking for the characters from `k` places ahead
on. -/
def handleAhead : Nat → Nat → ScanM Bool
  | 0, _ => pure false
  | n + 1, k => do
    let c ← peek k
    if isSpaceOrEnd c then return false
    if c == '!' then return true
    handleAhead n (k + 1)

/-- A tag: `!<uri>`, a lone `!`, or a handle and a suffix. -/
def tag : ScanM Token := call do
  let start ← here
  let c ← peek 1
  let (handle, suffix) ← if c == '<' then do
      forward 2
      let suffix ← tagUri "tag" start
      if (← peek) != '>' then
        let c ← peek
        failShowing (some "while parsing a tag") (some start) ("expected '>', but found " ++ quoteChar c)
      forward 1
      pure (none, suffix)
    else if isBlankOrEnd c then do
      forward 1
      pure (none, "!")
    else do
      let useHandle ← if isSpaceOrEnd c then pure false
        else if c == '!' then pure true
        else handleAhead (← get).fuel 2
      let handle ← if useHandle then tagHandle "tag" start else do
        forward 1
        pure "!"
      let suffix ← tagUri "tag" start
      pure (some handle, suffix)
  let c ← peek
  if !isSpaceOrEnd c then
    failShowing (some "while scanning a tag") (some start) ("expected ' ', but found " ++ quoteChar c)
  let stop ← here
  made
  return ⟨.tag handle suffix, start, stop⟩

/-! ## Block scalars -/

/-- The header of a block scalar: the chomping (`+` keeps, `-` strips) and the indentation
increment, in either order. -/
def blockHeader (start : Mark) : ScanM (Option Bool × Option Nat) := call do
  let zero : ScanM Unit := fail (some "while scanning a block scalar") (some start)
    "expected indentation indicator in the range 1-9, but found 0"
  let c ← peek
  let result ← if c == '+' || c == '-' then do
      forward 1
      let d ← peek
      if d.isDigit then
        steps [.call]
        if d == '0' then zero
        forward 1
        pure (some (c == '+'), some (d.toNat - '0'.toNat))
      else pure (some (c == '+'), none)
    else if c.isDigit then do
      steps [.call]
      if c == '0' then zero
      forward 1
      let d ← peek
      if d == '+' || d == '-' then
        forward 1
        pure (some (d == '+'), some (c.toNat - '0'.toNat))
      else pure (none, some (c.toNat - '0'.toNat))
    else pure (none, none)
  let c ← peek
  if !isSpaceOrEnd c then
    failShowing (some "while scanning a block scalar") (some start)
      ("expected chomping or indentation indicators, but found " ++ quoteChar c)
  return result

/-- Skips the rest of a block scalar's header line: blanks and a comment. -/
def blockHeaderEnd (start : Mark) : ScanM Unit := call do
  skipWhile (· == ' ')
  if (← peek) == '#' then skipWhile (fun c => !isBreakOrEnd c)
  let c ← peek
  if !isBreakOrEnd c then
    failShowing (some "while scanning a block scalar") (some start)
      ("expected a comment or a line break, but found " ++ quoteChar c)
  discard lineBreak

/-- The empty lines before a block scalar's first line, and the deepest indentation among
them: the breaks, that column, and the mark after the last break. -/
def blockIndentation : ScanM (String × Nat × Mark) := call do
  go (← get).fuel "" 0 (← here)
where
  go : Nat → String → Nat → Mark → ScanM (String × Nat × Mark)
    | 0, acc, deepest, m => pure (acc, deepest, m)
    | n + 1, acc, deepest, m => do
      let c ← peek
      if c == ' ' || isBreak c then
        if (← peek) != ' ' then
          let b ← lineBreak
          go n (acc ++ b) deepest (← here)
        else
          forward 1
          go n acc (Nat.max deepest (← get).column) m
      else pure (acc, deepest, m)

/-- Skips blanks up to column `indent`. -/
def skipIndentation (indent : Int) : ScanM Unit := do go (← get).fuel
where
  go : Nat → ScanM Unit
    | 0 => pure ()
    | n + 1 => do
      if ((← get).column : Int) < indent then
        if (← peek) == ' ' then
          forward 1
          go n

/-- The line breaks (and indentation up to `indent`) that follow, and the mark after the last
break. -/
def blockBreaks (indent : Int) : ScanM (String × Mark) := call do
  let m ← here
  skipIndentation indent
  go (← get).fuel "" m
where
  go : Nat → String → Mark → ScanM (String × Mark)
    | 0, acc, m => pure (acc, m)
    | n + 1, acc, m => do
      if isBreak (← peek) then
        let b ← lineBreak
        let m ← here
        skipIndentation indent
        go n (acc ++ b) m
      else pure (acc, m)

/-- Whether the next line of a block scalar goes on: it stands at the scalar's indentation and
is not the end of the text. -/
def blockGoesOn (indent : Int) : ScanM Bool := do
  if ((← get).column : Int) == indent then return (← peek) != '\x00'
  return false

/-- The lines of a block scalar at indentation `indent`: the text, the last line break, the
breaks after it, and the end mark. A folded scalar joins two lines that start with a non-blank
by a space when no empty line stands between them. -/
def blockLines (folded : Bool) (indent : Int) :
    Nat → String → String → String → Mark → ScanM (String × String × String × Mark)
  | 0, acc, lb, breaks, m => pure (acc, lb, breaks, m)
  | n + 1, acc, lb, breaks, m => do
    if !(← blockGoesOn indent) then return (acc, lb, breaks, m)
    let first ← peek
    let leadingNonBlank := first != ' ' && first != '\t'
    let line ← takeWhile (fun c => !isBreakOrEnd c)
    let lb ← lineBreak
    let (breaks', m) ← blockBreaks indent
    let acc := acc ++ breaks ++ line
    if ← blockGoesOn indent then
      let joinsBySpace ← if folded && lb == "\n" && leadingNonBlank then do
          let c ← peek
          pure (c != ' ' && c != '\t')
        else pure false
      let joint := if joinsBySpace then (if breaks'.isEmpty then " " else "") else lb
      blockLines folded indent n (acc ++ joint) lb breaks' m
    else return (acc, lb, breaks', m)

/-- A literal (`|`) or folded (`>`) block scalar. -/
def blockScalar (folded : Bool) : ScanM Token := call do
  let start ← here
  forward 1
  let (chomping, increment) ← blockHeader start
  blockHeaderEnd start
  let least : Int := max ((← get).indent + 1) 1
  let (breaks, indent, m) ← match increment with
    | none => do
      let (breaks, deepest, m) ← blockIndentation
      steps [.call, .compare]
      pure (breaks, max least (deepest : Int), m)
    | some k => do
      let indent := least + k - 1
      let (breaks, m) ← blockBreaks indent
      pure (breaks, indent, m)
  let (body, lb, trailing, m) ← blockLines folded indent (← get).fuel "" "" breaks m
  let body := if chomping != some false then body ++ lb else body
  let body := if chomping == some true then body ++ trailing else body
  made
  return ⟨.scalar body false (some (if folded then '>' else '|')), start, m⟩

/-! ## Quoted scalars -/

/-- The line breaks inside a quoted scalar after a first break; a document marker there is an
error. -/
def quotedBreaks (start : Mark) : ScanM String := call do
  go (← get).fuel ""
where
  go : Nat → String → ScanM String
    | 0, acc => pure acc
    | n + 1, acc => do
      if ← atMarker then
        fail (some "while scanning a quoted scalar") (some start) "found unexpected document separator"
      skipWhile (fun c => c == ' ' || c == '\t')
      if isBreak (← peek) then
        let b ← lineBreak
        go n (acc ++ b)
      else pure acc

/-- The text of a quoted scalar up to the next blank, break or closing quote. -/
def quotedRun (double : Bool) (start : Mark) (acc : String) : ScanM String := call do
  go (← get).fuel acc
where
  go : Nat → String → ScanM String
    | 0, acc => pure acc
    | n + 1, acc => do
      let length ← countAhead (fun c => !(c == '\'' || c == '"' || c == '\\' || isBlankOrEnd c))
      let acc ← if length > 0 then do
          let part ← lookAhead length
          forward length
          pure (acc ++ part)
        else pure acc
      let c ← peek
      let doubled ← if !double && c == '\'' then do pure ((← peek 1) == '\'') else pure false
      if doubled then
        forward 2
        go n (acc.push '\'')
      else if (double && c == '\'') || (!double && (c == '"' || c == '\\')) then
        forward 1
        go n (acc.push c)
      else if double && c == '\\' then
        forward 1
        let e ← peek
        match escapeReplacement e, escapeCodeLength e with
        | some r, _ =>
          forward 1
          go n (acc.push r)
        | none, some len =>
          forward 1
          for k in [0:len] do
            if !isHexDigit (← peek k) then
              let d ← peek k
              failShowing (some "while scanning a double-quoted scalar") (some start)
                ("expected escape sequence of " ++ toString len ++
                  " hexdecimal numbers, but found " ++ quoteChar d)
          let code := Text.hexValue (← lookAhead len)
          steps [.call]
          steps [.call]
          if code ≥ 0x110000 then
            throw (.foreign (.valueError "chr() arg not in range(0x110000)"))
          forward len
          go n (acc.push (Text.charOfCode code))
        | none, none =>
          if isBreak e then
            discard lineBreak
            let bs ← quotedBreaks start
            go n (acc ++ bs)
          else
            failShowing (some "while scanning a double-quoted scalar") (some start)
              ("found unknown escape character " ++ quoteChar e)
      else pure acc

/-- The blanks and line breaks inside a quoted scalar: blanks are kept before text on the same
line; a line break becomes a space, or the empty lines after it when there are any. -/
def quotedSpaces (start : Mark) (acc : String) : ScanM String := call do
  let blanks ← takeWhile (fun c => c == ' ' || c == '\t')
  let c ← peek
  if c == '\x00' then
    fail (some "while scanning a quoted scalar") (some start) "found unexpected end of stream"
  else if isBreak c then
    let lb ← lineBreak
    let bs ← quotedBreaks start
    let joint := if lb != "\n" then lb else if bs.isEmpty then " " else ""
    return acc ++ joint ++ bs
  else return acc ++ blanks

/-- The body of a quoted scalar, up to its closing quote. -/
def quotedBody (double : Bool) (quote : Char) (start : Mark) : Nat → String → ScanM String
  | 0, acc => pure acc
  | n + 1, acc => do
    if (← peek) == quote then return acc
    let acc ← quotedSpaces start acc
    let acc ← quotedRun double start acc
    quotedBody double quote start n acc

/-- A single-quoted or double-quoted scalar. -/
def quotedScalar (double : Bool) : ScanM Token := call do
  let start ← here
  let quote ← peek
  forward 1
  let acc ← quotedRun double start ""
  let body ← quotedBody double quote start (← get).fuel acc
  forward 1
  let stop ← here
  made
  return ⟨.scalar body false (some (if double then '"' else '\'')), start, stop⟩

/-! ## Plain scalars -/

/-- The length of the run of plain scalar characters from `k` places ahead: it stops at a
blank, at `:` followed by a blank (or by a flow indicator in flow context), and in flow context
at `,`, `?` and brackets. Each character is asked for in turn, and the one after a `:`. -/
def plainLength : Nat → Nat → ScanM Nat
  | 0, k => pure k
  | n + 1, k => do
    let c ← peek k
    if isBlankOrEnd c then return k
    let flow := (← get).flowLevel != 0
    if c == ':' then
      let next ← peek (k + 1)
      if isBlankOrEnd next || (flow && ",[]\x7b\x7d".contains next) then return k
    if flow && ",?[]\x7b\x7d".contains c then return k
    plainLength n (k + 1)

/-- The blanks and line breaks inside a plain scalar, as they join its parts; none when the
scalar ends here (at a document marker after a break). -/
def plainSpaces : ScanM String := call do
  let blanks ← takeWhile (· == ' ')
  if isBreak (← peek) then
    let lb ← lineBreak
    setAllowSimpleKey true
    if ← atMarker then return ""
    match ← go (← get).fuel "" with
    | none => return ""
    | some bs =>
      let joint := if lb != "\n" then lb else if bs.isEmpty then " " else ""
      return joint ++ bs
  else return blanks
where
  go : Nat → String → ScanM (Option String)
    | 0, acc => pure (some acc)
    | n + 1, acc => do
      let c ← peek
      if c == ' ' || isBreak c then
        if (← peek) == ' ' then
          forward 1
          go n acc
        else
          let b ← lineBreak
          if ← atMarker then return none
          go n (acc ++ b)
      else pure (some acc)

/-- The parts of a plain scalar, each after the blanks that join it to the one before. -/
def plainParts (indent : Int) : Nat → String → String → Mark → ScanM (String × Mark)
  | 0, acc, _, m => pure (acc, m)
  | n + 1, acc, spaces, m => do
    if (← peek) == '#' then return (acc, m)
    let length ← plainLength (← get).fuel 0
    if length == 0 then return (acc, m)
    setAllowSimpleKey false
    let part ← lookAhead length
    let acc := acc ++ spaces ++ part
    forward length
    let m ← here
    let spaces ← plainSpaces
    if spaces.isEmpty then return (acc, m)
    if (← peek) == '#' then return (acc, m)
    let s ← get
    if s.flowLevel == 0 && (s.column : Int) < indent then return (acc, m)
    plainParts indent n acc spaces m

/-- A plain scalar. -/
def plainScalar : ScanM Token := call do
  let start ← here
  let s ← get
  let (body, m) ← plainParts (s.indent + 1) s.fuel "" "" start
  made
  return ⟨.scalar body true none, start, m⟩

/-! ## Choosing the next token -/

/-- Whether a directive can start here: at the start of a line. -/
def checkDirective : ScanM Bool := call do
  return (← get).column == 0

/-- Whether the document marker `marker` stands here, at the start of a line. -/
def checkDocumentMarker (marker : String) : ScanM Bool := call do
  if (← get).column != 0 then return false
  if (← lookAhead 3) != marker then return false
  return isBlankOrEnd (← peek 3)

/-- Whether the indicator here is followed by a blank, or stands in flow context when
`inFlow` allows that. -/
def checkIndicator (inFlow : Bool) : ScanM Bool := call do
  if inFlow && (← get).flowLevel != 0 then return true
  return isBlankOrEnd (← peek 1)

/-- Whether a plain scalar can start here. -/
def checkPlain : ScanM Bool := call do
  let c ← peek
  if !(isBlankOrEnd c || "-?:,[]\x7b\x7d#&*!|>'\"%@`".contains c) then return true
  let flow := (← get).flowLevel != 0
  return !isBlankOrEnd (← peek 1) && (c == '-' || (!flow && (c == '?' || c == ':')))

/-- Cuts the end of the text. -/
def streamEnd : ScanM Unit := call do
  unwindIndent (-1)
  removeSimpleKey
  modify fun s => { s with allowSimpleKey := false, simpleKeys := [] }
  let m ← here
  made
  push ⟨.streamEnd, m, m⟩
  modify fun s => { s with done := true }

/-- Cuts a directive. -/
def directiveToken : ScanM Unit := call do
  unwindIndent (-1)
  removeSimpleKey
  setAllowSimpleKey false
  push (← directive)

/-- Cuts a document marker `---` or `...`. -/
def documentMarker (kind : TokenKind) : ScanM Unit := call do
  call do
    unwindIndent (-1)
    removeSimpleKey
    setAllowSimpleKey false
    indicator kind 3

/-- Cuts an opening bracket. -/
def flowStart (kind : TokenKind) : ScanM Unit := call do
  call do
    saveSimpleKey
    shiftFlowLevel 1
    setAllowSimpleKey true
    indicator kind

/-- Cuts a closing bracket. -/
def flowEnd (kind : TokenKind) : ScanM Unit := call do
  call do
    removeSimpleKey
    shiftFlowLevel (-1)
    setAllowSimpleKey false
    indicator kind

/-- Cuts a `,` between flow entries. -/
def flowEntry : ScanM Unit := call do
  setAllowSimpleKey true
  removeSimpleKey
  indicator .flowEntry

/-- Opens a block collection at the current column if it is deeper: its start token. -/
def openBlock (kind : TokenKind) : ScanM Unit := do
  if ← addIndent (← get).column then
    let m ← here
    made
    push ⟨kind, m, m⟩

/-- Cuts a `-` before a block sequence entry, opening the sequence if it is deeper. -/
def blockEntry : ScanM Unit := call do
  if (← get).flowLevel == 0 then
    if !(← get).allowSimpleKey then fail none none "sequence entries are not allowed here"
    openBlock .blockSequenceStart
  setAllowSimpleKey true
  removeSimpleKey
  indicator .blockEntry

/-- Cuts a `?` before a key, opening a block mapping if it is deeper. -/
def explicitKey : ScanM Unit := call do
  if (← get).flowLevel == 0 then
    if !(← get).allowSimpleKey then fail none none "mapping keys are not allowed here"
    openBlock .blockMappingStart
  setAllowSimpleKey ((← get).flowLevel == 0)
  removeSimpleKey
  indicator .key

/-- Cuts a `:` before a value. When a possible key of this level is open, a key token goes in
front of it (and a block mapping opens there if it is deeper). -/
def value : ScanM Unit := call do
  let s ← get
  match s.simpleKeys.lookup s.flowLevel with
  | some k =>
    if s.keyCompared k then steps [.compare]
    set { s with simpleKeys := dropLevel s.flowLevel s.simpleKeys }
    made
    insertBefore k.tokenNumber ⟨.key, k.mark, k.mark⟩
    if s.flowLevel == 0 then
      if ← addIndent k.column then
        made
        insertBefore k.tokenNumber ⟨.blockMappingStart, k.mark, k.mark⟩
    setAllowSimpleKey false
  | none =>
    if s.flowLevel == 0 then
      if !s.allowSimpleKey then fail none none "mapping values are not allowed here"
      openBlock .blockMappingStart
    setAllowSimpleKey (s.flowLevel == 0)
    removeSimpleKey
  indicator .value

/-- Cuts a token that may begin a key: remembers the place first. -/
def possibleKey (scan : ScanM Token) : ScanM Unit := do
  saveSimpleKey
  setAllowSimpleKey false
  push (← scan)

/-- The cutting of a bracket or a comma, which stand for themselves in any context. -/
def flowIndicator : Char → Option (ScanM Unit)
  | '[' => some (flowStart .flowSequenceStart)
  | '\x7b' => some (flowStart .flowMappingStart)
  | ']' => some (flowEnd .flowSequenceEnd)
  | '\x7d' => some (flowEnd .flowMappingEnd)
  | ',' => some flowEntry
  | _ => none

/-- The scan of an alias, an anchor or a tag, by its first character. -/
def nodeProperty : Char → Option (ScanM Token)
  | '*' => some (anchorOrAlias true)
  | '&' => some (anchorOrAlias false)
  | '!' => some tag
  | _ => none

/-- Cuts the next token or tokens. -/
def fetch : ScanM Unit := call do
  skipToToken
  dropStaleKeys
  unwindIndent (← get).column
  let c ← peek
  let flow := (← get).flowLevel != 0
  if c == '\x00' then
    streamEnd
    return
  if c == '%' then
    if ← checkDirective then
      directiveToken
      return
  if c == '-' then
    if ← checkDocumentMarker "---" then
      documentMarker .documentStart
      return
  if c == '.' then
    if ← checkDocumentMarker "..." then
      documentMarker .documentEnd
      return
  if let some cut := flowIndicator c then
    cut
    return
  if c == '-' then
    if ← checkIndicator false then
      blockEntry
      return
  if c == '?' then
    if ← checkIndicator true then
      explicitKey
      return
  if c == ':' then
    if ← checkIndicator true then
      value
      return
  if let some scan := nodeProperty c then
    call (possibleKey scan)
    return
  if (c == '|' || c == '>') && !flow then
    call do
      call do
        setAllowSimpleKey true
        removeSimpleKey
        push (← blockScalar (c == '>'))
    return
  if c == '\'' || c == '"' then
    call (call (possibleKey (quotedScalar (c == '"'))))
    return
  if ← checkPlain then
    call (possibleKey plainScalar)
    return
  failShowing (some "while scanning for the next token") none
    ("found character " ++ quoteChar c ++ " that cannot start any token")

/-- Whether more tokens must be cut before the first pending one can be handed out: there is
none, or it may still get a key token in front. When no key is possible, the test compares
nothing with a number, which is not done inline. -/
def needMore : ScanM Bool := call do
  let s ← get
  if s.done then return false
  if s.pending.isEmpty then return true
  dropStaleKeys
  let nearest ← nearestKey
  if nearest.isNone then steps [.compare]
  return nearest == some (← get).taken

/-- Cuts tokens until the first pending one can be handed out. -/
def fill : ScanM Unit := do
  go (← get).fuel
where
  go : Nat → ScanM Unit
    | 0 => pure ()
    | n + 1 => do
      if ← needMore then
        fetch
        go n

/-- The next token, without handing it out. -/
def peekToken : ScanM Token := call do
  fill
  return (← get).pending.headD default

/-- Hands out the next token. -/
def takeToken : ScanM Token := call do
  fill
  let s ← get
  match s.pending with
  | t :: rest =>
    set { s with pending := rest, taken := s.taken + 1 }
    return t
  | [] => return default

/-- Whether the next token is of one of the given classes. -/
def nextIs (classes : List TokenClass) : ScanM Bool := call do
  fill
  match (← get).pending with
  | t :: _ => return classes.contains t.kind.cls
  | [] => return false

/-- A stream over a text, with the start of the stream cut, whose calls start `depth` calls
deep, and whose reads of the file need new chunks decoded as `chunked` says. -/
def ofText (text : List Char) (depth : Nat := 0) (chunked : List Bool := []) : TokenStream :=
  let m : Mark := ⟨0, 0, 0⟩
  { text := (text ++ ['\x00']).toArray, pending := [⟨.streamStart, m, m⟩],
    stack := { depth }, window := Window.opened text.length chunked }

end TokenStream

end SyntaxAdvisor.Yaml
