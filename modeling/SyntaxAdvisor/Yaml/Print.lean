import SyntaxAdvisor.Yaml.Tree

/-!
# Writing YAML

`Tree.document` writes a tree as one YAML document in block style, two columns to an indent
step, and `dump` writes a value so. Every collection is written in block style; an empty one
is written `[]` or `{}`. A sequence that is the value of a mapping entry is written at the
indentation of its key. An anchor `&name` goes before its node, after a blank; an alias
`*name` stands where its node would.

A scalar is written plain when its text reads back as a value of its own tag and nothing in it
needs quoting; else in single quotes when it allows them, else in double quotes. A tag is
shown (as `!!name`) only when the chosen style would not bring the value back by itself: for a
plain scalar never, for a quoted one unless it is text. Bytes are a literal block. Only
printable ASCII is written as it is: a scalar holding any other character (a tab, a letter with
an accent) is double-quoted, and those characters are escaped there.

Long scalars are folded: a plain or single-quoted scalar breaks at a single blank once the line
is past column 80, a double-quoted one with a backslash at the end of the line; a key is never
folded. A key is written as it is when it is short (with its tag's name, under 128 characters)
and one line; otherwise it follows `? `, and its value follows `: ` on a line of its own.

A document whose top is a plain scalar ends with `...`, since the end of such a document could
otherwise not be told apart from more text.
-/

namespace SyntaxAdvisor.Yaml

/-- The column past which scalars are folded. -/
def lineWidth : Nat := 80

/-- The columns of one step of indentation. -/
def indentStep : Nat := 2

/-- The state of a document being written. -/
structure Writer where
  /-- The text written so far. -/
  out : String := ""
  /-- The column the next character goes to. -/
  column : Nat := 0
  /-- Whether the last thing written ends with a blank or a break, or nothing is written. -/
  whitespace : Bool := true
  /-- Whether the line so far holds only indentation and the indicators that may stand there. -/
  indention : Bool := true
  /-- Whether the document so far ends with a plain scalar at its top. -/
  openEnded : Bool := false
  /-- The indentation of the node being written; none before the top node. -/
  indent : Option Nat := none

namespace Writer

/-- Writes text, moving the column by its length. -/
def put (w : Writer) (s : String) : Writer :=
  { w with out := w.out ++ s, column := w.column + s.length }

/-- Writes a line break. -/
def lineBreak (w : Writer) (br : Char) : Writer :=
  { w with out := w.out.push br, whitespace := true, indention := true, column := 0 }

/-- Writes an indicator, after a blank when `spaced` and the last thing written is not blank;
`blank` tells whether the indicator counts as a blank, `indenting` whether it may stand in the
indentation. -/
def indicator (w : Writer) (ind : String) (spaced blank indenting : Bool) : Writer :=
  let data := if w.whitespace || !spaced then ind else " " ++ ind
  { w.put data with whitespace := blank, indention := w.indention && indenting,
                    openEnded := false }

/-- Goes to the current indentation: to a new line unless the line so far is indentation
short of it. -/
def writeIndent (w : Writer) : Writer :=
  let indent := w.indent.getD 0
  let w := if !w.indention || w.column > indent || (w.column == indent && !w.whitespace) then
      w.lineBreak '\n'
    else w
  if w.column < indent then
    { w with whitespace := true, out := w.out ++ String.ofList (List.replicate (indent - w.column) ' '),
             column := indent }
  else w

/-- Goes to a fresh line at the current indentation, where the next text does not count as
standing after a blank. -/
def foldLine (w : Writer) : Writer :=
  { w.writeIndent with whitespace := false, indention := false }

/-- Steps the indentation in for a node: from nothing to the first step for a scalar, to no
indentation for a collection; by one step otherwise, unless `indentless`. -/
def deeper (w : Writer) (scalar indentless : Bool) : Writer :=
  match w.indent with
  | none => { w with indent := some (if scalar then indentStep else 0) }
  | some i => if indentless then w else { w with indent := some (i + indentStep) }

end Writer

/-- Whether a character breaks a line in YAML. -/
def isBreakChar (c : Char) : Bool :=
  c == '\n' || c == '\x85' || c == '\u2028' || c == '\u2029'

/-- Whether a character is a blank, a break or the end of text for the rules of indicators. -/
def isBlankOrBreak (c : Char) : Bool :=
  c == '\x00' || c == ' ' || c == '\t' || c == '\r' || isBreakChar c

/-- What the text of a scalar allows. -/
structure Analysis where
  /-- The text is empty. -/
  empty : Bool
  /-- The text holds a line break. -/
  multiline : Bool
  /-- The text may be written plain. -/
  plain : Bool
  /-- The text may be written in single quotes. -/
  singleQuoted : Bool
  /-- The text may be written as a literal block. -/
  block : Bool

/-- What has been seen of a scalar's text, character by character. -/
structure Seen where
  /-- A character that would start a structure when plain. -/
  indicators : Bool := false
  /-- A line break. -/
  breaks : Bool := false
  /-- A character outside printable ASCII and the line feed. -/
  special : Bool := false
  /-- A blank or a break at the start or the end. -/
  edgeBlank : Bool := false
  /-- A blank at the end. -/
  trailingSpace : Bool := false
  /-- A blank after a break. -/
  breakSpace : Bool := false
  /-- A break after a blank. -/
  spaceBreak : Bool := false
  /-- The previous character is a blank. -/
  afterSpace : Bool := false
  /-- The previous character is a break. -/
  afterBreak : Bool := false

/-- Whether a character at the start of plain text would start a structure. -/
def isLeadingIndicator (c : Char) (followed : Bool) : Bool :=
  "#,[]\x7b\x7d&*!|>'\"%@`".toList.contains c || ((c == '?' || c == ':' || c == '-') && followed)

/-- Analyses the text of a scalar. -/
def analyze (text : String) : Analysis :=
  let cs := text.toList.toArray
  let n := cs.size
  if n == 0 then
    { empty := true, multiline := false, plain := true, singleQuoted := true, block := false }
  else
    let seen := (List.range n).foldl (fun (s : Seen) i =>
      let c := cs.getD i ' '
      let preceded := i == 0 || isBlankOrBreak (cs.getD (i - 1) ' ')
      let followed := i + 1 ≥ n || isBlankOrBreak (cs.getD (i + 1) ' ')
      let ind := if i == 0 then isLeadingIndicator c followed
        else (c == ':' && followed) || (c == '#' && preceded)
      let edge := i == 0 || i + 1 == n
      let s := { s with indicators := s.indicators || ind, breaks := s.breaks || isBreakChar c,
                        special := s.special || !(c == '\n' || (0x20 ≤ c.toNat && c.toNat ≤ 0x7E)) }
      if c == ' ' then
        { s with edgeBlank := s.edgeBlank || edge, trailingSpace := s.trailingSpace || i + 1 == n,
                 breakSpace := s.breakSpace || s.afterBreak, afterSpace := true, afterBreak := false }
      else if isBreakChar c then
        { s with edgeBlank := s.edgeBlank || edge, spaceBreak := s.spaceBreak || s.afterSpace,
                 afterSpace := false, afterBreak := true }
      else { s with afterSpace := false, afterBreak := false }) {}
    let marker := text.startsWith "---" || text.startsWith "..."
    let spoilt := seen.spaceBreak || seen.special
    { empty := false, multiline := seen.breaks,
      plain := !(seen.edgeBlank || seen.breakSpace || spoilt || seen.breaks || seen.indicators ||
        marker),
      singleQuoted := !(seen.breakSpace || spoilt),
      block := !(seen.trailingSpace || spoilt) }

/-- The ways a scalar is written. -/
inductive Style where
  /-- As it is. -/
  | plain
  /-- In single quotes. -/
  | single
  /-- In double quotes, with escapes. -/
  | double
  /-- As a literal block. -/
  | literal
deriving DecidableEq

/-- The style of a scalar: plain when its text reads back as its value (`implicit`) and allows
it, a literal block when asked for and allowed, else single quotes when allowed, else double
quotes. A key may be neither empty nor of several lines unless quoted, and is never a block. -/
def chooseStyle (a : Analysis) (key literal implicit : Bool) : Style :=
  if !literal && implicit && !(key && (a.empty || a.multiline)) && a.plain then .plain
  else if literal && !key && a.block then .literal
  else if !literal && a.singleQuoted && !(key && a.multiline) then .single
  else .double

/-- How a tag is shown: `!!name` for a tag of the core schema, the whole tag in angle brackets
otherwise. -/
def prepareTag (tag : String) : String :=
  let core := Tag.core ""
  if tag.startsWith core && tag.length > core.length then
    "!!" ++ String.ofList (tag.toList.drop core.length)
  else "!<" ++ tag ++ ">"

/-- The characters of `text` from `start` up to `stop`. -/
def slice (text : Array Char) (start stop : Nat) : String :=
  String.ofList (text.extract start stop).toList

/-- Writes the breaks of `text` from `start` up to `stop`. -/
def writeBreaks (text : Array Char) (start stop : Nat) (w : Writer) : Writer :=
  (text.extract start stop).foldl Writer.lineBreak w

/-- Writes a plain scalar from position `stop` on, `start` being the first character not yet
written; a blank alone past the line width becomes a fold when `split`. -/
def writePlainFrom (text : Array Char) (split : Bool) (w : Writer) (start stop : Nat)
    (spaces breaks : Bool) : Writer :=
  if stop ≤ text.size then
    let ch := text[stop]?
    let (w, start) :=
      if spaces then
        if ch != some ' ' then
          if start + 1 == stop && w.column > lineWidth && split then (w.foldLine, stop)
          else (w.put (slice text start stop), stop)
        else (w, start)
      else if breaks then
        if !ch.any isBreakChar then
          let w := if text.getD start ' ' == '\n' then w.lineBreak '\n' else w
          ((writeBreaks text start stop w).foldLine, stop)
        else (w, start)
      else if ch.all (fun c => c == ' ' || isBreakChar c) then
        (w.put (slice text start stop), stop)
      else (w, start)
    let (spaces, breaks) := match ch with
      | some c => (c == ' ', isBreakChar c)
      | none => (spaces, breaks)
    writePlainFrom text split w start (stop + 1) spaces breaks
  else w
termination_by text.size + 1 - stop

/-- Writes a plain scalar; one at the top of a document leaves the document open-ended. -/
def writePlain (text : Array Char) (split top : Bool) (w : Writer) : Writer :=
  let w := if top then { w with openEnded := true } else w
  if text.size == 0 then w
  else
    let w := if !w.whitespace then w.put " " else w
    writePlainFrom text split { w with whitespace := false, indention := false } 0 0 false false

/-- Writes a single-quoted scalar from position `stop` on, `start` being the first character
not yet written. A quote is doubled; a break is written doubled at the start of a run of breaks
and each break of the run once more; a blank alone past the line width, inside the text, becomes
a fold when `split`. -/
def writeSingleFrom (text : Array Char) (split : Bool) (w : Writer) (start stop : Nat)
    (spaces breaks : Bool) : Writer :=
  if stop ≤ text.size then
    let ch := text[stop]?
    let (w, start) :=
      if spaces then
        if ch != some ' ' then
          if start + 1 == stop && w.column > lineWidth && split && start != 0 &&
              stop != text.size then (w.writeIndent, stop)
          else (w.put (slice text start stop), stop)
        else (w, start)
      else if breaks then
        if !ch.any isBreakChar then
          let w := if text.getD start ' ' == '\n' then w.lineBreak '\n' else w
          ((writeBreaks text start stop w).writeIndent, stop)
        else (w, start)
      else if ch.all (fun c => c == ' ' || isBreakChar c || c == '\'') then
        if start < stop then (w.put (slice text start stop), stop) else (w, start)
      else (w, start)
    let (w, start) := if ch == some '\'' then (w.put "''", stop + 1) else (w, start)
    let (spaces, breaks) := match ch with
      | some c => (c == ' ', isBreakChar c)
      | none => (spaces, breaks)
    writeSingleFrom text split w start (stop + 1) spaces breaks
  else w
termination_by text.size + 1 - stop

/-- Writes a single-quoted scalar. -/
def writeSingle (text : Array Char) (split : Bool) (w : Writer) : Writer :=
  (writeSingleFrom text split (w.indicator "'" true false false) 0 0 false false).indicator "'"
    false false false

/-- The hexadecimal digits of `n`, in upper case, at least `width` of them. -/
def hexUpper (n width : Nat) : String :=
  let ds := (Nat.toDigits 16 n).map Char.toUpper
  String.ofList (List.replicate (width - ds.length) '0' ++ ds)

/-- The escape of a character in double quotes: its short form when it has one, else its code
in two, four or eight hexadecimal digits; a lone surrogate is escaped by its own code. -/
def escapeOf (c : Char) : String :=
  let short : List (Char × Char) := [('\x00', '0'), ('\x07', 'a'), ('\x08', 'b'), ('\t', 't'),
    ('\n', 'n'), ('\x0B', 'v'), ('\x0C', 'f'), ('\r', 'r'), ('\x1B', 'e'), ('"', '"'),
    ('\\', '\\'), ('\x85', 'N'), ('\xA0', '_'), ('\u2028', 'L'), ('\u2029', 'P')]
  match short.lookup c with
  | some e => "\\" ++ String.singleton e
  | none =>
    let n := Text.codePoint c
    if n ≤ 0xFF then "\\x" ++ hexUpper n 2
    else if n ≤ 0xFFFF then "\\u" ++ hexUpper n 4
    else "\\U" ++ hexUpper n 8

/-- Whether a character is escaped in double quotes: a quote, a backslash, or anything outside
printable ASCII. -/
def isEscaped (c : Char) : Bool :=
  c == '"' || c == '\\' || !(0x20 ≤ c.toNat && c.toNat ≤ 0x7E)

/-- Writes a double-quoted scalar from position `stop` on, `start` being the first character
not yet written. Inside the text, at a blank or after an escape, a line that would pass the
width is ended with a backslash when `split`; a blank that then starts the next line is
escaped. -/
def writeDoubleFrom (text : Array Char) (split : Bool) (w : Writer) (start stop : Nat) :
    Writer :=
  if stop ≤ text.size then
    let ch := text[stop]?
    let (w, start) :=
      if ch.all isEscaped then
        let (w, start) := if start < stop then (w.put (slice text start stop), stop) else (w, start)
        match ch with
        | some c => (w.put (escapeOf c), stop + 1)
        | none => (w, start)
      else (w, start)
    let (w, start) :=
      if 0 < stop && stop + 1 < text.size && (ch == some ' ' || start ≥ stop) &&
          (w.column : Int) + stop - start > lineWidth && split then
        let w := w.put (slice text start stop ++ "\\")
        let start := if start < stop then stop else start
        let w := w.foldLine
        (if text.getD start ' ' == ' ' then w.put "\\" else w, start)
      else (w, start)
    writeDoubleFrom text split w start (stop + 1)
  else w
termination_by text.size + 1 - stop

/-- Writes a double-quoted scalar. -/
def writeDouble (text : Array Char) (split : Bool) (w : Writer) : Writer :=
  (writeDoubleFrom text split (w.indicator "\"" true false false) 0 0).indicator "\"" false
    false false

/-- The indicators after `|` that a literal block needs: the indentation when the text starts
with a blank or break, `-` when it does not end with a break, `+` when it ends with more than
one. -/
def blockHints (text : Array Char) : String :=
  let n := text.size
  if n == 0 then ""
  else
    let first := text.getD 0 ' '
    let lead := if first == ' ' || isBreakChar first then toString indentStep else ""
    let chomp := if !isBreakChar (text.getD (n - 1) ' ') then "-"
      else if n == 1 || isBreakChar (text.getD (n - 2) ' ') then "+" else ""
    lead ++ chomp

/-- Writes the lines of a literal block from position `stop` on, `start` being the first
character not yet written. Lines are written without moving the column. -/
def writeLiteralFrom (text : Array Char) (w : Writer) (start stop : Nat) (breaks : Bool) :
    Writer :=
  if stop ≤ text.size then
    let ch := text[stop]?
    let (w, start) :=
      if breaks then
        if !ch.any isBreakChar then
          let w := writeBreaks text start stop w
          (if ch.isSome then w.writeIndent else w, stop)
        else (w, start)
      else if ch.all isBreakChar then
        let w := { w with out := w.out ++ slice text start stop }
        (if ch.isNone then w.lineBreak '\n' else w, stop)
      else (w, start)
    let breaks := match ch with
      | some c => isBreakChar c
      | none => breaks
    writeLiteralFrom text w start (stop + 1) breaks
  else w
termination_by text.size + 1 - stop

/-- Writes a literal block. -/
def writeLiteral (text : Array Char) (w : Writer) : Writer :=
  let hints := blockHints text
  let w := w.indicator ("|" ++ hints) true false false
  let w := if hints.endsWith "+" then { w with openEnded := true } else w
  writeLiteralFrom text (w.lineBreak '\n') 0 0 true

/-- Where a node stands. -/
structure Place where
  /-- At the top of the document. -/
  top : Bool := false
  /-- As a key or value of a mapping. -/
  inMapping : Bool := false
  /-- As a key written without `?`. -/
  simpleKey : Bool := false

/-- Writes a scalar with its tag and text, a literal block when `literal` asks for one. -/
def writeScalar (tag text : String) (literal : Bool) (place : Place) (w : Writer) : Writer :=
  let a := analyze text
  let implicit := implicitTag text == tag
  let style := chooseStyle a place.simpleKey literal implicit
  let shown := if style == .plain then !implicit else tag != Tag.str
  let w := if shown then w.indicator (prepareTag tag) true false false else w
  let saved := w.indent
  let w := w.deeper true false
  let cs := text.toList.toArray
  let split := !place.simpleKey
  let w := match style with
    | .plain => writePlain cs split place.top w
    | .single => writeSingle cs split w
    | .double => writeDouble cs split w
    | .literal => writeLiteral cs w
  { w with indent := saved }

namespace Tree

/-- Whether a key is written as it is: an alias, or a short scalar of one line that is not
empty, or an empty collection; `extra` counts the characters of an anchor before it. -/
def isSimpleKeyAfter (extra : Nat) : Tree → Bool
  | .scalar tag text _ =>
    let a := analyze text
    extra + (prepareTag tag).length + text.length < 128 && !a.empty && !a.multiline
  | .sequence tag items => extra + (prepareTag tag).length < 128 && items.isEmpty
  | .mapping tag entries => extra + (prepareTag tag).length < 128 && entries.isEmpty
  | .anchored anchor node => isSimpleKeyAfter (extra + anchor.length) node
  | .alias anchor => extra + anchor.length < 128

/-- Whether a key is written as it is. -/
def isSimpleKey (t : Tree) : Bool := isSimpleKeyAfter 0 t

/-- Writes the tag of a collection unless it is the collection's own. -/
def collectionTag (tag own : String) (w : Writer) : Writer :=
  if tag == own then w else w.indicator (prepareTag tag) true false false

mutual

/-- Writes a node standing at `place`. -/
def write (t : Tree) (place : Place) (w : Writer) : Writer :=
  match t with
  | .scalar tag text literal => writeScalar tag text literal place w
  | .sequence tag items =>
    let w := collectionTag tag Tag.seq w
    if items.isEmpty then (w.indicator "[" true true false).indicator "]" false false false
    else
      let saved := w.indent
      let w := w.deeper false (place.inMapping && !w.indention)
      { writeItems items w with indent := saved }
  | .mapping tag entries =>
    let w := collectionTag tag Tag.map w
    if entries.isEmpty then
      (w.indicator "\x7b" true true false).indicator "\x7d" false false false
    else
      let saved := w.indent
      { writeEntries entries (w.deeper false false) with indent := saved }
  | .anchored anchor node => write node place (w.indicator ("&" ++ anchor) true false false)
  | .alias anchor => w.indicator ("*" ++ anchor) true false false

/-- Writes the items of a block sequence. -/
def writeItems : List Tree → Writer → Writer
  | [], w => w
  | t :: rest, w =>
    let w := w.writeIndent.indicator "-" true false true
    writeItems rest (write t {} w)

/-- Writes the entries of a block mapping. -/
def writeEntries : List (Tree × Tree) → Writer → Writer
  | [], w => w
  | (k, v) :: rest, w =>
    let w := w.writeIndent
    let w := if k.isSimpleKey then
        let w := write k { inMapping := true, simpleKey := true } w
        write v { inMapping := true } (w.indicator ":" false false false)
      else
        let w := write k { inMapping := true } (w.indicator "?" true false true)
        let w := w.writeIndent.indicator ":" true false true
        write v { inMapping := true } w
    writeEntries rest w

end

/-- The text of a document holding a tree, ending with a line break. -/
def document (t : Tree) : String :=
  let w := (t.write { top := true } {}).writeIndent
  let w := if w.openEnded then (w.indicator "..." true false false).writeIndent else w
  w.out

end Tree

/-- The YAML text of a value. -/
def dump (v : Value) : String := (treeOf v).document

/-- The YAML text of a value with shared parts, each shared part written once. -/
def dumpShared (s : Shared) : String := (treeOfShared s).document

end SyntaxAdvisor.Yaml
