import SyntaxAdvisor.Yaml.Document
import SyntaxAdvisor.Text.Chunked

/-!
# Loading a YAML file

A YAML file is read as UTF-8 text with its line ends made uniform (`\r\n` and `\r` become
`\n`), in chunks (`TextFile`). Every character must be printable in YAML's sense: tab, line
feed, carriage return, the printable ASCII characters, next line, and everything from U+00A0 on
except surrogates and the two non-characters U+FFFE and U+FFFF; the first other character is
refused with its position. The text must hold at most one document, whose value is the file's
value; a file without a document stands for nothing.

The text is not read all at once. The reader that feeds the scanner takes it `4096` characters
at a time, checking each block for characters that are not allowed as the block arrives; it
takes the first blocks (until two characters wait, and one block more) before anything is
scanned, and a further block only when the scanner looks past what it has. So a fault in the
bytes or a character that is not allowed is met only if the scanner gets that far: an error of
the YAML rules found earlier in the text is the one reported. Building values comes after the
whole text has been read, so every fault of the text comes before a failed conversion.
-/

namespace SyntaxAdvisor.Yaml

/-- Whether a character may appear in YAML text. -/
def isPrintable (c : Char) : Bool :=
  let n := c.toNat
  n == 0x09 || n == 0x0A || n == 0x0D || (0x20 ≤ n && n ≤ 0x7E) || n == 0x85 ||
    (0xA0 ≤ n && n ≤ 0xD7FF) || (0xE000 ≤ n && n ≤ 0xFFFD) || 0x10000 ≤ n

/-- The reader that feeds the scanner. -/
structure Feed where
  /-- The file being read. -/
  file : Text.TextFile
  /-- How many characters have been handed to the scanner; the end counts as one. -/
  loaded : Nat := 0
  /-- The characters handed to the scanner, in order. -/
  text : Array Char := #[]
  /-- Characters taken from the file and not yet checked. -/
  waiting : List Char := []
  /-- Whether the file has given its last character. -/
  atEnd : Bool := false
  /-- Whether the end has been handed to the scanner. -/
  closed : Bool := false
  /-- For each block taken, whether the file had to decode a new chunk for it. -/
  chunked : Array Bool := #[]

namespace Feed

/-- Takes a block from the file, noting whether the file had to decode a new chunk for it. -/
def takeBlock (f : Feed) : Except LoadError Feed :=
  let chunked := f.chunked.push (f.file.ready.length < blockChars)
  match f.file.read blockChars with
  | .error e => .error (.foreign (.raised "UnicodeDecodeError" e.message))
  | .ok (cs, file) =>
    .ok { f with file, waiting := f.waiting ++ cs, atEnd := cs.isEmpty, chunked }

/-- Checks the waiting characters and hands them over, and the end once the file has ended. -/
def handOver (f : Feed) : Except LoadError Feed :=
  match f.waiting.findIdx? (!isPrintable ·) with
  | some i => .error (.unacceptable (f.waiting.getD i ' ').toNat (f.loaded + i))
  | none =>
    let f := { f with loaded := f.loaded + f.waiting.length, text := f.text ++ f.waiting.toArray,
                      waiting := [] }
    .ok (if f.atEnd then { f with loaded := f.loaded + 1, closed := true } else f)

/-- One round of loading: a block more (unless the file has ended), checked and handed over. -/
def step (f : Feed) : Except LoadError Feed := do
  let f ← if f.atEnd then pure f else f.takeBlock
  f.handOver

/-- Loads until `need` characters are handed over or the end is: the feed as far as loading
went, and the fault that stopped it, if any. -/
def fill (f : Feed) (need : Nat) : Feed × Option LoadError := Id.run do
  let mut f := f
  for _ in [0:f.file.bytes.size / blockChars + 4] do
    if f.closed || f.loaded ≥ need then break
    match f.step with
    | .ok f' => f := f'
    | .error e => return (f, some e)
  return (f, none)

/-- The reader as it starts: blocks taken until two characters wait or the file ends, then
loaded until one character is handed over. -/
def start (bytes : List UInt8) : Feed × Option LoadError := Id.run do
  let mut f : Feed := { file := Text.TextFile.ofBytes bytes }
  for _ in [0:3] do
    if f.atEnd || f.waiting.length ≥ 2 then break
    match f.takeBlock with
    | .ok f' => f := f'
    | .error e => return (f, some e)
  f.fill 1

end Feed

/-- Loads the value of a YAML file's bytes, for a function running `caller` calls deep: the
load and the reading of its single document run three calls deeper. -/
def loadBytes (caller : Nat) (bytes : List UInt8) : Except LoadError Shared := do
  let (begun, fault) := Feed.start bytes
  if let some e := fault then throw e
  let whole := (begun.fill (bytes.length + 2)).1
  let (outcome, reach) := Graph.ofTextReaching whole.text.toList (caller + 3) whole.chunked.toList
  if let some e := (begun.fill reach).2 then throw e
  match ← outcome with
  | some g => g.toShared
  | none => pure (Shared.ofValue .none)

end SyntaxAdvisor.Yaml
