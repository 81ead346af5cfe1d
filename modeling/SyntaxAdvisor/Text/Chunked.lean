import SyntaxAdvisor.Text.Utf8

/-!
# Reading a text file in chunks

A text file is not decoded in one go: its bytes are read in chunks, and each chunk is decoded
as it arrives, together with the bytes of a character that the chunk before cut in two. A fault
in the bytes is therefore found only when its chunk is decoded, and it is reported at its
position in what was decoded then (the carried bytes and the chunk), not in the whole file.

* A chunk is `8192` bytes, or more when more characters are asked for than that many bytes are
  likely to hold: the count asked for times the bytes per character of the chunk before.
* Bytes of a character broken off at the end of a chunk wait for the next chunk; at the end of
  the file, when no bytes come any more, bytes still waiting are an unexpected end of data.
* Line ends are made uniform as the text is decoded: `\r\n` and `\r` become `\n`. A `\r` at
  the end of a chunk waits, since the next chunk may start with `\n`.

`TextFile.read` asks for a number of characters, as a program reading a file piece by piece
does; `TextFile.readAll` reads chunk after chunk to the end, as reading a file line by line
does.
-/

namespace SyntaxAdvisor.Text

/-- The bytes a chunk has at least. -/
def chunkSize : Nat := 8192

/-- Decodes bytes as the part of a longer text they are: the characters, and how many bytes
were used; bytes of a character broken off at the end are left over unless `final`. -/
def decodePart (bs : List UInt8) (final : Bool) : Except DecodeError (List Char × Nat) :=
  match decodeUtf8 bs with
  | .ok cs => .ok (cs, bs.length)
  | .error e =>
    if e.reason == .unexpectedEnd && !final then
      match decodeUtf8 (bs.take e.start) with
      | .ok cs => .ok (cs, e.start)
      | .error e => .error e
    else .error e

/-- Makes line ends uniform: `\r\n` and `\r` become `\n`. -/
def uniformBreaks : List Char → List Char
  | [] => []
  | '\r' :: '\n' :: rest => '\n' :: uniformBreaks rest
  | '\r' :: rest => '\n' :: uniformBreaks rest
  | c :: rest => c :: uniformBreaks rest

/-- A text file being read. -/
structure TextFile where
  /-- The bytes of the file. -/
  bytes : Array UInt8
  /-- How many bytes have been read. -/
  pos : Nat := 0
  /-- Bytes of a character broken off at the end of the last chunk. -/
  carried : List UInt8 := []
  /-- Whether a `\r` waits for the next chunk. -/
  pendingReturn : Bool := false
  /-- Characters decoded and not yet handed out. -/
  ready : List Char := []
  /-- Bytes per character of the last chunk. -/
  ratio : Float := 0.0

namespace TextFile

/-- A file of bytes, nothing read yet. -/
def ofBytes (bs : List UInt8) : TextFile := { bytes := bs.toArray }

/-- Reads and decodes one chunk, made large enough for `wanted` more characters: the file
after, and whether the end of the file had already been reached (no bytes, no characters). -/
def readChunk (f : TextFile) (wanted : Nat) : Except DecodeError (TextFile × Bool) := do
  let hint := if wanted > 0 then (Float.ofNat wanted * max f.ratio 1.0).floor.toUInt64.toNat else 0
  let size := max chunkSize hint
  let input := (f.bytes.extract f.pos (f.pos + size)).toList
  let atEnd := input.isEmpty
  let (cs, used) ← decodePart (f.carried ++ input) atEnd
  let all := f.carried ++ input
  let cs := if f.pendingReturn && (!cs.isEmpty || atEnd) then '\r' :: cs else cs
  let stillPending := f.pendingReturn && !(!cs.isEmpty || atEnd)
  let (cs, pendingReturn) :=
    if !atEnd && cs.getLast? == some '\r' then (cs.dropLast, true) else (cs, stillPending)
  let out := uniformBreaks cs
  let ratio := if out.isEmpty then 0.0 else Float.ofNat input.length / Float.ofNat out.length
  pure ({ f with pos := f.pos + input.length, carried := all.drop used, pendingReturn,
                 ready := out, ratio }, atEnd && out.isEmpty)

/-- Reads up to `n` characters: fewer only at the end of the file. -/
def read (f : TextFile) (n : Nat) : Except DecodeError (List Char × TextFile) := do
  let mut got := f.ready.take n
  let mut count := got.length
  let mut f := { f with ready := f.ready.drop n }
  for _ in [0:f.bytes.size + 2] do
    if count ≥ n then break
    let (f', ended) ← f.readChunk (n - count)
    f := f'
    if ended then break
    let more := f.ready.take (n - count)
    got := got ++ more
    count := count + more.length
    f := { f with ready := f.ready.drop more.length }
  return (got, f)

/-- Splits decoded text after each line feed: the complete lines, and what follows the last
line feed. -/
def splitLines (cs : List Char) : List String × List Char :=
  let (done, rest) := cs.foldl (fun (acc : Array String × Array Char) c =>
    if c == '\n' then (acc.1.push (String.ofList (acc.2.push c).toList), #[])
    else (acc.1, acc.2.push c)) (#[], #[])
  (done.toList, rest.toList)

/-- Reads the file line by line: the lines read, each with its line feed but the last, and the
fault that stopped the reading, if any. A line is handed out as soon as its line feed has been
decoded, so the lines before the chunk holding a fault are all read. -/
def readLines (f : TextFile) : List String × Option DecodeError := Id.run do
  let mut got : Array String := #[]
  let mut part := f.ready
  let mut f := { f with ready := [] }
  for _ in [0:f.bytes.size + 2] do
    let (done, rest) := splitLines part
    got := got ++ done.toArray
    part := rest
    match f.readChunk 0 with
    | .error e => return (got.toList, some e)
    | .ok (f', ended) =>
      if ended then break
      part := part ++ f'.ready
      f := { f' with ready := [] }
  let (done, rest) := splitLines part
  got := got ++ done.toArray
  if !rest.isEmpty then got := got.push (String.ofList rest)
  return (got.toList, none)

/-- Reads the whole file, chunk after chunk. -/
def readAll (f : TextFile) : Except DecodeError (List Char) := do
  let mut got := f.ready
  let mut f := { f with ready := [] }
  for _ in [0:f.bytes.size + 2] do
    let (f', ended) ← f.readChunk 0
    f := f'
    if ended then break
    got := got ++ f.ready
    f := { f with ready := [] }
  return got

end TextFile

end SyntaxAdvisor.Text
