import SyntaxAdvisor.Value.Basic
import SyntaxAdvisor.Text.Surrogate

/-!
# Reading UTF-8

Bytes read as UTF-8 text one sequence at a time. A lead byte announces how many continuation
bytes follow; the second byte is narrower after some leads (no overlong forms, no surrogates,
nothing above U+10FFFF). Reading fails at the first sequence that breaks the rules, and the
failure names the bytes it covers:

* a byte that cannot start a sequence covers itself: an invalid start byte;
* a sequence whose continuation bytes run out at the end of the data covers all of them: an
  unexpected end of data;
* otherwise the lead and the valid continuation bytes before the offending one: an invalid
  continuation byte.
-/

namespace SyntaxAdvisor.Text

/-- Why a run of bytes is not UTF-8. -/
inductive DecodeReason where
  /-- A byte that cannot start a sequence. -/
  | invalidStart
  /-- A sequence broken off by the end of the data. -/
  | unexpectedEnd
  /-- A byte that cannot continue the sequence. -/
  | invalidContinuation
deriving Repr, BEq, Inhabited

/-- Where and why decoding failed: the bytes from `start` up to `stop` are at fault. -/
structure DecodeError where
  /-- The first byte at fault. -/
  start : Nat
  /-- One past the last byte at fault. -/
  stop : Nat
  /-- The first byte at fault. -/
  byte : UInt8
  /-- Why. -/
  reason : DecodeReason
deriving Repr, Inhabited

/-- The words for a reason. -/
def DecodeReason.text : DecodeReason → String
  | .invalidStart => "invalid start byte"
  | .unexpectedEnd => "unexpected end of data"
  | .invalidContinuation => "invalid continuation byte"

/-- The message of a decoding failure. -/
def DecodeError.message (e : DecodeError) : String :=
  if e.stop - e.start == 1 then
    "'utf-8' codec can't decode byte 0x" ++ hexDigits e.byte.toNat 2 ++ " in position " ++
      toString e.start ++ ": " ++ e.reason.text
  else
    "'utf-8' codec can't decode bytes in position " ++ toString e.start ++ "-" ++
      toString (e.stop - 1) ++ ": " ++ e.reason.text

/-- The number of continuation bytes a lead byte announces, and the range of its second byte;
`none` for a byte that cannot start a sequence. -/
def leadShape (b : Nat) : Option (Nat × Nat × Nat) :=
  if b < 0x80 then some (0, 0, 0)
  else if b < 0xC2 then none
  else if b < 0xE0 then some (1, 0x80, 0xBF)
  else if b == 0xE0 then some (2, 0xA0, 0xBF)
  else if b == 0xED then some (2, 0x80, 0x9F)
  else if b < 0xF0 then some (2, 0x80, 0xBF)
  else if b == 0xF0 then some (3, 0x90, 0xBF)
  else if b < 0xF4 then some (3, 0x80, 0xBF)
  else if b == 0xF4 then some (3, 0x80, 0x8F)
  else none

/-- The code point of a lead byte and its continuation bytes. -/
def sequenceValue (lead : Nat) (conts : List Nat) : Nat :=
  let first := match conts.length with
    | 0 => lead
    | 1 => lead % 0x20
    | 2 => lead % 0x10
    | _ => lead % 0x08
  conts.foldl (fun v c => v * 64 + c % 64) first

/-- How many of the bytes `bs` continue a sequence whose second byte lies in `lo..hi`, up to
`want` of them. -/
def validContinuations (bs : List UInt8) (want lo hi : Nat) : Nat :=
  let rec go (bs : List UInt8) (k : Nat) : Nat :=
    match bs with
    | [] => k
    | b :: rest =>
      if k ≥ want then k
      else
        let n := b.toNat
        let ok := if k == 0 then lo ≤ n && n ≤ hi else 0x80 ≤ n && n ≤ 0xBF
        if ok then go rest (k + 1) else k
  go bs 0

/-- Decodes bytes from position `pos`, the characters decoded so far being `acc` (reversed). -/
def decodeFrom (acc : List Char) (pos : Nat) : List UInt8 → Except DecodeError (List Char)
  | [] => .ok acc.reverse
  | b :: rest =>
    match leadShape b.toNat with
    | none => .error ⟨pos, pos + 1, b, .invalidStart⟩
    | some (0, _, _) => decodeFrom (Char.ofNat b.toNat :: acc) (pos + 1) rest
    | some (want, lo, hi) =>
      let k := validContinuations rest want lo hi
      if k == want then
        let conts := (rest.take want).map UInt8.toNat
        decodeFrom (Char.ofNat (sequenceValue b.toNat conts) :: acc) (pos + 1 + want) (rest.drop want)
      else if k == rest.length then .error ⟨pos, pos + 1 + k, b, .unexpectedEnd⟩
      else .error ⟨pos, pos + 1 + k, b, .invalidContinuation⟩
termination_by bs => bs.length

/-- Decodes UTF-8 bytes into characters. -/
def decodeUtf8 (bs : List UInt8) : Except DecodeError (List Char) := decodeFrom [] 0 bs

/-- Encodes a character as UTF-8. -/
def encodeChar (c : Char) : List UInt8 :=
  let n := c.toNat
  if n < 0x80 then [n.toUInt8]
  else if n < 0x800 then [(0xC0 + n / 64).toUInt8, (0x80 + n % 64).toUInt8]
  else if n < 0x10000 then
    [(0xE0 + n / 4096).toUInt8, (0x80 + n / 64 % 64).toUInt8, (0x80 + n % 64).toUInt8]
  else
    [(0xF0 + n / 262144).toUInt8, (0x80 + n / 4096 % 64).toUInt8,
     (0x80 + n / 64 % 64).toUInt8, (0x80 + n % 64).toUInt8]

/-- Encodes text as UTF-8. -/
def encodeUtf8 (s : String) : List UInt8 := s.toList.flatMap encodeChar

/-- The first run of lone surrogates in a text: the positions of its first and last
characters. -/
def surrogateRun (s : String) : Option (Nat × Nat) :=
  let cs := s.toList
  let lone := fun c => (surrogateOf c).isSome
  match cs.findIdx? lone with
  | none => none
  | some i => some (i, i + ((cs.drop i).takeWhile lone).length - 1)

/-- Why text cannot be encoded as strict UTF-8, if it cannot: encoding stops at its first run
of lone surrogates, and names one surrogate by its code and a longer run by its positions. -/
def strictEncodeError (s : String) : Option String :=
  (surrogateRun s).map fun (first, last) =>
    let code := (s.toList.getD first ' ')
    let what := if first == last then
        "character '\\u" ++ hexDigits (codePoint code) 4 ++ "' in position " ++ toString first
      else "characters in position " ++ toString first ++ "-" ++ toString last
    "'utf-8' codec can't encode " ++ what ++ ": surrogates not allowed"

end SyntaxAdvisor.Text
