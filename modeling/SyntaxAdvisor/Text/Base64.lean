import SyntaxAdvisor.Text.Ranges

/-!
# Reading base 64

Base 64 text is read leniently: characters outside the alphabet are skipped, and `=` ends the
data once it completes a group of four (after at least two data characters of the group);
a `=` elsewhere is skipped. Data that stops inside a group is refused: a single character left
over cannot stand for any byte, and two or three need padding.

Written, bytes go in lines of at most 57 bytes (76 characters), each line ended by a line feed,
the last group padded with `=`.
-/

namespace SyntaxAdvisor.Text

/-- The value of a character of the base 64 alphabet. -/
def base64Value (c : Char) : Option Nat :=
  if 'A' ≤ c && c ≤ 'Z' then some (c.toNat - 65)
  else if 'a' ≤ c && c ≤ 'z' then some (c.toNat - 71)
  else if c.isDigit then some (c.toNat + 4)
  else if c == '+' then some 62
  else if c == '/' then some 63
  else none

/-- Why base 64 text cannot be read. -/
inductive Base64Error where
  /-- One data character is left over after `n` bytes. -/
  | strayCharacter (n : Nat)
  /-- The last group lacks its padding. -/
  | incorrectPadding

/-- The message of a reading failure. -/
def Base64Error.message : Base64Error → String
  | .strayCharacter n =>
    "Invalid base64-encoded string: number of data characters (" ++ toString (n / 3 * 4 + 1) ++
      ") cannot be 1 more than a multiple of 4"
  | .incorrectPadding => "Incorrect padding"

/-- The state of reading: the bytes so far (last first), the place in the group of four, the
bits carried over and the padding characters seen. -/
structure Base64State where
  /-- The bytes read, last first. -/
  out : List UInt8 := []
  /-- How many data characters of the current group have been read. -/
  quad : Nat := 0
  /-- The bits carried over to the next byte. -/
  carry : Nat := 0
  /-- The padding characters seen since the last data character. -/
  pads : Nat := 0

/-- Reads the characters of base 64 text from a state. -/
def base64From (st : Base64State) : List Char → Except Base64Error (List UInt8)
  | [] =>
    if st.quad == 0 then .ok st.out.reverse
    else if st.quad == 1 then .error (.strayCharacter st.out.length)
    else .error .incorrectPadding
  | c :: rest =>
    if c == '=' then
      if st.quad ≥ 2 && st.quad + st.pads + 1 ≥ 4 then .ok st.out.reverse
      else base64From { st with pads := if st.quad ≥ 2 then st.pads + 1 else st.pads } rest
    else match base64Value c with
      | none => base64From st rest
      | some v =>
        let st := { st with pads := 0 }
        match st.quad with
        | 0 => base64From { st with quad := 1, carry := v } rest
        | 1 => base64From { st with quad := 2, out := (st.carry * 4 + v / 16).toUInt8 :: st.out,
                                    carry := v % 16 } rest
        | 2 => base64From { st with quad := 3, out := (st.carry * 16 + v / 4).toUInt8 :: st.out,
                                    carry := v % 4 } rest
        | _ => base64From { st with quad := 0, out := (st.carry * 64 + v).toUInt8 :: st.out,
                                    carry := 0 } rest

/-- Reads base 64 text into bytes. -/
def decodeBase64 (s : String) : Except Base64Error (List UInt8) := base64From {} s.toList

/-- The character of a value of the base 64 alphabet. -/
def base64Char (v : Nat) : Char :=
  if v < 26 then Char.ofNat (65 + v)
  else if v < 52 then Char.ofNat (71 + v)
  else if v < 62 then Char.ofNat (v - 4)
  else if v == 62 then '+' else '/'

/-- The base 64 text of a group of one to three bytes, padded to four characters. -/
def base64Group : List UInt8 → List Char
  | [a] =>
    let n := a.toNat * 65536
    [base64Char (n / 262144), base64Char (n / 4096 % 64), '=', '=']
  | [a, b] =>
    let n := a.toNat * 65536 + b.toNat * 256
    [base64Char (n / 262144), base64Char (n / 4096 % 64), base64Char (n / 64 % 64), '=']
  | a :: b :: c :: _ =>
    let n := a.toNat * 65536 + b.toNat * 256 + c.toNat
    [base64Char (n / 262144), base64Char (n / 4096 % 64), base64Char (n / 64 % 64),
     base64Char (n % 64)]
  | [] => []

/-- The base 64 text of bytes, without line breaks. -/
def base64Text (bytes : List UInt8) : List Char :=
  if _h : bytes.length ≤ 3 then base64Group bytes
  else base64Group (bytes.take 3) ++ base64Text (bytes.drop 3)
termination_by bytes.length
decreasing_by simp; omega

/-- The base 64 text of bytes in lines of 57 bytes, each ended by a line feed. -/
def base64Lines (bytes : List UInt8) : String :=
  if _h : bytes.length ≤ 57 then
    if bytes.isEmpty then "" else String.ofList (base64Text bytes) ++ "\n"
  else String.ofList (base64Text (bytes.take 57)) ++ "\n" ++ base64Lines (bytes.drop 57)
termination_by bytes.length
decreasing_by simp; omega

end SyntaxAdvisor.Text
