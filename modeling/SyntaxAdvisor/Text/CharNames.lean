import SyntaxAdvisor.Text.CharNameTable
import Std.Data.HashSet

/-!
# Character names

Whether a text is a name that the escape `\N{name}` accepts. A name is looked up in three ways,
in this order:

* a name that starts with `HANGUL SYLLABLE ` (in capitals) is a Hangul syllable or nothing:
  the rest must spell a leading consonant (or none), a vowel and a trailing consonant (or
  none), each the longest that fits, in capitals, and nothing else;
* a name that starts with `CJK UNIFIED IDEOGRAPH-` (in capitals) is a unified ideograph or
  nothing: four or five hexadecimal digits in capitals, naming a code point of the blocks of
  unified ideographs;
* any other name is compared, in capitals, with the names of the table and with the names
  made of a prefix and a code point for the compatibility ideographs, the Khitan small script
  characters and the Nüshu characters.
-/

namespace SyntaxAdvisor.Text

/-- What decoding the front-coded table has reached: the names so far, the one being read,
and the one before it. -/
structure NameReader where
  /-- The names read. -/
  names : Array String := #[]
  /-- The name being read. -/
  current : Array Char := #[]
  /-- The last name read. -/
  previous : Array Char := #[]
  /-- The first letter of a shared-prefix length, when only that has been read. -/
  pending : Option Nat := none
  /-- Whether a name has been started. -/
  started : Bool := false

/-- Reads one character of the table. -/
def NameReader.step (r : NameReader) (c : Char) : NameReader :=
  if 'a' ≤ c && c ≤ 'z' then
    let digit := c.toNat - 'a'.toNat
    match r.pending with
    | none =>
      let r := if r.started then
          { r with names := r.names.push (String.ofList r.current.toList),
                   previous := r.current }
        else r
      { r with pending := some digit, started := true }
    | some high =>
      { r with current := r.previous.extract 0 (26 * high + digit), pending := none }
  else { r with current := r.current.push c }

/-- The names of a front-coded table. -/
def decodeNames (table : String) : Array String :=
  let r := table.foldl NameReader.step {}
  if r.started then r.names.push (String.ofList r.current.toList) else r.names

/-- The names of the table, for lookup. -/
def characterNames : Std.HashSet String :=
  (decodeNames nameTable).foldl (fun s n => s.insert n) {}

/-- A letter in capitals; other characters stay as they are. -/
def capital (c : Char) : Char := if 'a' ≤ c && c ≤ 'z' then Char.ofNat (c.toNat - 32) else c

/-- The leading consonants of Hangul syllables, by their spelling in names. -/
def leadingJamo : List String :=
  ["G", "GG", "N", "D", "DD", "R", "M", "B", "BB", "S", "SS", "", "J", "JJ", "C", "K", "T", "P",
   "H"]

/-- The vowels of Hangul syllables. -/
def vowelJamo : List String :=
  ["A", "AE", "YA", "YAE", "EO", "E", "YEO", "YE", "O", "WA", "WAE", "OE", "YO", "U", "WEO", "WE",
   "WI", "YU", "EU", "YI", "I"]

/-- The trailing consonants of Hangul syllables. -/
def trailingJamo : List String :=
  ["", "G", "GG", "GS", "N", "NJ", "NH", "D", "L", "LG", "LM", "LB", "LS", "LT", "LP", "LH", "M",
   "B", "BS", "S", "SS", "NG", "J", "C", "K", "T", "P", "H"]

/-- The length of the longest spelling among `options` that `cs` starts with, if any does. -/
def longestJamo (options : List String) (cs : List Char) : Option Nat :=
  options.foldl (fun best o =>
    let n := o.length
    if cs.take n == o.toList && best.all (· < n) then some n else best) none

/-- Whether `cs` spells a Hangul syllable: consonant, vowel and consonant, each the longest that
fits, using all of `cs`. -/
def isHangulSyllable (cs : List Char) : Bool :=
  let l := (longestJamo leadingJamo cs).getD 0
  let cs := cs.drop l
  match longestJamo vowelJamo cs with
  | none => false
  | some v =>
    let cs := cs.drop v
    let t := (longestJamo trailingJamo cs).getD 0
    t == cs.length

/-- The code points of the unified ideographs. -/
def unifiedIdeographs : List (Nat × Nat) :=
  [(0x3400, 0x4DBF), (0x4E00, 0x9FFF), (0x20000, 0x2A6DF), (0x2A700, 0x2B738),
   (0x2B740, 0x2B81D), (0x2B820, 0x2CEA1), (0x2CEB0, 0x2EBE0), (0x30000, 0x3134A)]

/-- Whether `n` lies in one of the ranges. -/
def inRanges (ranges : List (Nat × Nat)) (n : Nat) : Bool :=
  ranges.any fun (lo, hi) => lo ≤ n && n ≤ hi

/-- The value of a hexadecimal digit written in capitals. -/
def capitalHexValue (c : Char) : Option Nat :=
  if '0' ≤ c && c ≤ '9' then some (c.toNat - '0'.toNat)
  else if 'A' ≤ c && c ≤ 'F' then some (c.toNat - 'A'.toNat + 10)
  else none

/-- The value of hexadecimal digits written in capitals. -/
def capitalHexNumber (cs : List Char) : Option Nat :=
  cs.foldlM (fun v c => (capitalHexValue c).map (v * 16 + ·)) 0

/-- Whether `cs`, the digits after `CJK UNIFIED IDEOGRAPH-`, name a unified ideograph. -/
def isUnifiedIdeograph (cs : List Char) : Bool :=
  (cs.length == 4 || cs.length == 5) &&
    match capitalHexNumber cs with
    | some n => inRanges unifiedIdeographs n
    | none => false

/-- The names that end in the code point, in capitals with at least four digits, with the
code points they cover. -/
def codePointNames : List (String × List (Nat × Nat)) :=
  [("CJK COMPATIBILITY IDEOGRAPH-", [(0xF900, 0xFA6D), (0xFA70, 0xFAD9), (0x2F800, 0x2FA1D)]),
   ("KHITAN SMALL SCRIPT CHARACTER-", [(0x18B00, 0x18CD5)]),
   ("NUSHU CHARACTER-", [(0x1B170, 0x1B2FB)])]

/-- The hexadecimal digits of `n` in capitals, at least four. -/
def hexFour (n : Nat) : List Char :=
  let ds := (Nat.toDigits 16 n).map capital
  List.replicate (4 - ds.length) '0' ++ ds

/-- Whether `cs`, in capitals, is one of the names made of a prefix and a code point. -/
def isCodePointName (cs : List Char) : Bool :=
  codePointNames.any fun (head, ranges) =>
    let p := head.toList
    cs.take p.length == p &&
      let digits := cs.drop p.length
      match capitalHexNumber digits with
      | some n => hexFour n == digits && inRanges ranges n
      | none => false

/-- Whether the escape `\N{name}` accepts `name`. -/
def isCharacterName (name : List Char) : Bool :=
  let hangul := "HANGUL SYLLABLE ".toList
  let unified := "CJK UNIFIED IDEOGRAPH-".toList
  if name.take hangul.length == hangul then isHangulSyllable (name.drop hangul.length)
  else if name.take unified.length == unified then isUnifiedIdeograph (name.drop unified.length)
  else
    let upper := name.map capital
    characterNames.contains (String.ofList upper) || isCodePointName upper

end SyntaxAdvisor.Text
