/-!
# Line breaks

Text splits into lines at the line feed, the carriage return (a carriage return and line feed
together count as one break), the vertical tab, the form feed, the file, group and record
separators, the next-line control, and the Unicode line and paragraph separators. A break at
the very end of the text does not start another line.

A narrower splitting, used where text is read line by line from a file, breaks after each line
feed only and keeps it.
-/

namespace SyntaxAdvisor.Text

/-- Whether a character breaks a line. -/
def isLineBreak (c : Char) : Bool :=
  [0x0A, 0x0B, 0x0C, 0x0D, 0x1C, 0x1D, 0x1E, 0x85, 0x2028, 0x2029].contains c.toNat

/-- Splits characters into lines, `cur` being the line read so far (reversed). -/
def splitLinesFrom (cur : List Char) : List Char → List String
  | [] => if cur.isEmpty then [] else [String.ofList cur.reverse]
  | '\r' :: '\n' :: rest => String.ofList cur.reverse :: splitLinesFrom [] rest
  | c :: rest =>
    if isLineBreak c then String.ofList cur.reverse :: splitLinesFrom [] rest
    else splitLinesFrom (c :: cur) rest

/-- The lines of a text, without their breaks. -/
def splitLines (s : String) : List String := splitLinesFrom [] s.toList

/-- Splits characters after each line feed, keeping it, `cur` being the line read so far
(reversed). -/
def readLinesFrom (cur : List Char) : List Char → List String
  | [] => if cur.isEmpty then [] else [String.ofList cur.reverse]
  | c :: rest =>
    if c == '\n' then String.ofList (c :: cur).reverse :: readLinesFrom [] rest
    else readLinesFrom (c :: cur) rest

/-- The lines of a text as read one by one from a file: each keeps its line feed. -/
def readLines (s : String) : List String := readLinesFrom [] s.toList

/-- Translates line ends after the characters `acc` (reversed) already translated. -/
def translateNewlinesOnto (acc : List Char) : List Char → List Char
  | [] => acc.reverse
  | '\r' :: '\n' :: rest => translateNewlinesOnto ('\n' :: acc) rest
  | '\r' :: rest => translateNewlinesOnto ('\n' :: acc) rest
  | c :: rest => translateNewlinesOnto (c :: acc) rest

/-- Translates the line ends of a text read from a file: a carriage return and line feed, or a
carriage return alone, becomes a line feed. -/
def translateNewlines (cs : List Char) : List Char := translateNewlinesOnto [] cs

end SyntaxAdvisor.Text
