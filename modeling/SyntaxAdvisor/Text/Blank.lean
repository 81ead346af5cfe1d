/-!
# Blank characters and stripping

The blank characters are those of Unicode 14 whose bidirectional class is a separator or
whitespace, or whose category is a space separator: the ASCII tab, line feed, vertical tab,
form feed and carriage return, the four information separators, the space, the next-line
control, the no-break space, and the Unicode spaces and separators. Neither the zero-width
space nor the byte order mark is blank.
-/

namespace SyntaxAdvisor.Text

/-- The blank code points. -/
def blankCodes : List Nat :=
  [0x09, 0x0A, 0x0B, 0x0C, 0x0D, 0x1C, 0x1D, 0x1E, 0x1F, 0x20, 0x85, 0xA0, 0x1680,
   0x2000, 0x2001, 0x2002, 0x2003, 0x2004, 0x2005, 0x2006, 0x2007, 0x2008, 0x2009, 0x200A,
   0x2028, 0x2029, 0x202F, 0x205F, 0x3000]

/-- Whether a character is blank. -/
def isBlank (c : Char) : Bool := blankCodes.contains c.toNat

/-- A list of characters without its leading and trailing blanks. -/
def stripChars (cs : List Char) : List Char :=
  ((cs.dropWhile isBlank).reverse.dropWhile isBlank).reverse

/-- A text without its leading and trailing blanks. -/
def strip (s : String) : String := String.ofList (stripChars s.toList)

/-- A text without its leading blanks. -/
def stripStart (s : String) : String := String.ofList (s.toList.dropWhile isBlank)

/-- A text without its trailing blanks. -/
def stripEnd (s : String) : String := String.ofList (s.toList.reverse.dropWhile isBlank).reverse

end SyntaxAdvisor.Text
