import SyntaxAdvisor.Text.Ranges

/-!
# Case context

The lowercase form of capital sigma depends on the letters around it: it becomes final sigma
at the end of a word, that is, after a cased letter and not before one, where characters that
case ignores (combining marks, format characters, modifier letters and some punctuation) are
skipped on both sides (Unicode 14, the Final_Sigma condition). The two classes are kept here:
cased characters that case does not ignore, and characters that case ignores.
-/

namespace SyntaxAdvisor.Text

/-- The cased characters that case does not ignore, as `gap:span` ranges. -/
def casedTable : String :=
  "41:19 6:19 2f:0 a:0 4:0 5:16 1:1e 1:c2 1:3 4:cf 1:1a c0:3 2:1 3:2 1:0 6:0 1:2 " ++
  "1:0 1:13 1:52 1:8a 8:a5 1:25 9:28 b17:25 1:0 5:0 2:2a 2:2 2a0:55 2:5 882:8 7:2a " ++
  "2:2 40:2b 3f:c 1:21 65:115 2:5 2:25 2:5 2:7 1:0 1:0 1:0 1:1e 2:34 1:6 1:0 3:2 " ++
  "1:6 3:3 2:5 4:c 5:2 1:6 105:0 4:0 2:9 1:0 3:4 6:0 1:0 1:0 1:3 1:5 4:0 2:3 5:4 " ++
  "4:0 11:1f 3:1 331:33 716:7b 2:66 6:3 3:1 c:25 1:0 5:0 7912:2d 12:1b 86:4d 1:16 " ++
  "3:3 1:3a 5:1 1:0 1:4 1b:1 3:0 335:2a 5:8 7:4f 4f40:6 c:4 409:19 6:19 4a5:4f " ++
  "60:23 4:23 74:a 1:e 1:6 1:1 1:a 1:e 1:6 1:1 6c3:32 d:32 bad:3f 5560:3f 6580:54 " ++
  "1:46 1:1 2:0 2:1 2:3 1:b 1:0 1:6 1:40 1:3 2:7 1:6 1:1b 1:3 1:4 1:0 3:6 1:153 " ++
  "2:18 1:18 1:1e 1:18 1:1e 1:18 1:1e 1:18 1:1e 1:18 1:7 734:9 1:13 9e1:43 7ec:19 " ++
  "6:19 6:19 "

/-- The characters that case ignores, as `gap:span` ranges. -/
def caseIgnorableTable : String :=
  "27:0 6:0 b:0 23:0 1:0 47:0 4:0 1:0 4:0 2:1 1f7:bf 4:1 4:0 9:1 1:0 fb:6 cf:0 5:0 " ++
  "31:2c 1:0 1:1 1:1 1:0 2c:0 b:5 a:a 1:0 23:0 a:14 10:0 65:7 1:9 1:3 21:0 1:0 " ++
  "1e:1a 5b:a 3a:a 4:0 2:0 18:17 2b:2 2c:0 7:1 6:7 29:39 37:0 1:0 4:7 4:0 3:6 a:1 " ++
  "d:0 f:0 3a:0 4:3 8:0 14:1 1a:0 2:1 39:0 4:1 4:1 2:2 3:0 1e:1 3:0 b:1 39:0 4:4 " ++
  "1:1 4:0 14:1 16:5 1:0 3a:0 2:0 1:3 8:0 7:1 b:1 1e:0 3d:0 c:0 32:0 3:0 37:0 1:2 " ++
  "5:2 1:3 7:1 b:1 1d:0 3a:0 2:0 6:0 5:1 14:1 1c:1 39:1 4:3 8:0 14:1 1d:0 48:0 7:2 " ++
  "1:0 5a:0 2:6 b:8 62:0 2:8 9:0 1:5 4a:1 1b:0 1:0 1:0 37:d 1:4 1:1 5:a 1:23 9:0 " ++
  "66:3 1:5 1:1 2:1 19:1 4:2 10:3 d:0 2:1 6:0 f:0 5e:0 260:2 3b2:2 1d:1 1e:1 1e:1 " ++
  "40:1 1:6 8:0 2:a 3:0 5:0 2d:4 33:0 41:1 22:0 76:2 4:1 9:0 6:2 db:1 2:0 3a:0 1:6 " ++
  "1:0 1:0 2:7 6:9 2:0 27:0 8:1e 31:3 30:0 1:4 1:0 5:0 28:8 c:1 20:3 2:1 1:2 38:0 " ++
  "1:1 3:0 1:2 3a:7 2:1 40:5 52:2 1:c 1:6 4:0 6:0 3:1 32:3e d:0 22:64 1bd:0 1:2 " ++
  "b:2 d:2 d:2 d:1 c:4 8:1 a:0 2:0 2:4 31:4 1:9 1:0 d:0 10:c 33:20 b8b:1 71:2 7d:0 " ++
  "f:0 60:1f 2f:0 1d5:0 24:3 3:4 5:0 5d:5 5d:2 6f16:0 4e2:5 10e:0 62:3 1:9 1:0 " ++
  "1c:3 50:1 e:21 4e:0 17:2 67:2 3:1 8:0 3:0 4:0 19:1 5:0 97:1 1a:11 d:0 26:7 19:a " ++
  "2e:2 30:0 2:3 2:1 11:0 15:1 42:5 2:1 2:1 c:0 8:0 23:0 b:0 33:0 1:2 2:1 5:1 1:0 " ++
  "1b:0 e:1 5:1 1:0 64:4 9:2 79:0 2:0 4:0 4f30:0 93:10 23d:f 3:0 c:f 22:0 2:0 a9:0 " ++
  "7:0 6:0 b:0 23:0 1:0 2f:0 2d:1 43:0 15:2 201:0 e2:0 95:4 405:5 1:29 1:8 246:2 " ++
  "1:1 5:3 28:2 4:0 a5:1 23d:3 183:1 99:a 31:3 7b:0 36:e 29:0 2:1 a:2 31:3 2:1 2:0 " ++
  "4:0 a:0 32:2 24:4 1:7 3e:0 c:1 34:8 a:3 2:0 5f:2 2:0 1:1 6:0 a0:0 3:7 15:1 39:1 " ++
  "3:0 25:6 3:4 c3:7 2:2 1:0 17:0 54:5 1:0 4:1 1:1 ee:3 6:1 1:1 1b:1 55:7 2:0 1:1 " ++
  "6a:0 1:0 2:5 1:0 65:2 2:3 1:4 103:8 1:1 100:1 1:0 4:0 90:3 2:1 4:0 20:9 28:5 " ++
  "2:3 8:0 9:5 2:2 2e:c 1:1 196:6 1:5 1:0 52:15 2:6 1:1 1:1 7a:5 3:0 1:1 1:6 1:0 " ++
  "48:1 3:0 1:0 15b:1 153b:8 36b7:4 3b:6 9:3 40b:0 3f:10 40:1 1:1 400b:3 1:6 1:1 " ++
  "c9e:1 1:3 125c:2d 2:16 220:2 9:f 2:6 1e:3 94:2 7bb:36 4:31 8:0 e:0 16:4 1:e " ++
  "550:6 1:10 2:6 1:1 1:4 105:d 170:0 3d:3 5e0:6 6d:7 aaf:4 c0c01:0 1e:5f 80:ef "

/-- The cased characters that case does not ignore. -/
def casedRanges : Array CodeRange := decodeRanges casedTable

/-- The characters that case ignores. -/
def caseIgnorableRanges : Array CodeRange := decodeRanges caseIgnorableTable

/-- Whether a character is cased and not ignored by case. -/
def isCased (c : Char) : Bool := CodeRange.member casedRanges c.toNat

/-- Whether case ignores a character. -/
def isCaseIgnorable (c : Char) : Bool := CodeRange.member caseIgnorableRanges c.toNat

/-- Whether the nearest character that case does not ignore, reading `cs` from its start, is
cased. -/
def nearestIsCased (cs : List Char) : Bool :=
  match cs.dropWhile isCaseIgnorable with
  | c :: _ => isCased c
  | [] => false

/-- Whether a capital sigma with `before` on its left (nearest first) and `after` on its right
ends a word. -/
def endsWord (before after : List Char) : Bool :=
  nearestIsCased before && !nearestIsCased after

end SyntaxAdvisor.Text
