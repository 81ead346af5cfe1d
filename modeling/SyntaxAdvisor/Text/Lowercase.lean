import SyntaxAdvisor.Text.Ranges
import SyntaxAdvisor.Text.CaseContext

/-!
# Lowercase mapping

The full Unicode lowercase mapping (Unicode 14): every character maps to one character, except
capital I with dot above, which maps to a small i and a combining dot above, and capital sigma,
which becomes final sigma where it ends a word (see `Text.endsWord`) and small sigma elsewhere. The one-to-one
mappings come in runs, each written `first:count:delta:step` in hexadecimal: `count` code
points from `first`, `step` apart, each mapping to itself plus `delta` (which may be negative).
-/

namespace SyntaxAdvisor.Text

/-- The runs of one-to-one lowercase mappings. -/
def lowercaseTable : String :=
  "41:1a:20:1 c0:17:20:1 d8:7:20:1 100:18:1:2 132:3:1:2 139:8:1:2 14a:17:1:2 178:1:-79:1 " ++
  "179:3:1:2 181:1:d2:1 182:2:1:2 186:1:ce:1 187:1:1:1 189:2:cd:1 18b:1:1:1 18e:1:4f:1 " ++
  "18f:1:ca:1 190:1:cb:1 191:1:1:1 193:1:cd:1 194:1:cf:1 196:1:d3:1 197:1:d1:1 198:1:1:1 " ++
  "19c:1:d3:1 19d:1:d5:1 19f:1:d6:1 1a0:3:1:2 1a6:1:da:1 1a7:1:1:1 1a9:1:da:1 1ac:1:1:1 " ++
  "1ae:1:da:1 1af:1:1:1 1b1:2:d9:1 1b3:2:1:2 1b7:1:db:1 1b8:1:1:1 1bc:1:1:1 1c4:1:2:1 " ++
  "1c5:1:1:1 1c7:1:2:1 1c8:1:1:1 1ca:1:2:1 1cb:9:1:2 1de:9:1:2 1f1:1:2:1 1f2:2:1:2 " ++
  "1f6:1:-61:1 1f7:1:-38:1 1f8:14:1:2 220:1:-82:1 222:9:1:2 23a:1:2a2b:1 23b:1:1:1 " ++
  "23d:1:-a3:1 23e:1:2a28:1 241:1:1:1 243:1:-c3:1 244:1:45:1 245:1:47:1 246:5:1:2 " ++
  "370:2:1:2 376:1:1:1 37f:1:74:1 386:1:26:1 388:3:25:1 38c:1:40:1 38e:2:3f:1 391:11:20:1 " ++
  "3a3:9:20:1 3cf:1:8:1 3d8:c:1:2 3f4:1:-3c:1 3f7:1:1:1 3f9:1:-7:1 3fa:1:1:1 3fd:3:-82:1 " ++
  "400:10:50:1 410:20:20:1 460:11:1:2 48a:1b:1:2 4c0:1:f:1 4c1:7:1:2 4d0:30:1:2 " ++
  "531:26:30:1 10a0:26:1c60:1 10c7:1:1c60:1 10cd:1:1c60:1 13a0:50:97d0:1 13f0:6:8:1 " ++
  "1c90:2b:-bc0:1 1cbd:3:-bc0:1 1e00:4b:1:2 1e9e:1:-1dbf:1 1ea0:30:1:2 1f08:8:-8:1 " ++
  "1f18:6:-8:1 1f28:8:-8:1 1f38:8:-8:1 1f48:6:-8:1 1f59:4:-8:2 1f68:8:-8:1 1f88:8:-8:1 " ++
  "1f98:8:-8:1 1fa8:8:-8:1 1fb8:2:-8:1 1fba:2:-4a:1 1fbc:1:-9:1 1fc8:4:-56:1 1fcc:1:-9:1 " ++
  "1fd8:2:-8:1 1fda:2:-64:1 1fe8:2:-8:1 1fea:2:-70:1 1fec:1:-7:1 1ff8:2:-80:1 " ++
  "1ffa:2:-7e:1 1ffc:1:-9:1 2126:1:-1d5d:1 212a:1:-20bf:1 212b:1:-2046:1 2132:1:1c:1 " ++
  "2160:10:10:1 2183:1:1:1 24b6:1a:1a:1 2c00:30:30:1 2c60:1:1:1 2c62:1:-29f7:1 " ++
  "2c63:1:-ee6:1 2c64:1:-29e7:1 2c67:3:1:2 2c6d:1:-2a1c:1 2c6e:1:-29fd:1 2c6f:1:-2a1f:1 " ++
  "2c70:1:-2a1e:1 2c72:1:1:1 2c75:1:1:1 2c7e:2:-2a3f:1 2c80:32:1:2 2ceb:2:1:2 2cf2:1:1:1 " ++
  "a640:17:1:2 a680:e:1:2 a722:7:1:2 a732:1f:1:2 a779:2:1:2 a77d:1:-8a04:1 a77e:5:1:2 " ++
  "a78b:1:1:1 a78d:1:-a528:1 a790:2:1:2 a796:a:1:2 a7aa:1:-a544:1 a7ab:1:-a54f:1 " ++
  "a7ac:1:-a54b:1 a7ad:1:-a541:1 a7ae:1:-a544:1 a7b0:1:-a512:1 a7b1:1:-a52a:1 " ++
  "a7b2:1:-a515:1 a7b3:1:3a0:1 a7b4:8:1:2 a7c4:1:-30:1 a7c5:1:-a543:1 a7c6:1:-8a38:1 " ++
  "a7c7:2:1:2 a7d0:1:1:1 a7d6:2:1:2 a7f5:1:1:1 ff21:1a:20:1 10400:28:28:1 104b0:24:28:1 " ++
  "10570:b:27:1 1057c:f:27:1 1058c:7:27:1 10594:2:27:1 10c80:33:40:1 118a0:20:20:1 " ++
  "16e40:20:20:1 1e900:22:22:1"

/-- A run of lowercase mappings. -/
structure CaseRun where
  /-- The first code point of the run. -/
  first : Nat
  /-- How many code points the run maps. -/
  count : Nat
  /-- What each code point of the run adds to become lowercase. -/
  delta : Int
  /-- The distance between two code points of the run. -/
  step : Nat
deriving Inhabited

/-- Reads a signed hexadecimal number. -/
def signedHexValue (s : String) : Int :=
  if s.startsWith "-" then -((hexValue (s.drop 1).toString : Nat) : Int) else (hexValue s : Int)

/-- The runs of the table. -/
def lowercaseRuns : Array CaseRun :=
  ((lowercaseTable.splitOn " ").filter (· ≠ "")).toArray.map fun e =>
    match e.splitOn ":" with
    | [a, b, c, d] => ⟨hexValue a, hexValue b, signedHexValue c, hexValue d⟩
    | _ => default

/-- The lowercase form of a character, as one or more characters. -/
def lowerChar (c : Char) : List Char :=
  if c.toNat == 0x130 then ['i', Char.ofNat 0x307]
  else
    let n := c.toNat
    let hit := lowercaseRuns.find? fun r =>
      r.first ≤ n && n < r.first + r.count * r.step && (n - r.first) % r.step == 0
    match hit with
    | some r => [Char.ofNat (n + r.delta).toNat]
    | none => [c]

/-- Lowercases `cs`, whose left context is `before` (nearest first). -/
def lowerFrom (before : List Char) : List Char → List Char
  | [] => []
  | c :: rest =>
    let here := if c.toNat == 0x3A3 then
        [Char.ofNat (if endsWord before rest then 0x3C2 else 0x3C3)]
      else lowerChar c
    here ++ lowerFrom (c :: before) rest

/-- The lowercase form of a text, by the full Unicode mapping. -/
def lower (s : String) : String := String.ofList (lowerFrom [] s.toList)

end SyntaxAdvisor.Text
