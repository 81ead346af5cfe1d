import SyntaxAdvisor.Yaml.Node
import SyntaxAdvisor.Value.Shared
import SyntaxAdvisor.Decimal.Reading
import SyntaxAdvisor.Text.Base64
import SyntaxAdvisor.Text.Lowercase
import SyntaxAdvisor.Text.Search

/-!
# The value of a YAML document

Each node of a document's graph stands for a value, chosen by its tag: nothing, truth values,
integers, doubles, text, bytes, timestamps, sequences, mappings, sets, ordered mappings and
lists of pairs. A node reached along several paths stands for one value, a part shared by all
the places that reach it (`Shared`). So does every `.nan`: that spelling always stands for the
one not-a-number part of the document, while `nan` made by other spellings is a new part each
time, and so a key distinct from every other.

Scalars are converted at once. A collection is first made empty, and filled only after every
collection made before it has been filled: the collections are filled breadth first, in the
order they were made, each fully before the next. This order decides which of several faults is
met first. A mapping's key must be a scalar value (a collection cannot be a key); a key equal to
an earlier one (the same part, or an equal value) replaces that key's value in place. The pairs
of an ordered mapping or a list of pairs are fixed pairs of parts.

Before a mapping is filled, its merge keys `<<` are taken out and the pairs of the mappings they
name put in front of its own pairs, the mappings of a list of them last first; a value key `=`
becomes a text key. A mapping stands for a scalar through its value key `=`.

Conversions that fail the way the host's conversions fail (an integer or double that does not
read, a date out of range, an unknown truth word) are not YAML errors.
-/

namespace SyntaxAdvisor.Yaml

/-- The kinds of collection that are filled after they are made. -/
inductive Filling where
  | sequence | mapping | set | orderedMap | pairList
deriving Inhabited

/-- The state of building a document's value. -/
structure Builder where
  /-- The nodes; merging rewrites mappings in place. -/
  nodes : Array Node
  /-- The values made so far, as parts of the document's value. -/
  store : Shared := {}
  /-- The part that every `.nan` stands for, once made. -/
  sharedNaN : Option Nat := none
  /-- The value each node stands for, once made. -/
  made : List (Nat × Nat) := []
  /-- The nodes being made. -/
  making : List Nat := []
  /-- The collections still to fill: kind, node and value. -/
  queue : List (Filling × Nat × Nat) := []

/-- Building values: a computation on the builder that may fail. -/
abbrev BuildM := StateT Builder (Except LoadError)

namespace Builder

/-- The node at an index. -/
def nodeAt (i : Nat) : BuildM Node := return (← get).nodes.getD i default

/-- Fails with a YAML error of construction. -/
def fail (context : Option String) (contextMark : Option Mark) (problem : String)
    (problemMark : Mark) : BuildM α :=
  throw (.marked { context, contextMark, problem := some problem, problemMark := some problemMark })

/-- Fails as a host conversion fails. -/
def failWith (f : Failure) : BuildM α := throw (.foreign f)

/-- The text a node stands for as a scalar: its own text, or for a mapping the text of the
value of its value key. -/
def scalarText : Nat → Nat → BuildM String
  | 0, _ => failWith (.recursionError "maximum recursion depth exceeded")
  | fuel + 1, i => do
    let n ← nodeAt i
    match n.body with
    | .scalar value _ => return value
    | .mapping pairs =>
      let nodes := (← get).nodes
      match pairs.find? fun (k, _) => (nodes.getD k default).tag == Tag.value with
      | some (_, v) => scalarText fuel v
      | none =>
        fail none none ("expected a scalar node, but found " ++ n.kindName) n.startMark
    | _ => fail none none ("expected a scalar node, but found " ++ n.kindName) n.startMark

/-- The pairs of a mapping node; none for another node. -/
def pairsOf (i : Nat) : BuildM (List (Nat × Nat)) := do
  match (← nodeAt i).body with
  | .mapping pairs => return pairs
  | _ => return []

/-- Sets the pairs of a mapping node. -/
def setPairs (i : Nat) (pairs : List (Nat × Nat)) : BuildM Unit :=
  modify fun b => { b with nodes := b.nodes.modify i fun n => { n with body := .mapping pairs } }

/-- Sets the tag of a node. -/
def setTag (i : Nat) (tag : String) : BuildM Unit :=
  modify fun b => { b with nodes := b.nodes.modify i fun n => { n with tag } }

mutual

/-- Takes the merge keys out of a mapping node and puts the pairs they name in front. -/
def flatten : Nat → Nat → BuildM Unit
  | 0, _ => failWith (.recursionError "maximum recursion depth exceeded")
  | fuel + 1, i => do
    let merged ← flattenFrom fuel i 0 [] (fuel + 1)
    if !merged.isEmpty then setPairs i (merged ++ (← pairsOf i))
termination_by fuel _ => (fuel, 0, 0)

/-- Walks the pairs of a mapping node from position `index`, collecting the merged pairs. -/
def flattenFrom (fuel : Nat) (i index : Nat) (merged : List (Nat × Nat)) :
    Nat → BuildM (List (Nat × Nat))
  | 0 => pure merged
  | steps + 1 => do
    let pairs ← pairsOf i
    match pairs[index]? with
    | none => pure merged
    | some (k, v) =>
      let keyTag := (← nodeAt k).tag
      if keyTag == Tag.merge then
        setPairs i (pairs.eraseIdx index)
        let owner ← nodeAt i
        let source ← nodeAt v
        match source.body with
        | .mapping _ =>
          flatten fuel v
          let more ← pairsOf v
          flattenFrom fuel i index (merged ++ more) steps
        | .sequence subs =>
          let parts ← mergeSources fuel owner subs []
          flattenFrom fuel i index (merged ++ parts.reverse.flatten) steps
        | .scalar _ _ =>
          fail (some "while constructing a mapping") (some owner.startMark)
            ("expected a mapping or list of mappings for merging, but found " ++ source.kindName)
            source.startMark
      else
        if keyTag == Tag.value then setTag k Tag.str
        flattenFrom fuel i (index + 1) merged steps
termination_by steps => (fuel, 1, steps)

/-- Flattens each mapping of a merge list: their pairs, in list order. -/
def mergeSources (fuel : Nat) (owner : Node) :
    List Nat → List (List (Nat × Nat)) → BuildM (List (List (Nat × Nat)))
  | [], acc => pure acc
  | s :: rest, acc => do
    let sub ← nodeAt s
    match sub.body with
    | .mapping _ =>
      flatten fuel s
      let pairs ← pairsOf s
      mergeSources fuel owner rest (acc ++ [pairs])
    | _ =>
      fail (some "while constructing a mapping") (some owner.startMark)
        ("expected a mapping for merging, but found " ++ sub.kindName) sub.startMark
termination_by subs _ => (fuel, 0, subs.length + 1)

end

/-- Makes a new part: its place. -/
def newPart (p : Part) : BuildM Nat := do
  let b ← get
  let (store, o) := b.store.add p
  set { b with store }
  return o

/-- Replaces a part. -/
def setPart (o : Nat) (p : Part) : BuildM Unit :=
  modify fun b => { b with store := b.store.put o p }

/-- The part every `.nan` stands for, made the first time it is needed. -/
def sharedNaNPart : BuildM Nat := do
  if let some o := (← get).sharedNaN then return o
  let o ← newPart (.scalar (.float Decimal.notANumber))
  modify fun b => { b with sharedNaN := some o }
  return o

/-- The text of a failed conversion to ASCII: the run of characters outside ASCII that starts
at the first one. -/
def asciiFailure (s : String) : Option String :=
  let cs := s.toList
  match cs.findIdx? (·.toNat ≥ 128) with
  | none => none
  | some start =>
    let run := (cs.drop start).takeWhile (·.toNat ≥ 128)
    let place :=
      if run.length == 1 then
        let n := (run.headD ' ').toNat
        let code :=
          if n ≤ 0xff then "\\x" ++ hexDigits n 2
          else if n ≤ 0xffff then "\\u" ++ hexDigits n 4
          else "\\U" ++ hexDigits n 8
        "character '" ++ code ++ "' in position " ++ toString start
      else
        "characters in position " ++ toString start ++ "-" ++ toString (start + run.length - 1)
    some ("'ascii' codec can't encode " ++ place ++ ": ordinal not in range(128)")

/-- The error of an integer that does not read. -/
def intFailure (s : String) (base : Nat) : Failure :=
  .valueError ("invalid literal for int() with base " ++ toString base ++ ": " ++
    String.ofList ((quoteText s).toList.take 200))

/-- Reads an integer as the host does. -/
def readIntOr (s : String) (base : Nat) : BuildM Int :=
  match Decimal.readIntLimited s base with
  | .value n => pure n
  | .invalid => failWith (intFailure s base)
  | .tooLong n => failWith (.valueError ("Exceeds the limit (" ++ toString Decimal.maxIntDigits ++
      " digits) for integer string conversion: value has " ++ toString n ++
      " digits; use sys.set_int_max_str_digits() to increase the limit"))

/-- Reads a double as the host does. -/
def readFloatOr (s : String) : BuildM Float :=
  match Decimal.readFloat s with
  | some x => pure x
  | none => failWith (.valueError ("could not convert string to float: " ++ quoteText s))

/-- The first character of a text, failing on an empty text as indexing does. -/
def firstChar (s : String) : BuildM Char :=
  match s.toList.head? with
  | some c => pure c
  | none => failWith (.indexError "string index out of range")

/-- The integer a text stands for: sign, then `0`, binary `0b`, hexadecimal `0x`, octal with a
leading zero, base 60 with colons, or decimal. Underscores are ignored. -/
def intOfText (text : String) : BuildM Int := do
  let v := Text.replace text "_" ""
  let c ← firstChar v
  let sign : Int := if c == '-' then -1 else 1
  let v := if c == '-' || c == '+' then String.ofList (v.toList.drop 1) else v
  if v == "0" then return 0
  else if v.startsWith "0b" then return sign * (← readIntOr (String.ofList (v.toList.drop 2)) 2)
  else if v.startsWith "0x" then return sign * (← readIntOr (String.ofList (v.toList.drop 2)) 16)
  else if (← firstChar v) == '0' then return sign * (← readIntOr v 8)
  else if v.toList.contains ':' then
    let parts ← (v.splitOn ":").mapM fun p => readIntOr p 10
    let total := parts.reverse.foldl (fun (acc : Int × Int) d => (acc.1 + d * acc.2, acc.2 * 60))
      (0, 1)
    return sign * total.1
  else return sign * (← readIntOr v 10)

/-- The most parts a base-60 double may have: the place value of a further part, a power of
sixty, is too large for a double. -/
def maxSexagesimalParts : Nat := 174

/-- What the text of a double stands for. -/
inductive FloatReading where
  /-- A double of its own. -/
  | double (x : Float)
  /-- The one not-a-number that `.nan` always names. -/
  | sharedNaN

/-- The double a text stands for: sign, then `.inf`, `.nan`, base 60 with colons, or a decimal.
Underscores are ignored and case does not matter. -/
def floatOfText (text : String) : BuildM FloatReading := do
  let v := Text.lower (Text.replace text "_" "")
  let c ← firstChar v
  let negative := c == '-'
  let v := if c == '-' || c == '+' then String.ofList (v.toList.drop 1) else v
  let signed (x : Float) : FloatReading := .double (if negative then -1.0 * x else 1.0 * x)
  if v == ".inf" then return signed Decimal.infinity
  else if v == ".nan" then return .sharedNaN
  else if v.toList.contains ':' then
    let parts ← (v.splitOn ":").mapM readFloatOr
    if parts.length > maxSexagesimalParts then
      failWith (.raised "OverflowError" "int too large to convert to float")
    let total := parts.reverse.foldl
      (fun (acc : Float × Nat) d => (acc.1 + d * Float.ofNat acc.2, acc.2 * 60)) (0.0, 1)
    return signed total.1
  else return signed (← readFloatOr v)

/-- The truth value a word stands for, in any case. -/
def boolOfText (text : String) : BuildM Bool := do
  let w := Text.lower text
  if w == "yes" || w == "true" || w == "on" then return true
  else if w == "no" || w == "false" || w == "off" then return false
  else failWith (.keyError (.str w))

/-- The bytes that base 64 text stands for. -/
def bytesOfText (text : String) (at_ : Mark) : BuildM (List UInt8) := do
  if let some m := asciiFailure text then
    fail none none ("failed to convert base64 data into ascii: " ++ m) at_
  match Text.decodeBase64 text with
  | .ok bytes => return bytes
  | .error e => fail none none ("failed to decode base64 data: " ++ e.message) at_

/-- The date or date-time a timestamp node stands for. -/
def timestampOf (n : Node) : BuildM Value := do
  match n.body with
  | .scalar value _ =>
    match Timestamp.read value.toList with
    | some t =>
      match t.toValue with
      | .ok v => return v
      | .error f => failWith f
    | none => failWith (.attributeError "'NoneType' object has no attribute 'groupdict'")
  | _ => failWith (.typeError "expected string or bytes-like object, got 'list'")

/-- Makes the value a node stands for, or finds the one made before; collections are left
empty, to be filled later. -/
def make (i : Nat) : BuildM Nat := do
  let b ← get
  if let some o := b.made.lookup i then return o
  let n ← nodeAt i
  if b.making.contains i then
    fail none none "found unconstructable recursive node" n.startMark
  set { b with making := i :: b.making }
  let fuel := b.nodes.size + 1
  let scalar (v : Value) : BuildM Nat := newPart (.scalar v)
  let later (kind : Filling) (empty : Part) : BuildM Nat := do
    let o ← newPart empty
    modify fun b => { b with queue := b.queue ++ [(kind, i, o)] }
    return o
  let o ← if n.tag == Tag.null then do
      discard (scalarText fuel i)
      scalar .none
    else if n.tag == Tag.bool then do scalar (.bool (← boolOfText (← scalarText fuel i)))
    else if n.tag == Tag.int then do scalar (.int (← intOfText (← scalarText fuel i)))
    else if n.tag == Tag.float then do
      match ← floatOfText (← scalarText fuel i) with
      | .double x => scalar (.float x)
      | .sharedNaN => sharedNaNPart
    else if n.tag == Tag.binary then do scalar (.bytes (← bytesOfText (← scalarText fuel i) n.startMark))
    else if n.tag == Tag.timestamp then do
      discard (scalarText fuel i)
      scalar (← timestampOf n)
    else if n.tag == Tag.str then do scalar (.str (← scalarText fuel i))
    else if n.tag == Tag.seq then later .sequence (.list [])
    else if n.tag == Tag.map then later .mapping (.dict [])
    else if n.tag == Tag.set then later .set (.set [])
    else if n.tag == Tag.omap then later .orderedMap (.list [])
    else if n.tag == Tag.pairs then later .pairList (.list [])
    else
      fail none none ("could not determine a constructor for the tag " ++ quoteText n.tag)
        n.startMark
  modify fun b => { b with made := (i, o) :: b.made, making := b.making.erase i }
  return o

/-- Puts a pair into mapping entries: a key that is the same as an earlier one (the same part,
or an equal value) keeps its place and takes the new value. -/
def insertEntry (store : Shared) (es : List (Nat × Nat)) (k v : Nat) : List (Nat × Nat) :=
  if es.any (fun (k', _) => store.sameKey k' k) then
    es.map fun (k', v') => if store.sameKey k' k then (k', v) else (k', v')
  else es ++ [(k, v)]

/-- Whether a part is a scalar, and so may be a key. -/
def isKey (o : Nat) : BuildM Bool := do
  match (← get).store.part o with
  | .scalar _ => return true
  | _ => return false

/-- The entries of a mapping node, after merging: key and value parts. -/
def mappingEntries (i : Nat) : BuildM (List (Nat × Nat)) := do
  let n ← nodeAt i
  if let .mapping _ := n.body then flatten ((← get).nodes.size + 1) i
  let n ← nodeAt i
  let .mapping pairs := n.body
    | fail none none ("expected a mapping node, but found " ++ n.kindName) n.startMark
  pairs.foldlM (fun es (k, v) => do
    let ko ← make k
    if !(← isKey ko) then
      fail (some "while constructing a mapping") (some n.startMark) "found unhashable key"
        (← nodeAt k).startMark
    let vo ← make v
    return insertEntry (← get).store es ko vo) []

/-- The pairs of an ordered mapping or list of pairs: a sequence of one-pair mappings. -/
def pairEntries (what : String) (i : Nat) : BuildM (List Nat) := do
  let n ← nodeAt i
  let .sequence subs := n.body
    | fail (some what) (some n.startMark) ("expected a sequence, but found " ++ n.kindName)
        n.startMark
  subs.foldlM (fun acc s => do
    let sub ← nodeAt s
    match sub.body with
    | .mapping [(k, v)] =>
      let ko ← make k
      let vo ← make v
      let pair ← newPart (.tuple [ko, vo])
      return acc ++ [pair]
    | .mapping ps =>
      fail (some what) (some n.startMark)
        ("expected a single mapping item, but found " ++ toString ps.length ++ " items")
        sub.startMark
    | _ =>
      fail (some what) (some n.startMark)
        ("expected a mapping of length 1, but found " ++ sub.kindName) sub.startMark) []

/-- Fills a collection made earlier. -/
def fill : Filling × Nat × Nat → BuildM Unit
  | (.sequence, i, o) => do
    let n ← nodeAt i
    let .sequence items := n.body
      | fail none none ("expected a sequence node, but found " ++ n.kindName) n.startMark
    let os ← items.mapM make
    setPart o (.list os)
  | (.mapping, i, o) => do setPart o (.dict (← mappingEntries i))
  | (.set, i, o) => do setPart o (.set ((← mappingEntries i).map Prod.fst))
  | (.orderedMap, i, o) => do setPart o (.list (← pairEntries "while constructing an ordered map" i))
  | (.pairList, i, o) => do setPart o (.list (← pairEntries "while constructing pairs" i))

/-- Fills the waiting collections in order, until none waits. -/
def fillAll : Nat → BuildM Unit
  | 0 => pure ()
  | n + 1 => do
    match (← get).queue with
    | [] => pure ()
    | job :: rest =>
      modify ({ · with queue := rest })
      fill job
      fillAll n

end Builder

/-- The value a document's graph stands for, its parts shared as its nodes are. -/
def Graph.toShared (g : Graph) : Except LoadError Shared := do
  let run : BuildM Nat := do
    let o ← Builder.make g.root
    Builder.fillAll (g.nodes.size + 1)
    return o
  let (o, b) ← run.run { nodes := g.nodes }
  return { b.store with root := o }

end SyntaxAdvisor.Yaml
