import SyntaxAdvisor.Yaml.Tag
import SyntaxAdvisor.Value.Shared
import SyntaxAdvisor.Value.Hash
import SyntaxAdvisor.Order.RunSort
import SyntaxAdvisor.Text.Base64

/-!
# Values as YAML nodes

Before a value is written as YAML it becomes a tree of tagged nodes. Every kind of value has
its tag of the core schema and its text:

* nothing is `null`, truth values `true` and `false`, integers their decimal text;
* a double is its shortest text in lower case, with `.0` put before an exponent that follows
  no point (`1.0e+17`), and `.nan`, `.inf`, `-.inf` for the special values;
* bytes are their base 64 text in lines, to be written as a literal block;
* dates and times are their ISO text, a blank between date and time;
* a set is a mapping of its members to nothing, tagged as a set, the members taken in the
  order the set lists them (`SetOrder.order`);
* a fixed sequence of values is a sequence tagged as such.

The entries of a mapping are put in the order of their keys when every two keys can be
ordered (numbers among numbers, texts among texts, and so on); otherwise they keep their
order. The order is that of `RunSort.sort`, whose comparisons decide where a key that is not
a number (NaN) goes.

A part of the value held in several places (`Shared`) is one node: the first time the
writer meets it, it is written in full with an anchor `&idNNN`, and afterwards as the alias
`*idNNN`. Anchors are numbered from `id001` in the order in which the parts are met for the
second time, going through keys before their values. Only containers (but not an empty
fixed sequence), dates and times keep their identity this way; nothing, truth values,
numbers, text and bytes are written afresh wherever they occur.
-/

namespace SyntaxAdvisor.Yaml

/-- A node of YAML to be written. -/
inductive Tree where
  /-- A scalar: its tag, its text, and whether it asks to be a literal block. -/
  | scalar (tag : String) (text : String) (literal : Bool)
  /-- A sequence: its tag and items. -/
  | sequence (tag : String) (items : List Tree)
  /-- A mapping: its tag and entries, in the order they are written. -/
  | mapping (tag : String) (entries : List (Tree × Tree))
  /-- A node written with an anchor, to be named again by aliases. -/
  | anchored (anchor : String) (node : Tree)
  /-- A node written before, named by its anchor. -/
  | alias (anchor : String)
deriving Inhabited

/-- Whether `a` comes before `b` in the lexicographic order of number lists. -/
def lexBefore : List Int → List Int → Bool
  | [], [] => false
  | [], _ :: _ => true
  | _ :: _, [] => false
  | a :: as, b :: bs => a < b || (a == b && lexBefore as bs)

/-- Whether key `a` comes before key `b`: none when the two cannot be ordered. Numbers are
ordered by value (nothing comes before or after NaN), texts and bytes lexicographically by
code, dates by day, and times by their reading when neither has an offset or by the instant
when both have one. -/
def keyBefore (a b : Value) : Option Bool :=
  match a.number?, b.number? with
  | some x, some y => some (x.compare y == some .lt)
  | _, _ =>
    match a, b with
    | .str s, .str t => some (Text.textBefore s t)
    | .bytes s, .bytes t => some (lexBefore (s.map (·.toNat)) (t.map (·.toNat)))
    | .date d, .date e => some (d.dayNumber < e.dayNumber)
    | .datetime s, .datetime t =>
      match s.offset, t.offset with
      | none, none => some (s.localMicros < t.localMicros)
      | some o, some p => some (s.localMicros - o < t.localMicros - p)
      | _, _ => none
    | _, _ => none

/-- Whether every two keys of a list can be ordered. -/
def allOrdered : List Value → Bool
  | [] => true
  | k :: rest => rest.all (fun j => (keyBefore k j).isSome) && allOrdered rest

/-- Mapping entries in the order they are written: by key when the keys can be ordered. -/
def orderEntries {α : Type} [Inhabited α] (es : List (Value × α)) : List (Value × α) :=
  if allOrdered (es.map Prod.fst) then
    (RunSort.sort (fun x y => (keyBefore x.1 y.1).getD false) es.toArray).toList
  else es

/-- The text of a double. -/
def floatText (x : Float) : String :=
  match Decimal.DoubleKind.ofFloat x with
  | .nan => ".nan"
  | .infinity neg => if neg then "-.inf" else ".inf"
  | .finite _ =>
    let r := Decimal.floatText x
    if !r.toList.contains '.' && r.toList.contains 'e' then
      String.ofList (r.toList.flatMap fun c => if c == 'e' then ['.', '0', 'e'] else [c])
    else r

/-- The node of a value without parts. -/
def scalarTree : Value → Tree
  | .none => .scalar Tag.null "null" false
  | .bool b => .scalar Tag.bool (if b then "true" else "false") false
  | .int n => .scalar Tag.int (toString n) false
  | .float x => .scalar Tag.float (floatText x) false
  | .str s => .scalar Tag.str s false
  | .bytes d => .scalar Tag.binary (Text.base64Lines d) true
  | .date d => .scalar Tag.timestamp d.isoformat false
  | v@(.datetime _) => .scalar Tag.timestamp v.text false
  | _ => .scalar Tag.null "null" false

/-- How a part is written, its items named by their place: a scalar, a sequence of parts, or a
mapping of key parts to value parts, a missing value standing for nothing (the members of a
set). -/
inductive Shape where
  /-- A scalar node. -/
  | leaf (t : Tree)
  /-- A sequence: its tag and items. -/
  | sequence (tag : String) (items : List Nat)
  /-- A mapping: its tag and entries in the order they are written. -/
  | mapping (tag : String) (entries : List (Nat × Option Nat))

/-- Whether a part keeps its identity when written. -/
def keepsIdentity : Part → Bool
  | .scalar (.date _) | .scalar (.datetime _) => true
  | .scalar _ => false
  | .tuple items => !items.isEmpty
  | _ => true

/-- How the part at `i` is written. -/
def shapeOf (s : Shared) (i : Nat) : Shape :=
  match s.part i with
  | .scalar v => .leaf (scalarTree v)
  | .list items => .sequence Tag.seq items
  | .tuple items => .sequence Tag.tuple items
  | .dict entries =>
    let keyed := entries.map fun (k, v) => (s.valueAt k, (k, some v))
    .mapping Tag.map ((orderEntries keyed).map Prod.snd)
  | .set members =>
    let listed := (SetOrder.order (members.map fun m => SetOrder.hash? (s.valueAt m))).map
      fun j => members.getD j 0
    let keyed := listed.map fun m => (s.valueAt m, (m, (none : Option Nat)))
    .mapping Tag.set ((orderEntries keyed).map Prod.snd)

/-- The parts a shape names, keys before their values. -/
def Shape.parts : Shape → List Nat
  | .leaf _ => []
  | .sequence _ items => items
  | .mapping _ entries => entries.flatMap fun (k, v) => k :: v.toList

/-- What the writer knows of the parts it has met: which it has met, and the anchor number of
those met twice (zero for none). -/
structure Meetings where
  /-- Whether each part has been met. -/
  met : Array Bool
  /-- The anchor number of each part, zero when it has none. -/
  anchor : Array Nat
  /-- How many anchors are given. -/
  count : Nat := 0

/-- Goes through the parts reachable from the part at `i`, in writing order, numbering the
anchors of the parts met for the second time. A part is gone into only when first met, so
`fuel` need only exceed the number of parts. -/
def meet (s : Shared) : Nat → Meetings → Nat → Meetings
  | 0, m, _ => m
  | fuel + 1, m, i =>
    if keepsIdentity (s.part i) then
      if m.met.getD i false then
        if m.anchor.getD i 0 == 0 then
          { m with anchor := m.anchor.set! i (m.count + 1), count := m.count + 1 }
        else m
      else
        let m := { m with met := m.met.set! i true }
        (shapeOf s i).parts.foldl (meet s fuel) m
    else (shapeOf s i).parts.foldl (meet s fuel) m

/-- The anchor of a number: `id` and the number in at least three digits. -/
def anchorName (n : Nat) : String :=
  let digits := toString n
  "id" ++ String.ofList (List.replicate (3 - digits.length) '0') ++ digits

/-- The tree of the part at `i`, given the anchor numbers: a part with identity already
written is an alias; `written` tells which have been. -/
def treeAt (s : Shared) (anchors : Array Nat) : Nat → Array Bool → Nat → Tree × Array Bool
  | 0, written, _ => (.scalar Tag.null "null" false, written)
  | fuel + 1, written, i =>
    let name := anchorName (anchors.getD i 0)
    let keeps := keepsIdentity (s.part i)
    if keeps && written.getD i false then (.alias name, written)
    else
      let written := if keeps then written.set! i true else written
      let (t, written) := match shapeOf s i with
        | .leaf t => (t, written)
        | .sequence tag items =>
          let (ts, written) := items.foldl (fun (acc : Array Tree × Array Bool) j =>
            let (t, w) := treeAt s anchors fuel acc.2 j
            (acc.1.push t, w)) (#[], written)
          (.sequence tag ts.toList, written)
        | .mapping tag entries =>
          let (es, written) := entries.foldl (fun (acc : Array (Tree × Tree) × Array Bool) (k, v) =>
            let (kt, w) := treeAt s anchors fuel acc.2 k
            let (vt, w) := match v with
              | some v => treeAt s anchors fuel w v
              | none => (.scalar Tag.null "null" false, w)
            (acc.1.push (kt, vt), w)) (#[], written)
          (.mapping tag es.toList, written)
      (if anchors.getD i 0 == 0 then t else .anchored name t, written)

/-- The tree of a value with shared parts. -/
def treeOfShared (s : Shared) : Tree :=
  let fuel := s.parts.size + 2
  let blank := Array.replicate s.parts.size false
  let m := meet s fuel { met := blank, anchor := Array.replicate s.parts.size 0 } s.root
  (treeAt s m.anchor fuel blank s.root).1

/-- The tree of a plain value. -/
def treeOf (v : Value) : Tree := treeOfShared (Shared.ofValue v)

end SyntaxAdvisor.Yaml
