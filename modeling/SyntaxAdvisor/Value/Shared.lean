import SyntaxAdvisor.Value.Access

/-!
# Values with shared parts

A YAML document can name one node from several places (an anchor and its aliases, or the pairs
that a merge key copies), and the value it stands for then has parts that are one and the same
object seen from several places: a change made through one path shows through every other, and
when the value is written back the shared part is written once, with an anchor, and named by an
alias elsewhere. A `Shared` value keeps its parts in a store and lets a container name its items
by their place there; that place is the part's identity. A part may even hold itself.

Identity also decides which keys a mapping holds. Two keys are one key when they are the same
part or equal as values; since not-a-number is equal to nothing, two different not-a-number
parts are two keys, while one such part met twice is one key.

Changes go through the operations of the containers themselves: item look-up, membership and
item assignment behave as on plain values (`Value.getItem`, `Value.contains`,
`Value.setItem`), failing the same way on the same values, but a list's item or a mapping's
value is the very part stored there, so a change to it is seen wherever that part is held.
-/

namespace SyntaxAdvisor

/-- A part of a shared value. -/
inductive Part where
  /-- A value without parts of its own: nothing, a truth value, a number, text, bytes, a date
  or a time. -/
  | scalar (v : Value)
  /-- A list of parts. -/
  | list (items : List Nat)
  /-- A mapping from key parts to value parts, in insertion order. -/
  | dict (entries : List (Nat × Nat))
  /-- A set of parts, in insertion order. -/
  | set (members : List Nat)
  /-- A fixed sequence of parts, as the pairs of an ordered mapping are. -/
  | tuple (items : List Nat)
deriving Inhabited

/-- A value whose parts may be shared: the store of parts and the place of the whole. -/
structure Shared where
  /-- The parts, each at its place. -/
  parts : Array Part := #[]
  /-- The place of the whole value. -/
  root : Nat := 0
deriving Inhabited

namespace Shared

/-- The part at a place; nothing for a place outside the store. -/
def part (s : Shared) (i : Nat) : Part := s.parts.getD i (.scalar .none)

/-- Adds a part: the store after, and the part's place. -/
def add (s : Shared) (p : Part) : Shared × Nat :=
  ({ s with parts := s.parts.push p }, s.parts.size)

/-- Puts a part at a place, replacing the one there. -/
def put (s : Shared) (i : Nat) (p : Part) : Shared :=
  { s with parts := s.parts.set! i p }

/-- The plain value of the part at a place, looking at most `fuel` levels deep (a part that
holds itself would otherwise never end); a tuple becomes a list. -/
def valueWithin (s : Shared) : Nat → Nat → Value
  | 0, _ => .none
  | fuel + 1, i =>
    match s.part i with
    | .scalar v => v
    | .list items | .tuple items => .list (items.map (s.valueWithin fuel))
    | .dict entries => .dict (entries.map fun (k, v) => (s.valueWithin fuel k, s.valueWithin fuel v))
    | .set members => .set (members.map (s.valueWithin fuel))

/-- The plain value of the part at a place. -/
def valueAt (s : Shared) (i : Nat) : Value := s.valueWithin (s.parts.size + 1) i

/-- The plain value of the whole. -/
def value (s : Shared) : Value := s.valueAt s.root

/-- The truth value of the part at a place: a container is true when it holds anything. -/
def truthyAt (s : Shared) (i : Nat) : Bool :=
  match s.part i with
  | .scalar v => v.truthy
  | .list items | .tuple items => !items.isEmpty
  | .dict entries => !entries.isEmpty
  | .set members => !members.isEmpty

mutual

/-- Adds a plain value as new parts, none shared with anything: the store after, and the place
of the value. -/
def addValue (s : Shared) : Value → Shared × Nat
  | .list xs =>
    let (s, items) := s.addItems xs
    s.add (.list items)
  | .dict es =>
    let (s, entries) := s.addEntries es
    s.add (.dict entries)
  | .set xs =>
    let (s, members) := s.addItems xs
    s.add (.set members)
  | v => s.add (.scalar v)

/-- Adds the items of a list as new parts. -/
def addItems (s : Shared) : List Value → Shared × List Nat
  | [] => (s, [])
  | x :: xs =>
    let (s, i) := s.addValue x
    let (s, is) := s.addItems xs
    (s, i :: is)

/-- Adds the entries of a mapping as new parts. -/
def addEntries (s : Shared) : List (Value × Value) → Shared × List (Nat × Nat)
  | [] => (s, [])
  | (k, v) :: rest =>
    let (s, ki) := s.addValue k
    let (s, vi) := s.addValue v
    let (s, more) := s.addEntries rest
    (s, (ki, vi) :: more)

end

/-- A plain value as a shared one, nothing shared. -/
def ofValue (v : Value) : Shared :=
  let (s, root) := ({} : Shared).addValue v
  { s with root }

/-- Whether the key part at `k` is the key `key` of a mapping: equal as values. -/
def keyIs (s : Shared) (k : Nat) (key : Value) : Bool := Value.equal (s.valueAt k) key

/-- Whether two key parts are one key: the same part, or equal as values. -/
def sameKey (s : Shared) (k j : Nat) : Bool := k == j || Value.equal (s.valueAt k) (s.valueAt j)

/-- The part under a key or index of the part at `i`: a list's item or a mapping's value, the
very part stored there; for any other part the item of its value, as a new part. -/
def getItem (s : Shared) (i : Nat) (key : Value) : Except Failure (Shared × Nat) :=
  let indexed (kind : String) (items : List Nat) : Except Failure (Shared × Nat) :=
    match key.number? with
    | some (.int n) =>
      match Value.position n items.length with
      | some j => .ok (s, items.getD j 0)
      | none => .error (.indexError (kind ++ " index out of range"))
    | _ => .error (.typeError (kind ++ " indices must be integers or slices, not " ++ key.typeName))
  match s.part i with
  | .list items => indexed "list" items
  | .tuple items => indexed "tuple" items
  | .dict entries =>
    match Value.unhashable key with
    | some f => .error f
    | none =>
      match entries.find? (fun (k, _) => s.keyIs k key) with
      | some (_, v) => .ok (s, v)
      | none => .error (.keyError key)
  | _ => do
    let item ← (s.valueAt i).getItem key
    pure (s.add (.scalar item))

/-- Whether `key` is in the part at `i`: an item of a list or set, a key of a mapping, or a
part of a text. -/
def contains (s : Shared) (i : Nat) (key : Value) : Except Failure Bool :=
  match s.part i with
  | .list items | .tuple items => .ok (items.any fun j => Value.equal (s.valueAt j) key)
  | .dict entries =>
    match Value.unhashable key with
    | some f => .error f
    | none => .ok (entries.any fun (k, _) => s.keyIs k key)
  | .set members =>
    match Value.unhashable key with
    | some f => .error f
    | none => .ok (members.any fun k => s.keyIs k key)
  | _ => (s.valueAt i).contains key

/-- Stores the part at `x` under a key or index of the part at `i`: a mapping keeps an equal
key in its place and gives it the new value, or adds the key last; a list replaces the item at
an index within it; other parts cannot be changed. -/
def setItem (s : Shared) (i : Nat) (key : Value) (x : Nat) : Except Failure Shared :=
  match s.part i with
  | .dict entries =>
    match Value.unhashable key with
    | some f => .error f
    | none =>
      if entries.any (fun (k, _) => s.keyIs k key) then
        .ok (s.put i (.dict (entries.map fun (k, v) => if s.keyIs k key then (k, x) else (k, v))))
      else
        let (s, k) := s.add (.scalar key)
        .ok (s.put i (.dict (entries ++ [(k, x)])))
  | .list items =>
    match key.number? with
    | some (.int n) =>
      match Value.position n items.length with
      | some j => .ok (s.put i (.list (items.set j x)))
      | none => .error (.indexError "list assignment index out of range")
    | _ => .error (.typeError ("list indices must be integers or slices, not " ++ key.typeName))
  | .tuple _ => .error (.typeError "'tuple' object does not support item assignment")
  | _ => do
    let _ ← (s.valueAt i).setItem key .none
    pure s

end Shared

end SyntaxAdvisor
