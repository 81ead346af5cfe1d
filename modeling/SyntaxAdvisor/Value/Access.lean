import SyntaxAdvisor.Value.Number
import SyntaxAdvisor.Calendar.IsoText
import SyntaxAdvisor.Text.Search

/-!
# Equality, size and look-up of values

Equality of values compares numbers by value across their kinds (`1`, `1.0` and `true` are
equal), texts and bytes by content, lists item by item, mappings by their entries whatever
their order, sets by their items, and date-times with an offset by the instant they stand
for. Look-up by key finds the first entry of a mapping whose
key is equal to the one asked for; look-up by index counts from the end for a negative index.
-/

namespace SyntaxAdvisor

namespace Value

mutual

/-- How deeply a value nests. -/
def depth : Value → Nat
  | .list xs => itemsDepth xs + 1
  | .dict es => entriesDepth es + 1
  | .set xs => itemsDepth xs + 1
  | _ => 1

/-- How deeply the items of a list nest. -/
def itemsDepth : List Value → Nat
  | [] => 0
  | x :: xs => Nat.max (depth x) (itemsDepth xs)

/-- How deeply the entries of a mapping nest. -/
def entriesDepth : List (Value × Value) → Nat
  | [] => 0
  | (k, v) :: rest => Nat.max (Nat.max (depth k) (depth v)) (entriesDepth rest)

end

/-- Equality of values, looking at most `fuel` levels deep. -/
def equalWithin : Nat → Value → Value → Bool
  | 0, _, _ => false
  | fuel + 1, a, b =>
    match a.number?, b.number?, a, b with
    | some x, some y, _, _ => x.compare y == some .eq
    | _, _, .none, .none => true
    | _, _, .str s, .str t => s == t
    | _, _, .bytes s, .bytes t => s == t
    | _, _, .list xs, .list ys =>
      xs.length == ys.length && (xs.zip ys).all (fun (x, y) => equalWithin fuel x y)
    | _, _, .set xs, .set ys =>
      xs.length == ys.length && xs.all (fun x => ys.any (equalWithin fuel x))
    | _, _, .dict es, .dict fs =>
      es.length == fs.length && es.all (fun (k, v) =>
        fs.any (fun (k', v') => equalWithin fuel k k' && equalWithin fuel v v'))
    | _, _, .date d, .date e => d == e
    | _, _, .datetime s, .datetime t => s.equals t
    | _, _, _, _ => false

/-- Equality of values. -/
def equal (a b : Value) : Bool := equalWithin (Nat.max a.depth b.depth + 1) a b

/-- The entry of a mapping under a key. -/
def lookup (es : List (Value × Value)) (key : Value) : Option Value :=
  (es.find? (fun (k, _) => equal k key)).map (·.2)

/-- The size of a text, bytes or container. -/
def len (v : Value) : Except Failure Nat :=
  match v with
  | .str s => .ok s.length
  | .bytes d => .ok d.length
  | .list xs => .ok xs.length
  | .dict es => .ok es.length
  | .set xs => .ok xs.length
  | _ => .error (.typeError ("object of type '" ++ v.typeName ++ "' has no len()"))

/-- The position a possibly negative index stands for in a sequence of `n` items. -/
def position (i : Int) (n : Nat) : Option Nat :=
  let j := if i < 0 then i + n else i
  if 0 ≤ j && j < n then some j.toNat else Option.none

/-- The error of using a container as a key; none for a value that can be a key. -/
def unhashable (v : Value) : Option Failure :=
  match v with
  | .list _ | .dict _ | .set _ => some (.typeError ("unhashable type: '" ++ v.typeName ++ "'"))
  | _ => Option.none

/-- The item of a value under a key or index. -/
def getItem (v key : Value) : Except Failure Value :=
  match v with
  | .list xs =>
    match key.number?, key with
    | some (.int i), _ =>
      match position i xs.length with
      | some j => .ok (xs.getD j .none)
      | Option.none => .error (.indexError "list index out of range")
    | _, _ => .error (.typeError ("list indices must be integers or slices, not " ++
        key.typeName))
  | .str s =>
    match key.number? with
    | some (.int i) =>
      match position i s.length with
      | some j => .ok (.str (String.singleton (s.toList.getD j ' ')))
      | Option.none => .error (.indexError "string index out of range")
    | _ => .error (.typeError ("string indices must be integers, not '" ++ key.typeName ++ "'"))
  | .bytes d =>
    match key.number? with
    | some (.int i) =>
      match position i d.length with
      | some j => .ok (.int (d.getD j 0).toNat)
      | Option.none => .error (.indexError "index out of range")
    | _ => .error (.typeError ("byte indices must be integers or slices, not " ++ key.typeName))
  | .dict es =>
    match unhashable key with
    | some f => .error f
    | Option.none =>
      match lookup es key with
      | some x => .ok x
      | Option.none => .error (.keyError key)
  | _ => .error (.typeError ("'" ++ v.typeName ++ "' object is not subscriptable"))

/-- Whether `item` is in `container`: a part of a text, an item of a list or set, or a key of
a mapping. -/
def contains (container item : Value) : Except Failure Bool :=
  match container, item with
  | .str s, .str t => .ok (Text.contains s t)
  | .str _, _ => .error (.typeError ("'in <string>' requires string as left operand, not " ++
      item.typeName))
  | .bytes _, _ => .error (.typeError ("a bytes-like object is required, not '" ++
      item.typeName ++ "'"))
  | .list xs, _ => .ok (xs.any (equal item))
  | .set xs, _ =>
    match unhashable item with
    | some f => .error f
    | Option.none => .ok (xs.any (equal item))
  | .dict es, _ =>
    match unhashable item with
    | some f => .error f
    | Option.none => .ok (es.any (fun (k, _) => equal k item))
  | _, _ => .error (.typeError ("argument of type '" ++ container.typeName ++
      "' is not iterable"))

/-- The entry of a mapping under a key, or a default: only mappings have entries. -/
def get (v key dflt : Value) : Except Failure Value :=
  match v with
  | .dict es =>
    match unhashable key with
    | some f => .error f
    | Option.none => .ok ((lookup es key).getD dflt)
  | _ => .error (.attributeError ("'" ++ v.typeName ++ "' object has no attribute 'get'"))

/-- The entries of a mapping: only mappings have entries. -/
def items (v : Value) : Except Failure (List (Value × Value)) :=
  match v with
  | .dict es => .ok es
  | _ => .error (.attributeError ("'" ++ v.typeName ++ "' object has no attribute 'items'"))

/-- A mapping with an entry set: an equal key keeps its place and takes the new value, a new
key goes last. -/
def setEntry (es : List (Value × Value)) (key x : Value) : List (Value × Value) :=
  if es.any (fun (k, _) => equal k key) then
    es.map fun (k, v) => if equal k key then (k, x) else (k, v)
  else es ++ [(key, x)]

/-- A container with the item under a key or index replaced: mappings take any key that can be
a key, lists an index within them; other values cannot be changed. -/
def setItem (v key x : Value) : Except Failure Value :=
  match v with
  | .dict es =>
    match unhashable key with
    | some f => .error f
    | Option.none => .ok (.dict (setEntry es key x))
  | .list xs =>
    match key.number?, key with
    | some (.int i), _ =>
      match position i xs.length with
      | some j => .ok (.list (xs.set j x))
      | Option.none => .error (.indexError "list assignment index out of range")
    | _, _ => .error (.typeError ("list indices must be integers or slices, not " ++
        key.typeName))
  | _ => .error (.typeError ("'" ++ v.typeName ++ "' object does not support item assignment"))

/-- A text looked up by key in a mapping with text keys. -/
def field? (v : Value) (key : String) : Option Value :=
  match v with
  | .dict es => lookup es (.str key)
  | _ => Option.none

end Value

end SyntaxAdvisor
