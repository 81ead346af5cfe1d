/-!
# What a parse yields

A successful parse of a rule stands for a piece of syntax tree. The recognizer does not build
the tree; it keeps what later checks need of it (`Val`):

* the depth of the tree, counted as the tree is converted to objects afterwards: every node of
  a statement, expression, pattern, handler, argument list, argument, keyword, alias, `with`
  item, comprehension or `case` counts one level, while operators, contexts, names given as
  text and constants inside a node add nothing; a sequence of nodes is as deep as its deepest;
* whether an expression is a bare name, and which one (some checks single out `print`);
* for which kinds of assignment target the expression is not valid (`Targets`), as found by
  looking through tuples, lists and starred expressions;
* how many elements a sequence holds, and how many of a call's keyword arguments are starred
  positional ones;
* the token positions it spans.
-/

namespace SyntaxAdvisor.Python

/-- For which kinds of target an expression is invalid: `true` where it is. -/
structure Targets where
  /-- As the target of an assignment or of `with ... as`. -/
  assign : Bool := true
  /-- As the target of `del`. -/
  delete : Bool := true
  /-- As the target of a `for` loop. -/
  loop : Bool := true
deriving Repr, Inhabited, BEq

namespace Targets

/-- Valid as every kind of target: a name, an attribute or a subscript. -/
def valid : Targets := ⟨false, false, false⟩

/-- Invalid wherever one of the two is. -/
def union (a b : Targets) : Targets :=
  ⟨a.assign || b.assign, a.delete || b.delete, a.loop || b.loop⟩

end Targets

/-- What a successful parse keeps of the syntax it stands for. -/
structure Val where
  /-- The depth of the syntax tree; for a sequence, that of its deepest element. -/
  depth : Nat := 0
  /-- The identifier, when the value is a bare name. -/
  name : Option String := none
  /-- For which kinds of target the value is invalid. -/
  bad : Targets := {}
  /-- How many elements a sequence holds (one for a single value). -/
  count : Nat := 1
  /-- How many starred positional arguments a list of keyword arguments holds. -/
  starred : Nat := 0
  /-- Whether an optional part was there. -/
  present : Bool := true
  /-- The position of the first token. -/
  start : Nat := 0
  /-- The position after the last token. -/
  stop : Nat := 0
deriving Repr, Inhabited

namespace Val

/-- The greatest depth among some values. -/
def deepest (vs : List Val) : Nat := vs.foldl (fun d v => max d v.depth) 0

/-- A node of the tree whose children are the given values. -/
def node (children : List Val) : Val := { depth := 1 + deepest children }

/-- A node that holds the given values as elements, like a tuple or a list: invalid as a
target wherever an element is. -/
def container (elements : List Val) : Val :=
  { depth := 1 + deepest elements,
    bad := elements.foldl (fun t v => t.union v.bad) Targets.valid }

/-- A node valid as every kind of target (an attribute or a subscript). -/
def place (children : List Val) : Val := { node children with bad := Targets.valid }

/-- A sequence of values, as repetitions give: nothing above its elements. -/
def seq (vs : List Val) : Val :=
  { depth := deepest vs, bad := vs.foldl (fun t v => t.union v.bad) Targets.valid,
    count := vs.foldl (fun n v => n + v.count) 0, starred := vs.foldl (fun n v => n + v.starred) 0,
    name := none }

/-- An optional part that was not there. -/
def absent : Val := { present := false, count := 0, bad := Targets.valid }

/-- A leaf of the tree: a constant or a node without children. -/
def leaf : Val := { depth := 1 }

/-- A bare name. -/
def ident (s : String) : Val := { depth := 1, name := some s, bad := Targets.valid }

/-- A starred expression around `v`. -/
def star (v : Val) : Val := { depth := v.depth + 1, bad := { v.bad with delete := true } }

end Val

end SyntaxAdvisor.Python
