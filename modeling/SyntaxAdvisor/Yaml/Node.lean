import SyntaxAdvisor.Yaml.Event
import SyntaxAdvisor.Yaml.Tag

/-!
# YAML node graphs

The events of a document are composed into a graph of nodes: scalars, sequences and mappings,
each with its tag and the marks where it starts and ends. An alias refers to the node that its
anchor named, so one node may be reached along several paths (and even from inside itself). The
graph keeps its nodes in an array, and refers to them by their index.

A node with no tag or the non-specific tag `!` gets one: a scalar whose kind is found from its
text the tag of its form (`implicitTag`), any other scalar `str`, and collections `seq` and
`map`.

A stream must hold at most one document: once the document is composed, the next event must be
the end of the stream.
-/

namespace SyntaxAdvisor.Yaml

/-- What a node holds. -/
inductive NodeBody where
  /-- A scalar: its text and style. -/
  | scalar (value : String) (style : Option Char)
  /-- A sequence: its items. -/
  | sequence (items : List Nat)
  /-- A mapping: its pairs of key and value, in the order written. -/
  | mapping (pairs : List (Nat × Nat))
deriving Inhabited

/-- A node of a document. -/
structure Node where
  /-- Its tag, in full. -/
  tag : String
  /-- What it holds. -/
  body : NodeBody
  /-- Where it starts. -/
  startMark : Mark
  /-- Where it ends. -/
  endMark : Mark
deriving Inhabited

/-- The name of a node's kind in messages. -/
def Node.kindName (n : Node) : String :=
  match n.body with
  | .scalar _ _ => "scalar"
  | .sequence _ => "sequence"
  | .mapping _ => "mapping"

/-- The state of composing: the events, the nodes so far and the anchors seen. -/
structure Composer where
  /-- The events. -/
  events : EventStream
  /-- The nodes, by index. -/
  nodes : Array Node := #[]
  /-- The anchors and the nodes they name. -/
  anchors : List (String × Nat) := []

/-- Composing nodes: a computation on the composer that may fail, the composer keeping what was
read up to the failure. -/
abbrev ComposeM := ExceptT LoadError (StateM Composer)

namespace Composer

/-- Runs a step of the event stream. -/
def read (m : ReadM α) : ComposeM α := do
  let s ← get
  let (r, e) := m.run.run s.events
  set { s with events := e }
  match r with
  | .ok a => return a
  | .error e => throw e

/-- The next event; the end of the stream when there is none. -/
def peek : ComposeM Event := do
  return (← read EventStream.peekEvent).getD ⟨.streamEnd, default, default⟩

/-- Hands out the next event. -/
def take : ComposeM Event := do
  return (← read EventStream.takeEvent).getD ⟨.streamEnd, default, default⟩

/-- Runs `body` as a function called by the current one. -/
def call (body : ComposeM α) : ComposeM α := do
  read (EventStream.scan TokenStream.enterCall)
  let r ← body
  read (EventStream.scan TokenStream.leaveCall)
  return r

/-- Makes an object of a class whose initializer is a function: a node or an error. -/
def made : ComposeM Unit := read EventStream.made

/-- Writes the representation of a value into a message. -/
def shown : ComposeM Unit := read EventStream.shown

/-- Fails with a composing error, once the error is made. -/
def fail (context : Option String) (contextMark : Option Mark) (problem : String)
    (problemMark : Mark) : ComposeM α := do
  made
  throw (.marked { context, contextMark, problem := some problem, problemMark := some problemMark })

/-- Whether finding the kind of a scalar from its text tries patterns: it does when some pattern
is kept for the text's first character, or for the empty text. -/
def triesPatterns (value : String) : Bool :=
  match value.toList with
  | [] => true
  | c :: _ => "yYnNtTfFoO-+0123456789.<~=!&*".contains c

/-- Finds the tag of a node that has none, in a function of its own; for a scalar whose kind
comes from its text (`found`), trying a pattern is a call of a method that is not inline. -/
def resolve (found : Option String) : ComposeM Unit := call do
  if let some value := found then
    if triesPatterns value then read (EventStream.scan (TokenStream.steps [.call]))

/-- Nothing to do on entering or leaving a node, in a function of its own: no paths are
watched. -/
def watchPath : ComposeM Unit := call (pure ())

/-- Adds a node, naming it by its anchor: its index. -/
def add (n : Node) (anchor : Option String) : ComposeM Nat := do
  let s ← get
  let i := s.nodes.size
  set { s with nodes := s.nodes.push n,
               anchors := match anchor with
                 | some a => s.anchors ++ [(a, i)]
                 | none => s.anchors }
  return i

/-- Replaces what the node at `i` holds and where it ends. -/
def finish (i : Nat) (body : NodeBody) (endMark : Mark) : ComposeM Unit :=
  modify fun s => { s with nodes := s.nodes.modify i fun n => { n with body, endMark } }

/-- The tag of a node: the given one, or the one found for it. -/
def tagOf (given : Option String) (found : String) : String :=
  match given with
  | some t => if t == "!" then found else t
  | none => found

mutual

/-- Composes the node whose events come next: its index. -/
def node : Nat → ComposeM Nat
  | 0 => fail none none "too deeply nested" default
  | n + 1 => call do
    let e ← peek
    if let .alias name := e.kind then
      discard take
      match (← get).anchors.lookup name with
      | some i => return i
      | none =>
        shown
        fail none none ("found undefined alias " ++ quoteText name) e.startMark
    let e ← peek
    let anchor := match e.kind with
      | .scalar a _ _ _ _ | .sequenceStart a _ _ | .mappingStart a _ _ => a
      | _ => none
    if let some a := anchor then
      if let some first := (← get).anchors.lookup a then
        let firstMark := (← get).nodes.getD first default |>.startMark
        shown
        fail (some ("found duplicate anchor " ++ quoteText a ++ "; first occurrence"))
          (some firstMark) "second occurrence" e.startMark
    watchPath
    discard peek
    let i ← match e.kind with
      | .scalar _ tag implicit value style => call do
        discard take
        let found := if implicit then implicitTag value else Tag.str
        if tag.isNone || tag == some "!" then resolve (if implicit then some value else none)
        made
        add ⟨tagOf tag found, .scalar value style, e.startMark, e.endMark⟩ anchor
      | .sequenceStart _ tag _ => call do
        discard take
        if tag.isNone || tag == some "!" then resolve none
        made
        let i ← add ⟨tagOf tag Tag.seq, .sequence [], e.startMark, e.startMark⟩ anchor
        let (items, stop) ← sequenceItems n (← get).events.tokens.fuel []
        finish i (.sequence items) stop
        return i
      | .mappingStart _ tag _ => call do
        discard take
        if tag.isNone || tag == some "!" then resolve none
        made
        let i ← add ⟨tagOf tag Tag.map, .mapping [], e.startMark, e.startMark⟩ anchor
        let (pairs, stop) ← mappingPairs n (← get).events.tokens.fuel []
        finish i (.mapping pairs) stop
        return i
      | _ => fail none none "expected a node" e.startMark
    watchPath
    return i
termination_by n => (n, 0)

/-- Composes the items of a sequence up to its end: their indices and the end mark. -/
def sequenceItems (depth : Nat) : Nat → List Nat → ComposeM (List Nat × Mark)
  | 0, acc => return (acc, default)
  | k + 1, acc => do
    let e ← peek
    if let .sequenceEnd := e.kind then
      discard take
      return (acc, e.endMark)
    let i ← node depth
    sequenceItems depth k (acc ++ [i])
termination_by k => (depth, k + 1)

/-- Composes the pairs of a mapping up to its end: their indices and the end mark. -/
def mappingPairs (depth : Nat) : Nat → List (Nat × Nat) → ComposeM (List (Nat × Nat) × Mark)
  | 0, acc => return (acc, default)
  | k + 1, acc => do
    let e ← peek
    if let .mappingEnd := e.kind then
      discard take
      return (acc, e.endMark)
    let key ← node depth
    let value ← node depth
    mappingPairs depth k (acc ++ [(key, value)])
termination_by k => (depth, k + 1)

end

/-- Composes the only document of the stream: the index of its root, or none for an empty
stream. -/
def single : ComposeM (Option Nat) := call do
  discard take
  let fuel := (← get).events.tokens.fuel
  let root ← if (← peek).kind matches .streamEnd then pure none else do
    let r ← call do
      discard take
      let r ← node fuel
      discard take
      modify ({ · with anchors := [] })
      pure r
    pure (some r)
  let e ← peek
  if !(e.kind matches .streamEnd) then
    let e ← take
    let nodes := (← get).nodes
    let startMark := match root with
      | some r => (nodes.getD r default).startMark
      | none => default
    fail (some "expected a single document in the stream") (some startMark)
      "but found another document" e.startMark
  discard take
  return root

end Composer

/-- A document's node graph: its nodes and the index of its root. -/
structure Graph where
  /-- The nodes, by index. -/
  nodes : Array Node
  /-- The root. -/
  root : Nat
deriving Inhabited

/-- Composes the only document of a YAML text, the load starting `depth` calls deep and the
reads of the file needing new chunks decoded as `chunked` says; none for a text without a
document. Also gives how far into the text reading went, up to the end or to the failure
(`TokenStream.reach`). -/
def Graph.ofTextReaching (text : List Char) (depth : Nat := 0) (chunked : List Bool := []) :
    Except LoadError (Option Graph) × Nat :=
  let (r, c) := Composer.single.run.run { events := EventStream.ofText text depth chunked }
  (r.map fun root => root.map fun r => { nodes := c.nodes, root := r }, c.events.tokens.reach)

/-- Composes the only document of a YAML text; none for a text without a document. -/
def Graph.ofText (text : List Char) : Except LoadError (Option Graph) :=
  (Graph.ofTextReaching text).1

end SyntaxAdvisor.Yaml
