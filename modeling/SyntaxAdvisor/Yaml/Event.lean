import SyntaxAdvisor.Yaml.Token.Stream

/-!
# YAML events

The tokens of a YAML text are read by a grammar into events: the start and end of the stream,
of each document, of each sequence and mapping, and the scalars and aliases between them. An
event stream is a pushdown reader: its state says what may come next, and a stack holds the
states to return to when a nested node ends. Events are read one at a time, as asked for, and
each reads only as many tokens as it needs.

Tags are written in events in full: a handle is replaced by the prefix that the document's
`%TAG` directives (or the defaults `!` and `!!`) give it. A scalar with no tag, or with the
non-specific tag `!`, records whether its kind is to be found from its text: for plain scalars
and scalars tagged `!`.
-/

namespace SyntaxAdvisor.Yaml

/-- What an event is. -/
inductive EventKind where
  | streamStart
  | streamEnd
  | documentStart
  | documentEnd
  /-- A reference to an anchored node. -/
  | alias (anchor : String)
  /-- A scalar: its anchor, tag, whether its kind comes from its text, text and style. -/
  | scalar (anchor : Option String) (tag : Option String) (implicit : Bool) (value : String)
      (style : Option Char)
  /-- The start of a sequence. -/
  | sequenceStart (anchor : Option String) (tag : Option String) (flow : Bool)
  | sequenceEnd
  /-- The start of a mapping. -/
  | mappingStart (anchor : Option String) (tag : Option String) (flow : Bool)
  | mappingEnd
deriving Inhabited

/-- An event and where it stands. -/
structure Event where
  /-- What it is. -/
  kind : EventKind
  /-- Where it starts. -/
  startMark : Mark
  /-- Where it ends. -/
  endMark : Mark
deriving Inhabited

/-- What the grammar expects next. -/
inductive ReadState where
  | streamStart
  | implicitDocumentStart
  | documentStart
  | documentEnd
  | documentContent
  | blockNode
  | blockSequenceFirstEntry
  | blockSequenceEntry
  | indentlessSequenceEntry
  | blockMappingFirstKey
  | blockMappingKey
  | blockMappingValue
  | flowSequenceFirstEntry
  | flowSequenceEntry
  | flowSequenceEntryMappingKey
  | flowSequenceEntryMappingValue
  | flowSequenceEntryMappingEnd
  | flowMappingFirstKey
  | flowMappingKey
  | flowMappingValue
  | flowMappingEmptyValue
deriving Inhabited

/-- The tag handles every document knows. -/
def defaultTagHandles : List (String × String) := [("!", "!"), ("!!", "tag:yaml.org,2002:")]

/-- The state of reading events from tokens. -/
structure EventStream where
  /-- The tokens. -/
  tokens : TokenStream
  /-- An event read ahead and not yet handed out. -/
  current : Option Event := none
  /-- What comes next; none once the stream has ended. -/
  state : Option ReadState := some .streamStart
  /-- The states to return to. -/
  states : List ReadState := []
  /-- The start marks of the open collections. -/
  marks : List Mark := []
  /-- The tag handles of the current document and their prefixes. -/
  tagHandles : List (String × String) := []
deriving Inhabited

/-- Reading events: a computation on the stream that may fail, the stream keeping what was read
up to the failure. -/
abbrev ReadM := ExceptT LoadError (StateM EventStream)

namespace EventStream

/-- Runs a step of the token stream. -/
def scan (m : ScanM α) : ReadM α := do
  let s ← get
  let (r, t) := m.run.run s.tokens
  set { s with tokens := t }
  match r with
  | .ok a => return a
  | .error e => throw e

/-- The next token, without taking it. -/
def peekToken : ReadM Token := scan TokenStream.peekToken

/-- Takes the next token. -/
def takeToken : ReadM Token := scan TokenStream.takeToken

/-- Whether the next token is of one of the given classes. -/
def nextIs (classes : List TokenClass) : ReadM Bool := scan (TokenStream.nextIs classes)

/-- Runs `body` as a function called by the current one. -/
def call (body : ReadM α) : ReadM α := do
  scan TokenStream.enterCall
  let r ← body
  scan TokenStream.leaveCall
  return r

/-- Makes an object of a class whose initializer is a function: an event or an error. -/
def made : ReadM Unit := scan TokenStream.made

/-- Writes the representation of a value into a message. -/
def shown : ReadM Unit := scan (TokenStream.steps [.repr])

/-- Fails with a grammar error, once the error is made. -/
def fail (context : Option String) (contextMark : Option Mark) (problem : String)
    (problemMark : Mark) : ReadM α := do
  made
  throw (.marked { context, contextMark, problem := some problem, problemMark := some problemMark })

/-- Sets what comes next. -/
def goTo (st : ReadState) : ReadM Unit := modify ({ · with state := some st })

/-- Remembers a state to return to. -/
def pushState (st : ReadState) : ReadM Unit := modify fun s => { s with states := st :: s.states }

/-- Returns to the last remembered state. -/
def popState : ReadM Unit := modify fun s => match s.states with
  | st :: rest => { s with state := some st, states := rest }
  | [] => { s with state := none }

/-- Remembers the start of a collection. -/
def pushMark (m : Mark) : ReadM Unit := modify fun s => { s with marks := m :: s.marks }

/-- Forgets the start of the innermost collection. -/
def popMark : ReadM Unit := modify fun s => { s with marks := s.marks.drop 1 }

/-- The start of the innermost collection. -/
def lastMark : ReadM Mark := return (← get).marks.headD default

/-- An empty plain scalar at a mark. -/
def emptyScalar (m : Mark) : Event := ⟨.scalar none none true "" none, m, m⟩

/-! ## Documents -/

/-- Reads the directives before a document, and sets its tag handles. -/
def directives : ReadM Unit := call do
  modify ({ · with tagHandles := [] })
  go (← get).tokens.fuel false
where
  go : Nat → Bool → ReadM Unit
    | 0, _ => pure ()
    | n + 1, versionSeen => do
      if !(← nextIs [.directive]) then
        modify fun s => { s with
          tagHandles := s.tagHandles ++ defaultTagHandles.filter fun (h, _) =>
            (s.tagHandles.lookup h).isNone }
        return
      let t ← takeToken
      match t.kind with
      | .directive "YAML" (.version major _) =>
        if versionSeen then fail none none "found duplicate YAML directive" t.startMark
        if major != 1 then
          fail none none "found incompatible YAML document (version 1.* is required)" t.startMark
        go n true
      | .directive "TAG" (.tagPrefix handle pfx) =>
        if ((← get).tagHandles.lookup handle).isSome then
          shown
          fail none none ("duplicate tag handle " ++ quoteText handle) t.startMark
        modify fun s => { s with tagHandles := s.tagHandles ++ [(handle, pfx)] }
        go n versionSeen
      | _ => go n versionSeen

/-- The start of a document after `---`, or the end of the stream. -/
def documentStart : ReadM Event := call do
  let rec skipEnds : Nat → ReadM Unit
    | 0 => pure ()
    | n + 1 => do
      if ← nextIs [.documentEnd] then
        discard takeToken
        skipEnds n
  skipEnds (← get).tokens.fuel
  if !(← nextIs [.streamEnd]) then
    let start := (← peekToken).startMark
    directives
    if !(← nextIs [.documentStart]) then
      let t ← peekToken
      shown
      discard peekToken
      fail none none ("expected '<document start>', but found " ++ quoteText t.kind.id) t.startMark
    let t ← takeToken
    made
    pushState .documentEnd
    goTo .documentContent
    return ⟨.documentStart, start, t.endMark⟩
  else
    let t ← takeToken
    made
    modify ({ · with state := none })
    return ⟨.streamEnd, t.startMark, t.endMark⟩

/-! ## Nodes -/

/-- The full tag of a tag token's handle and suffix. -/
def fullTag (start : Mark) (tagMark : Mark) : Option String × String → ReadM String
  | (none, suffix) => pure suffix
  | (some handle, suffix) => do
    match (← get).tagHandles.lookup handle with
    | some pfx => pure (pfx ++ suffix)
    | none =>
      shown
      fail (some "while parsing a node") (some start)
        ("found undefined tag handle " ++ quoteText handle) tagMark

/-- Reads a node's properties and the event that starts its content. -/
def node (block indentlessSequence : Bool) : ReadM Event := call do
  let t ← peekToken
  if let .alias name := t.kind then
    discard takeToken
    made
    popState
    return ⟨.alias name, t.startMark, t.endMark⟩
  -- The anchor and the tag, in either order.
  let mut anchor : Option String := none
  let mut tagParts : Option (Option String × String) := none
  let mut startMark : Option Mark := none
  let mut endMark : Mark := t.startMark
  let mut tagMark : Mark := t.startMark
  match t.kind with
  | .anchor name =>
    discard takeToken
    startMark := some t.startMark
    endMark := t.endMark
    anchor := some name
    let t2 ← peekToken
    if let .tag h s := t2.kind then
      discard takeToken
      tagMark := t2.startMark
      endMark := t2.endMark
      tagParts := some (h, s)
  | .tag h s =>
    discard takeToken
    startMark := some t.startMark
    tagMark := t.startMark
    endMark := t.endMark
    tagParts := some (h, s)
    let t2 ← peekToken
    if let .anchor name := t2.kind then
      discard takeToken
      endMark := t2.endMark
      anchor := some name
  | _ => pure ()
  let start := startMark.getD t.startMark
  let tag ← match tagParts with
    | some parts => some <$> fullTag start tagMark parts
    | none => pure none
  let stop := if startMark.isNone then start else endMark
  let implicit := tag.isNone || tag == some "!"
  let next ← peekToken
  if indentlessSequence && next.kind.cls == .blockEntry then
    made
    goTo .indentlessSequenceEntry
    return ⟨.sequenceStart anchor tag false, start, next.endMark⟩
  match next.kind with
  | .scalar value plain style =>
    discard takeToken
    made
    popState
    let resolved := (plain && tag.isNone) || tag == some "!"
    return ⟨.scalar anchor tag resolved value style, start, next.endMark⟩
  | .flowSequenceStart =>
    made
    goTo .flowSequenceFirstEntry
    return ⟨.sequenceStart anchor tag true, start, next.endMark⟩
  | .flowMappingStart =>
    made
    goTo .flowMappingFirstKey
    return ⟨.mappingStart anchor tag true, start, next.endMark⟩
  | .blockSequenceStart =>
    if block then
      made
      goTo .blockSequenceFirstEntry
      return ⟨.sequenceStart anchor tag false, start, next.startMark⟩
  | .blockMappingStart =>
    if block then
      made
      goTo .blockMappingFirstKey
      return ⟨.mappingStart anchor tag false, start, next.startMark⟩
  | _ => pure ()
  if anchor.isSome || tag.isSome then
    made
    popState
    return ⟨.scalar anchor tag implicit "" none, start, stop⟩
  shown
  fail (some ("while parsing a " ++ (if block then "block" else "flow") ++ " node")) (some start)
    ("expected the node content, but found " ++ quoteText next.kind.id) next.startMark

/-- A node in block context. -/
def blockNode : ReadM Event := call (node true false)

/-- A node in flow context. -/
def flowNode : ReadM Event := call (node false false)

/-- A node in block context, which may be a sequence without indentation (as a mapping's
value). -/
def blockNodeOrIndentlessSequence : ReadM Event := call (node true true)

/-- An empty plain scalar at a mark, made by a function of its own. -/
def processEmptyScalar (m : Mark) : ReadM Event := call do
  made
  return emptyScalar m

/-! ## Block collections -/

/-- An entry of a block sequence, or its end. -/
def blockSequenceEntry : ReadM Event := call do
  if ← nextIs [.blockEntry] then
    let t ← takeToken
    if !(← nextIs [.blockEntry, .blockEnd]) then
      pushState .blockSequenceEntry
      blockNode
    else
      goTo .blockSequenceEntry
      processEmptyScalar t.endMark
  else
    if !(← nextIs [.blockEnd]) then
      let t ← peekToken
      shown
      fail (some "while parsing a block collection") (some (← lastMark))
        ("expected <block end>, but found " ++ quoteText t.kind.id) t.startMark
    let t ← takeToken
    made
    popState
    popMark
    return ⟨.sequenceEnd, t.startMark, t.endMark⟩

/-- An entry of a sequence without indentation under a mapping key, or its end. -/
def indentlessSequenceEntry : ReadM Event := call do
  if ← nextIs [.blockEntry] then
    let t ← takeToken
    if !(← nextIs [.blockEntry, .key, .value, .blockEnd]) then
      pushState .indentlessSequenceEntry
      blockNode
    else
      goTo .indentlessSequenceEntry
      processEmptyScalar t.endMark
  else
    let t ← peekToken
    made
    popState
    return ⟨.sequenceEnd, t.startMark, t.startMark⟩

/-- A key of a block mapping, or its end. -/
def blockMappingKey : ReadM Event := call do
  if ← nextIs [.key] then
    let t ← takeToken
    if !(← nextIs [.key, .value, .blockEnd]) then
      pushState .blockMappingValue
      blockNodeOrIndentlessSequence
    else
      goTo .blockMappingValue
      processEmptyScalar t.endMark
  else
    if !(← nextIs [.blockEnd]) then
      let t ← peekToken
      shown
      fail (some "while parsing a block mapping") (some (← lastMark))
        ("expected <block end>, but found " ++ quoteText t.kind.id) t.startMark
    let t ← takeToken
    made
    popState
    popMark
    return ⟨.mappingEnd, t.startMark, t.endMark⟩

/-- A value of a block mapping; empty when there is none. -/
def blockMappingValue : ReadM Event := call do
  if ← nextIs [.value] then
    let t ← takeToken
    if !(← nextIs [.key, .value, .blockEnd]) then
      pushState .blockMappingKey
      blockNodeOrIndentlessSequence
    else
      goTo .blockMappingKey
      processEmptyScalar t.endMark
  else
    goTo .blockMappingKey
    let t ← peekToken
    processEmptyScalar t.startMark

/-! ## Flow collections -/

/-- An entry of a flow sequence, or its end; entries after the first follow a `,`. -/
def flowSequenceEntry (first : Bool) : ReadM Event := call do
  if !(← nextIs [.flowSequenceEnd]) then
    if !first then
      if ← nextIs [.flowEntry] then discard takeToken
      else
        let t ← peekToken
        shown
        fail (some "while parsing a flow sequence") (some (← lastMark))
          ("expected ',' or ']', but got " ++ quoteText t.kind.id) t.startMark
    if ← nextIs [.key] then
      let t ← peekToken
      made
      goTo .flowSequenceEntryMappingKey
      return ⟨.mappingStart none none true, t.startMark, t.endMark⟩
    if !(← nextIs [.flowSequenceEnd]) then
      pushState .flowSequenceEntry
      return ← flowNode
  let t ← takeToken
  made
  popState
  popMark
  return ⟨.sequenceEnd, t.startMark, t.endMark⟩

/-- The key of a one-pair mapping inside a flow sequence. -/
def flowSequenceEntryMappingKey : ReadM Event := call do
  let t ← takeToken
  if !(← nextIs [.value, .flowEntry, .flowSequenceEnd]) then
    pushState .flowSequenceEntryMappingValue
    flowNode
  else
    goTo .flowSequenceEntryMappingValue
    processEmptyScalar t.endMark

/-- The value of a one-pair mapping inside a flow sequence. -/
def flowSequenceEntryMappingValue : ReadM Event := call do
  if ← nextIs [.value] then
    let t ← takeToken
    if !(← nextIs [.flowEntry, .flowSequenceEnd]) then
      pushState .flowSequenceEntryMappingEnd
      flowNode
    else
      goTo .flowSequenceEntryMappingEnd
      processEmptyScalar t.endMark
  else
    goTo .flowSequenceEntryMappingEnd
    let t ← peekToken
    processEmptyScalar t.startMark

/-- The end of a one-pair mapping inside a flow sequence. -/
def flowSequenceEntryMappingEnd : ReadM Event := call do
  goTo .flowSequenceEntry
  let t ← peekToken
  made
  return ⟨.mappingEnd, t.startMark, t.startMark⟩

/-- A key of a flow mapping, or its end; keys after the first follow a `,`. -/
def flowMappingKey (first : Bool) : ReadM Event := call do
  if !(← nextIs [.flowMappingEnd]) then
    if !first then
      if ← nextIs [.flowEntry] then discard takeToken
      else
        let t ← peekToken
        shown
        fail (some "while parsing a flow mapping") (some (← lastMark))
          ("expected ',' or '\x7d', but got " ++ quoteText t.kind.id) t.startMark
    if ← nextIs [.key] then
      let t ← takeToken
      if !(← nextIs [.value, .flowEntry, .flowMappingEnd]) then
        pushState .flowMappingValue
        return ← flowNode
      else
        goTo .flowMappingValue
        return ← processEmptyScalar t.endMark
    if !(← nextIs [.flowMappingEnd]) then
      pushState .flowMappingEmptyValue
      return ← flowNode
  let t ← takeToken
  made
  popState
  popMark
  return ⟨.mappingEnd, t.startMark, t.endMark⟩

/-- A value of a flow mapping; empty when there is none. -/
def flowMappingValue : ReadM Event := call do
  if ← nextIs [.value] then
    let t ← takeToken
    if !(← nextIs [.flowEntry, .flowMappingEnd]) then
      pushState .flowMappingKey
      flowNode
    else
      goTo .flowMappingKey
      processEmptyScalar t.endMark
  else
    goTo .flowMappingKey
    let t ← peekToken
    processEmptyScalar t.startMark

/-- The empty value of a flow mapping's key that has no `:`. -/
def flowMappingEmptyValue : ReadM Event := call do
  goTo .flowMappingKey
  let t ← peekToken
  processEmptyScalar t.startMark

/-- The first entry of a collection: its start token is taken and its mark kept, then `entry`
reads on. -/
def firstEntry (entry : ReadM Event) : ReadM Event := call do
  pushMark (← takeToken).startMark
  entry

/-! ## Reading events -/

/-- Reads the event that the state `st` expects, in the function that stands for the state. -/
def step : ReadState → ReadM Event
  | .streamStart => call do
    let t ← takeToken
    made
    goTo .implicitDocumentStart
    return ⟨.streamStart, t.startMark, t.endMark⟩
  | .implicitDocumentStart => call do
    if !(← nextIs [.directive, .documentStart, .streamEnd]) then
      modify ({ · with tagHandles := defaultTagHandles })
      let t ← peekToken
      made
      pushState .documentEnd
      goTo .blockNode
      return ⟨.documentStart, t.startMark, t.startMark⟩
    else documentStart
  | .documentStart => documentStart
  | .documentEnd => call do
    let t ← peekToken
    let stop ← if ← nextIs [.documentEnd] then do
        let t ← takeToken
        pure t.endMark
      else pure t.startMark
    made
    goTo .documentStart
    return ⟨.documentEnd, t.startMark, stop⟩
  | .documentContent => call do
    if ← nextIs [.directive, .documentStart, .documentEnd, .streamEnd] then
      let t ← peekToken
      let e ← processEmptyScalar t.startMark
      popState
      return e
    else blockNode
  | .blockNode => blockNode
  | .blockSequenceFirstEntry => firstEntry blockSequenceEntry
  | .blockSequenceEntry => blockSequenceEntry
  | .indentlessSequenceEntry => indentlessSequenceEntry
  | .blockMappingFirstKey => firstEntry blockMappingKey
  | .blockMappingKey => blockMappingKey
  | .blockMappingValue => blockMappingValue
  | .flowSequenceFirstEntry => firstEntry (flowSequenceEntry true)
  | .flowSequenceEntry => flowSequenceEntry false
  | .flowSequenceEntryMappingKey => flowSequenceEntryMappingKey
  | .flowSequenceEntryMappingValue => flowSequenceEntryMappingValue
  | .flowSequenceEntryMappingEnd => flowSequenceEntryMappingEnd
  | .flowMappingFirstKey => firstEntry (flowMappingKey true)
  | .flowMappingKey => flowMappingKey false
  | .flowMappingValue => flowMappingValue
  | .flowMappingEmptyValue => flowMappingEmptyValue

/-- Reads the next event into the look-ahead, if there is none there. -/
def fillCurrent : ReadM Unit := do
  let s ← get
  if s.current.isNone then
    if let some st := s.state then
      let e ← step st
      modify ({ · with current := some e })

/-- The next event, without handing it out; none after the end of the stream. -/
def peekEvent : ReadM (Option Event) := call do
  fillCurrent
  return (← get).current

/-- Hands out the next event. -/
def takeEvent : ReadM (Option Event) := call do
  fillCurrent
  let e := (← get).current
  modify ({ · with current := none })
  return e

/-- An event stream over a text, whose calls start `depth` calls deep, and whose reads of the
file need new chunks decoded as `chunked` says. -/
def ofText (text : List Char) (depth : Nat := 0) (chunked : List Bool := []) : EventStream :=
  { tokens := TokenStream.ofText text depth chunked }

end EventStream

end SyntaxAdvisor.Yaml
