import SyntaxAdvisor.Python.Syntax.Table
import Std.Data.TreeMap

/-!
# Running the grammar

A parse runs the rules of the grammar over the tokens as functions that call one another.
Every rule, every group (`helper`), every repetition and every separated repetition is a
function; entering one while six thousand are already running stops the parse for want of
memory. Tokens and lookaheads of single tokens cost no function of their own.

A remembered rule keeps its result at each position for the rest of the pass, failures
included. A left-recursive rule grows its match: it first records a failure at the position,
then parses its body again and again, each time recording the longest match so far, as long as
the match gets longer; while it does, its own calls at that position give the recorded match.

A rule whose action gives nothing fails, but the position it reached stands for an optional
item that called it: the item is then missing, and the parse goes on from there.

The first pass leaves out the rules that explain mistakes. If it fails without an error, a
second pass is made with them, from scratch: it may find the mistake, or run out of memory.
-/

namespace SyntaxAdvisor.Python

/-- What running a rule, a group or an item at a position came to. -/
inductive Res where
  /-- A match ending at `stop`, with its value. -/
  | ok (stop : Nat) (v : Val)
  /-- No match. -/
  | fail
  /-- The action gave nothing after reading up to `stop`. -/
  | nothing (stop : Nat)
deriving Inhabited

/-- The results remembered in a pass, by rule (its index among the rules) and position. A search
tree rather than a hash table, so that a parse can also be run by evaluating it in proofs. -/
abbrev Memo := Std.TreeMap (Nat × Nat) Res lexOrd.compare

/-- A parse in progress: it remembers results and may stop. -/
abbrev ParseM := StateT Memo (Except Halt)

/-- How many functions may be running at once. -/
def maxNesting : Nat := 6000

/-- Where a function runs. -/
structure Ctx where
  /-- The tokens. -/
  stream : Stream
  /-- Whether the rules that explain mistakes take part. -/
  explain : Bool
  /-- Whether a left-recursive rule is growing its match. -/
  growing : Bool
  /-- How many functions are running. -/
  level : Nat

/-- Enters a function: the parse stops if too many are running. -/
def Ctx.enter (c : Ctx) : Except Halt Ctx :=
  if c.level == maxNesting then .error .overflow else .ok { c with level := c.level + 1 }

/-- The token at position `i`. Asking past the last token of a broken stream stops the parse,
as the reference parser stops when its lexer reports the error; an unbroken stream ends in
end markers. -/
def tokenAt (s : Stream) (i : Nat) : Except Halt Token :=
  match s.tokens[i]? with
  | some t => .ok t
  | none => if s.broken then .error .rejected else .ok .endmarker

/-- The most digits that a decimal integer literal may have: its value is converted when the
literal is read, and longer decimal conversions are refused. -/
def maxDecimalDigits : Nat := 4300

/-- Whether a numeric literal is a decimal integer with more digits than may be converted.
Literals that start with `0` (all zeros, or with a base prefix) are exempt. -/
def exceedsDigitLimit (t : String) : Bool :=
  let cs := t.toList
  match cs with
  | c :: _ =>
    c != '0' && cs.all (fun c => c.isDigit || c == '_') &&
      (cs.filter Char.isDigit).length > maxDecimalDigits
  | [] => false

/-- The names that are keywords only in some places. -/
def softKeywords : List String := ["_", "case", "match"]

/-- Whether a token is what an item expects. -/
def Expect.accepts : Expect → Token → Bool
  | .op s, .op t => t == s || (s == "!=" && t == "<>")
  | .keyword s, .name t => t == s
  | .soft s, .name t => t == s
  | .anySoft, .name t => softKeywords.contains t
  | .name, .name t => !isKeyword t
  | .number, .number _ => true
  | .string, .string _ _ => true
  | .newline, .newline => true
  | .indent, .indent => true
  | .dedent, .dedent => true
  | .endmarker, .endmarker => true
  | _, _ => false

/-- Whether the value of an expected token is a name. -/
def Expect.givesName : Expect → Bool
  | .soft _ | .anySoft | .name => true
  | _ => false

/-- Matches a token at position `i`. A decimal integer too long to convert stops the parse. -/
def matchToken (s : Stream) (e : Expect) (i : Nat) : Except Halt Res := do
  let t ← tokenAt s i
  if !e.accepts t then return .fail
  match t with
  | .number text => if exceedsDigitLimit text then throw .rejected else return .ok (i + 1) Val.leaf
  | .name text => return .ok (i + 1) (if e.givesName then Val.ident text else Val.leaf)
  | _ => return .ok (i + 1) Val.leaf

/-- What running the items of an alternative came to. -/
inductive Matched where
  /-- All items matched, up to `stop`, with these values. -/
  | matched (stop : Nat) (vals : Array Val)
  /-- An item failed; `cut` tells whether the alternative had committed. -/
  | failed (cut : Bool)

/-- The end of a result's match, or `i` if there is none. -/
def Res.endOr (i : Nat) : Res → Nat
  | .ok j _ => j
  | _ => i

mutual

/-- Calls rule `r` at position `i`. -/
def callRule : Nat → Ctx → Rule → Nat → ParseM Res
  | 0, _, _, _ => throw .overflow
  | fuel + 1, c, r, i => do
    let c ← c.enter
    let c := if r.withoutInvalid then { c with explain := false } else c
    match r.kind with
    | .plain => runAlts fuel c r.alts i
    | .remembered =>
      let _ ← tokenAt c.stream i
      match (← get)[(r.ctorIdx, i)]? with
      | some res => pure res
      | none =>
        let res ← runAlts fuel c r.alts i
        modify (·.insert (r.ctorIdx, i) res)
        pure res
    | .growing =>
      let _ ← tokenAt c.stream i
      match (← get)[(r.ctorIdx, i)]? with
      | some res => pure res
      | none => grow fuel c r i .fail

/-- Grows the match of the left-recursive rule `r` at position `i`, from the match `best`. -/
def grow : Nat → Ctx → Rule → Nat → Res → ParseM Res
  | 0, _, _, _, _ => throw .overflow
  | fuel + 1, c, r, i, best => do
    modify (·.insert (r.ctorIdx, i) best)
    let inner ← c.enter
    match ← runAlts fuel { inner with growing := true } r.alts i with
    | .ok j v => if j ≤ best.endOr i then pure best else grow fuel c r i (.ok j v)
    | _ => pure best

/-- Tries the alternatives in order; the first that matches gives the result. -/
def runAlts : Nat → Ctx → List Alt → Nat → ParseM Res
  | 0, _, _, _ => throw .overflow
  | fuel + 1, c, alts, i => do
    for a in alts do
      if a.explainsOnly && !c.explain then continue
      match ← runSeq fuel c a.items i with
      | .matched j vals =>
        match a.act ⟨vals, i, j, c.stream, c.growing⟩ with
        | .value v => return .ok j v
        | .nothing => return .nothing j
        | .halt h => throw h
      | .failed cut => if cut then return .fail
    return .fail

/-- Runs the items of an alternative in turn from position `i`. -/
def runSeq : Nat → Ctx → List Item → Nat → ParseM Matched
  | 0, _, _, _ => throw .overflow
  | fuel + 1, c, items, i => do
    let mut pos := i
    let mut vals : Array Val := #[]
    let mut cut := false
    for it in items do
      match it with
      | .cut =>
        cut := true
        vals := vals.push {}
      | _ =>
        match ← runItem fuel c it pos with
        | .ok j v =>
          vals := vals.push { v with start := pos, stop := j }
          pos := j
        | _ => return .failed cut
    return .matched pos vals

/-- Runs one item at position `i`. -/
def runItem : Nat → Ctx → Item → Nat → ParseM Res
  | 0, _, _, _ => throw .overflow
  | fuel + 1, c, it, i =>
    match it with
    | .expect e => matchToken c.stream e i
    | .call r => callRule fuel c r i
    | .helper alts => do
      runAlts fuel (← c.enter) alts i
    | .optional x => do
      match ← runItem fuel c x i with
      | .ok j v => pure (.ok j v)
      | .fail => pure (.ok i Val.absent)
      | .nothing j => pure (.ok j Val.absent)
    | .many x => do
      let (j, vs) ← repeatItem fuel (← c.enter) none x i
      pure (.ok j (Val.seq vs))
    | .many1 x => do
      let (j, vs) ← repeatItem fuel (← c.enter) none x i
      pure (if vs.isEmpty then .fail else .ok j (Val.seq vs))
    | .gather sep x => do
      let c ← c.enter
      match ← runItem fuel c x i with
      | .ok j v =>
        let (k, vs) ← repeatItem fuel (← c.enter) (some sep) x j
        pure (.ok k (Val.seq (v :: vs)))
      | _ => pure .fail
    | .ahead x => do
      match ← runItem fuel c x i with
      | .ok _ _ => pure (.ok i {})
      | _ => pure .fail
    | .notAhead x => do
      match ← runItem fuel c x i with
      | .ok _ _ => pure .fail
      | _ => pure (.ok i {})
    | .forced x => do
      match ← runItem fuel c x i with
      | .ok j v => pure (.ok j v)
      | _ => throw .rejected
    | .cut => pure (.ok i {})

/-- Runs item `x` again and again from position `i`, each time after `sep` if there is one,
for as long as it matches: the position reached and the values. -/
def repeatItem : Nat → Ctx → Option Item → Item → Nat → ParseM (Nat × List Val)
  | 0, _, _, _, _ => throw .overflow
  | fuel + 1, c, sep, x, i => do
    let mut pos := i
    let mut vals : Array Val := #[]
    for _ in [0:c.stream.tokens.size + 2] do
      let afterSep ← match sep with
        | none => pure (some pos)
        | some s => do
          match ← runItem fuel c s pos with
          | .ok j _ => pure (some j)
          | _ => pure none
      match afterSep with
      | none => break
      | some k =>
        match ← runItem fuel c x k with
        | .ok j v =>
          vals := vals.push { v with start := k, stop := j }
          pos := j
        | _ => break
    return (pos, vals.toList)

end

/-- How many brackets are open after each token. -/
def levelsOf (tokens : Array Token) : Array Nat :=
  (tokens.foldl (fun (acc : Array Nat × Nat) t =>
    let n := match t with
      | .op "(" | .op "[" | .op "\x7b" => acc.2 + 1
      | .op ")" | .op "]" | .op "\x7d" => acc.2 - 1
      | _ => acc.2
    (acc.1.push n, n)) (#[], 0)).1

/-- The tokens to parse: the lexer's tokens, and whether it stopped on a broken rule right
after them. -/
def Stream.ofTokens (tokens : Array Token) (broken : Bool) : Stream :=
  { tokens, levels := levelsOf tokens, broken }

/-- A bound on how deeply the functions of a parse can nest. -/
def Stream.fuel (s : Stream) : Nat := 64 * (s.tokens.size + maxNesting) + 1024

/-- One pass of a parse from rule `start` at the first token. -/
def Stream.pass (s : Stream) (start : Rule) (explain : Bool) : Except Halt Res :=
  (callRule s.fuel ⟨s, explain, false, 0⟩ start 0).run' ∅

/-- What parsing a token stream came to. -/
inductive Outcome where
  /-- The start rule matched, giving a syntax tree of this depth. -/
  | accepted (depth : Nat)
  /-- The tokens are not accepted. -/
  | rejected
  /-- Functions nested beyond the limit. -/
  | overflow
deriving Repr, BEq, Inhabited

/-- What the passes of a parse come to: the first pass decides, unless it fails without an
error; then the second pass, run only in that case, can still run out of functions. -/
def Outcome.ofPasses (first : Except Halt Res) (second : Unit → Except Halt Res) : Outcome :=
  match first with
  | .ok (.ok _ v) => .accepted v.depth
  | .error .rejected => .rejected
  | .error .overflow => .overflow
  | .ok _ =>
    match second () with
    | .error .overflow => .overflow
    | _ => .rejected

/-- Parses a token stream from rule `start`: a first pass, and a second that explains
mistakes if the first fails without an error. -/
def Stream.parse (s : Stream) (start : Rule) : Outcome :=
  Outcome.ofPasses (s.pass start false) fun _ => s.pass start true

end SyntaxAdvisor.Python
