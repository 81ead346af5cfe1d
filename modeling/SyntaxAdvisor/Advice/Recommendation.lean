import SyntaxAdvisor.Report.Event
import SyntaxAdvisor.Advice.Reply
import SyntaxAdvisor.Decimal.Fixed

/-!
# Recommendations

A recommendation pairs a report with an explanation, a suggested fix, a confidence score and
references. It is put together step by step by a builder, which may be reset and reused. The
score is clamped to the unit interval when it is set, which always leaves a double: an integer
or truth value at or above one becomes `1.0`, one below becomes `0.0`. A value that is not a
number cannot be compared with the bounds, and setting it fails without changing the builder.

Building checks that the report, explanation, fix and score have been set (none counts as not
set), in that order.
-/

namespace SyntaxAdvisor

/-- A recommendation for fixing a reported error. -/
structure Recommendation where
  /-- The report it addresses. -/
  event : Event
  /-- Why the error occurs. -/
  explanation : Value
  /-- How to fix it. -/
  fix : Value
  /-- How sure it is, from 0 to 1. -/
  confidence : Float
  /-- Documentation it refers to. -/
  references : List Value
  /-- When it was made. -/
  createdAt : DateTime := DateTime.fixedNow

namespace Recommendation

/-- The mapping view of a recommendation. -/
def toValue (r : Recommendation) : Value :=
  .dict [(.str "error_event", r.event.toValue), (.str "explanation", r.explanation),
         (.str "suggested_fix", r.fix), (.str "confidence_score", .float r.confidence),
         (.str "references", .list r.references),
         (.str "created_at", .str r.createdAt.isoformat)]

/-- The indentation of the lines of the terminal text. -/
def indent : String := "        "

/-- The text shown on a terminal, each line indented, the score as a percentage. -/
def terminalText (r : Recommendation) : Except Failure String := do
  let line ← r.event.line.shown
  let kind ← r.event.kind.shown
  let message ← r.event.message.shown
  let explanation ← r.explanation.shown
  let fix ← r.fix.shown
  pure <| "\n" ++ indent ++ "ERROR: " ++ r.event.path ++ ":" ++ line ++ "\n" ++
  indent ++ "Type: " ++ kind ++ "\n" ++
  indent ++ "Message: " ++ message ++ "\n\n" ++
  indent ++ "EXPLANATION: " ++ explanation ++ "\n\n" ++
  indent ++ "SUGGESTED FIX: " ++ fix ++ "\n\n" ++
  indent ++ "Confidence: " ++ Decimal.percentText r.confidence 1 ++ "\n" ++ indent

/-- Whether the score is above 0.7. -/
def isHighConfidence (r : Recommendation) : Bool := r.confidence > 0.7

/-- The one-line description of a recommendation. -/
def describe (r : Recommendation) : Except Failure String := do
  let line ← r.event.line.shown
  pure ("Recommendation for " ++ r.event.path ++ ":" ++ line)

end Recommendation

/-- A score clamped to the unit interval, as `max(0.0, min(1.0, score))`. -/
def clampScore (score : Value) : Except Failure Float :=
  match score with
  | .float x => .ok (clampUnit x)
  | .int k => .ok (if k ≥ 1 then 1.0 else 0.0)
  | .bool b => .ok (if b then 1.0 else 0.0)
  | _ => .error (Value.orderError "<" score (.float 1.0))

/-- A recommendation being put together. -/
structure Builder where
  /-- The report, once set. -/
  event : Option Event := none
  /-- The explanation; none when not set. -/
  explanation : Value := .none
  /-- The suggested fix; none when not set. -/
  fix : Value := .none
  /-- The clamped score, once set. -/
  confidence : Option Float := none
  /-- The references added so far. -/
  references : List Value := []

/-- One thing done to a builder. -/
inductive BuilderStep where
  /-- Sets the report. -/
  | setEvent (e : Event)
  /-- Sets the explanation. -/
  | setExplanation (v : Value)
  /-- Sets the suggested fix. -/
  | setFix (v : Value)
  /-- Sets the score. -/
  | setConfidence (v : Value)
  /-- Adds a reference. -/
  | addReference (v : Value)
  /-- Forgets everything set. -/
  | reset
  /-- Builds the recommendation. -/
  | build

namespace Builder

/-- Builds the recommendation, if everything needed is set. -/
def build (b : Builder) : Except Failure Recommendation := do
  let some event := b.event
    | throw (.valueError "ErrorEvent is required - call set_error_event() first")
  if b.explanation matches .none then
    throw (.valueError "Explanation is required - call set_explanation() first")
  if b.fix matches .none then
    throw (.valueError "Suggested Fix is required - call set_suggested_fix() first")
  let some confidence := b.confidence
    | throw (.valueError "Confidence Score is required - call set_confidence_score() first")
  pure { event, explanation := b.explanation, fix := b.fix, confidence,
         references := b.references }

/-- Does one step: the builder after it, and the recommendation a build makes. -/
def apply (b : Builder) : BuilderStep → Except Failure (Builder × Option Recommendation)
  | .setEvent e => .ok ({ b with event := some e }, none)
  | .setExplanation v => .ok ({ b with explanation := v }, none)
  | .setFix v => .ok ({ b with fix := v }, none)
  | .setConfidence v => do
    let x ← clampScore v
    pure ({ b with confidence := some x }, none)
  | .addReference v => .ok ({ b with references := b.references ++ [v] }, none)
  | .reset => .ok ({}, none)
  | .build => do
    let r ← b.build
    pure (b, some r)

/-- Does one step on a builder that lives on: the builder after the step, which a failing step
leaves as it was, and what the step gave. -/
def step (b : Builder) (s : BuilderStep) : Builder × Except Failure (Option Recommendation) :=
  match b.apply s with
  | .ok (b', r) => (b', .ok r)
  | .error f => (b, .error f)

/-- The builder after a run of steps, the failing ones included. -/
def run (b : Builder) (steps : List BuilderStep) : Builder :=
  steps.foldl (fun b s => (b.step s).1) b

/-- What a builder holds, as a mapping: the report's description and the fields set. -/
def toValue (b : Builder) : Except Failure Value := do
  let shown ← match b.event with
    | some e => Value.str <$> e.describe
    | none => pure .none
  pure (.dict [(.str "error_event", shown),
         (.str "explanation", b.explanation), (.str "suggested_fix", b.fix),
         (.str "confidence_score", (b.confidence.map Value.float).getD .none),
         (.str "references", .list b.references)])

end Builder

/-- The recommendation made from a report and a reply. -/
def Recommendation.ofReply (e : Event) (reply : Reply) : Except Failure Recommendation := do
  let steps := [BuilderStep.setEvent e, .setExplanation (.str reply.explanation),
    .setFix (.str reply.fix), .setConfidence (.float reply.confidence)]
  let b ← steps.foldlM (fun b s => (·.1) <$> b.apply s) ({} : Builder)
  b.build

end SyntaxAdvisor
