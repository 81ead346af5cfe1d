import Mathlib
import SyntaxAdvisor.Advice.Recommendation
import SyntaxAdvisor.Proofs.IntValues

/-!
# Running a recommendation builder

Whatever steps are run on a builder, with whatever arguments, four things hold at every point of
the run. A score, once set, lies in the unit interval and is a number: every number is clamped
into it (integers and truth values of any size, the infinities, not-a-number), and anything
else fails the comparison with a type error. The references are those added since the last
reset. A step that fails leaves the builder as it was. A build succeeds exactly when the report,
the explanation, the fix and the score are set, and otherwise fails with the error of the first
of them that is not, in that order; what it builds carries the builder's fields.
-/

namespace SyntaxAdvisor

open Float.Model

/-! ## Scores in the unit interval -/

/-- Under the IEEE comparisons, less than implies at most. -/
theorem float_le_of_lt {a b : Float} (h : a < b) : a ≤ b := by
  change Float.lt a b = true at h
  change Float.le a b = true
  simp only [Float.lt, Float.le, decide_eq_true_eq] at h ⊢
  change (a.toModel.unpack.compare b.toModel.unpack == some .lt) = true at h
  change (a.toModel.unpack.compare b.toModel.unpack).any (·.isLE) = true
  rw [beq_iff_eq] at h
  rw [h]
  rfl

/-- A double that compares at least something is no not-a-number: not-a-number compares with
nothing. -/
theorem float_isNaN_of_le {a b : Float} (h : a ≤ b) : b.isNaN = false := by
  change Float.le a b = true at h
  simp only [Float.le, decide_eq_true_eq] at h
  change (a.toModel.unpack.compare b.toModel.unpack).any (·.isLE) = true at h
  change b.toModel.unpack.isNaN = false
  cases hb : b.toModel.unpack with
  | notANumber =>
    rw [hb] at h
    cases ha : a.toModel.unpack <;> simp [ha, UnpackedFloat.compare] at h
  | _ => rfl

/-- A score in the unit interval: at least zero and at most one. -/
def InUnit (x : Float) : Prop := 0.0 ≤ x ∧ x ≤ 1.0

/-- A score in the unit interval is a number. -/
theorem InUnit.isNaN_eq_false {x : Float} (h : InUnit x) : x.isNaN = false :=
  float_isNaN_of_le h.1

theorem inUnit_zero : InUnit 0.0 := ⟨by decide, by decide⟩

theorem inUnit_one : InUnit 1.0 := ⟨by decide, by decide⟩

/-- Clamping any double gives a score in the unit interval: the upper bound wins against
not-a-number, and the lower one against negative zero. -/
theorem clampUnit_inUnit (x : Float) : InUnit (clampUnit x) := by
  have hupper : (if x < 1.0 then x else 1.0) ≤ 1.0 := by
    split
    · exact float_le_of_lt ‹_›
    · exact inUnit_one.2
  have hlower : ∀ y : Float, y ≤ 1.0 → InUnit (if y > 0.0 then y else 0.0) := by
    intro y hy
    split
    · exact ⟨float_le_of_lt ‹_›, hy⟩
    · exact inUnit_zero
  exact hlower _ hupper

/-- A clamped score lies in the unit interval. -/
theorem clampScore_inUnit {v : Value} {x : Float} (h : clampScore v = .ok x) : InUnit x := by
  cases v with
  | float y =>
    simp only [clampScore, Except.ok.injEq] at h
    exact h ▸ clampUnit_inUnit y
  | int k =>
    simp only [clampScore, Except.ok.injEq] at h
    subst h
    split
    · exact inUnit_one
    · exact inUnit_zero
  | bool c =>
    simp only [clampScore, Except.ok.injEq] at h
    subst h
    cases c
    · exact inUnit_zero
    · exact inUnit_one
  | _ => simp [clampScore] at h

/-- Clamping fails exactly on a value that is not a number, with the type error of comparing it
with one. -/
theorem clampScore_eq_error_iff (v : Value) (f : Failure) :
    clampScore v = .error f ↔ v.number? = none ∧ f = Value.orderError "<" v (.float 1.0) := by
  cases v <;> simp [clampScore, Value.number?, eq_comm]

namespace BuilderStep

/-- The reference a step adds, if it adds one. -/
def reference? : BuilderStep → Option Value
  | .addReference v => some v
  | _ => none

/-- Whether a step is a reset. -/
def isReset : BuilderStep → Bool
  | .reset => true
  | _ => false

end BuilderStep

/-- The steps of a run after its last reset; all of them when it has none. -/
def sinceLastReset (steps : List BuilderStep) : List BuilderStep :=
  (steps.reverse.takeWhile (!·.isReset)).reverse

/-- One more step is one more step since the last reset, unless it is a reset itself. -/
theorem sinceLastReset_append_singleton (steps : List BuilderStep) (s : BuilderStep) :
    sinceLastReset (steps ++ [s]) = if s.isReset then [] else sinceLastReset steps ++ [s] := by
  cases h : s.isReset <;> simp [sinceLastReset, h]

namespace Builder

/-! ## One step -/

variable (b : Builder)

@[simp] theorem step_setEvent (e : Event) :
    b.step (.setEvent e) = ({ b with event := some e }, .ok none) := rfl

@[simp] theorem step_setExplanation (v : Value) :
    b.step (.setExplanation v) = ({ b with explanation := v }, .ok none) := rfl

@[simp] theorem step_setFix (v : Value) :
    b.step (.setFix v) = ({ b with fix := v }, .ok none) := rfl

@[simp] theorem step_addReference (v : Value) :
    b.step (.addReference v) = ({ b with references := b.references ++ [v] }, .ok none) := rfl

@[simp] theorem step_reset : b.step .reset = ({}, .ok none) := rfl

theorem step_setConfidence (v : Value) :
    b.step (.setConfidence v) = match clampScore v with
      | .ok x => ({ b with confidence := some x }, .ok none)
      | .error f => (b, .error f) := by
  simp only [step, apply]
  cases clampScore v <;> rfl

theorem step_build :
    b.step .build = match b.build with
      | .ok r => (b, .ok (some r))
      | .error f => (b, .error f) := by
  simp only [step, apply]
  cases b.build <;> rfl

/-- The steps that fail are the setting of a score that is not a number and the build of a
builder missing a field; a failing step leaves the builder as it was. -/
theorem step_eq_error_iff (s : BuilderStep) (f : Failure) :
    (b.step s).2 = .error f ↔ (b.step s).1 = b ∧
      ((∃ v, s = .setConfidence v ∧ clampScore v = .error f) ∨
        (s = .build ∧ b.build = .error f)) := by
  cases s with
  | setConfidence v =>
    rw [step_setConfidence]
    cases h : clampScore v <;> simp [h]
  | build =>
    rw [step_build]
    cases b.build <;> simp
  | _ => simp

/-! ## Runs -/

theorem run_nil : b.run [] = b := rfl

theorem run_append_singleton (steps : List BuilderStep) (s : BuilderStep) :
    b.run (steps ++ [s]) = ((b.run steps).step s).1 := by
  simp [run, List.foldl_append]

/-- What every builder reached by a run satisfies: a score, once set, is in the unit interval. -/
structure Invariant (b : Builder) : Prop where
  confidence_inUnit : ∀ x, b.confidence = some x → InUnit x

theorem invariant_empty : Invariant {} := ⟨fun _ h => by cases h⟩

variable {b}

/-- Every step keeps the invariant: only setting a score changes it, to a clamped one. -/
theorem Invariant.step (h : Invariant b) (s : BuilderStep) : Invariant (b.step s).1 := by
  cases s with
  | setConfidence v =>
    rw [step_setConfidence]
    cases hc : clampScore v with
    | ok x =>
      refine ⟨fun y hy => ?_⟩
      simp only [Option.some.injEq] at hy
      exact hy ▸ clampScore_inUnit hc
    | error f => exact h
  | build =>
    rw [step_build]
    cases b.build <;> exact h
  | reset => exact invariant_empty
  | setEvent e => exact ⟨h.confidence_inUnit⟩
  | setExplanation v => exact ⟨h.confidence_inUnit⟩
  | setFix v => exact ⟨h.confidence_inUnit⟩
  | addReference v => exact ⟨h.confidence_inUnit⟩

/-- Every run keeps the invariant, step by step. -/
theorem Invariant.run (h : Invariant b) (steps : List BuilderStep) : Invariant (b.run steps) := by
  induction steps using List.reverseRecOn with
  | nil => exact h
  | append_singleton steps s ih =>
    rw [run_append_singleton]
    exact ih.step s

/-- A reset empties the references; any other step keeps them and adds its own, if any. -/
theorem references_step (b : Builder) (s : BuilderStep) :
    (b.step s).1.references = if s.isReset then [] else b.references ++ s.reference?.toList := by
  cases s with
  | setConfidence v =>
    rw [step_setConfidence]
    cases clampScore v <;> simp [BuilderStep.isReset, BuilderStep.reference?]
  | build =>
    rw [step_build]
    cases b.build <;> simp [BuilderStep.isReset, BuilderStep.reference?]
  | _ => simp [BuilderStep.isReset, BuilderStep.reference?]

/-- The references after a run are those added since its last reset, after the builder's own
when the run has no reset. -/
theorem references_run (b : Builder) (steps : List BuilderStep) :
    (b.run steps).references =
      (if steps.any BuilderStep.isReset then [] else b.references) ++
        (sinceLastReset steps).filterMap BuilderStep.reference? := by
  induction steps using List.reverseRecOn with
  | nil => simp [run_nil, sinceLastReset]
  | append_singleton steps s ih =>
    rw [run_append_singleton, references_step, sinceLastReset_append_singleton, List.any_append]
    cases hs : s.isReset
    · have hone : [s].filterMap BuilderStep.reference? = s.reference?.toList := by
        simp only [List.filterMap_cons, List.filterMap_nil]
        cases s.reference? <;> rfl
      simp [ih, List.filterMap_append, hs, hone]
    · simp [hs]

/-! ## Building -/

/-- The five ways a build goes: it stops at the first of the report, explanation, fix and score
that is not set, with that field's value error, or builds from all four. -/
theorem build_cases (b : Builder) :
    (b.event = none ∧
      b.build = .error (.valueError "ErrorEvent is required - call set_error_event() first")) ∨
    (b.event.isSome ∧ b.explanation = .none ∧
      b.build = .error (.valueError "Explanation is required - call set_explanation() first")) ∨
    (b.event.isSome ∧ b.explanation ≠ .none ∧ b.fix = .none ∧
      b.build = .error (.valueError "Suggested Fix is required - call set_suggested_fix() first")) ∨
    (b.event.isSome ∧ b.explanation ≠ .none ∧ b.fix ≠ .none ∧ b.confidence = none ∧
      b.build =
        .error (.valueError "Confidence Score is required - call set_confidence_score() first")) ∨
    (∃ e c, b.event = some e ∧ b.explanation ≠ .none ∧ b.fix ≠ .none ∧ b.confidence = some c ∧
      b.build = .ok { event := e, explanation := b.explanation, fix := b.fix, confidence := c,
                      references := b.references }) := by
  rcases b with ⟨_ | e, x, y, c, refs⟩
  · simp [build]
  simp only [build]
  -- the checks in turn: each one that fails ends the build with its error
  split
  · simp
  rename_i hx
  have hx' : x ≠ .none := hx
  simp only [Bool.false_eq_true, ↓reduceIte]
  split
  · simp [hx']
  rename_i hy
  have hy' : y ≠ .none := hy
  cases c <;> simp [hx', hy']

/-- A build fails exactly when a field it needs is not set, with the value error of the first
such field in the order report, explanation, fix, score. -/
theorem build_eq_error_iff (b : Builder) (f : Failure) : b.build = .error f ↔
    (b.event = none ∧ f = .valueError "ErrorEvent is required - call set_error_event() first") ∨
    (b.event.isSome ∧ b.explanation = .none ∧
      f = .valueError "Explanation is required - call set_explanation() first") ∨
    (b.event.isSome ∧ b.explanation ≠ .none ∧ b.fix = .none ∧
      f = .valueError "Suggested Fix is required - call set_suggested_fix() first") ∨
    (b.event.isSome ∧ b.explanation ≠ .none ∧ b.fix ≠ .none ∧ b.confidence = none ∧
      f = .valueError "Confidence Score is required - call set_confidence_score() first") := by
  rcases build_cases b with ⟨he, hb⟩ | ⟨he, hx, hb⟩ | ⟨he, hx, hy, hb⟩ | ⟨he, hx, hy, hc, hb⟩ |
    ⟨e, c, he, hx, hy, hc, hb⟩
  · simpa [hb, he] using eq_comm
  · simpa [hb, he, Option.isSome_iff_ne_none.mp he, hx] using eq_comm
  · simpa [hb, he, Option.isSome_iff_ne_none.mp he, hx, hy] using eq_comm
  · simpa [hb, he, Option.isSome_iff_ne_none.mp he, hx, hy, hc] using eq_comm
  · simp [hb, he, hx, hy, hc]

/-- A build succeeds exactly when the report, explanation, fix and score are all set, and what
it builds carries them and the references. -/
theorem build_eq_ok_iff (b : Builder) (r : Recommendation) : b.build = .ok r ↔
    ∃ e c, b.event = some e ∧ b.explanation ≠ .none ∧ b.fix ≠ .none ∧ b.confidence = some c ∧
      r = { event := e, explanation := b.explanation, fix := b.fix, confidence := c,
            references := b.references } := by
  rcases build_cases b with ⟨he, hb⟩ | ⟨he, hx, hb⟩ | ⟨he, hx, hy, hb⟩ | ⟨he, hx, hy, hc, hb⟩ |
    ⟨e, c, he, hx, hy, hc, hb⟩
  · simp [hb, he]
  · simp [hb, hx]
  · simp [hb, hy]
  · simp [hb, hc]
  · simp [hb, he, hx, hy, hc, eq_comm]

end Builder

/-- Whatever steps are run on a fresh builder, at every point of the run: a score, once set, is
in the unit interval and a number; setting a score fails exactly on a value that is not a
number, with the type error of the comparison; the references are those added since the last
reset; a failing step leaves the builder as it was; and a build fails exactly on the first field
not set, in the order report, explanation, fix, score, and otherwise builds a recommendation
carrying the builder's fields. -/
theorem builder_run_invariants (steps : List BuilderStep) :
    let b := Builder.run {} steps
    (∀ x, b.confidence = some x → 0.0 ≤ x ∧ x ≤ 1.0 ∧ x.isNaN = false) ∧
    (∀ v f, (b.step (.setConfidence v)).2 = .error f ↔
      v.number? = none ∧ f = Value.orderError "<" v (.float 1.0)) ∧
    b.references = (sinceLastReset steps).filterMap BuilderStep.reference? ∧
    (∀ s f, (b.step s).2 = .error f → (b.step s).1 = b) ∧
    (∀ f, b.build = .error f ↔
      (b.event = none ∧ f = .valueError "ErrorEvent is required - call set_error_event() first") ∨
      (b.event.isSome ∧ b.explanation = .none ∧
        f = .valueError "Explanation is required - call set_explanation() first") ∨
      (b.event.isSome ∧ b.explanation ≠ .none ∧ b.fix = .none ∧
        f = .valueError "Suggested Fix is required - call set_suggested_fix() first") ∨
      (b.event.isSome ∧ b.explanation ≠ .none ∧ b.fix ≠ .none ∧ b.confidence = none ∧
        f = .valueError "Confidence Score is required - call set_confidence_score() first")) ∧
    (∀ r, b.build = .ok r ↔
      ∃ e c, b.event = some e ∧ b.explanation ≠ .none ∧ b.fix ≠ .none ∧ b.confidence = some c ∧
        r = { event := e, explanation := b.explanation, fix := b.fix, confidence := c,
              references := b.references }) := by
  intro b
  have hinv : Builder.Invariant b := Builder.invariant_empty.run steps
  refine ⟨fun x hx => ?_, fun v f => ?_, ?_, fun s f hf => ?_, Builder.build_eq_error_iff b,
    Builder.build_eq_ok_iff b⟩
  · have hunit := hinv.confidence_inUnit x hx
    exact ⟨hunit.1, hunit.2, hunit.isNaN_eq_false⟩
  · rw [Builder.step_setConfidence, ← clampScore_eq_error_iff]
    cases clampScore v <;> simp
  · -- a fresh builder has no references of its own
    simpa using Builder.references_run {} steps
  · exact ((Builder.step_eq_error_iff b s f).mp hf).1

end SyntaxAdvisor
