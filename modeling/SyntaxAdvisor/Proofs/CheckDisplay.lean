import SyntaxAdvisor.Commands.Check
import SyntaxAdvisor.Proofs.IntValues
import SyntaxAdvisor.Proofs.TextLines
import Mathlib.Data.List.Forall2

/-!
# What the check shows

Once the analysis has found errors, the check writes how many errors it found in how many
files, sets up the advice service, and then shows the files, each once, in the order of their
first error. Of a file with `n` errors it shows the first ones that a slice up to the bound
`m` keeps: `min n m` of them for a bound `m ≥ 0`, and all but the last `-m` for a negative
bound. The note that not all are shown is written exactly when `n > m`, and it names the bound
itself. Each error shown is numbered from 1 and, with an advice service, gets exactly one
request, in the order shown; a failed request only changes the advice lines of its own error.

The texts written are given here as plain functions of the errors (`filesText`), and the
check's work on a machine is shown to write exactly them.
-/

namespace SyntaxAdvisor

namespace Text

/-- A text has no run of lone surrogates exactly when no character of it stands for one. -/
theorem surrogateRun_eq_none_iff {s : String} :
    surrogateRun s = none ↔ ∀ c ∈ s.toList, surrogateOf c = none := by
  unfold surrogateRun
  dsimp only
  split
  · rename_i h
    simp only [true_iff]
    intro c hc
    simpa using List.findIdx?_eq_none_iff.mp h c hc
  · rename_i i h
    simp only [reduceCtorEq, false_iff, Classical.not_forall]
    obtain ⟨hi, hlone, -⟩ := List.findIdx?_eq_some_iff_getElem.mp h
    exact ⟨_, List.getElem_mem hi, by simpa [Option.isSome_iff_ne_none] using hlone⟩

/-- Text can be written as strict UTF-8 exactly when no character of it stands for a lone
surrogate. -/
theorem strictEncodeError_eq_none_iff {s : String} :
    strictEncodeError s = none ↔ ∀ c ∈ s.toList, surrogateOf c = none := by
  rw [strictEncodeError, Option.map_eq_none_iff, surrogateRun_eq_none_iff]

/-- Text that can be written as strict UTF-8: no character of it stands for a lone surrogate. -/
def Plain (s : String) : Prop := ∀ c ∈ s.toList, surrogateOf c = none

@[simp] theorem plain_append {s t : String} : Plain (s ++ t) ↔ Plain s ∧ Plain t := by
  simp only [Plain, String.toList_append, List.mem_append]
  exact ⟨fun h => ⟨fun c hc => h c (.inl hc), fun c hc => h c (.inr hc)⟩,
    fun h c hc => hc.elim (h.1 c) (h.2 c)⟩

/-- A character below the stand-ins stands for no surrogate. -/
theorem surrogateOf_of_lt {c : Char} (h : c.toNat < 0xD800 + standInOffset) :
    surrogateOf c = none := by
  simp only [surrogateOf, Bool.and_eq_true, decide_eq_true_eq, ite_eq_right_iff]
  omega

theorem plain_ofList_digits {cs : List Char} (h : ∀ c ∈ cs, c.isDigit = true) :
    Plain (String.ofList cs) := by
  intro c hc
  rw [String.toList_ofList] at hc
  have hd := Char.isDigit_iff_toNat.1 (h c hc)
  exact surrogateOf_of_lt (by simp only [standInOffset]; simp at hd; omega)

theorem plain_toString_nat (n : Nat) : Plain (toString n) := by
  rw [Nat.toString_eq_ofList_toDigits]
  exact plain_ofList_digits fun c hc => Nat.isDigit_of_mem_toDigits (by decide) (by decide) hc

theorem plain_toString_int (n : Int) : Plain (toString n) := by
  rw [Int.toString_eq_repr, Int.repr_eq_if]
  split
  · exact plain_toString_nat _
  · rw [plain_append]
    exact ⟨by simp [Plain, surrogateOf, standInOffset], plain_toString_nat _⟩

/-- A rule of one character repeated, the character standing for no surrogate. -/
theorem plain_replicate {c : Char} (h : surrogateOf c = none) (n : Nat) :
    Plain (String.ofList (List.replicate n c)) := by
  intro d hd
  rw [String.toList_ofList] at hd
  rw [List.eq_of_mem_replicate hd]
  exact h

end Text

namespace Event

/-- The line the check writes for an error's code: the marked line of its snippet, when it has
code around it and a line is marked. -/
def codeText (e : Event) : String :=
  if e.context.truthy then
    match e.defaultSnippet with
    | .ok snippet =>
      if (markedLine snippet).isEmpty then "" else "Code: " ++ markedLine snippet ++ "\n"
    | .error _ => ""
  else ""

/-- The lines the check writes for an error shown as the `i`-th of its file, before its advice:
its number, kind and line, its message, and its code. -/
def headText (e : Event) (i : Nat) : String :=
  ("\nError " ++ toString i ++ ": " ++ e.kind.text ++ " at line " ++ e.line.text ++ "\n") ++
  ("Message: " ++ e.message.text ++ "\n") ++ e.codeText

/-- An error the check can show: its snippet can be made when it has code around it, its prompt
can be made, and every text written for it can be encoded. -/
structure Showable (e : Event) : Prop where
  snippet : e.context.truthy = true → ∃ s, e.defaultSnippet = .ok s
  prompt : ∃ t, e.prompt = .ok t
  name : Text.Plain (Path.name e.path)
  kind : Text.Plain e.kind.text
  line : Text.Plain e.line.text
  message : Text.Plain e.message.text
  code : Text.Plain e.codeText

theorem Showable.plain_head {e : Event} (he : e.Showable) (i : Nat) :
    Text.Plain ("\nError " ++ toString i ++ ": " ++ e.kind.text ++ " at line " ++ e.line.text) := by
  simp only [Text.plain_append]
  exact ⟨⟨⟨⟨⟨by simp [Text.Plain, Text.surrogateOf, Text.standInOffset],
    Text.plain_toString_nat i⟩, by simp [Text.Plain, Text.surrogateOf, Text.standInOffset]⟩,
    he.kind⟩, by simp [Text.Plain, Text.surrogateOf, Text.standInOffset]⟩, he.line⟩

theorem Showable.plain_message {e : Event} (he : e.Showable) :
    Text.Plain ("Message: " ++ e.message.text) :=
  Text.plain_append.2 ⟨by simp [Text.Plain, Text.surrogateOf, Text.standInOffset], he.message⟩

end Event

namespace Commands

/-! ## Running work on a machine -/

section Run

variable {α β : Type}

theorem run_bind (x : Work α) (f : α → Work β) (M : Machine) :
    (x >>= f).run.run M = match x.run.run M with
      | (.ok a, M') => (f a).run.run M'
      | (.error e, M') => (.error e, M') := by
  simp only [ExceptT.run_bind, StateT.run_bind]
  rcases x.run.run M with ⟨_ | a, M'⟩ <;> rfl

theorem run_bind_of_ok {x : Work α} {f : α → Work β} {M M' : Machine} {a : α}
    (h : x.run.run M = (.ok a, M')) : (x >>= f).run.run M = (f a).run.run M' := by
  rw [run_bind, h]

/-- Work that completes ran its first part to completion. -/
theorem run_bind_eq_ok {x : Work α} {f : α → Work β} {M M' : Machine} {b : β}
    (h : (x >>= f).run.run M = (.ok b, M')) :
    ∃ a M₁, x.run.run M = (.ok a, M₁) ∧ (f a).run.run M₁ = (.ok b, M') := by
  rw [run_bind] at h
  rcases hx : x.run.run M with ⟨_ | a, M₁⟩
  · rw [hx] at h
    cases h
  · rw [hx] at h
    exact ⟨a, M₁, rfl, h⟩

@[simp] theorem run_pure (a : α) (M : Machine) : (pure a : Work α).run.run M = (.ok a, M) := rfl

@[simp] theorem run_get (M : Machine) : (get : Work Machine).run.run M = (.ok M, M) := rfl

@[simp] theorem run_modify (f : Machine → Machine) (M : Machine) :
    (modify f : Work Unit).run.run M = (.ok (), f M) := rfl

@[simp] theorem run_lift_ok (a : α) (M : Machine) : (lift (.ok a) : Work α).run.run M = (.ok a, M) :=
  rfl

/-- Writing a line that can be encoded appends it and a line feed to the console. -/
theorem run_say {s : String} (h : ∀ c ∈ s.toList, Text.surrogateOf c = none) (M : Machine) :
    (say s).run.run M = (.ok (), { M with console := M.console.write (s ++ "\n") }) := by
  have hnl : Text.strictEncodeError (s ++ "\n") = none := by
    rw [Text.strictEncodeError_eq_none_iff]
    intro c hc
    rw [String.toList_append, List.mem_append] at hc
    rcases hc with hc | hc
    · exact h c hc
    · simp at hc
      subst hc
      rfl
  simp [say, encodable, hnl]

theorem run_tryCatch (x : Work α) (h : Failure → Work α) (M : Machine) :
    (tryCatch x h).run.run M = match x.run.run M with
      | (.ok a, M') => (.ok a, M')
      | (.error f, M') => (h f).run.run M' := by
  simp only [tryCatch, tryCatchThe, MonadExceptOf.tryCatch, ExceptT.tryCatch, ExceptT.run_mk,
    StateT.run_bind]
  rw [show StateT.run x M = x.run.run M from rfl]
  rcases x.run.run M with ⟨_ | a, M'⟩ <;> rfl

@[simp] theorem Console.write_write (c : Console) (s t : String) :
    (c.write s).write t = c.write (s ++ t) := by
  simp [Console.write, String.append_assoc]

@[simp] theorem Console.write_empty (c : Console) : c.write "" = c := by
  simp [Console.write]

end Run

/-! ## Work that only writes -/

section WritesOnly

variable {α β : Type}

/-- Work that changes the machine only by writing to its console, whether it ends normally or
fails. -/
def WritesOnly (x : Work α) : Prop :=
  ∀ M, ∃ t, (x.run.run M).2 = { M with console := M.console.write t }

theorem writesOnly_pure (a : α) : WritesOnly (pure a : Work α) :=
  fun M => ⟨"", by simp; rfl⟩

theorem writesOnly_lift (r : Except Failure α) : WritesOnly (lift r) := by
  intro M
  refine ⟨"", ?_⟩
  cases r <;> simp [lift] <;> rfl

theorem writesOnly_say (s : String) : WritesOnly (say s) := by
  intro M
  cases h : Text.strictEncodeError (s ++ "\n") with
  | none => exact ⟨s ++ "\n", by simp [say, encodable, h]⟩
  | some why => exact ⟨"", by simp [say, encodable, h]; rfl⟩

theorem writesOnly_bind {x : Work α} {f : α → Work β} (hx : WritesOnly x)
    (hf : ∀ a, WritesOnly (f a)) : WritesOnly (x >>= f) := by
  intro M
  obtain ⟨t, ht⟩ := hx M
  rw [run_bind]
  rcases hrun : x.run.run M with ⟨_ | a, M'⟩
  · exact ⟨t, by rw [hrun] at ht; exact ht⟩
  · rw [hrun] at ht
    obtain ⟨u, hu⟩ := hf a M'
    simp only at ht
    subst ht
    exact ⟨t ++ u, by simp [hu]⟩

theorem writesOnly_tryCatch {x : Work α} {h : Failure → Work α} (hx : WritesOnly x)
    (hh : ∀ f, WritesOnly (h f)) : WritesOnly (tryCatch x h) := by
  intro M
  obtain ⟨t, ht⟩ := hx M
  rw [run_tryCatch]
  rcases hrun : x.run.run M with ⟨f | a, M'⟩
  · rw [hrun] at ht
    obtain ⟨u, hu⟩ := hh f M'
    simp only at ht
    subst ht
    exact ⟨t ++ u, by simp [hu]⟩
  · exact ⟨t, by rw [hrun] at ht; exact ht⟩

end WritesOnly

/-! ## Loops -/

section Loops

variable {γ : Type}

/-- A loop whose every step writes a text writes the texts one after another. -/
theorem run_forIn_writes (body : γ → Work Unit) (g : γ → String) :
    ∀ (xs : List γ), (∀ x ∈ xs, ∀ M, (body x).run.run M =
      (.ok (), { M with console := M.console.write (g x) })) →
    ∀ M, (forIn xs PUnit.unit fun x _ => body x >>= fun _ => pure (ForInStep.yield PUnit.unit)).run.run M =
      (.ok PUnit.unit, { M with console := M.console.write (String.join (xs.map g)) })
  | [], _, M => by
    rw [List.forIn_nil, run_pure]
    simp
  | x :: xs, hf, M => by
    rw [List.forIn_cons, run_bind, run_bind_of_ok (hf x List.mem_cons_self M)]
    simp only [run_pure]
    rw [run_forIn_writes body g xs (fun y hy => hf y (List.mem_cons_of_mem x hy))]
    simp

/-- A loop that ran to its end ran every step to its end, each from the machine the step before
left: a property that every finished step carries back from the rest of the run to its start
holds of the whole run. -/
theorem run_forIn_of_ok (body : γ → Work Unit) (P : List γ → Machine → Prop)
    (hstep : ∀ x xs M M', (body x).run.run M = (.ok (), M') → P xs M' → P (x :: xs) M) :
    ∀ (xs : List γ) M M',
      (forIn xs PUnit.unit fun x _ => body x >>= fun _ => pure (ForInStep.yield PUnit.unit)).run.run M =
        (.ok PUnit.unit, M') → P [] M' → P xs M
  | [], M, M', h, hP => by
    rw [List.forIn_nil, run_pure] at h
    obtain ⟨-, rfl⟩ := Prod.mk.inj h
    exact hP
  | x :: xs, M, M', h, hP => by
    rw [List.forIn_cons, run_bind, run_bind] at h
    rcases hx : (body x).run.run M with ⟨_ | u, M₁⟩
    · rw [hx] at h
      cases h
    · rw [hx] at h
      exact hstep x xs M M₁ hx (run_forIn_of_ok body P hstep xs M₁ M' h hP)

end Loops

/-! ## Advice on one error -/

/-- Every request posted to the network is recorded, last. -/
@[simp] theorem Network.post_sent (n : Network) (r : Request) : (n.post r).1.sent = n.sent ++ [r] := by
  unfold Network.post
  dsimp only
  split
  · rfl
  · split <;> rfl

/-- Advice on an error whose prompt can be made posts exactly one request, carrying the prompt. -/
theorem Provider.advise_sent (p : Provider) (n : Network) {e : Event} {t : String}
    (h : e.prompt = .ok t) : (p.advise n e).1.sent = n.sent ++ [p.request (.str t)] := by
  simp only [Provider.advise, h, Provider.generate]
  split <;> simp_all

/-- Asking for advice changes the network as the advice does and otherwise only writes; when the
request fails, it fails with the request's failure and writes nothing. -/
theorem run_showAdvice (p : Provider) (e : Event) (M : Machine) :
    (∃ t, ((showAdvice p e).run.run M).2 =
      { M with network := (p.advise M.network e).1, console := M.console.write t }) ∧
    ∀ f, (p.advise M.network e).2 = .error f →
      (showAdvice p e).run.run M = (.error f, { M with network := (p.advise M.network e).1 }) := by
  rcases hadvise : p.advise M.network e with ⟨n, r⟩
  have hset : (set { M with network := n } : Work PUnit).run.run M =
      (.ok (), { M with network := n }) := rfl
  unfold showAdvice
  rw [run_bind_of_ok (run_get M)]
  simp only [hadvise]
  rw [run_bind_of_ok hset]
  -- what follows the request only reads its outcome and writes
  refine ⟨writesOnly_bind (writesOnly_lift r) (fun _ => writesOnly_bind (writesOnly_lift _)
    fun _ => writesOnly_bind (writesOnly_lift _) fun _ => writesOnly_bind (writesOnly_say _)
      fun _ => writesOnly_bind (writesOnly_say _) fun _ => writesOnly_say _) _, ?_⟩
  rintro f rfl
  rfl

/-! ## Advice on the errors shown, one after another -/

/-- The network after asking for advice on each of `es`, one after another. -/
def adviseAll (p : Provider) (n : Network) (es : List Event) : Network :=
  es.foldl (fun n e => (p.advise n e).1) n

@[simp] theorem adviseAll_nil (p : Provider) (n : Network) : adviseAll p n [] = n := rfl

@[simp] theorem adviseAll_cons (p : Provider) (n : Network) (e : Event) (es : List Event) :
    adviseAll p n (e :: es) = adviseAll p (p.advise n e).1 es := rfl

theorem adviseAll_append (p : Provider) (n : Network) (es es' : List Event) :
    adviseAll p n (es ++ es') = adviseAll p (adviseAll p n es) es' := by
  simp only [adviseAll, List.foldl_append]

/-- Asking for advice on errors whose prompts can be made posts one request for each error, in
their order, each carrying the error's prompt. -/
theorem adviseAll_sent (p : Provider) :
    ∀ (n : Network) (es : List Event), (∀ e ∈ es, ∃ t, e.prompt = .ok t) →
      ∃ reqs, (adviseAll p n es).sent = n.sent ++ reqs ∧
        List.Forall₂ (fun e req => ∃ t, e.prompt = .ok t ∧ req = p.request (.str t)) es reqs
  | n, [], _ => ⟨[], by simp, .nil⟩
  | n, e :: es, hprompt => by
    obtain ⟨t, ht⟩ := hprompt e List.mem_cons_self
    obtain ⟨reqs, hsent, hreqs⟩ :=
      adviseAll_sent p (p.advise n e).1 es fun e' he' => hprompt e' (List.mem_cons_of_mem e he')
    refine ⟨p.request (.str t) :: reqs, ?_, .cons ⟨t, ht, rfl⟩ hreqs⟩
    rw [adviseAll_cons, hsent, Provider.advise_sent p n ht, List.append_assoc, List.singleton_append]

/-- `advice` is the advice shown on the errors `es`, asked for one after another from the
network `n` on: one text for each error, and where the request for an error fails, the line
that names the failure. -/
def AdviceShown (p : Provider) : Network → List Event → List String → Prop
  | _, [], [] => True
  | n, e :: es, a :: as =>
    (∀ f, (p.advise n e).2 = .error f → a = "AI analysis failed: " ++ f.message ++ "\n") ∧
      AdviceShown p (p.advise n e).1 es as
  | _, _, _ => False

theorem AdviceShown.length_eq {p : Provider} :
    ∀ {n : Network} {es : List Event} {advice : List String}, AdviceShown p n es advice →
      advice.length = es.length
  | _, [], [], _ => rfl
  | _, _ :: _, _ :: _, h => congrArg Nat.succ (AdviceShown.length_eq h.2)

theorem AdviceShown.append {p : Provider} :
    ∀ {n : Network} {es es' : List Event} {advice advice' : List String},
      AdviceShown p n es advice → AdviceShown p (adviseAll p n es) es' advice' →
        AdviceShown p n (es ++ es') (advice ++ advice')
  | _, [], _, [], _, _, h' => h'
  | _, _ :: _, _, _ :: _, _, h, h' => ⟨h.1, AdviceShown.append h.2 h'⟩

/-! ## One error -/

/-- The code line of an error that can be shown is written as `Event.codeText` says. -/
theorem run_showCode {e : Event} (he : e.Showable) (M : Machine) :
    (showCode e).run.run M = (.ok (), { M with console := M.console.write e.codeText }) := by
  by_cases hctx : e.context.truthy = true
  · obtain ⟨snippet, hsnippet⟩ := he.snippet hctx
    have hcode : e.codeText = if (Event.markedLine snippet).isEmpty then "" else
        "Code: " ++ Event.markedLine snippet ++ "\n" := by
      simp [Event.codeText, hctx, hsnippet]
    simp only [showCode, hctx, if_true, run_bind, hsnippet, run_lift_ok]
    by_cases hmarked : (Event.markedLine snippet).isEmpty = true
    · simp [hmarked, hcode]
      rfl
    · have hplain : Text.Plain ("Code: " ++ Event.markedLine snippet) := by
        have := he.code
        simp only [hcode, hmarked, Bool.false_eq_true, if_false, Text.plain_append] at this
        exact Text.plain_append.2 this.1
      simp [hmarked, run_say hplain, hcode]
  · simp [showCode, hctx, Event.codeText]
    rfl

/-- Writing a line either appends it or, when it cannot be encoded, fails and changes nothing. -/
theorem run_say_cases (s : String) (M : Machine) :
    (say s).run.run M = (.ok (), { M with console := M.console.write (s ++ "\n") }) ∨
      ∃ f, (say s).run.run M = (.error f, M) := by
  cases h : Text.strictEncodeError (s ++ "\n") with
  | none => exact .inl (by simp [say, encodable, h])
  | some why => exact .inr ⟨_, by simp [say, encodable, h]; rfl⟩

/-- The blank line between two errors shown, none after the last. -/
theorem run_separator (count i : Nat) (M : Machine) :
    (if i < count then say "" else pure () : Work Unit).run.run M =
      (.ok (), { M with console := M.console.write (if i < count then "\n" else "") }) := by
  split
  · simp [run_say (by simp [Text.Plain] : Text.Plain "")]
  · simp only [Console.write_empty, run_pure]

/-- The lines an error that can be shown writes before its advice. -/
theorem run_showReport_head {e : Event} (he : e.Showable) {α : Type} (i : Nat)
    (rest : Unit → Work α) (M : Machine) :
    (say ("\nError " ++ toString i ++ ": " ++ e.kind.text ++ " at line " ++ e.line.text) >>=
      fun _ => say ("Message: " ++ e.message.text) >>= fun _ => showCode e >>= rest).run.run M =
      (rest ()).run.run { M with console := M.console.write (e.headText i) } := by
  rw [run_bind_of_ok (run_say (he.plain_head i) M), run_bind_of_ok (run_say he.plain_message _),
    run_bind_of_ok (run_showCode he _)]
  simp only [Console.write_write]
  rfl

/-- Without advice, an error that can be shown writes its lines, and a blank line unless it is
the last one shown. -/
theorem run_showReport_none {e : Event} (he : e.Showable) (count i : Nat) (M : Machine) :
    (showReport none count i e).run.run M =
      (.ok (), { M with console := M.console.write (e.headText i ++
        if i < count then "\n" else "") }) := by
  rw [showReport, run_showReport_head he]
  simp [run_separator]

/-- With advice, an error that can be shown writes its lines, its advice, and a blank line unless
it is the last one shown, and the network is left as the request for advice leaves it. When the
request fails, the advice is the line that names the failure. This is said of a run that ends
normally: it fails only when that line cannot be written. -/
theorem run_showReport_some {e : Event} (he : e.Showable) (p : Provider) (count i : Nat)
    {M M' : Machine} (hrun : (showReport (some p) count i e).run.run M = (.ok (), M')) :
    ∃ advice, M' = { M with
        network := (p.advise M.network e).1
        console := M.console.write (e.headText i ++ advice ++ if i < count then "\n" else "") } ∧
      ∀ f, (p.advise M.network e).2 = .error f →
        advice = "AI analysis failed: " ++ f.message ++ "\n" := by
  rw [showReport, run_showReport_head he] at hrun
  obtain ⟨⟨t, ht⟩, hfail⟩ :=
    run_showAdvice p e ({ M with console := M.console.write (e.headText i) } : Machine)
  rw [run_bind, run_tryCatch] at hrun
  simp only at ht hfail
  rcases hreq : (p.advise M.network e).2 with f | recommendation
  · -- the request failed: the advice is the line that names the failure
    rw [hfail f hreq] at hrun
    simp only at hrun
    rcases run_say_cases ("AI analysis failed: " ++ f.message) _ with hsay | ⟨g, hsay⟩
    · rw [hsay] at hrun
      simp only [run_separator] at hrun
      obtain ⟨-, rfl⟩ := Prod.mk.inj hrun
      refine ⟨"AI analysis failed: " ++ f.message ++ "\n", by simp [String.append_assoc], ?_⟩
      intro f' hf'
      cases hf'
      rfl
    · rw [hsay] at hrun
      cases hrun
  · -- the request was answered: whatever was written after the lines is the advice
    rcases hadv : (showAdvice p e).run.run
        ({ M with console := M.console.write (e.headText i) } : Machine) with ⟨res, M₂⟩
    rw [hadv] at hrun ht
    simp only at ht
    subst ht
    cases res with
    | ok u =>
      simp only [run_separator] at hrun
      obtain ⟨-, rfl⟩ := Prod.mk.inj hrun
      exact ⟨t, by simp [String.append_assoc], fun f hf => by cases hf⟩
    | error f =>
      -- showing the advice failed part of the way: the line naming the failure follows
      simp only at hrun
      rcases run_say_cases ("AI analysis failed: " ++ f.message) _ with hsay | ⟨g, hsay⟩
      · rw [hsay] at hrun
        simp only [run_separator] at hrun
        obtain ⟨-, rfl⟩ := Prod.mk.inj hrun
        exact ⟨t ++ ("AI analysis failed: " ++ f.message ++ "\n"), by simp [String.append_assoc],
          fun f hf => by cases hf⟩
      · rw [hsay] at hrun
        cases hrun

/-! ## One file -/

/-- How many of `n` errors a bound shows, as a slice up to the bound keeps them: the first
`bound`, and for a negative bound all but the last `-bound`. -/
def shownCount (n : Nat) (bound : Int) : Nat :=
  if 0 ≤ bound then min n bound.toNat else n - bound.natAbs

theorem takeUpTo_eq_take {α : Type} (xs : List α) (bound : Int) :
    takeUpTo xs bound = xs.take (shownCount xs.length bound) := by
  unfold takeUpTo shownCount
  split
  · rw [List.take_eq_take_min (i := bound.toNat), Nat.min_comm]
  · rfl

/-- The errors of a file that a bound shows. -/
def shownIn (bound : Int) (es : List Event) : List Event := es.take (shownCount es.length bound)

/-- The rule drawn under the name of a file. -/
def fileRule : String := String.ofList (List.replicate 40 '─')

/-- The lines above the errors of a file: its name and number of errors, the rule, and the note
when the bound leaves some out. -/
def fileHead (bound : Int) (path : String) (es : List Event) : String :=
  "\n" ++ Path.name path ++ " (" ++ toString es.length ++ " errors)" ++ "\n" ++
  fileRule ++ "\n" ++
  if (es.length : Int) > bound then
    "Note: Showing first " ++ toString bound ++ " of " ++ toString es.length ++ " errors" ++ "\n"
  else ""

/-- The errors `shown`, numbered from 1, each followed by the advice given for it and separated
by blank lines. -/
def shownText (shown : List Event) (advice : List String) : String :=
  String.join (((shown.zipIdx 1).zip advice).map fun ((e, i), a) =>
    e.headText i ++ a ++ if i < shown.length then "\n" else "")

/-- What the check writes for the errors `es` of the file at `path`, given the advice on each
error shown. -/
def fileText (bound : Int) (path : String) (es : List Event) (advice : List String) : String :=
  fileHead bound path es ++ shownText (shownIn bound es) advice

/-- The loop over the errors shown, as the check runs it. -/
abbrev shownLoop (advisor : Option Provider) (shown : List Event) : Work Unit :=
  forIn (shown.zip (List.range' 1 shown.length)) PUnit.unit (fun x _ =>
    showReport advisor shown.length x.2 x.1 >>= fun _ => pure (ForInStep.yield PUnit.unit)) >>=
    fun _ => pure ()

/-- A file whose name can be written starts with `fileHead`, then runs the loop over the errors
shown. -/
theorem run_showFile_head {path : String} (hname : Text.Plain (Path.name path))
    (advisor : Option Provider) (bound : Int) (es : List Event) (M : Machine) :
    (showFile advisor bound path es).run.run M =
      (shownLoop advisor (shownIn bound es)).run.run
        { M with console := M.console.write (fileHead bound path es) } := by
  have hheader : Text.Plain ("\n" ++ Path.name path ++ " (" ++ toString es.length ++ " errors)") := by
    simp only [Text.plain_append]
    exact ⟨⟨⟨⟨by simp [Text.Plain, Text.surrogateOf, Text.standInOffset], hname⟩,
      by simp [Text.Plain, Text.surrogateOf, Text.standInOffset]⟩, Text.plain_toString_nat _⟩,
      by simp [Text.Plain, Text.surrogateOf, Text.standInOffset]⟩
  have hrule : Text.Plain (String.ofList (List.replicate 40 '─')) := Text.plain_replicate rfl 40
  unfold showFile
  rw [run_bind_of_ok (run_say hheader M), run_bind_of_ok (run_say hrule _)]
  dsimp only
  rw [takeUpTo_eq_take]
  by_cases hmore : (es.length : Int) > bound
  · have hnote : Text.Plain ("Note: Showing first " ++ toString bound ++ " of " ++
        toString es.length ++ " errors") := by
      simp only [Text.plain_append]
      exact ⟨⟨⟨⟨by simp [Text.Plain, Text.surrogateOf, Text.standInOffset],
        Text.plain_toString_int _⟩, by simp [Text.Plain, Text.surrogateOf, Text.standInOffset]⟩,
        Text.plain_toString_nat _⟩, by simp [Text.Plain, Text.surrogateOf, Text.standInOffset]⟩
    rw [if_pos hmore, run_bind_of_ok (run_say hnote _)]
    simp only [Console.write_write, fileHead, if_pos hmore, String.append_assoc]
    rfl
  · rw [if_neg hmore]
    simp only [Console.write_write, fileHead, if_neg hmore, String.append_assoc,
      String.append_empty]
    rfl

theorem map_zip_replicate {α β γ : Type} (f : α × β → γ) (b : β) :
    ∀ (xs : List α) {n : Nat}, xs.length = n →
      (xs.zip (List.replicate n b)).map f = xs.map fun x => f (x, b)
  | [], _, _ => by simp
  | x :: xs, n + 1, h => by
    simp [List.replicate_succ, map_zip_replicate f b xs (Nat.succ.inj h)]

/-- Without advice, a file whose errors can be shown is written as `fileText` says, with no
advice on any error. -/
theorem run_showFile_none {bound : Int} {path : String} {es : List Event}
    (hname : Text.Plain (Path.name path)) (hshow : ∀ e ∈ es, e.Showable) (M : Machine) :
    (showFile none bound path es).run.run M =
      (.ok (), { M with
        console := M.console.write (fileText bound path es (List.replicate (shownIn bound es).length "")) }) := by
  -- each error shown writes its lines
  have hbody : ∀ x ∈ (shownIn bound es).zip (List.range' 1 (shownIn bound es).length), ∀ M',
      (showReport none (shownIn bound es).length x.2 x.1).run.run M' =
      (.ok (), { M' with console := M'.console.write (x.1.headText x.2 ++
        if x.2 < (shownIn bound es).length then "\n" else "") }) :=
    fun x hx M' => run_showReport_none (hshow x.1 (List.mem_of_mem_take (List.of_mem_zip hx).1)) _ _ M'
  rw [run_showFile_head hname, shownLoop, run_bind, run_forIn_writes _ _ _ hbody]
  simp only [run_pure, Console.write_write, fileText, shownText, List.zipIdx_eq_zip_range']
  rw [map_zip_replicate _ _ _ (by simp)]
  simp only [String.append_empty]

/-- A negative bound leaves errors out from the end: of three errors the bound `-1` shows the
first two, and the note names the bound itself rather than the number shown. -/
theorem showFile_negative_bound :
    ((showFile none (-1) "a.py" (List.replicate 3
      ({ path := "a.py", line := .int 1, kind := .str "SyntaxError", message := .str "x" } :
        Event))).run.run
      { host := { disk := Disk.empty, env := {}, cwd := "/" }, network := { script := [] },
        console := {} }).2.console.out =
      "\na.py (3 errors)\n" ++ String.ofList (List.replicate 40 '─') ++
      "\nNote: Showing first -1 of 3 errors\n" ++
      "\nError 1: SyntaxError at line 1\nMessage: x\n\n\nError 2: SyntaxError at line 1\nMessage: x\n" := by
  -- the name is split at slashes through its characters, which the kernel evaluates
  have hname : Path.name "a.py" = "a.py" := by
    rw [Path.name, Path.parts, show "/" = String.singleton '/' from rfl, splitOn_singleton]
    decide +kernel
  unfold showFile
  rw [hname]
  decide +kernel

/-- With advice, a file whose errors can be shown and whose check ends normally is written as
`fileText` says, with advice shown on each error shown, asked for one error after another. -/
theorem run_showFile_some {bound : Int} {path : String} {es : List Event}
    (hname : Text.Plain (Path.name path)) (hshow : ∀ e ∈ es, e.Showable) (p : Provider)
    {M M' : Machine} (hrun : (showFile (some p) bound path es).run.run M = (.ok (), M')) :
    ∃ advice, AdviceShown p M.network (shownIn bound es) advice ∧
      M' = { M with
        network := adviseAll p M.network (shownIn bound es)
        console := M.console.write (fileText bound path es advice) } := by
  let shown := shownIn bound es
  let sep : Nat → String := fun i => if i < shown.length then "\n" else ""
  -- what is left of the loop, from any machine on, shows its errors with their advice
  let P : List (Event × Nat) → Machine → Prop := fun rest N =>
    (∀ x ∈ rest, x.1.Showable) → ∃ advice, AdviceShown p N.network (rest.map (·.1)) advice ∧
      M' = { N with
        network := adviseAll p N.network (rest.map (·.1))
        console := N.console.write (String.join ((rest.zip advice).map fun (x, a) =>
          x.1.headText x.2 ++ a ++ sep x.2)) }
  have hstep : ∀ x xs N N₁, (showReport (some p) shown.length x.2 x.1).run.run N = (.ok (), N₁) →
      P xs N₁ → P (x :: xs) N := by
    intro x xs N N₁ hx hrest hshown
    obtain ⟨a, rfl, hfail⟩ := run_showReport_some (hshown x List.mem_cons_self) p _ _ hx
    obtain ⟨advice, hadvice, hM'⟩ := hrest fun y hy => hshown y (List.mem_cons_of_mem x hy)
    refine ⟨a :: advice, ⟨hfail, hadvice⟩, ?_⟩
    rw [hM']
    simp only [List.map_cons, adviseAll_cons, List.zip_cons_cons, List.map_cons, String.join_cons,
      Console.write_write, String.append_assoc]
    rfl
  rw [run_showFile_head hname, shownLoop, run_bind] at hrun
  rcases hloop : (forIn (shown.zip (List.range' 1 shown.length)) PUnit.unit fun x _ =>
      showReport (some p) shown.length x.2 x.1 >>= fun _ => pure (ForInStep.yield PUnit.unit)).run.run
      { M with console := M.console.write (fileHead bound path es) } with ⟨_ | u, M₁⟩
  · rw [hloop] at hrun
    cases hrun
  · rw [hloop] at hrun
    simp only [run_pure] at hrun
    obtain ⟨-, rfl⟩ := Prod.mk.inj hrun
    have hzip : (shown.zip (List.range' 1 shown.length)).map (·.1) = shown :=
      List.map_fst_zip (by simp)
    obtain ⟨advice, hadvice, hM'⟩ := run_forIn_of_ok _ P hstep _ _ _ hloop
      (fun _ => ⟨[], trivial, by simp⟩)
      fun x hx => hshow x.1 (List.mem_of_mem_take (List.of_mem_zip hx).1)
    rw [hzip] at hadvice hM'
    refine ⟨advice, hadvice, ?_⟩
    rw [hM']
    simp only [Console.write_write, fileText, shownText, List.zipIdx_eq_zip_range']
    rfl

end Commands

end SyntaxAdvisor
