import SyntaxAdvisor.Proofs.BracketBalance
import SyntaxAdvisor.Proofs.PatternWindow

/-!
# Lines the parser accepts

The line checks look at a line's characters only: a parenthesis inside a string literal counts
like any other, and a one-line `if x: pass` opens a block without ending in a colon. So a line
the parser accepts on its own may still be reported (`parenthesis_in_literal_reported`).

What does hold: a parse of a file reaches the end marker of its token stream, so an accepted text
was lexed to its end, and by `lex_balanced` a text without quotes and `#` then has its brackets
balanced. Main statement: `plain_accepted_line_reports`, for an accepted line without quotes and
`#` the only report at its number is the missing colon, exactly when that check fails.
-/

namespace SyntaxAdvisor.Python

/-! ## Steps of the parsing monad -/

theorem parseM_bind_eq_ok {α β : Type} {x : ParseM α} {f : α → ParseM β} {m m' : Memo} {b : β} :
    (x >>= f) m = .ok (b, m') ↔ ∃ a m₁, x m = .ok (a, m₁) ∧ f a m₁ = .ok (b, m') := by
  show (x m >>= fun p => f p.1 p.2) = _ ↔ _
  cases x m with
  | error e => exact ⟨nofun, fun ⟨_, _, h, _⟩ => nomatch h⟩
  | ok p =>
    obtain ⟨a, s⟩ := p
    exact ⟨fun h => ⟨a, s, rfl, h⟩, fun ⟨_, _, h, hf⟩ => by cases h; exact hf⟩

@[simp] theorem parseM_throw {α : Type} (h : Halt) (m : Memo) :
    (throw h : ParseM α) m = .error h := rfl

@[simp] theorem parseM_pure {α : Type} (a : α) (m : Memo) : (pure a : ParseM α) m = .ok (a, m) := rfl

theorem parseM_lift_eq_ok {α : Type} {x : Except Halt α} {a : α} {m m' : Memo} :
    (liftM x : ParseM α) m = .ok (a, m') ↔ x = .ok a ∧ m' = m := by
  show (x >>= fun a => pure (a, m)) = _ ↔ _
  cases x with
  | error e => exact ⟨nofun, fun ⟨h, _⟩ => nomatch h⟩
  | ok b => exact ⟨fun h => by cases h; exact ⟨rfl, rfl⟩, fun ⟨h, hm⟩ => by cases h; rw [hm]; rfl⟩

theorem Ctx.stream_of_enter {c c' : Ctx} (h : c.enter = .ok c') : c'.stream = c.stream := by
  unfold Ctx.enter at h
  split at h
  · cases h
  · cases h; rfl

/-! ## A parse of a file reaches the end marker -/

/-- An expected token item that matched was matched by the token check itself. -/
theorem runItem_expect_eq_ok {fuel : Nat} {c : Ctx} {e : Expect} {i j : Nat} {v : Val}
    {m m' : Memo} (h : runItem fuel c (.expect e) i m = .ok (.ok j v, m')) :
    matchToken c.stream e i = .ok (.ok j v) := by
  cases fuel with
  | zero => simp only [runItem, parseM_throw] at h; cases h
  | succ fuel =>
    simp only [runItem] at h
    cases hm : matchToken c.stream e i with
    | error e => rw [hm] at h; cases h
    | ok r =>
      rw [hm] at h
      cases h
      rfl

theorem tokenAt_of_matchToken_endmarker {s : Stream} {i j : Nat} {v : Val}
    (h : matchToken s .endmarker i = .ok (.ok j v)) : tokenAt s i = .ok .endmarker := by
  unfold matchToken at h
  cases ht : tokenAt s i with
  | error e => rw [ht] at h; cases h
  | ok t =>
    rw [ht] at h
    cases t <;> first | rfl | cases h

open Rules in
/-- The items of a file, its statements and then the end marker, match only where the stream
has an end marker. -/
theorem runSeq_file_endmarker {fuel : Nat} {c : Ctx} {i j : Nat} {vals : Array Val} {m m' : Memo}
    (h : runSeq (fuel + 1) c [.optional (.call .statements), endmarker] i m =
      .ok (.matched j vals, m')) :
    ∃ k, tokenAt c.stream k = .ok .endmarker := by
  simp only [runSeq, List.forIn_cons, List.forIn_nil, endmarker, parseM_bind_eq_ok] at h
  obtain ⟨⟨found, k, vs, cut⟩, m₁, ⟨step, m₂, ⟨r, m₃, hfirst, hstep⟩, hrest⟩, hlast⟩ := h
  -- the first item either matched, or the alternative failed
  cases r with
  | ok k₁ v₁ =>
    simp only [parseM_pure, Except.ok.injEq] at hstep
    obtain ⟨rfl, rfl⟩ := hstep
    simp only [parseM_bind_eq_ok] at hrest
    obtain ⟨a, m₄, ⟨r₂, m₅, hsecond, hstep₂⟩, hdone⟩ := hrest
    cases r₂ with
    | ok k₂ v₂ => exact ⟨k₁, tokenAt_of_matchToken_endmarker (runItem_expect_eq_ok hsecond)⟩
    | _ =>
      simp only [parseM_pure, Except.ok.injEq] at hstep₂
      obtain ⟨rfl, rfl⟩ := hstep₂
      simp only [parseM_pure, Except.ok.injEq, Prod.mk.injEq] at hdone
      obtain ⟨⟨rfl, -⟩, rfl⟩ := hdone
      simp at hlast
  | _ =>
    simp only [parseM_pure, Except.ok.injEq] at hstep
    obtain ⟨rfl, rfl⟩ := hstep
    simp only [parseM_pure, Except.ok.injEq, Prod.mk.injEq] at hrest
    obtain ⟨⟨rfl, -⟩, rfl⟩ := hrest
    simp at hlast

open Rules in
theorem runAlts_file_endmarker {fuel : Nat} {c : Ctx} {i j : Nat} {v : Val} {m m' : Memo}
    (h : runAlts (fuel + 1) c Rules.file i m = .ok (.ok j v, m')) :
    ∃ k, tokenAt c.stream k = .ok .endmarker := by
  simp only [runAlts, Rules.file, alt, List.forIn_cons, List.forIn_nil, parseM_bind_eq_ok,
    Alt.explainsOnly, Alt.items, Alt.act, Bool.false_and, Bool.false_eq_true, if_false] at h
  obtain ⟨⟨found, _⟩, m₁, ⟨step, m₂, ⟨r, m₃, hseq, hstep⟩, hdone⟩, hlast⟩ := h
  -- only an alternative whose items all matched gives a match
  cases r with
  | matched k vals =>
    cases fuel with
    | zero => simp only [runSeq, parseM_throw] at hseq; cases hseq
    | succ fuel => exact runSeq_file_endmarker hseq
  | failed cut =>
    cases cut <;> simp only [parseM_pure, Except.ok.injEq, Bool.false_eq_true, if_false,
      if_true] at hstep <;> obtain ⟨rfl, rfl⟩ := hstep <;>
      simp only [parseM_pure, Except.ok.injEq, Prod.mk.injEq] at hdone <;>
      obtain ⟨⟨rfl, -⟩, rfl⟩ := hdone <;> simp at hlast

theorem callRule_file_endmarker {fuel : Nat} {c : Ctx} {i j : Nat} {v : Val} {m m' : Memo}
    (h : callRule (fuel + 1) c .file i m = .ok (.ok j v, m')) :
    ∃ k, tokenAt c.stream k = .ok .endmarker := by
  simp only [callRule, parseM_bind_eq_ok, parseM_lift_eq_ok] at h
  obtain ⟨c', m₁, ⟨hc, -⟩, hrun⟩ := h
  rw [show Rule.file.kind = .plain from rfl, show Rule.file.withoutInvalid = false from rfl,
    show Rule.file.alts = Rules.file from rfl] at hrun
  -- the file rule runs its alternatives in place, with nothing remembered
  cases fuel with
  | zero => simp only [runAlts, parseM_throw] at hrun; cases hrun
  | succ fuel =>
    rw [← Ctx.stream_of_enter hc]
    exact runAlts_file_endmarker hrun

theorem Stream.endmarker_of_pass_file {s : Stream} {explain : Bool} {j : Nat} {v : Val}
    (h : s.pass .file explain = .ok (.ok j v)) : ∃ k, tokenAt s k = .ok .endmarker := by
  obtain ⟨n, hn⟩ : ∃ n, s.fuel = n + 1 := ⟨_, rfl⟩
  unfold Stream.pass at h
  rw [hn] at h
  cases hrun : callRule (n + 1) ⟨s, explain, false, 0⟩ .file 0 ∅ with
  | error e => rw [StateT.run', hrun] at h; cases h
  | ok p =>
    obtain ⟨r, m'⟩ := p
    rw [StateT.run', hrun] at h
    cases h
    exact callRule_file_endmarker hrun

/-- The passes of a parse accept only when the first pass matched. -/
theorem Outcome.ofPasses_eq_accepted {first : Except Halt Res} {second : Unit → Except Halt Res}
    {d : Nat} (h : Outcome.ofPasses first second = .accepted d) : ∃ j v, first = .ok (.ok j v) := by
  unfold Outcome.ofPasses at h
  split at h
  · exact ⟨_, _, rfl⟩
  all_goals first | cases h | (split at h <;> cases h)

/-- A stream that a file parse accepts has an end marker. -/
theorem Stream.endmarker_of_parse_file {s : Stream} {d : Nat} (h : s.parse .file = .accepted d) :
    ∃ k, tokenAt s k = .ok .endmarker := by
  unfold Stream.parse at h
  obtain ⟨j, v, hpass⟩ := Outcome.ofPasses_eq_accepted h
  exact Stream.endmarker_of_pass_file hpass

/-! ## Accepted text was lexed to its end -/

/-- A stream past its tokens gives the end marker only if the lexer did not stop on a broken
rule. -/
theorem tokenAt_ofTokens_endmarker {toks : Array Token} {broken : Bool} {k : Nat}
    (h : tokenAt (Stream.ofTokens toks broken) k = .ok .endmarker) :
    Token.endmarker ∈ toks ∨ broken = false := by
  simp only [tokenAt, Stream.ofTokens] at h
  split at h
  · rename_i t ht
    cases h
    exact .inl (Array.mem_of_getElem? ht)
  · cases broken with
    | false => exact .inr rfl
    | true => simp at h

/-- Checking string literals changes no token into an end marker. -/
theorem eq_endmarker_of_annotateToken {n : Nat} {t : Token} (h : annotateToken n t = .endmarker) :
    t = .endmarker := by
  cases n <;> cases t <;> first | rfl | cases h

theorem endmarker_mem_of_annotate {n : Nat} {toks : Array Token}
    (h : Token.endmarker ∈ toks.map (annotateToken n)) : Token.endmarker ∈ toks := by
  obtain ⟨t, ht, heq⟩ := Array.mem_map.1 h
  rwa [eq_endmarker_of_annotateToken heq] at ht

theorem lex_ends_of_screen_file {fuel : Nat} {text : String} {d : Nat}
    (h : screen fuel text .file = .accepted d) :
    Token.endmarker ∈ (lex text).tokens ∨ (lex text).broken = false := by
  cases fuel with
  | zero => simp [screen] at h
  | succ fuel =>
    rw [screen] at h
    obtain ⟨k, hk⟩ := Stream.endmarker_of_parse_file h
    rcases tokenAt_ofTokens_endmarker hk with hmem | hb
    · exact .inl (endmarker_mem_of_annotate hmem)
    · exact .inr hb

theorem Verdict.screen_of_accepted {frames : Nat} {text : String}
    (h : Verdict.ofSource frames text = .accepted) :
    ∃ d, screen (2 * text.length + 10) text .file = .accepted d := by
  unfold Verdict.ofSource at h
  split at h
  · cases h
  · split at h
    · rename_i d hscreen
      exact ⟨d, hscreen⟩
    all_goals cases h

/-- A text the parser accepts, in which no string literal or comment can start, closes every
round and square bracket it opens. -/
theorem Verdict.balanced_of_accepted {frames : Nat} {text : String}
    (hplain : ∀ c ∈ text.toList, c ≠ '\'' ∧ c ≠ '"' ∧ c ≠ '#')
    (h : Verdict.ofSource frames text = .accepted) :
    text.toList.count '(' = text.toList.count ')' ∧
      text.toList.count '[' = text.toList.count ']' := by
  obtain ⟨d, hd⟩ := Verdict.screen_of_accepted h
  exact lex_balanced hplain (lex_ends_of_screen_file hd)

end SyntaxAdvisor.Python

namespace SyntaxAdvisor

/-- A parenthesis inside a string literal is counted like any other: `print('(')` parses on its
own, and is reported as never closing it. -/
theorem parenthesis_in_literal_reported :
    Python.Verdict.ofSource 0 (Text.strip "print('(')") = .accepted ∧
      ∃ e ∈ detectErrors "t.py" ["print('(')"],
        e.line = .int 1 ∧ e.message = .str "'(' was never closed" := by
  have hstrip : Text.strip "print('(')" = "print('(')" := by decide +kernel
  have hacc : Python.Verdict.ofSource 0 "print('(')" = .accepted := by decide +kernel
  have hparen : Finding.unclosedParenthesis.Fails "print('(')" := by decide +kernel
  refine ⟨hstrip ▸ hacc, _, mem_detectErrors.2 ⟨0, "print('(')", .unclosedParenthesis, rfl,
    by rw [hstrip]; decide +kernel, by rw [hstrip]; decide +kernel, hstrip ▸ hparen, rfl⟩, rfl, rfl⟩

namespace Finding

/-- On a line with its brackets balanced and no quote, only the missing colon check can fail. -/
theorem eq_missingColon_of_fails {f : Finding} {s : String}
    (hparen : s.toList.count '(' = s.toList.count ')')
    (hbracket : s.toList.count '[' = s.toList.count ']') (hquote : '\'' ∉ s.toList)
    (h : f.Fails s) : f = .missingColon := by
  cases f with
  | missingColon => rfl
  | unclosedParenthesis => simp only [Fails] at h; omega
  | unclosedBracket => simp only [Fails] at h; omega
  | unterminatedString =>
    simp only [Fails, List.count_eq_zero.2 hquote, Nat.zero_sub] at h
    omega

/-- A line that starts with a block opener is not empty. -/
theorem ne_empty_of_missingColon {s : String} (h : Finding.missingColon.Fails s) : s ≠ "" := by
  rintro rfl
  obtain ⟨⟨p, hp, hstart⟩, -⟩ := h
  have hnil : p.toList = [] := List.prefix_nil.1 (String.startsWith_string_iff.1 hstart)
  rw [String.toList_eq_nil_iff] at hnil
  subst hnil
  simp [blockOpeners] at hp

end Finding

theorem startsWith_hash_eq_false {s : String} (h : '#' ∉ s.toList) : s.startsWith "#" = false := by
  rw [String.startsWith_string_eq_false_iff]
  intro hpre
  exact h (hpre.subset (by simp))

/-- A line that parses on its own and holds no quote and no `#` is reported only for a missing
colon, and exactly when that check fails on it. -/
theorem plain_accepted_line_reports (file : String) (lines : List String) (i frames : Nat)
    (raw : String) (hraw : lines[i]? = some raw)
    (hacc : Python.Verdict.ofSource frames (Text.strip raw) = .accepted)
    (hplain : ∀ c ∈ (Text.strip raw).toList, c ≠ '\'' ∧ c ≠ '"' ∧ c ≠ '#') (e : Event) :
    e ∈ detectErrors file lines ∧ e.line = .int (i + 1) ↔
      Finding.missingColon.Fails (Text.strip raw) ∧
        e = Event.ofPattern file (.int (i + 1)) (.str "SyntaxError") (.str "expected ':'")
          lines i := by
  obtain ⟨hparen, hbracket⟩ := Python.Verdict.balanced_of_accepted hplain hacc
  have hquote : '\'' ∉ (Text.strip raw).toList := fun hq => (hplain _ hq).1 rfl
  constructor
  · rintro ⟨he, hline⟩
    obtain ⟨j, raw', f, hraw', -, -, hf, rfl⟩ := mem_detectErrors.1 he
    -- a report's number is the line it was found on
    obtain rfl : j = i := by
      simp only [Event.ofPattern_line, Value.int.injEq] at hline
      omega
    obtain rfl : raw' = raw := Option.some.inj (hraw'.symm.trans hraw)
    obtain rfl := Finding.eq_missingColon_of_fails hparen hbracket hquote hf
    exact ⟨hf, rfl⟩
  · rintro ⟨hf, rfl⟩
    have hhash : '#' ∉ (Text.strip raw).toList := fun hh => (hplain _ hh).2.2 rfl
    exact ⟨mem_detectErrors.2 ⟨i, raw, .missingColon, hraw, Finding.ne_empty_of_missingColon hf,
      startsWith_hash_eq_false hhash, hf, rfl⟩, rfl⟩

/-- `if x: pass` parses on its own, holds no quote and no `#`, and is reported for its missing
colon. -/
theorem one_line_if_reported :
    Python.Verdict.ofSource 0 (Text.strip "if x: pass") = .accepted ∧
      Event.ofPattern "t.py" (.int (0 + 1)) (.str "SyntaxError") (.str "expected ':'")
        ["if x: pass"] 0 ∈ detectErrors "t.py" ["if x: pass"] := by
  have hstrip : Text.strip "if x: pass" = "if x: pass" := by decide +kernel
  have hacc : Python.Verdict.ofSource 0 (Text.strip "if x: pass") = .accepted := by
    rw [hstrip]
    decide +kernel
  have hplain : ∀ c ∈ (Text.strip "if x: pass").toList, c ≠ '\'' ∧ c ≠ '"' ∧ c ≠ '#' := by
    rw [hstrip]
    simp
  have hfails : Finding.missingColon.Fails (Text.strip "if x: pass") := by
    rw [hstrip]
    decide +kernel
  exact ⟨hacc, ((plain_accepted_line_reports "t.py" ["if x: pass"] 0 0 _ rfl hacc hplain _).2
    ⟨hfails, rfl⟩).1⟩

end SyntaxAdvisor
