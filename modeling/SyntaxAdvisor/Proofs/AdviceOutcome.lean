import SyntaxAdvisor.Advice.Worker
import SyntaxAdvisor.Proofs.RecommendationBuilder
import SyntaxAdvisor.Proofs.DotenvSetup
import SyntaxAdvisor.Proofs.SnippetWindow

/-!
# What advice on a report can give

Whatever text a service replies, reading it and building a recommendation from it cannot fail.
Reading cuts the reply at line feeds, so no section it gathers holds one; a section left empty
gets its stock text; and what is kept is stripped, so each of the explanation and the fix is a
non-empty text equal to its own stripped form, without line feeds. The score is clamped when the
recommendation is built, so it is a number in the unit interval whatever the reply said.

So advising on a report fails only where putting its prompt to the service fails, or earlier,
where the prompt cannot be written: a report whose line, kind or message holds an integer too
long to write out fails before anything is sent.
-/

namespace SyntaxAdvisor

/-! ## Stripping -/

namespace Text

/-- A stripped text does not start with a blank. -/
theorem head?_stripChars (cs : List Char) : ∀ c ∈ (stripChars cs).head?, isBlank c = false := by
  intro c hc
  set front := cs.dropWhile isBlank
  -- the stripped characters are `front` less the blanks at its end, so they start as it does
  have hsplit : front = stripChars cs ++ (front.reverse.takeWhile isBlank).reverse := by
    conv_lhs => rw [← List.reverse_reverse front,
      ← List.takeWhile_append_dropWhile (p := isBlank) (l := front.reverse)]
    rw [List.reverse_append]
    rfl
  obtain ⟨rest, hrest⟩ : ∃ rest, stripChars cs = c :: rest := by
    cases h : stripChars cs with
    | nil => rw [h] at hc; cases hc
    | cons d rest =>
      rw [h] at hc
      exact ⟨rest, by cases hc; rfl⟩
  have hfront := List.head?_dropWhile_not isBlank cs
  rw [show cs.dropWhile isBlank = front from rfl, hsplit, hrest] at hfront
  exact hfront

/-- Characters that neither start nor end with a blank are their own stripped form. -/
theorem stripChars_of_ends {cs : List Char} (hhead : ∀ c ∈ cs.head?, isBlank c = false)
    (hlast : ∀ c ∈ cs.getLast?, isBlank c = false) : stripChars cs = cs := by
  have hfront : cs.dropWhile isBlank = cs := by
    cases cs with
    | nil => rfl
    | cons c rest => exact List.dropWhile_cons_of_neg (by simp [hhead c rfl])
  have hback : cs.reverse.dropWhile isBlank = cs.reverse := by
    cases h : cs.reverse with
    | nil => rfl
    | cons c rest =>
      have hc : isBlank c = false := hlast c (by rw [← List.head?_reverse, h]; rfl)
      exact List.dropWhile_cons_of_neg (by simp [hc])
  rw [stripChars, hfront, hback, List.reverse_reverse]

theorem stripChars_stripChars (cs : List Char) : stripChars (stripChars cs) = stripChars cs :=
  stripChars_of_ends (head?_stripChars cs) (getLast?_stripChars cs)

/-- Stripping a stripped text changes nothing. -/
@[simp] theorem strip_strip (s : String) : strip (strip s) = strip s := by
  simp [strip, stripChars_stripChars]

/-- Stripping only takes characters away. -/
theorem stripChars_sublist (cs : List Char) : List.Sublist (stripChars cs) cs := by
  have hback : List.Sublist ((cs.dropWhile isBlank).reverse.dropWhile isBlank)
      (cs.dropWhile isBlank).reverse :=
    List.dropWhile_sublist _
  have hend : List.Sublist (stripChars cs) (cs.dropWhile isBlank) := by
    simpa [stripChars] using hback.reverse
  exact hend.trans (List.dropWhile_sublist _)

theorem mem_of_mem_strip {c : Char} {s : String} (h : c ∈ (strip s).toList) : c ∈ s.toList := by
  rw [strip, String.toList_ofList] at h
  exact (stripChars_sublist _).subset h

/-- Every character of a replacement's result comes from the replacement text, from the output
so far, or from the text searched. -/
theorem mem_replaceOnto {p : Char} {ps rep acc cs : List Char} {c : Char}
    (h : c ∈ replaceOnto p ps rep acc cs) : c ∈ rep ∨ c ∈ acc ∨ c ∈ cs := by
  fun_induction replaceOnto p ps rep acc cs with
  | case1 acc => exact .inr (.inl (List.mem_reverse.1 h))
  | case2 acc d cs hmatch ih =>
    simp only [List.unattach_reverse, List.unattach_attach] at ih
    rcases ih h with hrep | hacc | hrest
    · exact .inl hrep
    · rcases List.mem_append.1 hacc with hrep | hacc
      · exact .inl (List.mem_reverse.1 hrep)
      · exact .inr (.inl hacc)
    · exact .inr (.inr (List.mem_cons_of_mem _ (List.mem_of_mem_drop hrest)))
  | case3 acc d cs hmatch ih =>
    rcases ih h with hrep | hacc | hrest
    · exact .inl hrep
    · rcases List.mem_cons.1 hacc with rfl | hacc
      · exact .inr (.inr List.mem_cons_self)
      · exact .inr (.inl hacc)
    · exact .inr (.inr (List.mem_cons_of_mem _ hrest))

/-- Removing every occurrence of a non-empty pattern keeps only characters of the text. -/
theorem mem_of_mem_replace_empty {c : Char} {s pat : String} (hpat : pat ≠ "")
    (h : c ∈ (replace s pat "").toList) : c ∈ s.toList := by
  have hne : pat.isEmpty = false := by simpa using hpat
  rw [replace, hne] at h
  simp only [Bool.false_eq_true, ↓reduceIte] at h
  split at h
  · rw [String.toList_ofList] at h
    rcases mem_replaceOnto h with hrep | hacc | hs
    · simp at hrep
    · simp at hacc
    · exact hs
  · exact h

end Text

/-- A text as each section of a recommendation holds it: not empty, its own stripped form, and
without line feeds. -/
def CleanText (s : String) : Prop := s ≠ "" ∧ Text.strip s = s ∧ '\n' ∉ s.toList

/-- The stripped form of a text without line feeds, or a stock text for a text that is blank. -/
theorem cleanText_strip_or (s d : String) (hs : '\n' ∉ s.toList) (hd : CleanText d) :
    CleanText (if (Text.strip s).isEmpty then d else Text.strip s) := by
  split
  · exact hd
  · rename_i hblank
    exact ⟨by simpa using hblank, Text.strip_strip s, fun h => hs (Text.mem_of_mem_strip h)⟩

/-! ## Reading a reply -/

namespace Reply

/-- What every state of the reader satisfies while it reads lines without line feeds: neither
section holds a line feed. -/
structure Reading.Clean (r : Reading) : Prop where
  explanation : '\n' ∉ r.explanation.toList
  fix : '\n' ∉ r.fix.toList

theorem Reading.clean_empty : Reading.Clean {} := ⟨by simp, by simp⟩

/-- The text after a marker on a line without line feeds has none either. -/
theorem contentAfter_clean {line pre : String} (hpre : pre ≠ "") (hline : '\n' ∉ line.toList) :
    '\n' ∉ (contentAfter line pre).toList :=
  fun h => hline (Text.mem_of_mem_replace_empty hpre (Text.mem_of_mem_strip h))

/-- A section replaced by a marker line's text, or kept when that text is empty. -/
theorem clean_replaced {old c : String} (hold : '\n' ∉ old.toList) (hc : '\n' ∉ c.toList) :
    '\n' ∉ (if c.isEmpty then old else c).toList := by
  split
  · exact hold
  · exact hc

/-- A section continued by a line without line feeds. -/
theorem clean_continued {old line : String} (hold : '\n' ∉ old.toList)
    (hline : '\n' ∉ line.toList) : '\n' ∉ (old ++ " " ++ line).toList := by
  simp [hold, hline]

variable {r : Reading} {line : String}

/-- Reading one line without line feeds keeps both sections free of them: a marker line sets its
section to text from the line, and any other line adds itself to the current section. -/
theorem Reading.Clean.step (hr : r.Clean) (hline : '\n' ∉ line.toList) :
    (Reply.step r line).Clean := by
  -- each branch is a structure update; its fields are read off before they are checked
  by_cases hexp : line.startsWith "EXPLANATION:"
  · simp only [Reply.step, hexp, ↓reduceIte]
    refine ⟨?_, ?_⟩ <;> dsimp only
    exacts [clean_replaced hr.explanation (contentAfter_clean (by simp) hline), hr.fix]
  by_cases hfix : line.startsWith "SUGGESTED FIX:"
  · simp only [Reply.step, hexp, hfix, Bool.false_eq_true, ↓reduceIte]
    refine ⟨?_, ?_⟩ <;> dsimp only
    exacts [hr.explanation, clean_replaced hr.fix (contentAfter_clean (by simp) hline)]
  by_cases hconf : line.startsWith "CONFIDENCE:"
  · simp only [Reply.step, hexp, hfix, hconf, Bool.false_eq_true, ↓reduceIte]
    refine ⟨?_, ?_⟩ <;> dsimp only
    exacts [hr.explanation, hr.fix]
  by_cases hempty : line.isEmpty
  · simp only [Reply.step, hexp, hfix, hconf, hempty, Bool.false_eq_true, ↓reduceIte]
    exact hr
  simp only [Reply.step, hexp, hfix, hconf, hempty, Bool.false_eq_true, ↓reduceIte]
  -- a continuation line goes to the section being read, if any
  rcases r.current with _ | _ | _
  · exact hr
  · refine ⟨?_, ?_⟩ <;> dsimp only
    exacts [clean_continued hr.explanation hline, hr.fix]
  · refine ⟨?_, ?_⟩ <;> dsimp only
    exacts [hr.explanation, clean_continued hr.fix hline]

/-- Reading stripped lines without line feeds, one after another, keeps both sections free of
them. -/
theorem Reading.Clean.foldl (lines : List String) (hlines : ∀ l ∈ lines, '\n' ∉ l.toList)
    (hr : r.Clean) : (lines.foldl (fun r line => Reply.step r (Text.strip line)) r).Clean := by
  induction lines generalizing r with
  | nil => exact hr
  | cons l lines ih =>
    have hl : '\n' ∉ (Text.strip l).toList :=
      fun h => hlines l List.mem_cons_self (Text.mem_of_mem_strip h)
    rw [List.foldl_cons]
    exact ih (fun l' hl' => hlines l' (List.mem_cons_of_mem _ hl')) (hr.step hl)

/-- The stock explanation is a clean text. -/
theorem cleanText_unable : CleanText "Unable to analyze this error" :=
  ⟨by simp, by cbv, by simp⟩

/-- The stock fix is a clean text. -/
theorem cleanText_noFix : CleanText "No specific fix suggested" :=
  ⟨by simp, by cbv, by simp⟩

/-- Whatever the reply, the explanation and the fix read from it are clean texts. -/
theorem parse_clean (response : String) :
    CleanText (parse response).explanation ∧ CleanText (parse response).fix := by
  -- the reply is cut at line feeds, so no line it is read in holds one
  have hlines : ∀ l ∈ (Text.strip response).splitOn "\n", '\n' ∉ l.toList := by
    intro l hl
    rw [show "\n" = String.singleton '\n' from rfl, splitOn_singleton] at hl
    obtain ⟨cs, hcs, rfl⟩ := List.mem_map.1 hl
    simpa using not_mem_of_mem_splitOn hcs
  have hread := Reading.Clean.foldl _ hlines Reading.clean_empty
  simp only [parse]
  exact ⟨cleanText_strip_or _ _ hread.explanation cleanText_unable,
    cleanText_strip_or _ _ hread.fix cleanText_noFix⟩

end Reply

/-! ## Building the recommendation -/

/-- The recommendation made from a reply carries the report, the reply's two texts and its score
clamped to the unit interval; building it never fails. -/
theorem Recommendation.ofReply_eq (e : Event) (reply : Reply) :
    Recommendation.ofReply e reply =
      .ok { event := e, explanation := .str reply.explanation, fix := .str reply.fix,
            confidence := clampUnit reply.confidence, references := [] } := rfl

/-- What a recommendation made for a report says: it addresses the report, its explanation and
fix are clean texts, and its score is a number in the unit interval. -/
structure Advises (e : Event) (r : Recommendation) : Prop where
  event_eq : r.event = e
  explanation_clean : ∃ s, r.explanation = .str s ∧ CleanText s
  fix_clean : ∃ s, r.fix = .str s ∧ CleanText s
  confidence_inUnit : InUnit r.confidence
  confidence_number : r.confidence.isNaN = false

/-- For every report and every reply text, reading the reply and building the recommendation
succeeds, with a recommendation that advises on the report. -/
theorem ofReply_parse_advises (e : Event) (text : String) :
    ∃ r, Recommendation.ofReply e (Reply.parse text) = .ok r ∧ Advises e r := by
  obtain ⟨hexp, hfix⟩ := Reply.parse_clean text
  have hunit := clampUnit_inUnit (Reply.parse text).confidence
  exact ⟨_, Recommendation.ofReply_eq e _,
    ⟨rfl, ⟨_, rfl, hexp⟩, ⟨_, rfl, hfix⟩, hunit, hunit.isNaN_eq_false⟩⟩

/-! ## Advising on a report -/

/-- The prompt of a report fails exactly when its kind, message or line holds an integer too
long to write out, with the refusal to write it. -/
theorem Event.prompt_eq_error_iff (e : Event) (f : Failure) :
    e.prompt = .error f ↔
      (e.kind.writable = false ∨ e.message.writable = false ∨ e.line.writable = false) ∧
        f = .tooLongToWrite := by
  unfold Event.prompt
  cases hk : e.kind.writable <;> cases hm : e.message.writable <;>
    cases hl : e.line.writable <;> simp [Value.shown, hk, hm, hl, eq_comm]

/-- A prompt that cannot be written fails the advice before anything is sent. -/
theorem Provider.advise_of_prompt_error {p : Provider} {n : Network} {e : Event} {f : Failure}
    (hp : e.prompt = .error f) : p.advise n e = (n, .error f) := by
  unfold Provider.advise
  rw [hp]

/-- A prompt that can be written is put to the service, and its reply, if any, is read and built
into a recommendation. -/
theorem Provider.advise_of_prompt_ok {p : Provider} {n : Network} {e : Event} {prompt : String}
    (hp : e.prompt = .ok prompt) :
    p.advise n e = ((p.generate n (.str prompt)).1,
      (p.generate n (.str prompt)).2 >>= fun text =>
        Recommendation.ofReply e (Reply.parse text)) := by
  unfold Provider.advise
  rw [hp]

/-- Advising on any report with any service and network. A report whose kind, message or line
holds an integer too long to write out fails with the refusal to write it, and nothing is sent.
Otherwise the prompt is put to the service: the network is left as that request leaves it, a
failed request fails the advice with the request's failure, and for every text the service
replies the advice is a recommendation that advises on the report (`Advises`): it addresses the
report, its explanation and fix are non-empty texts equal to their stripped forms and without
line feeds, and its score is a number in the unit interval. So the advice fails only with the
prompt's refusal or with the request's failure. -/
theorem advise_outcome (p : Provider) (n : Network) (e : Event) :
    (∀ f, e.prompt = .error f →
      f = .tooLongToWrite ∧
      (e.kind.writable = false ∨ e.message.writable = false ∨ e.line.writable = false) ∧
      p.advise n e = (n, .error f)) ∧
    (∀ prompt, e.prompt = .ok prompt →
      (p.advise n e).1 = (p.generate n (.str prompt)).1 ∧
      (∀ f, (p.generate n (.str prompt)).2 = .error f → (p.advise n e).2 = .error f) ∧
      (∀ text, (p.generate n (.str prompt)).2 = .ok text →
        ∃ r, (p.advise n e).2 = .ok r ∧ Advises e r)) ∧
    (∀ f, (p.advise n e).2 = .error f →
      e.prompt = .error f ∨
        ∃ prompt, e.prompt = .ok prompt ∧ (p.generate n (.str prompt)).2 = .error f) := by
  refine ⟨fun f hf => ?_, fun prompt hp => ?_, fun f hf => ?_⟩
  · obtain ⟨hwrite, rfl⟩ := (Event.prompt_eq_error_iff e f).1 hf
    exact ⟨rfl, hwrite, Provider.advise_of_prompt_error hf⟩
  · rw [Provider.advise_of_prompt_ok hp]
    refine ⟨rfl, fun f hgen => by rw [hgen]; rfl, fun text hgen => ?_⟩
    rw [hgen]
    exact ofReply_parse_advises e text
  · -- a failure comes from the prompt, or from the request, since building cannot fail
    cases hp : e.prompt with
    | error f' =>
      rw [Provider.advise_of_prompt_error hp] at hf
      exact .inl (by cases hf; rfl)
    | ok prompt =>
      rw [Provider.advise_of_prompt_ok hp] at hf
      refine .inr ⟨prompt, rfl, ?_⟩
      cases hgen : (p.generate n (.str prompt)).2 with
      | error f' =>
        rw [hgen] at hf
        simpa using hf
      | ok text =>
        rw [hgen] at hf
        obtain ⟨r, hr, -⟩ := ofReply_parse_advises e text
        simp only [except_ok_bind, hr] at hf
        cases hf

/-- A missing colon on the first line, and a reply with only an explanation: the prompt is
written, the service replies, and the advice is a recommendation that advises on the report. -/
theorem advise_outcome_missing_colon :
    let p := Provider.withDefault .openAI (.str "k")
    let n : Network := { script := [.text (.str "EXPLANATION: A colon is missing.")] }
    let e : Event := { path := "t.py", line := .int 1, kind := .str "SyntaxError",
                       message := .str "expected ':'" }
    ∃ prompt text r, e.prompt = .ok prompt ∧ (p.generate n (.str prompt)).2 = .ok text ∧
      (p.advise n e).2 = .ok r ∧ Advises e r := by
  intro p n e
  have hline : Value.shown (.int 1) = .ok "1" :=
    Value.shown_int 1 (Nat.one_lt_pow (by decide) (by decide))
  obtain ⟨prompt, hprompt⟩ : ∃ prompt, e.prompt = .ok prompt :=
    ⟨_, by
      simp only [e, Event.prompt, hline, Value.shown_str, except_ok_bind, except_pure]
      rfl⟩
  -- the script answers every request with its text, and the address the request goes to does
  -- not depend on the prompt, so the reply can be computed with the prompt left abstract
  have hurl : (p.request (.str prompt)).url = (p.request (.str "")).url := rfl
  obtain ⟨text, htext⟩ : ∃ text, (p.generate n (.str prompt)).2 = .ok text :=
    ⟨_, by simp only [p, n, Provider.generate, Network.post, hurl]; rfl⟩
  obtain ⟨r, hr, hadvises⟩ := ((advise_outcome p n e).2.1 prompt hprompt).2.2 text htext
  exact ⟨prompt, text, r, hprompt, htext, hr, hadvises⟩

/-- A report whose line number has 4301 digits: its prompt cannot be written, so the advice fails
with the refusal to write the number, and no request is sent. -/
theorem advise_fails_on_long_line_number :
    (Provider.withDefault .openAI (.str "k")).advise { script := [.text (.str "EXPLANATION: x")] }
      { path := "t.py", line := .int (10 ^ 4300), kind := .str "SyntaxError",
        message := .str "m" } =
    ({ script := [.text (.str "EXPLANATION: x")] }, .error .tooLongToWrite) := by
  apply Provider.advise_of_prompt_error
  have hlong : ¬ ((10 : Int) ^ 4300).natAbs < 10 ^ Value.maxTextDigits := by
    have hpow : ((10 : Int) ^ 4300).natAbs = 10 ^ Value.maxTextDigits := by
      rw [Int.natAbs_pow]
      congr 1
    rw [hpow]
    exact Nat.lt_irrefl _
  simp only [Event.prompt, Value.shown_str, except_ok_bind, Value.shown_int_eq_ite, if_neg hlong,
    except_error_bind]

end SyntaxAdvisor
