import SyntaxAdvisor.Proofs.CheckDisplay

/-!
# The errors a check shows, file by file

The check groups the errors it found by file: each file once, in the order of its first error,
with its errors in the order they were found. After the line that counts them it sets up the
advice service and shows each file as `fileText` says, and then the closing lines.

Setting up the advice service reads the settings and writes to the console, and nothing else:
the network is untouched until the first error is shown. With a service, the advice on the
errors shown is asked for one error after another, each request posted to the network the
previous one left (`adviseAll`), and a failed request only gives its own error the line naming
the failure (`AdviceShown`). Which of the two happens is read off what setting up returned
(`run_showErrors_advice`), and the check command, once its analysis has found errors, does just
this after writing what the analysis printed (`run_checkWork_shows`).
-/

namespace SyntaxAdvisor

namespace Commands

/-! ## Files in the order of their first error -/

/-- The files of the errors, each once, in the order of their first error. -/
def filesOf (events : List Event) : List String := (events.map (·.path)).eraseDups

/-- The errors in the file `q`, in the order they were found. -/
def errorsIn (events : List Event) (q : String) : List Event := events.filter (·.path == q)

/-- The files of the errors, each with its errors. -/
def fileGroups (events : List Event) : List (String × List Event) :=
  (filesOf events).map fun q => (q, errorsIn events q)

theorem mem_filesOf {events : List Event} {q : String} :
    q ∈ filesOf events ↔ ∃ e ∈ events, e.path = q := by
  simp [filesOf]

theorem nodup_eraseDups {α : Type} [BEq α] [LawfulBEq α] : ∀ l : List α, l.eraseDups.Nodup
  | [] => List.nodup_nil
  | a :: as => by
    rw [List.eraseDups_cons]
    have : (as.filter fun b => !b == a).length < as.length + 1 :=
      Nat.lt_succ_of_le (List.length_filter_le _ _)
    refine List.nodup_cons.2 ⟨?_, nodup_eraseDups _⟩
    simp
termination_by l => l.length

/-- No file is shown twice. -/
theorem nodup_filesOf (events : List Event) : (filesOf events).Nodup :=
  nodup_eraseDups _

theorem errorsIn_append_singleton (events : List Event) (e : Event) (q : String) :
    errorsIn (events ++ [e]) q = errorsIn events q ++ if e.path = q then [e] else [] := by
  by_cases h : e.path = q <;> simp [errorsIn, List.filter_append, h]

theorem errorsIn_eq_nil {events : List Event} {q : String} (h : q ∉ filesOf events) :
    errorsIn events q = [] := by
  simp only [errorsIn, List.filter_eq_nil_iff, beq_iff_eq]
  exact fun e he hq => h (mem_filesOf.2 ⟨e, he, hq⟩)

theorem filesOf_append_singleton (events : List Event) (e : Event) :
    filesOf (events ++ [e]) =
      if e.path ∈ filesOf events then filesOf events else filesOf events ++ [e.path] := by
  by_cases h : e.path ∈ filesOf events
  · rw [if_pos h]
    simp [filesOf, List.eraseDups_append, List.removeAll, mem_filesOf.1 h]
  · rw [if_neg h]
    have hno : ¬∃ a, a ∈ events ∧ a.path = e.path := fun ⟨a, ha, hp⟩ => h (mem_filesOf.2 ⟨a, ha, hp⟩)
    simp [filesOf, List.eraseDups_append, List.removeAll, hno, List.eraseDups_cons]

/-- Adding an error to the groups of the errors before it groups them all. -/
theorem addToGroup_fileGroups (pre : List Event) (e : Event) :
    addToGroup (fileGroups pre) e = fileGroups (pre ++ [e]) := by
  have hany : (fileGroups pre).any (·.1 == e.path) = decide (e.path ∈ filesOf pre) := by
    rw [Bool.eq_iff_iff]
    simp [fileGroups]
  rw [addToGroup, hany, fileGroups, fileGroups, filesOf_append_singleton]
  by_cases h : e.path ∈ filesOf pre
  · simp only [h, decide_true, if_true, List.map_map]
    refine List.map_congr_left fun q _ => ?_
    by_cases hq : q = e.path
    · simp [hq, errorsIn_append_singleton]
    · simp [hq, errorsIn_append_singleton, Ne.symm hq]
  · simp only [h, decide_false, if_false, List.map_append, List.map_map, List.map_cons, List.map_nil,
      Bool.false_eq_true]
    congr 1
    · refine List.map_congr_left fun q hq => ?_
      have hne : e.path ≠ q := fun heq => h (heq ▸ hq)
      simp [errorsIn_append_singleton, hne]
    · simp [errorsIn_append_singleton, errorsIn_eq_nil h]

/-- The check's grouping is `fileGroups`. -/
theorem groupByFile_eq_fileGroups (events : List Event) : groupByFile events = fileGroups events := by
  -- the fold keeps the groups of the reports read so far
  have hfold : ∀ rest pre, rest.foldl addToGroup (fileGroups pre) = fileGroups (pre ++ rest) := by
    intro rest
    induction rest with
    | nil => simp
    | cons e rest ih =>
      intro pre
      rw [List.foldl_cons, addToGroup_fileGroups, ih, List.append_assoc, List.singleton_append]
  exact hfold events []


/-! ## The texts written -/

/-- The errors shown of each group, one group after another. -/
def groupsShown (bound : Int) (groups : List (String × List Event)) : List Event :=
  groups.flatMap fun g => shownIn bound g.2

/-- The groups as the check writes them, the advice on their errors shown taken in order from
`advice`. -/
def groupsText (bound : Int) : List (String × List Event) → List String → String
  | [], _ => ""
  | (q, es) :: groups, advice =>
    fileText bound q es (advice.take (shownIn bound es).length) ++
      groupsText bound groups (advice.drop (shownIn bound es).length)

/-- The errors a check shows, one file after another. -/
def shownErrors (bound : Int) (events : List Event) : List Event :=
  groupsShown bound (fileGroups events)

/-- The files as a check writes them, given the advice on the errors shown, in order. -/
def filesText (bound : Int) (events : List Event) (advice : List String) : String :=
  groupsText bound (fileGroups events) advice

/-- The line that counts the errors and their files. -/
def foundText (events : List Event) : String :=
  "\nFound " ++ toString events.length ++ " syntax errors in " ++ toString (filesOf events).length ++
    " files" ++ "\n"

/-- The closing lines: a rule of 50 `=` and the end of the analysis. -/
def closingText : String :=
  "\n" ++ String.ofList (List.replicate 50 '=') ++ "\n" ++ "Analysis complete" ++ "\n"

theorem mem_groupsShown {bound : Int} {groups : List (String × List Event)} {e : Event}
    (h : e ∈ groupsShown bound groups) : ∃ g ∈ groups, e ∈ g.2 := by
  simp only [groupsShown, List.mem_flatMap] at h
  obtain ⟨g, hg, he⟩ := h
  exact ⟨g, hg, List.mem_of_mem_take he⟩

theorem groupsText_replicate (bound : Int) :
    ∀ groups : List (String × List Event),
      groupsText bound groups (List.replicate (groupsShown bound groups).length "") =
        String.join (groups.map fun g =>
          fileText bound g.1 g.2 (List.replicate (shownIn bound g.2).length ""))
  | [] => rfl
  | (q, es) :: groups => by
    simp [groupsText, groupsShown, List.take_replicate, List.drop_replicate,
      ← groupsText_replicate bound groups]

/-! ## Setting up the advice service -/

section Setup

variable {α β : Type}

/-- Work that leaves the network and the depth as they are and only appends to the console; it
may change the host. -/
def KeepsNetwork (x : Work α) : Prop :=
  ∀ M, ∃ host t, (x.run.run M).2 = { M with host := host, console := M.console.write t }

theorem WritesOnly.keepsNetwork {x : Work α} (hx : WritesOnly x) : KeepsNetwork x := by
  intro M
  obtain ⟨t, ht⟩ := hx M
  exact ⟨M.host, t, ht⟩

theorem keepsNetwork_bind {x : Work α} {f : α → Work β} (hx : KeepsNetwork x)
    (hf : ∀ a, KeepsNetwork (f a)) : KeepsNetwork (x >>= f) := by
  intro M
  obtain ⟨h, t, ht⟩ := hx M
  rw [run_bind]
  rcases hrun : x.run.run M with ⟨_ | a, M'⟩
  · exact ⟨h, t, by rw [hrun] at ht; exact ht⟩
  · rw [hrun] at ht
    obtain ⟨h', u, hu⟩ := hf a M'
    simp only at ht
    subst ht
    exact ⟨h', t ++ u, by simp [hu]⟩

theorem keepsNetwork_tryCatch {x : Work α} {h : Failure → Work α} (hx : KeepsNetwork x)
    (hh : ∀ f, KeepsNetwork (h f)) : KeepsNetwork (tryCatch x h) := by
  intro M
  obtain ⟨host, t, ht⟩ := hx M
  rw [run_tryCatch]
  rcases hrun : x.run.run M with ⟨f | a, M'⟩
  · rw [hrun] at ht
    obtain ⟨host', u, hu⟩ := hh f M'
    simp only at ht
    subst ht
    exact ⟨host', t ++ u, by simp [hu]⟩
  · exact ⟨host, t, by rw [hrun] at ht; exact ht⟩

theorem keepsNetwork_loadSettings : KeepsNetwork loadSettings := by
  intro M
  unfold loadSettings
  rw [run_bind_of_ok (run_get M)]
  cases h : Session.load M.host none M.depth with
  | error f => exact ⟨M.host, "", by simp [lift]; rfl⟩
  | ok s => exact ⟨s.host, "", by simp [lift]; rfl⟩

theorem keepsNetwork_adviceService (asked : Option String) : KeepsNetwork (adviceService asked) := by
  unfold adviceService
  refine keepsNetwork_bind keepsNetwork_loadSettings fun s => ?_
  refine keepsNetwork_bind (writesOnly_lift _).keepsNetwork fun names => ?_
  dsimp only
  split
  · exact keepsNetwork_bind (writesOnly_say _).keepsNetwork fun _ => (writesOnly_pure _).keepsNetwork
  · -- past the names, the service is only read from the settings and announced: each step
    -- is a lift, a line written or a value given
    apply WritesOnly.keepsNetwork
    split
    all_goals try split
    all_goals refine writesOnly_bind ?_ fun named => ?_
    all_goals first
      | exact writesOnly_lift _
      | exact writesOnly_pure _
      | exact writesOnly_bind (writesOnly_lift _) fun _ => writesOnly_bind (writesOnly_lift _) fun _ =>
          writesOnly_bind (writesOnly_say _) fun _ => writesOnly_pure _

end Setup

theorem run_chooseAdvisor_off {r : CheckRequest} (h : r.noAdvice = true) (M : Machine) :
    (chooseAdvisor r).run.run M = (.ok none, M) := by
  simp only [chooseAdvisor, h, if_true]
  rfl

theorem keepsNetwork_chooseAdvisor (r : CheckRequest) : KeepsNetwork (chooseAdvisor r) := by
  unfold chooseAdvisor
  split
  · exact (writesOnly_pure _).keepsNetwork
  · exact keepsNetwork_tryCatch (keepsNetwork_adviceService _) fun _ =>
      (writesOnly_bind (writesOnly_say _) fun _ => writesOnly_pure _).keepsNetwork

/-! ## Showing the files -/

/-- The loop over the files, as the check runs it. -/
abbrev groupsLoop (advisor : Option Provider) (bound : Int) (groups : List (String × List Event)) :
    Work PUnit :=
  forIn groups PUnit.unit fun x _ =>
    showFile advisor bound x.1 x.2 >>= fun _ => pure (ForInStep.yield PUnit.unit)

/-- Groups whose files have names that can be written and whose errors can be shown. -/
def Shows (groups : List (String × List Event)) : Prop :=
  ∀ g ∈ groups, Text.Plain (Path.name g.1) ∧ ∀ e ∈ g.2, e.Showable

/-- Without advice, the files are written one after another, with no advice on any error. -/
theorem run_groups_none {bound : Int} {groups : List (String × List Event)} (hshow : Shows groups)
    (M : Machine) :
    (groupsLoop none bound groups).run.run M = (.ok PUnit.unit, { M with
      console := M.console.write (groupsText bound groups
        (List.replicate (groupsShown bound groups).length "")) }) := by
  rw [groupsLoop, run_forIn_writes _ _ groups fun g hg M' =>
    run_showFile_none (hshow g hg).1 (hshow g hg).2 M', groupsText_replicate]

/-- With advice, when the loop ends normally the files are written one after another, with the
advice on their errors shown, asked for one error after another. -/
theorem run_groups_some {bound : Int} {groups : List (String × List Event)} (hshow : Shows groups)
    (p : Provider) {M M' : Machine}
    (hrun : (groupsLoop (some p) bound groups).run.run M = (.ok PUnit.unit, M')) :
    ∃ advice, AdviceShown p M.network (groupsShown bound groups) advice ∧
      M' = { M with
        network := adviseAll p M.network (groupsShown bound groups)
        console := M.console.write (groupsText bound groups advice) } := by
  -- what is left of the loop, from any machine on, shows its files with their advice
  let P : List (String × List Event) → Machine → Prop := fun rest N =>
    Shows rest → ∃ advice, AdviceShown p N.network (groupsShown bound rest) advice ∧
      M' = { N with
        network := adviseAll p N.network (groupsShown bound rest)
        console := N.console.write (groupsText bound rest advice) }
  have hstep : ∀ g rest N N₁, (showFile (some p) bound g.1 g.2).run.run N = (.ok (), N₁) →
      P rest N₁ → P (g :: rest) N := by
    intro g rest N N₁ hg hrest hshown
    obtain ⟨a, ha, rfl⟩ :=
      run_showFile_some (hshown g List.mem_cons_self).1 (hshown g List.mem_cons_self).2 p hg
    obtain ⟨advice, hadvice, hM'⟩ := hrest fun g' hg' => hshown g' (List.mem_cons_of_mem g hg')
    have hlen : a.length = (shownIn bound g.2).length := ha.length_eq
    refine ⟨a ++ advice, ha.append hadvice, ?_⟩
    rw [hM']
    simp only [groupsShown, List.flatMap_cons, adviseAll_append, groupsText, Console.write_write,
      ← hlen, List.take_left, List.drop_left]
  exact run_forIn_of_ok _ P hstep groups M M' hrun
    (fun _ => ⟨[], trivial, by simp [groupsShown, groupsText]⟩) hshow

theorem run_closing (M : Machine) :
    (say ("\n" ++ String.ofList (List.replicate 50 '=')) >>= fun _ => say "Analysis complete").run.run M =
      (.ok (), { M with console := M.console.write closingText }) := by
  have hrule : Text.Plain ("\n" ++ String.ofList (List.replicate 50 '=')) :=
    Text.plain_append.2 ⟨by simp [Text.Plain, Text.surrogateOf, Text.standInOffset],
      Text.plain_replicate rfl 50⟩
  rw [run_bind_of_ok (run_say hrule M),
    run_say (by simp [Text.surrogateOf, Text.standInOffset])]
  simp only [Console.write_write, closingText, String.append_assoc]

theorem plain_foundLine (events : List Event) :
    Text.Plain ("\nFound " ++ toString events.length ++ " syntax errors in " ++
      toString (fileGroups events).length ++ " files") := by
  simp only [Text.plain_append]
  exact ⟨⟨⟨⟨by simp [Text.Plain, Text.surrogateOf, Text.standInOffset],
    Text.plain_toString_nat _⟩, by simp [Text.Plain, Text.surrogateOf, Text.standInOffset]⟩,
    Text.plain_toString_nat _⟩, by simp [Text.Plain, Text.surrogateOf, Text.standInOffset]⟩

theorem shows_fileGroups {events : List Event} (hshow : ∀ e ∈ events, e.Showable) :
    Shows (fileGroups events) := by
  intro g hg
  simp only [fileGroups, List.mem_map] at hg
  obtain ⟨q, hq, rfl⟩ := hg
  obtain ⟨e, he, rfl⟩ := mem_filesOf.1 hq
  exact ⟨(hshow e he).name, fun e' he' => hshow e' (List.mem_filter.1 he').1⟩

/-- Showing the errors writes the found line, then sets up the advisor, shows the files with it
and writes the closing lines. -/
theorem run_showErrors_eq (r : CheckRequest) (events : List Event) (M : Machine) :
    (showErrors r events).run.run M = (chooseAdvisor r >>= fun advisor =>
      groupsLoop advisor r.maxErrors (fileGroups events) >>= fun _ =>
        say ("\n" ++ String.ofList (List.replicate 50 '=')) >>= fun _ =>
          say "Analysis complete").run.run
        { M with console := M.console.write (foundText events) } := by
  unfold showErrors
  rw [groupByFile_eq_fileGroups]
  dsimp only
  rw [run_bind_of_ok (run_say (plain_foundLine events) M)]
  simp only [foundText, List.length_map, fileGroups, String.append_assoc]

/-- Without advice, showing errors that can each be shown ends normally and writes the found
line, each file as `fileText` says with no advice, and the closing lines. -/
theorem run_showErrors_noAdvice {r : CheckRequest} {events : List Event}
    (hshow : ∀ e ∈ events, e.Showable) (hoff : r.noAdvice = true) (M : Machine) :
    (showErrors r events).run.run M = (.ok (), { M with
      console := M.console.write (foundText events ++
        filesText r.maxErrors events (List.replicate (shownErrors r.maxErrors events).length "") ++
        closingText) }) := by
  rw [run_showErrors_eq, run_bind_of_ok (run_chooseAdvisor_off hoff _), run_bind,
    run_groups_none (shows_fileGroups hshow)]
  simp only [run_closing, Console.write_write, filesText, shownErrors, String.append_assoc]

/-- A run that showed errors that can each be shown, read from the advisor it set up: setting it
up wrote only its `setup` lines, and the files were then shown with the advice it gave. With no
advisor the network is untouched and no error gets advice; with a service `p` the errors shown got
their advice one after another, one request for each in the order shown, carrying its prompt, and
where a request failed, the line naming the failure in place of that error's advice. -/
theorem run_showErrors_advice {r : CheckRequest} {events : List Event}
    (hshow : ∀ e ∈ events, e.Showable) {M M' : Machine}
    (hrun : (showErrors r events).run.run M = (.ok (), M')) :
    ∃ advisor N setup advice,
      (chooseAdvisor r).run.run { M with console := M.console.write (foundText events) } =
        (.ok advisor, N) ∧
      N.console = M.console.write (foundText events ++ setup) ∧
      M'.console = M.console.write (foundText events ++ setup ++
        filesText r.maxErrors events advice ++ closingText) ∧
      (advisor = none →
        M'.network = M.network ∧ advice = List.replicate (shownErrors r.maxErrors events).length "") ∧
      ∀ p, advisor = some p → AdviceShown p M.network (shownErrors r.maxErrors events) advice ∧
        M'.network = adviseAll p M.network (shownErrors r.maxErrors events) ∧
        ∃ reqs, M'.network.sent = M.network.sent ++ reqs ∧
          List.Forall₂ (fun e req => ∃ t, e.prompt = .ok t ∧ req = p.request (.str t))
            (shownErrors r.maxErrors events) reqs := by
  have hgroups := shows_fileGroups hshow
  -- the advisor only writes its setup lines; the files are then shown with it
  rw [run_showErrors_eq] at hrun
  obtain ⟨advisor, N, hchoose, hrun⟩ := run_bind_eq_ok hrun
  obtain ⟨u, M₂, hloop, hrun⟩ := run_bind_eq_ok hrun
  simp only [run_closing] at hrun
  obtain ⟨-, rfl⟩ := Prod.mk.inj hrun
  obtain ⟨host, setup, hN⟩ :=
    keepsNetwork_chooseAdvisor r { M with console := M.console.write (foundText events) }
  rw [hchoose] at hN
  dsimp only at hN
  subst hN
  have hsetup : (M.console.write (foundText events)).write setup =
      M.console.write (foundText events ++ setup) := Console.write_write _ _ _
  cases advisor with
  | none =>
    rw [run_groups_none hgroups] at hloop
    obtain ⟨-, rfl⟩ := Prod.mk.inj hloop
    refine ⟨none, _, setup, _, hchoose, hsetup, ?_, fun _ => ⟨rfl, rfl⟩,
      fun p hp => (Option.some_ne_none p hp.symm).elim⟩
    simp only [Console.write_write, filesText, shownErrors, String.append_assoc]
  | some p =>
    obtain ⟨advice, hadvice, rfl⟩ := run_groups_some hgroups p hloop
    obtain ⟨reqs, hsent, hreqs⟩ := adviseAll_sent p M.network (shownErrors r.maxErrors events)
      fun e he => by
        obtain ⟨g, hg, heg⟩ := mem_groupsShown he
        exact ((hgroups g hg).2 e heg).prompt
    refine ⟨some p, _, setup, advice, hchoose, hsetup, ?_,
      fun hp => (Option.some_ne_none p hp).elim, fun q hq => ?_⟩
    · simp only [Console.write_write, filesText, String.append_assoc]
    · cases hq
      exact ⟨hadvice, rfl, reqs, hsent, hreqs⟩

/-- What the check shows of the errors it found, when each can be shown: the line that counts
them and their files, whatever setting up the advisor writes, each file as `fileText` says, and
the closing lines. Without advice the run is exactly that, and it ends normally. When the run
ends normally, the advisor it set up says which advice was shown: none leaves the network
untouched and gives no error advice, and a service set up is asked once for each error shown. -/
theorem run_showErrors {r : CheckRequest} {events : List Event}
    (hshow : ∀ e ∈ events, e.Showable) (M : Machine) :
    (r.noAdvice = true →
      (showErrors r events).run.run M = (.ok (), { M with
        console := M.console.write (foundText events ++
          filesText r.maxErrors events (List.replicate (shownErrors r.maxErrors events).length "") ++
          closingText) })) ∧
    ∀ M', (showErrors r events).run.run M = (.ok (), M') →
      ∃ advisor N setup advice,
        (chooseAdvisor r).run.run { M with console := M.console.write (foundText events) } =
          (.ok advisor, N) ∧
        N.console = M.console.write (foundText events ++ setup) ∧
        M'.console = M.console.write (foundText events ++ setup ++
          filesText r.maxErrors events advice ++ closingText) ∧
        (advisor = none →
          M'.network = M.network ∧ advice = List.replicate (shownErrors r.maxErrors events).length "") ∧
        ∀ p, advisor = some p → AdviceShown p M.network (shownErrors r.maxErrors events) advice ∧
          M'.network = adviseAll p M.network (shownErrors r.maxErrors events) ∧
          ∃ reqs, M'.network.sent = M.network.sent ++ reqs ∧
            List.Forall₂ (fun e req => ∃ t, e.prompt = .ok t ∧ req = p.request (.str t))
              (shownErrors r.maxErrors events) reqs :=
  ⟨fun hoff => run_showErrors_noAdvice hshow hoff M, fun _ hrun => run_showErrors_advice hshow hrun⟩

theorem run_showErrors_three_errors :
    (∀ e ∈ List.replicate 3
      ({ path := "a.py", line := .int 1, kind := .str "SyntaxError", message := .str "x" } : Event),
      e.Showable) ∧
    ((showErrors { path := ".", noAdvice := true, service := none, maxErrors := 2 }
      (List.replicate 3
        { path := "a.py", line := .int 1, kind := .str "SyntaxError", message := .str "x" })).run.run
      { host := { disk := Disk.empty, env := {}, cwd := "/" }, network := { script := [] },
        console := {} }).2.console.out =
      foundText (List.replicate 3
          { path := "a.py", line := .int 1, kind := .str "SyntaxError", message := .str "x" }) ++
        filesText 2 (List.replicate 3
          { path := "a.py", line := .int 1, kind := .str "SyntaxError", message := .str "x" })
          ["", ""] ++
        closingText := by
  have hname : Path.name "a.py" = "a.py" := by
    rw [Path.name, Path.parts, show "/" = String.singleton '/' from rfl, splitOn_singleton]
    decide +kernel
  have hshow : ∀ e ∈ List.replicate 3
      ({ path := "a.py", line := .int 1, kind := .str "SyntaxError", message := .str "x" } : Event),
      e.Showable := by
    intro e he
    rw [List.eq_of_mem_replicate he]
    exact {
      snippet := fun h => absurd h (by decide)
      prompt := ⟨_, by
        simp only [Event.prompt, Value.shown_str, Value.shown_int 1
          (Nat.one_lt_pow (by decide) (by decide) : 1 < 10 ^ Value.maxTextDigits)]
        rfl⟩
      name := by rw [hname]; simp [Text.Plain, Text.surrogateOf, Text.standInOffset]
      kind := by simp [Text.Plain, Text.surrogateOf, Text.standInOffset, Value.text]
      line := Text.plain_toString_int 1
      message := by simp [Text.Plain, Text.surrogateOf, Text.standInOffset, Value.text]
      code := by simp [Text.Plain, Event.codeText] }
  have hshown : (shownErrors 2 (List.replicate 3
      { path := "a.py", line := .int 1, kind := .str "SyntaxError", message := .str "x" })).length =
      2 := by
    decide +kernel
  refine ⟨hshow, ?_⟩
  rw [(run_showErrors hshow _).1 rfl, hshown]
  simp only [Console.write, String.empty_append]
  rfl

/-- Once the analysis has found errors, the check goes on to show them. -/
theorem run_checkWork_found {r : CheckRequest} {M : Machine} {project : Project}
    {events : List Event} {printed : String}
    (hopen : Project.open M.host.disk M.host.cwd (.str r.path) .none = .ok project)
    (hanalyze : project.analyze M.host.disk M.parseFrames = .ok (events, printed))
    (hfound : events ≠ []) :
    (checkWork r).run.run M =
      (showErrors r events).run.run { M with console := M.console.write printed } := by
  unfold checkWork
  rw [run_bind_of_ok (run_get M), hopen, run_bind_of_ok (run_lift_ok _ _), hanalyze,
    run_bind_of_ok (run_lift_ok _ _)]
  dsimp only
  rw [run_bind_of_ok (run_modify _ _)]
  simp only [List.isEmpty_iff, hfound, if_false]

/-- The check command on a project whose analysis finds errors that can each be shown: it writes
what the analysis printed and then shows the errors. Without advice the run is exactly that; with
it, the advisor it set up says which advice was shown, as in `run_showErrors_advice`. -/
theorem run_checkWork_shows {r : CheckRequest} {M : Machine} {project : Project}
    {events : List Event} {printed : String}
    (hopen : Project.open M.host.disk M.host.cwd (.str r.path) .none = .ok project)
    (hanalyze : project.analyze M.host.disk M.parseFrames = .ok (events, printed))
    (hfound : events ≠ []) (hshow : ∀ e ∈ events, e.Showable) :
    (r.noAdvice = true →
      (checkWork r).run.run M = (.ok (), { M with
        console := M.console.write (printed ++ foundText events ++
          filesText r.maxErrors events (List.replicate (shownErrors r.maxErrors events).length "") ++
          closingText) })) ∧
    ∀ M', (checkWork r).run.run M = (.ok (), M') →
      ∃ advisor N setup advice,
        (chooseAdvisor r).run.run { M with console := M.console.write (printed ++ foundText events) } =
          (.ok advisor, N) ∧
        N.console = M.console.write (printed ++ foundText events ++ setup) ∧
        M'.console = M.console.write (printed ++ foundText events ++ setup ++
          filesText r.maxErrors events advice ++ closingText) ∧
        (advisor = none →
          M'.network = M.network ∧ advice = List.replicate (shownErrors r.maxErrors events).length "") ∧
        ∀ p, advisor = some p → AdviceShown p M.network (shownErrors r.maxErrors events) advice ∧
          M'.network = adviseAll p M.network (shownErrors r.maxErrors events) ∧
          ∃ reqs, M'.network.sent = M.network.sent ++ reqs ∧
            List.Forall₂ (fun e req => ∃ t, e.prompt = .ok t ∧ req = p.request (.str t))
              (shownErrors r.maxErrors events) reqs := by
  rw [run_checkWork_found hopen hanalyze hfound]
  refine ⟨fun hoff => ?_, fun M' hrun => ?_⟩
  · rw [run_showErrors_noAdvice hshow hoff]
    simp only [Console.write_write, String.append_assoc]
  · -- the printed text is one more line written before the found line
    obtain ⟨advisor, N, setup, advice, hchoose, hsetup, hout, hnone, hsome⟩ :=
      run_showErrors_advice hshow hrun
    simp only [Console.write_write] at hchoose hsetup hout
    exact ⟨advisor, N, setup, advice, hchoose, by simp only [hsetup, String.append_assoc],
      by simp only [hout, String.append_assoc], hnone, hsome⟩

end Commands

end SyntaxAdvisor
