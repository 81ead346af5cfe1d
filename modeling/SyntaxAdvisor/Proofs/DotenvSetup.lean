import Mathlib
import SyntaxAdvisor.Commands.Setup
import SyntaxAdvisor.Proofs.CheckDisplay
import SyntaxAdvisor.Proofs.ConfiguredFromEnvironment
import SyntaxAdvisor.Proofs.ReportRoundTrip
import SyntaxAdvisor.Proofs.LocatedPaths

/-!
# Setting up keys in the `.env` file

The setup of the `.env` file does not edit the file: it writes it anew. It first reads the keys
already there with a reader of its own (`SetupReads`): a line counts when, as it stands, it holds
`=` and does not start with `#`, and a value starting with `your-` is a placeholder that counts
for nothing. It then asks for the three keys in turn, and writes a header and one line for each
key: the answer typed without surrounding blanks, or, for an empty answer, the value it read for
the key, or the placeholder `your-key-here` when that leaves nothing (`storedKey`).

So after a setup that completes, the `.env` file holds exactly those four lines
(`setup_dotenv_rewrites`). The other lines of the file before are gone, and the environment's
variables play no part. Read as the settings read a `.env` file (`Host.Assigns`), the header
sets nothing and each other line sets exactly its key to its value, placeholders included. Apart
from the `.env` file, only the `.gitignore` beside it may change on the disk.
-/

namespace SyntaxAdvisor

/-! ## Writing an entry of a disk -/

namespace Disk

/-- Changing the entries of some paths, keeping every path, changes what a lookup finds in the
same way. -/
theorem find?_map_keys {l : List (String × Entry)} {g : String × Entry → String × Entry}
    (hfst : ∀ x, (g x).1 = x.1) (q : String) :
    ((l.map g).find? (·.1 == q)).map (·.2) = (l.find? (·.1 == q)).map fun x => (g x).2 := by
  rw [List.find?_map, Option.map_map]
  have hpred : ((·.1 == q) ∘ g) = (·.1 == q : String × Entry → Bool) := by
    funext x
    simp [hfst]
  rw [hpred]
  rfl

/-- After a path's entry is set, the path holds the new entry and every other path what it held. -/
theorem entry?_put (d : Disk) (p q : String) (e : Entry) :
    Disk.entry? (d.put p e) q = if q = p then some e else d.entry? q := by
  unfold put entry?
  split
  case isTrue hp =>
    rw [find?_map_keys (by rintro ⟨r, old⟩; dsimp only; split <;> rfl)]
    cases hf : d.entries.find? (·.1 == q) with
    | none =>
      -- the path set was there, so a lookup of it finds it
      by_cases hq : q = p
      · subst hq
        simp [hf] at hp
      · simp [hq]
    | some x =>
      have hx : x.1 = q := by simpa using List.find?_some hf
      obtain ⟨r, old⟩ := x
      dsimp only at hx
      subst hx
      by_cases hq : r = p <;> simp [hq]
  case isFalse hp =>
    rw [List.find?_append]
    by_cases hq : q = p
    · subst hq
      have hnone : d.entries.find? (·.1 == q) = none := by
        cases hf : d.entries.find? (·.1 == q) with
        | none => rfl
        | some x => simp [hf] at hp
      simp [hnone]
    · simp [hq, Ne.symm hq]

/-- A file read is what the disk holds at its path. -/
theorem readFile_eq_ok {d : Disk} {p shown : String} {data : List UInt8}
    (h : d.readFile p shown = .ok data) : d.entry? p = some (.file data) := by
  unfold readFile at h
  split at h
  · cases h
  · split at h
    · cases h
    · split at h
      · cases h
        assumption
      · cases h
      · cases h

/-- Writing a file that can be written sets its path's entry. -/
theorem writeFile_eq_ok {d d' : Disk} {p shown : String} {data : List UInt8}
    (h : d.writeFile p shown data = .ok d') : d' = d.put p (.file data) := by
  unfold writeFile at h
  split at h
  · cases h
  · split at h
    · cases h
    · split at h
      · cases h
      · split at h
        · cases h
          rfl
        · cases h

end Disk

/-! ## Stripping -/

namespace Text

theorem mem_dropWhile_of_not {p : Char → Bool} {c : Char} (hc : p c = false) :
    ∀ {cs : List Char}, c ∈ cs → c ∈ cs.dropWhile p
  | a :: cs, h => by
    rw [List.dropWhile_cons]
    split
    case isTrue ha =>
      have hne : c ≠ a := fun hca => by rw [hca, ha] at hc; cases hc
      exact mem_dropWhile_of_not hc (List.mem_of_ne_of_mem hne h)
    case isFalse => exact h

/-- Stripping keeps every character that is not blank. -/
theorem mem_stripChars {c : Char} {cs : List Char} (hc : isBlank c = false) (h : c ∈ cs) :
    c ∈ stripChars cs := by
  unfold stripChars
  rw [List.mem_reverse]
  exact mem_dropWhile_of_not hc (List.mem_reverse.2 (mem_dropWhile_of_not hc h))

/-- A stripped text does not end with a blank. -/
theorem getLast?_stripChars (cs : List Char) : ∀ c ∈ (stripChars cs).getLast?, isBlank c = false := by
  intro c hc
  unfold stripChars at hc
  rw [List.getLast?_reverse] at hc
  have h := List.head?_dropWhile_not isBlank ((cs.dropWhile isBlank).reverse)
  rw [Option.mem_def] at hc
  rw [hc] at h
  exact h

/-- Blanks after characters that neither start nor end with a blank are all that stripping
takes off. -/
theorem stripChars_append_blanks {c : Char} {cs bs : List Char} (hc : isBlank c = false)
    (hlast : ∀ x ∈ (c :: cs).getLast?, isBlank x = false) (hbs : ∀ b ∈ bs, isBlank b = true) :
    stripChars ((c :: cs) ++ bs) = c :: cs := by
  have hfront : ((c :: cs) ++ bs).dropWhile isBlank = (c :: cs) ++ bs := by
    rw [List.cons_append, List.dropWhile_cons_of_neg (by simp [hc])]
  have hback : (bs.reverse ++ (c :: cs).reverse).dropWhile isBlank = (c :: cs).reverse := by
    rw [List.dropWhile_append, List.dropWhile_eq_nil_iff.2 (by simpa using hbs), List.isEmpty_nil,
      if_pos rfl]
    obtain ⟨x, rest, hrev⟩ := List.exists_cons_of_ne_nil (by simp : (c :: cs).reverse ≠ [])
    have hx : isBlank x = false := hlast x (by rw [List.getLast?_eq_head?_reverse, hrev]; rfl)
    rw [hrev, List.dropWhile_cons_of_neg (by simp [hx])]
  unfold stripChars
  rw [hfront, List.reverse_append, hback, List.reverse_reverse]

end Text

/-! ## The name of a file located in a directory -/

namespace Path

/-- Joining two texts with a slash joins their parts. -/
theorem parts_append_slash (a b : String) : parts (a ++ "/" ++ b) = parts a ++ parts b := by
  simp only [parts, splitOn_slash, String.toList_append]
  rw [show "/".toList = ['/'] from rfl, List.append_assoc, List.singleton_append,
    List.splitOn_append_cons_self, List.map_append, List.filter_append]

theorem parts_of_isPart {f : String} (hf : IsPart f) : parts f = [f] := by
  obtain ⟨hne, hdot, hslash⟩ := hf
  rw [parts, splitOn_slash, List.splitOn_eq_singleton hslash]
  simp [hne, hdot]

theorem parts_empty : parts "" = [] := by
  simp [parts, splitOn_slash]

/-- A path in normal form has the parts of the path. -/
theorem parts_normal (s : String) : parts (normal s) = parts s := by
  obtain ⟨k, -, hr⟩ := root_cases s
  by_cases hdot : ((root s).isEmpty && (parts s).isEmpty) = true
  · rw [normal, build, if_pos hdot]
    rw [Bool.and_eq_true, List.isEmpty_iff] at hdot
    rw [hdot.2]
    cbv
  · rw [normal, build, if_neg hdot, hr, parts_slashes_intercalate (fun p hp => isPart_of_mem_parts hp)]

/-- A part joined to a path is the last part of the result. -/
theorem parts_join (base : String) {f : String} (hf : IsPart f) :
    ∃ ps, parts (join base f) = ps ++ [f] := by
  unfold join
  split
  · exact ⟨[], by rw [parts_normal, parts_of_isPart hf]; rfl⟩
  · split
    · exact ⟨[], by rw [parts_normal, parts_of_isPart hf]; rfl⟩
    · exact ⟨parts base, by rw [parts_normal, parts_append_slash, parts_of_isPart hf]⟩

/-- A part other than `..` at the end survives the cancelling of `..` parts. -/
theorem collapse_append_part (ps : List String) {f : String} (hf : f ≠ "..") :
    collapse (ps ++ [f]) = collapse ps ++ [f] := by
  simp [collapse, List.foldl_append, hf]

theorem parts_intercalate_append (ps : List String) {f : String} (hf : IsPart f) :
    ∃ qs, parts ("/".intercalate (ps ++ [f])) = qs ++ [f] := by
  by_cases hps : ps = []
  · subst hps
    exact ⟨[], by rw [List.nil_append, String.intercalate_singleton, parts_of_isPart hf]⟩
  · refine ⟨parts ("/".intercalate ps), ?_⟩
    rw [String.intercalate_append_of_ne_nil hps (List.cons_ne_nil f []),
      String.intercalate_singleton, parts_append_slash, parts_of_isPart hf]

/-- A file named `f`, located from any working directory after being joined to any directory,
is named `f`. -/
theorem name_resolve_join (cwd base : String) {f : String} (hf : IsPart f) (hdots : f ≠ "..") :
    name (resolve cwd (join base f)) = f := by
  obtain ⟨ps, hps⟩ := parts_join base hf
  -- the full path ends with the part `f`, whether the joined path is absolute or not
  have hfull : ∃ qs, parts (if (join base f).startsWith "/" then join base f
      else cwd ++ "/" ++ join base f) = qs ++ [f] := by
    split
    · exact ⟨ps, hps⟩
    · exact ⟨parts cwd ++ ps, by rw [parts_append_slash, hps, List.append_assoc]⟩
  obtain ⟨qs, hqs⟩ := hfull
  obtain ⟨rs, hrs⟩ := parts_intercalate_append (collapse qs) hf
  have hbuild : build "/" (collapse qs ++ [f]) = "" ++ "/" ++ "/".intercalate (collapse qs ++ [f]) := by
    rw [build, if_neg (by simp), String.empty_append]
  simp only [name, resolve]
  rw [hqs, collapse_append_part qs hdots, hbuild, parts_append_slash, parts_empty, List.nil_append,
    hrs, List.getLast?_append_of_ne_nil _ (List.cons_ne_nil f []), List.getLast?_singleton]
  rfl

end Path

/-! ## Files of the working directory -/

namespace Host

/-- Where the file of a name in the working directory lies on the disk. -/
def fileHere (h : Host) (name : String) : String := h.locate (Path.join h.cwd name)

/-- The lines of the file at a path, read line by line; none when the path holds no file. -/
def fileLines (h : Host) (p : String) : List String :=
  match h.disk.entry? (h.locate p) with
  | some (.file bytes) => (Text.TextFile.ofBytes bytes).readLines.1
  | _ => []

/-- The `.env` file and the `.gitignore` beside it are two files. -/
theorem fileHere_env_ne_ignore (h : Host) : h.fileHere ".env" ≠ h.fileHere ".gitignore" := by
  intro heq
  have hname := congrArg Path.name heq
  simp only [fileHere, locate] at hname
  rw [Path.name_resolve_join _ _ (by simp [Path.IsPart]) (by simp),
    Path.name_resolve_join _ _ (by simp [Path.IsPart]) (by simp)] at hname
  simp at hname

end Host

namespace Settings

/-- Loading settings changes only the environment of the host. -/
theorem load_host {h h' : Host} {depth : Nat} {s : Settings}
    (hload : load h none depth = .ok (s, h')) : ∃ env, h' = { h with env } := by
  unfold load at hload
  obtain ⟨found, -, hload⟩ := except_bind_eq_ok.1 hload
  dsimp only at hload
  -- whichever source the data comes from, the `.env` file is read next
  obtain ⟨data, hload⟩ : ∃ data, (h.loadDotenv >>= fun h₁ => applyOverrides h₁.env data >>=
      fun doc => pure ({ doc, file := found }, h₁)) = .ok (s, h') := by
    cases found with
    | some p =>
      obtain ⟨data, -, hrest⟩ := except_bind_eq_ok.1 hload
      exact ⟨data, hrest⟩
    | none => exact ⟨_, hload⟩
  obtain ⟨h₁, hdot, hload⟩ := except_bind_eq_ok.1 hload
  obtain ⟨doc, -, hload⟩ := except_bind_eq_ok.1 hload
  cases hload
  obtain ⟨env, -, rfl⟩ := Host.loadDotenv_eq_ok hdot
  exact ⟨env, rfl⟩

end Settings

namespace Commands

/-! ## Work that completes -/

section Run

variable {α β : Type}

theorem run_get_bind (f : Machine → Work β) (M : Machine) :
    (get >>= f).run.run M = (f M).run.run M := by
  rw [run_bind, run_get]

@[simp] theorem run_set (M M' : Machine) : (set M' : Work PUnit).run.run M = (.ok (), M') := rfl

theorem run_lift (r : Except Failure α) (M : Machine) : (lift r).run.run M = (r, M) := by
  cases r <;> rfl

theorem run_lift_eq_ok {r : Except Failure α} {M M' : Machine} {a : α}
    (h : (lift r).run.run M = (.ok a, M')) : r = .ok a ∧ M' = M := by
  rw [run_lift] at h
  injection h with hr hM
  exact ⟨hr, hM.symm⟩

/-- Work that completes after a step that may fail took the step without failing. -/
theorem run_lift_bind_eq_ok {r : Except Failure α} {f : α → Work β} {M M' : Machine} {b : β}
    (h : (lift r >>= f).run.run M = (.ok b, M')) :
    ∃ a, r = .ok a ∧ (f a).run.run M = (.ok b, M') := by
  obtain ⟨a, M₁, hrun, hk⟩ := run_bind_eq_ok h
  obtain ⟨hr, rfl⟩ := run_lift_eq_ok hrun
  exact ⟨a, hr, hk⟩

/-- Work with no result whose run does not fail completes. -/
theorem run_completes_of_toBool {x : Work Unit} {M : Machine} (h : (x.run.run M).1.toBool = true) :
    ∃ M', x.run.run M = (.ok (), M') := by
  rcases hx : x.run.run M with ⟨_ | u, M'⟩
  · rw [hx] at h
    cases h
  · exact ⟨M', rfl⟩

theorem run_pure_eq_ok {a b : α} {M M' : Machine} (h : (pure a : Work α).run.run M = (.ok b, M')) :
    a = b ∧ M = M' := by
  rw [run_pure] at h
  injection h with hr hM
  injection hr with hr
  exact ⟨hr, hM⟩

theorem run_say_eq_ok {s : String} {M M' : Machine} {u : Unit}
    (h : (say s).run.run M = (.ok u, M')) :
    M' = { M with console := M.console.write (s ++ "\n") } := by
  rcases run_say_cases s M with h' | ⟨f, h'⟩
  · rw [h'] at h
    injection h with _ hM
    exact hM.symm
  · rw [h'] at h
    cases h

/-- Saying a line changes only what the console has written. -/
theorem run_say_quiet {s : String} {M M' : Machine} {u : Unit}
    (h : (say s).run.run M = (.ok u, M')) :
    M'.host = M.host ∧ M'.console.input = M.console.input := by
  rw [run_say_eq_ok h]
  exact ⟨rfl, rfl⟩

theorem run_encodable_eq_ok {s : String} {M M' : Machine} {u : Unit}
    (h : (encodable s).run.run M = (.ok u, M')) : M' = M := by
  unfold encodable at h
  split at h
  · cases h
  · injection h with _ hM
    exact hM.symm

end Run

/-! ## Reading and writing files -/

theorem run_pathExists_eq_ok {p : String} {M M' : Machine} {b : Bool}
    (h : (pathExists p).run.run M = (.ok b, M')) :
    M' = M ∧ b = (M.host.disk.entry? (M.host.locate p)).isSome := by
  unfold pathExists at h
  rw [run_get_bind] at h
  obtain ⟨hr, rfl⟩ := run_lift_eq_ok h
  unfold Disk.pathExists at hr
  split at hr
  · cases hr
  · injection hr with hb
    exact ⟨rfl, hb.symm⟩

/-- Lines read from a file are its lines: the file holds bytes that are read to the end without a
fault. -/
theorem run_readLines_eq_ok {p : String} {M M' : Machine} {ls : List String}
    (h : (readLines p).run.run M = (.ok ls, M')) :
    M' = M ∧ ∃ bytes, M.host.disk.entry? (M.host.locate p) = some (.file bytes) ∧
      (Text.TextFile.ofBytes bytes).readLines = (ls, none) := by
  unfold readLines at h
  rw [run_get_bind] at h
  obtain ⟨bytes, hread, hk⟩ := run_lift_bind_eq_ok h
  refine ⟨?_, bytes, Disk.readFile_eq_ok hread, ?_⟩ <;> split at hk
  · injection hk with _ hM
    exact hM.symm
  · cases hk
  · rename_i lines hlines
    injection hk with hls
    injection hls with hls
    rw [hlines, hls]
  · cases hk

theorem run_writeBytes_eq_ok {p : String} {data : List UInt8} {M M' : Machine} {u : Unit}
    (h : (writeBytes p data).run.run M = (.ok u, M')) :
    M' = { M with host := { M.host with disk := M.host.disk.put (M.host.locate p) (.file data) } } := by
  unfold writeBytes at h
  rw [run_get_bind] at h
  obtain ⟨disk, hwrite, hk⟩ := run_lift_bind_eq_ok h
  rw [Disk.writeFile_eq_ok hwrite] at hk
  injection hk with _ hM
  exact hM.symm

/-- Adding text to a file changes no other entry of the disk. -/
theorem run_appendText_eq_ok {p text : String} {M M' : Machine} {u : Unit}
    (h : (appendText p text).run.run M = (.ok u, M')) :
    ∃ e, M' = { M with host := { M.host with disk := M.host.disk.put (M.host.locate p) e } } := by
  unfold appendText at h
  rw [run_get_bind] at h
  exact ⟨_, run_writeBytes_eq_ok h⟩

theorem run_readText_eq_ok {p : String} {M M' : Machine} {t : String}
    (h : (readText p).run.run M = (.ok t, M')) : M' = M := by
  unfold readText at h
  rw [run_get_bind] at h
  obtain ⟨bytes, -, hk⟩ := run_lift_bind_eq_ok h
  split at hk
  · injection hk with _ hM
    exact hM.symm
  · cases hk

/-! ## Questions -/

/-- A question answered reads one line of the input. -/
theorem askOnce_eq_some {c c' : Console} {q a : String} (h : c.askOnce q = (c', some a)) :
    a = String.ofList (splitLine c.input).1 ∧ c'.input = (splitLine c.input).2 := by
  rcases hs : splitLine c.input with ⟨line, rest⟩
  cases ht : c.typing
  · simp [Console.askOnce, Console.write, ht, hs] at h
    obtain ⟨rfl, rfl⟩ := h
    exact ⟨rfl, rfl⟩
  · by_cases hin : c.input = [] <;> simp [Console.askOnce, Console.write, ht, hs, hin] at h
    obtain ⟨rfl, rfl⟩ := h
    exact ⟨rfl, rfl⟩

/-- A question with a default that gets an answer reads one line of the input: the answer is the
line, or the default for an empty line. -/
theorem run_askFor_eq_ok {q d a : String} {n : Nat} {M M' : Machine}
    (h : (askFor q (some d) (n + 1)).run.run M = (.ok a, M')) :
    a = (if (String.ofList (splitLine M.console.input).1).isEmpty then d
      else String.ofList (splitLine M.console.input).1) ∧
      M'.host = M.host ∧ M'.console.input = (splitLine M.console.input).2 := by
  rw [askFor] at h
  obtain ⟨u, M₁, henc, hk⟩ := run_bind_eq_ok h
  rw [run_encodable_eq_ok henc, run_get_bind] at hk
  rcases hask : M.console.askOnce q with ⟨c, _ | t⟩
  · rw [hask] at hk
    cases hk
  · obtain ⟨ht, hc⟩ := askOnce_eq_some hask
    rw [hask] at hk
    obtain ⟨_, M₂, hset, hk⟩ := run_bind_eq_ok hk
    rw [run_set] at hset
    injection hset with _ hM₂
    subst hM₂ ht
    by_cases hempty : (String.ofList (splitLine M.console.input).1).isEmpty = true
    · simp only [hempty, Bool.not_true, Bool.false_eq_true, if_false, run_pure] at hk
      injection hk with ha hM'
      injection ha with ha
      exact ⟨by rw [if_pos hempty, ha], by rw [← hM'], by rw [← hM', hc]⟩
    · simp only [hempty, Bool.not_false, if_true, run_pure] at hk
      injection hk with ha hM'
      injection ha with ha
      exact ⟨by rw [if_neg hempty, ha], by rw [← hM'], by rw [← hM', hc]⟩

theorem run_ask_eq_ok {q d a : String} {M M' : Machine} (h : (ask q d).run.run M = (.ok a, M')) :
    a = (if (String.ofList (splitLine M.console.input).1).isEmpty then d
      else String.ofList (splitLine M.console.input).1) ∧
      M'.host = M.host ∧ M'.console.input = (splitLine M.console.input).2 := by
  unfold ask at h
  rw [run_get_bind] at h
  exact run_askFor_eq_ok h

/-! ## The keys asked for -/

/-- The answers typed at `n` questions in turn: the lines of the input, each up to its line feed. -/
def typedLines : Nat → List Char → List String
  | 0, _ => []
  | n + 1, input => String.ofList (splitLine input).1 :: typedLines n (splitLine input).2

/-- The value the setup stores for a key: the answer typed or, for an empty answer, the value
known, without surrounding blanks; the placeholder `your-key-here` when that leaves nothing. -/
def storedKey (typed known : String) : String :=
  let v := Text.strip (if typed.isEmpty then known else typed)
  if v.isEmpty then "your-key-here" else v

/-- The line of a `.env` file setting a key to a value. -/
def keyLine (key value : String) : String := key ++ "=" ++ value ++ "\n"

/-- The line written for a key asked about reads the next line of the input as its answer. -/
theorem run_askDotenvKey_eq_ok {current : List (String × String)} {q : String × String}
    {M M' : Machine} {line : String} (h : (askDotenvKey current q).run.run M = (.ok line, M')) :
    line = keyLine q.1 (storedKey (String.ofList (splitLine M.console.input).1)
      ((current.lookup q.1).getD "")) ∧
      M'.host = M.host ∧ M'.console.input = (splitLine M.console.input).2 := by
  obtain ⟨key, description⟩ := q
  unfold askDotenvKey at h
  obtain ⟨_, M₁, hsay, hk⟩ := run_bind_eq_ok h
  rw [run_say_eq_ok hsay] at hk
  obtain ⟨a, M₂, hask, hk⟩ := run_bind_eq_ok hk
  obtain ⟨ha, hhost, hinput⟩ := run_ask_eq_ok hask
  obtain ⟨hline, rfl⟩ := run_pure_eq_ok hk
  refine ⟨?_, hhost, hinput⟩
  rw [← hline, ha]
  rfl

/-- Asking for keys in turn reads one line of the input for each. -/
theorem run_mapM_askDotenvKey_eq_ok (current : List (String × String)) :
    ∀ (qs : List (String × String)) {M M' : Machine} {lines : List String},
      (qs.mapM (askDotenvKey current)).run.run M = (.ok lines, M') →
      lines = (qs.zip (typedLines qs.length M.console.input)).map (fun (q, typed) =>
        keyLine q.1 (storedKey typed ((current.lookup q.1).getD ""))) ∧ M'.host = M.host
  | [], M, M', lines, h => by
    rw [List.mapM_nil, run_pure] at h
    injection h with hl hM
    injection hl with hl
    exact ⟨hl.symm, by rw [← hM]⟩
  | q :: qs, M, M', lines, h => by
    rw [List.mapM_cons] at h
    obtain ⟨line, M₁, hline, hk⟩ := run_bind_eq_ok h
    obtain ⟨rest, M₂, hrest, hk⟩ := run_bind_eq_ok hk
    obtain ⟨hl, hM⟩ := run_pure_eq_ok hk
    obtain ⟨hline, hhost₁, hinput₁⟩ := run_askDotenvKey_eq_ok hline
    obtain ⟨hrest, hhost₂⟩ := run_mapM_askDotenvKey_eq_ok current qs hrest
    refine ⟨?_, by rw [← hM, hhost₂, hhost₁]⟩
    rw [← hl, hline, hrest, hinput₁]
    rfl

/-! ## The steps of the setup -/

/-- Writing the `.env` template sets the entry of the `.env` file. -/
theorem run_createDotenv_eq_ok {settings : Settings} {M M' : Machine} {r : String × Settings}
    (h : (onSession settings Session.createDotenv).run.run M = (.ok r, M')) :
    M' = { M with host := { M.host with
      disk := M.host.disk.put (M.host.fileHere ".env") (.file (Text.encodeUtf8 dotenvTemplate)) } } := by
  unfold onSession at h
  rw [run_get_bind] at h
  cases hw : M.host.disk.writeFile (M.host.locate M.host.dotenvPath) M.host.dotenvPath
      (Text.encodeUtf8 dotenvTemplate) with
  | error f =>
    simp [Session.createDotenv, Session.writeText, hw] at h
    cases h
  | ok d =>
    rw [Disk.writeFile_eq_ok hw] at *
    simp [Session.createDotenv, Session.writeText, hw] at h
    injection h with _ hM
    exact hM.symm

/-- Making sure of a `.env` file writes the template when there is none, and reads no input. -/
theorem run_ensureDotenv_eq_ok {settings : Settings} {M M' : Machine} {u : Unit}
    (h : (ensureDotenv settings M.host.dotenvPath).run.run M = (.ok u, M')) :
    M'.host = (if (M.host.disk.entry? (M.host.fileHere ".env")).isSome then M.host
      else { M.host with
        disk := M.host.disk.put (M.host.fileHere ".env") (.file (Text.encodeUtf8 dotenvTemplate)) }) ∧
      M'.console.input = M.console.input := by
  unfold ensureDotenv at h
  obtain ⟨b, M₁, hb, hk⟩ := run_bind_eq_ok h
  obtain ⟨hM₁, rfl⟩ := run_pathExists_eq_ok hb
  rw [hM₁, show M.host.locate M.host.dotenvPath = M.host.fileHere ".env" from rfl] at hk
  cases hfound : (M.host.disk.entry? (M.host.fileHere ".env")).isSome
  · -- no `.env` file: the template is written between two lines said
    simp only [hfound, Bool.not_false, if_true] at hk
    obtain ⟨_, M₂, hsay, hk⟩ := run_bind_eq_ok hk
    rw [run_say_eq_ok hsay] at hk
    obtain ⟨_, M₃, hcreate, hk⟩ := run_bind_eq_ok hk
    rw [run_say_eq_ok hk, run_createDotenv_eq_ok hcreate]
    exact ⟨rfl, rfl⟩
  · simp only [hfound, Bool.not_true, Bool.false_eq_true, if_false, run_pure] at hk
    injection hk with _ hM
    rw [← hM]
    exact ⟨rfl, rfl⟩

/-- The keys the setup finds in a file are those its reader takes from the file's lines. -/
theorem run_currentDotenvKeys_eq_ok {p : String} {M M' : Machine} {keys : List (String × String)}
    (h : (currentDotenvKeys p).run.run M = (.ok keys, M')) :
    M' = M ∧ keys = dotenvKeys (M.host.fileLines p) := by
  unfold currentDotenvKeys at h
  obtain ⟨b, M₁, hb, hk⟩ := run_bind_eq_ok h
  obtain ⟨hM₁, rfl⟩ := run_pathExists_eq_ok hb
  rw [hM₁] at hk
  cases hfound : M.host.disk.entry? (M.host.locate p) with
  | none =>
    simp only [hfound, Option.isSome_none, Bool.false_eq_true, if_false, run_pure] at hk
    injection hk with hkeys hM
    injection hkeys with hkeys
    refine ⟨hM.symm, ?_⟩
    simp [← hkeys, Host.fileLines, hfound, dotenvKeys]
  | some e =>
    simp only [hfound, Option.isSome_some, if_true, ← bind_pure_comp] at hk
    obtain ⟨lines, M₂, hread, hk⟩ := run_bind_eq_ok hk
    obtain ⟨hM₂, bytes, hentry, hlines⟩ := run_readLines_eq_ok hread
    rw [hM₂, run_pure] at hk
    injection hk with hkeys hM
    injection hkeys with hkeys
    refine ⟨hM.symm, ?_⟩
    simp [← hkeys, Host.fileLines, hentry, hlines]

/-- Adding `.env` to the `.gitignore` of a directory changes no other entry of the disk. -/
theorem run_ignoreDotenv_eq_ok {cwd : String} {M M' : Machine} {u : Unit}
    (h : (ignoreDotenv cwd).run.run M = (.ok u, M')) :
    M'.host.cwd = M.host.cwd ∧ ∀ q, q ≠ M.host.locate (Path.join cwd ".gitignore") →
      M'.host.disk.entry? q = M.host.disk.entry? q := by
  unfold ignoreDotenv at h
  obtain ⟨b, M₁, hb, hk⟩ := run_bind_eq_ok h
  rw [(run_pathExists_eq_ok hb).1] at hk
  obtain ⟨ignored, M₂, hread, hk⟩ := run_bind_eq_ok hk
  have hM₂ : M₂ = M := by
    split at hread
    · exact run_readText_eq_ok hread
    · exact (run_pure_eq_ok hread).2.symm
  rw [hM₂] at hk
  split at hk
  · -- the line is added, and a line said
    obtain ⟨_, M₃, happend, hk⟩ := run_bind_eq_ok hk
    obtain ⟨e, rfl⟩ := run_appendText_eq_ok happend
    rw [run_say_eq_ok hk]
    exact ⟨rfl, fun q hq => by simp [Disk.entry?_put, hq]⟩
  · rw [← (run_pure_eq_ok hk).2]
    exact ⟨rfl, fun _ _ => rfl⟩

/-! ## The keys the setup reads -/

/-- A text holding `=` reads `name=value`, with no `=` in `name`, for exactly one name and value:
the text before its first `=` and the text after it. -/
theorem eq_key_value_iff {l name value : String} (hl : '=' ∈ l.toList) :
    (l = name ++ "=" ++ value ∧ '=' ∉ name.toList) ↔
      name = String.ofList (l.toList.takeWhile (· != '=')) ∧
        value = String.ofList ((l.toList.dropWhile (· != '=')).drop 1) := by
  constructor
  · rintro ⟨rfl, hname⟩
    obtain ⟨h₁, h₂⟩ := Host.split_at_first_eq value.toList hname
    have hchars : (name ++ "=" ++ value).toList = name.toList ++ '=' :: value.toList := by simp
    rw [hchars, h₁, h₂]
    simp
  · rintro ⟨rfl, rfl⟩
    obtain ⟨h₁, h₂⟩ := Host.eq_split_at_first_eq hl
    refine ⟨?_, by simpa using h₂⟩
    apply String.toList_injective
    simpa using h₁

/-- A line that the setup reads as giving `key` the value `value`: as it stands, it holds `=` and
does not start with `#`; stripped, it reads `key=value` with no `=` in `key`; and the value is
not a placeholder starting with `your-`. -/
def SetupReads (line key value : String) : Prop :=
  '=' ∈ line.toList ∧ line.startsWith "#" = false ∧
    (Text.strip line = key ++ "=" ++ value ∧ '=' ∉ key.toList) ∧ value.startsWith "your-" = false

/-- Of the lines, the last that the setup reads as giving `key` a value gives `value`. -/
def LastSetupReads (lines : List String) (key value : String) : Prop :=
  ∃ pre line post, lines = pre ++ line :: post ∧ SetupReads line key value ∧
    ∀ l ∈ post, ∀ w, ¬ SetupReads l key w

/-- The value the setup knows for a key from the lines of a `.env` file: that of the last line it
reads as giving the key a value, or nothing when no line does. -/
def KnownValue (lines : List String) (key value : String) : Prop :=
  LastSetupReads lines key value ∨ ((∀ l ∈ lines, ∀ w, ¬ SetupReads l key w) ∧ value = "")

/-- Setting a key anew, after dropping its old value, gives its new value and keeps the others. -/
theorem lookup_filter_append (keys : List (String × String)) (key value name : String) :
    (keys.filter (·.1 != key) ++ [(key, value)]).lookup name =
      if name = key then some value else keys.lookup name := by
  induction keys with
  | nil => by_cases h : name = key <;> simp [List.lookup, h]
  | cons kv keys ih =>
    obtain ⟨k, v⟩ := kv
    by_cases h : name = k
    · subst h
      by_cases hk : name = key
      · subst hk
        simpa using ih
      · simp [List.lookup, hk]
    · have hb : (name == k) = false := by simpa using h
      by_cases hk : k = key
      · subst hk
        simpa [List.lookup, List.filter_cons, hb] using ih
      · simp [List.lookup, hk, hb, ih]

/-- A line the setup reads sets the key it gives a value, and leaves every other as it was. -/
theorem dotenvKeyStep_lookup (keys : List (String × String)) (line name : String) :
    (∃ v, SetupReads line name v ∧ (dotenvKeyStep keys line).lookup name = some v) ∨
      ((∀ v, ¬ SetupReads line name v) ∧ (dotenvKeyStep keys line).lookup name = keys.lookup name) := by
  by_cases hcond : '=' ∈ line.toList ∧ line.startsWith "#" = false
  · obtain ⟨heq, hhash⟩ := hcond
    have heq' : '=' ∈ (Text.strip line).toList := by
      simpa [Text.strip] using Text.mem_stripChars rfl heq
    have hstep : dotenvKeyStep keys line =
        let key := String.ofList ((Text.strip line).toList.takeWhile (· != '='))
        let value := String.ofList (((Text.strip line).toList.dropWhile (· != '=')).drop 1)
        if value.startsWith "your-" then keys else keys.filter (·.1 != key) ++ [(key, value)] := by
      simp [dotenvKeyStep, heq, hhash]
    -- the line gives a value exactly to the text before its first `=`
    have hreads : ∀ v, SetupReads line name v ↔
        (name = String.ofList ((Text.strip line).toList.takeWhile (· != '=')) ∧
          v = String.ofList (((Text.strip line).toList.dropWhile (· != '=')).drop 1)) ∧
          v.startsWith "your-" = false := by
      intro v
      rw [← eq_key_value_iff heq']
      simp [SetupReads, heq, hhash]
    rw [hstep]
    dsimp only
    split
    case isTrue hplace =>
      -- a placeholder gives no value
      have hnone : ∀ v, ¬ SetupReads line name v := by
        intro v hv
        obtain ⟨⟨-, rfl⟩, hv⟩ := (hreads v).1 hv
        rw [hv] at hplace
        cases hplace
      exact .inr ⟨hnone, rfl⟩
    case isFalse hplace =>
      rw [lookup_filter_append]
      split
      case isTrue hname =>
        exact .inl ⟨_, (hreads _).2 ⟨⟨hname, rfl⟩, by simpa using hplace⟩, rfl⟩
      case isFalse hname =>
        exact .inr ⟨fun v hv => hname ((hreads v).1 hv).1.1, rfl⟩
  · have hstep : dotenvKeyStep keys line = keys := by
      unfold dotenvKeyStep
      rw [if_neg (by simpa using hcond)]
    rw [hstep]
    exact .inr ⟨fun v hv => hcond ⟨hv.1, hv.2.1⟩, rfl⟩

/-- After the lines of a `.env` file are read for keys, a key has the value of the last line that
the setup reads as giving it one, or, when no line does, the value it had. -/
theorem lookup_foldl_dotenvKeyStep (name : String) : ∀ (lines : List String)
    (keys : List (String × String)),
    (∃ v, LastSetupReads lines name v ∧ (lines.foldl dotenvKeyStep keys).lookup name = some v) ∨
      ((∀ l ∈ lines, ∀ w, ¬ SetupReads l name w) ∧
        (lines.foldl dotenvKeyStep keys).lookup name = keys.lookup name)
  | [], keys => .inr ⟨by simp, rfl⟩
  | line :: lines, keys => by
    rw [List.foldl_cons]
    rcases lookup_foldl_dotenvKeyStep name lines (dotenvKeyStep keys line) with
      ⟨v, ⟨pre, l, post, rfl, hl, hpost⟩, hv⟩ | ⟨hnone, hv⟩
    · -- a later line gives the value last
      exact .inl ⟨v, ⟨line :: pre, l, post, rfl, hl, hpost⟩, hv⟩
    · rcases dotenvKeyStep_lookup keys line name with ⟨v, hl, hv₁⟩ | ⟨hl, hv₁⟩
      · exact .inl ⟨v, ⟨[], line, lines, rfl, hl, hnone⟩, hv.trans hv₁⟩
      · refine .inr ⟨fun l hmem w => ?_, hv.trans hv₁⟩
        rcases List.mem_cons.1 hmem with rfl | hmem
        · exact hl w
        · exact hnone l hmem w

/-- The value the setup takes a key to have is the one its reader knows. -/
theorem knownValue_dotenvKeys (lines : List String) (key : String) :
    KnownValue lines key (((dotenvKeys lines).lookup key).getD "") := by
  rcases lookup_foldl_dotenvKeyStep key lines [] with ⟨v, hlast, hv⟩ | ⟨hnone, hv⟩
  · left
    rw [dotenvKeys, hv]
    exact hlast
  · right
    rw [dotenvKeys, hv]
    exact ⟨hnone, rfl⟩

/-! ## The file the setup writes -/

/-- The keys the setup writes with their values, given the value known for each key and the
answers typed. -/
def storedKeys (known : String → String) (answers : List String) : List (String × String) :=
  (dotenvQuestions.zip answers).map fun (q, typed) => (q.1, storedKey typed (known q.1))

/-- The lines of a `.env` file that the setup writes for keys and their values. -/
def dotenvLinesOf (keys : List (String × String)) : List String :=
  dotenvHeader :: keys.map fun (key, value) => keyLine key value

/-- The names of the keys: no `=` in them, and a first character neither blank nor `#`. -/
theorem dotenvQuestions_keys : ∀ q ∈ dotenvQuestions, '=' ∉ q.1.toList ∧
    ∃ c cs, q.1.toList = c :: cs ∧ Text.isBlank c = false ∧ c ≠ '#' := by
  simp only [dotenvQuestions, List.mem_cons, List.not_mem_nil, or_false]
  rintro q (rfl | rfl | rfl)
  · exact ⟨by simp, 'G', _, rfl, rfl, by decide⟩
  · exact ⟨by simp, 'O', _, rfl, rfl, by decide⟩
  · exact ⟨by simp, 'A', _, rfl, rfl, by decide⟩

/-- A stored value does not end with a blank. -/
theorem storedKey_getLast? (typed known : String) :
    ∀ x ∈ (storedKey typed known).toList.getLast?, Text.isBlank x = false := by
  intro x hx
  unfold storedKey at hx
  generalize hv : Text.strip (if typed.isEmpty then known else typed) = v at hx
  by_cases hempty : v.isEmpty = true
  · -- the placeholder ends with `e`
    have hlast : "your-key-here".toList.getLast? = some 'e' := rfl
    rw [if_pos hempty, hlast, Option.mem_def, Option.some_inj] at hx
    rw [← hx]
    rfl
  · rw [if_neg hempty, ← hv, Text.strip, String.toList_ofList] at hx
    exact Text.getLast?_stripChars _ x hx

/-- Stripping the line of a key takes off its line feed only. -/
theorem strip_keyLine {key value : String} {c : Char} {cs : List Char}
    (hkey : key.toList = c :: cs) (hc : Text.isBlank c = false)
    (hvalue : ∀ x ∈ value.toList.getLast?, Text.isBlank x = false) :
    Text.strip (keyLine key value) = key ++ "=" ++ value := by
  have hchars : (keyLine key value).toList = (c :: (cs ++ '=' :: value.toList)) ++ ['\n'] := by
    simp [keyLine, hkey]
  have hlast : ∀ x ∈ (c :: (cs ++ '=' :: value.toList)).getLast?, Text.isBlank x = false := by
    intro x hx
    rw [← List.cons_append, List.getLast?_append, List.getLast?_cons, Option.some_or,
      Option.mem_def, Option.some_inj] at hx
    cases hv : value.toList.getLast? with
    | none =>
      rw [hv] at hx
      rw [← hx]
      rfl
    | some y =>
      rw [hv] at hx
      rw [← hx]
      exact hvalue y hv
  unfold Text.strip
  rw [hchars, Text.stripChars_append_blanks hc hlast (by simp; rfl)]
  apply String.toList_injective
  simp [hkey]

/-- The line the setup writes for a key sets, read as a `.env` file is read, exactly that key to
its value. -/
theorem assigns_keyLine {q : String × String} (hq : q ∈ dotenvQuestions) (typed known name w : String) :
    Host.Assigns (keyLine q.1 (storedKey typed known)) name w ↔ name = q.1 ∧ w = storedKey typed known := by
  obtain ⟨heq, c, cs, hkey, hc, hhash⟩ := dotenvQuestions_keys q hq
  have hstrip := strip_keyLine hkey hc (storedKey_getLast? typed known)
  have hline : '=' ∈ (q.1 ++ "=" ++ storedKey typed known).toList := by simp
  have hfirst : (q.1 ++ "=" ++ storedKey typed known).startsWith "#" = false := by
    rw [String.startsWith_string_eq_false_iff]
    simp [hkey, Ne.symm hhash]
  -- the line is `key=value`, which has one reading
  have hself := (eq_key_value_iff hline).1 ⟨rfl, heq⟩
  rw [Host.Assigns, hstrip, hfirst]
  constructor
  · intro hassigns
    obtain ⟨hname, hw⟩ := (@eq_key_value_iff _ name w hline).1 hassigns.2
    exact ⟨hname.trans hself.1.symm, hw.trans hself.2.symm⟩
  · intro hkv
    rw [hkv.1, hkv.2]
    exact ⟨rfl, rfl, heq⟩

/-- Read as a `.env` file is read, the lines the setup writes set exactly the keys it stores to
their values: the header sets nothing. -/
theorem assigns_dotenvLinesOf (known : String → String) (answers : List String)
    (name value : String) :
    (∃ line ∈ dotenvLinesOf (storedKeys known answers), Host.Assigns line name value) ↔
      (name, value) ∈ storedKeys known answers := by
  have hheader : ∀ n w, ¬ Host.Assigns dotenvHeader n w := by
    intro n w hassigns
    have hhash : (Text.strip dotenvHeader).startsWith "#" = true := by
      simp +decide [dotenvHeader, Text.strip, Text.stripChars, Text.isBlank, Text.blankCodes,
        startsWith_eq_isPrefixOf]
    rw [hassigns.1] at hhash
    cases hhash
  simp only [dotenvLinesOf, storedKeys, List.mem_cons, List.mem_map]
  constructor
  · rintro ⟨line, hline | ⟨⟨k, v⟩, ⟨⟨q, typed⟩, hmem, hkv⟩, hline⟩, hassigns⟩
    · rw [hline] at hassigns
      exact absurd hassigns (hheader name value)
    · simp only [Prod.mk.injEq] at hkv
      rw [← hline, ← hkv.1, ← hkv.2] at hassigns
      dsimp only at hassigns
      obtain ⟨hname, hvalue⟩ :=
        (assigns_keyLine (List.of_mem_zip hmem).1 typed (known q.1) name value).1 hassigns
      exact ⟨⟨q, typed⟩, hmem, by dsimp only; rw [hname, hvalue]⟩
  · rintro ⟨⟨q, typed⟩, hmem, hkv⟩
    simp only [Prod.mk.injEq] at hkv
    have hassigns := (assigns_keyLine (List.of_mem_zip hmem).1 typed (known q.1) name value).2
      ⟨hkv.1.symm, hkv.2.symm⟩
    exact ⟨keyLine q.1 (storedKey typed (known q.1)),
      .inr ⟨(q.1, storedKey typed (known q.1)), ⟨⟨q, typed⟩, hmem, by dsimp only⟩, by dsimp only⟩,
      hassigns⟩

/-! ## The whole setup -/

/-- The template the setup writes when there is no `.env` file gives no key a value. -/
theorem dotenvKeys_template :
    dotenvKeys (Text.TextFile.ofBytes (Text.encodeUtf8 dotenvTemplate)).readLines.1 = [] := by
  rw [Settings.readLines_dotenvTemplate]
  simp +decide [Settings.templateLines, dotenvKeys, dotenvKeyStep, startsWith_eq_isPrefixOf]

/-- After the setup of the `.env` file completes, the file holds the header and a line for each
key, with the value stored from the answer typed and the value the setup read for the key from
the file as it was. No other entry of the disk but the `.gitignore` beside it changes. -/
theorem run_setupDotenv_eq_ok {settings : Settings} {M M' : Machine} {u : Unit}
    (h : (setupDotenv settings).run.run M = (.ok u, M')) :
    M'.host.cwd = M.host.cwd ∧
      M'.host.disk.entry? (M.host.fileHere ".env") = some (.file (Text.encodeUtf8 (String.join
        (dotenvLinesOf (storedKeys
          (fun key => ((dotenvKeys (M.host.fileLines M.host.dotenvPath)).lookup key).getD "")
          (typedLines 3 M.console.input)))))) ∧
      ∀ q, q ≠ M.host.fileHere ".env" → q ≠ M.host.fileHere ".gitignore" →
        M'.host.disk.entry? q = M.host.disk.entry? q := by
  unfold setupDotenv at h
  rw [run_get_bind] at h
  obtain ⟨_, M₁, hensure, hk⟩ := run_bind_eq_ok h
  obtain ⟨hhost₁, hinput₁⟩ := run_ensureDotenv_eq_ok hensure
  obtain ⟨_, M₂, hsay, hk⟩ := run_bind_eq_ok hk
  obtain ⟨hhost₂, hinput₂⟩ := run_say_quiet hsay
  obtain ⟨_, M₃, hsay, hk⟩ := run_bind_eq_ok hk
  obtain ⟨hhost₃, hinput₃⟩ := run_say_quiet hsay
  obtain ⟨current, M₄, hcurrent, hk⟩ := run_bind_eq_ok hk
  obtain ⟨hM₄, hcurrent⟩ := run_currentDotenvKeys_eq_ok hcurrent
  obtain ⟨lines, M₅, hask, hk⟩ := run_bind_eq_ok hk
  obtain ⟨hlines, hhost₅⟩ := run_mapM_askDotenvKey_eq_ok current dotenvQuestions hask
  obtain ⟨_, M₆, hwrite, hk⟩ := run_bind_eq_ok hk
  have hM₆ := run_writeBytes_eq_ok hwrite
  obtain ⟨_, M₇, hsay, hk⟩ := run_bind_eq_ok hk
  obtain ⟨hhost₇, -⟩ := run_say_quiet hsay
  obtain ⟨_, M₈, hsay, hk⟩ := run_bind_eq_ok hk
  obtain ⟨hhost₈, -⟩ := run_say_quiet hsay
  obtain ⟨hcwd, hframe⟩ := run_ignoreDotenv_eq_ok hk
  -- before the `.env` file is written, at most its entry changes, to the template
  have hhost₄ : M₄.host = M₁.host := by rw [hM₄, hhost₃, hhost₂]
  have hcwd₁ : M₁.host.cwd = M.host.cwd := by
    rw [hhost₁]
    split <;> rfl
  generalize hdata : Text.encodeUtf8 (String.join (dotenvHeader :: lines)) = data at hM₆
  have hwritten : M₈.host =
      { M₁.host with disk := M₁.host.disk.put (M.host.fileHere ".env") (.file data) } := by
    rw [hhost₈, hhost₇, hM₆]
    simp only [hhost₅, hhost₄, Host.locate, hcwd₁]
    rfl
  have hcwd₈ : M₈.host.cwd = M.host.cwd := by rw [hwritten, ← hcwd₁]
  have hignore : M₈.host.locate (Path.join M.host.cwd ".gitignore") =
      M.host.fileHere ".gitignore" := by
    simp only [Host.locate, hcwd₈, Host.fileHere]
  rw [hignore] at hframe
  -- the keys found are those of the file as it was: the template gives none
  have hkeys : current = dotenvKeys (M.host.fileLines M.host.dotenvPath) := by
    rw [hcurrent, hhost₃, hhost₂, hhost₁]
    cases hfound : (M.host.disk.entry? (M.host.fileHere ".env")).isSome
    · have hnone : M.host.disk.entry? (M.host.fileHere ".env") = none := by simpa using hfound
      have hloc : ∀ d : Disk, ({ M.host with disk := d } : Host).locate (Path.join M.host.cwd ".env") =
          M.host.fileHere ".env" := fun _ => rfl
      simp only [Bool.false_eq_true, if_false, Host.fileLines, hloc, Disk.entry?_put, if_true]
      rw [show M.host.locate M.host.dotenvPath = M.host.fileHere ".env" from rfl, hnone]
      exact dotenvKeys_template
    · rfl
  have hinput₄ : M₄.console.input = M.console.input := by
    rw [hM₄, hinput₃, hinput₂, hinput₁]
  refine ⟨by rw [hcwd, hcwd₈], ?_, fun q hq hq' => ?_⟩
  · rw [hframe _ (Host.fileHere_env_ne_ignore M.host), hwritten, Disk.entry?_put, if_pos rfl,
      ← hdata, hlines, hkeys, hinput₄]
    simp [dotenvLinesOf, storedKeys, Function.comp_def]
    rfl
  · rw [hframe q hq', hwritten, Disk.entry?_put, if_neg hq, hhost₁]
    split
    · rfl
    · rw [Disk.entry?_put, if_neg hq]

/-- Loading the settings sets the host they were loaded for. -/
theorem run_loadSettings {M : Machine} {s : Session} (h : Session.load M.host none M.depth = .ok s) :
    loadSettings.run.run M = (.ok s, { M with host := s.host }) := by
  unfold loadSettings
  rw [run_get_bind, run_bind_of_ok (by rw [run_lift, h])]
  rfl

/-- Loading the settings changes only the environment of the host. -/
theorem run_loadSettings_eq_ok {M M' : Machine} {s : Session}
    (h : loadSettings.run.run M = (.ok s, M')) :
    M'.console = M.console ∧ ∃ env, M'.host = { M.host with env } := by
  unfold loadSettings at h
  rw [run_get_bind] at h
  obtain ⟨s', hload, hk⟩ := run_lift_bind_eq_ok h
  rw [run_bind_of_ok (run_set _ _)] at hk
  obtain ⟨-, hM'⟩ := run_pure_eq_ok hk
  unfold Session.load at hload
  obtain ⟨⟨settings, host⟩, hsettings, hload⟩ := except_bind_eq_ok.1 hload
  cases hload
  obtain ⟨env, rfl⟩ := Settings.load_host hsettings
  exact ⟨by rw [← hM'], env, by rw [← hM']⟩

/-- After the setup of the `.env` file completes, the file holds exactly a header and a line for
each of the three keys, in the order asked. Each key is set to the answer typed for it without
surrounding blanks or, for an empty answer, to the value the setup's own reader found for it in
the file as it was (`KnownValue`), or to a placeholder when that leaves nothing. Read as the
settings read a `.env` file, these lines set exactly those keys to those values. The other lines
of the file are gone and the environment's variables play no part; besides the `.env` file, only
the `.gitignore` beside it may change on the disk. -/
theorem setup_dotenv_rewrites {M M' : Machine} (hrun : (setupWork true).run.run M = (.ok (), M')) :
    ∃ known : String → String,
      (∀ key, KnownValue (M.host.fileLines M.host.dotenvPath) key (known key)) ∧
      M'.host.disk.entry? (M.host.fileHere ".env") = some (.file (Text.encodeUtf8 (String.join
        (dotenvLinesOf (storedKeys known (typedLines 3 M.console.input)))))) ∧
      (∀ name value, (∃ line ∈ dotenvLinesOf (storedKeys known (typedLines 3 M.console.input)),
        Host.Assigns line name value) ↔ (name, value) ∈ storedKeys known (typedLines 3 M.console.input)) ∧
      ∀ q, q ≠ M.host.fileHere ".env" → q ≠ M.host.fileHere ".gitignore" →
        M'.host.disk.entry? q = M.host.disk.entry? q := by
  unfold setupWork at hrun
  obtain ⟨s, M₁, hload, hk⟩ := run_bind_eq_ok hrun
  obtain ⟨hconsole₁, env, hhost₁⟩ := run_loadSettings_eq_ok hload
  obtain ⟨_, M₂, hsay, hk⟩ := run_bind_eq_ok hk
  obtain ⟨hhost₂, hinput₂⟩ := run_say_quiet hsay
  obtain ⟨_, M₃, hsay, hk⟩ := run_bind_eq_ok hk
  obtain ⟨hhost₃, hinput₃⟩ := run_say_quiet hsay
  obtain ⟨_, M₄, hdotenv, hk⟩ := run_bind_eq_ok hk
  obtain ⟨-, hentry₄, hframe₄⟩ := run_setupDotenv_eq_ok hdotenv
  obtain ⟨_, M₅, hsay, hk⟩ := run_bind_eq_ok hk
  obtain ⟨hhost₅, -⟩ := run_say_quiet hsay
  obtain ⟨hhost', -⟩ := run_say_quiet hk
  -- loading the settings and saying lines leave the disk, the directory and the input as they were
  have hhost₃' : M₃.host = { M.host with env } := by rw [hhost₃, hhost₂, hhost₁]
  have hhere : ∀ name, M₃.host.fileHere name = M.host.fileHere name := by
    intro name
    rw [hhost₃']
    rfl
  have hlines : M₃.host.fileLines M₃.host.dotenvPath = M.host.fileLines M.host.dotenvPath := by
    rw [hhost₃']
    rfl
  have hinput : M₃.console.input = M.console.input := by rw [hinput₃, hinput₂, hconsole₁]
  refine ⟨fun key => ((dotenvKeys (M.host.fileLines M.host.dotenvPath)).lookup key).getD "",
    fun key => knownValue_dotenvKeys _ key, ?_, fun name value => assigns_dotenvLinesOf _ _ name value,
    fun q hq hq' => ?_⟩
  · rw [hhost', hhost₅, ← hhere, hentry₄, hlines, hinput]
  · rw [hhost', hhost₅, hframe₄ q (by rwa [hhere]) (by rwa [hhere]), hhost₃']

/-- A working directory `/w` holding no file, in a home directory `/h` holding nothing, with no
key in the environment. -/
def freshHost : Host :=
  ⟨⟨[("/", .directory), ("/w", .directory)]⟩, ⟨[("HOME", "/h")]⟩, "/w", "posix"⟩

/-- A machine on that host, with a key typed at the first question and none at the others. -/
def freshMachine : Machine := ⟨freshHost, ⟨[], []⟩, { input := "AIza-typed\n\n\n".toList }, 9⟩

/-- On that host the built-in settings are loaded, and the host stays as it was. -/
theorem load_freshHost :
    Settings.load freshHost none 9 = .ok ({ doc := Shared.ofValue Settings.defaults }, freshHost) :=
  Settings.load_of_absent_in_w 9 rfl rfl rfl (by simp +decide) rfl

/-- The setup of the `.env` file completes on that machine. -/
theorem setupWork_fresh_completes : ∃ M', (setupWork true).run.run freshMachine = (.ok (), M') := by
  have hload : Session.load freshMachine.host none freshMachine.depth =
      .ok { settings := { doc := Shared.ofValue Settings.defaults }, host := freshHost } := by
    simp only [Session.load, freshMachine, load_freshHost]
    rfl
  unfold setupWork
  rw [run_bind_of_ok (run_loadSettings hload)]
  -- after the settings are loaded, the rest of the work runs on a closed machine
  apply run_completes_of_toBool
  simp only [setupDotenv, ensureDotenv, currentDotenvKeys, pathExists, readLines, readText,
    writeBytes, appendText, ignoreDotenv, Host.locate, Path.resolve, Path.join, Path.normal,
    Path.parent, Path.parents, Disk.nameTooLong, Disk.underFile, Disk.pathExists, Disk.readFile,
    Disk.writeFile, Path.parts, Path.splitOn_slash, onSession, Session.createDotenv,
    Session.writeText, Host.dotenvPath]
  decide +kernel

/-- The setup of the `.env` file on that machine writes the key typed at the first question and
placeholders for the two others. -/
theorem fresh_setup_writes_typed_key :
    ∃ M', (setupWork true).run.run freshMachine = (.ok (), M') ∧
      M'.host.disk.entry? "/w/.env" = some (.file (Text.encodeUtf8
        ("# PyCodeAdvisor API Keys\nGOOGLE_API_KEY=AIza-typed\n" ++
          "OPENAI_API_KEY=your-key-here\nANTHROPIC_API_KEY=your-key-here\n"))) := by
  obtain ⟨M', hrun⟩ := setupWork_fresh_completes
  obtain ⟨known, hknown, hentry, -, -⟩ := setup_dotenv_rewrites hrun
  -- there is no `.env` file, so no key is known
  have hpath : freshMachine.host.dotenvPath = "/w/.env" := Host.dotenvPath_of_cwd rfl
  have hlines : freshMachine.host.fileLines freshMachine.host.dotenvPath = [] := by
    rw [hpath, Host.fileLines, Host.locate_dotenv]
    simp +decide
  have hknown' : ∀ key, known key = "" := by
    intro key
    rcases hknown key with ⟨pre, line, post, hl, -, -⟩ | ⟨-, h⟩
    · rw [hlines] at hl
      simp at hl
    · exact h
  have hhere : freshMachine.host.fileHere ".env" = "/w/.env" := by
    rw [Host.fileHere, ← Host.dotenvPath, hpath, Host.locate_dotenv]
  have hkeys : storedKeys known (typedLines 3 freshMachine.console.input) =
      [("GOOGLE_API_KEY", "AIza-typed"), ("OPENAI_API_KEY", "your-key-here"),
        ("ANTHROPIC_API_KEY", "your-key-here")] := by
    simp only [storedKeys, hknown']
    decide
  refine ⟨M', hrun, ?_⟩
  rw [← hhere, hentry, hkeys]
  rfl

end Commands

end SyntaxAdvisor
