import SyntaxAdvisor.Settings.Basic
import SyntaxAdvisor.Proofs.IntValues

/-!
# Configured services and the service asked for

Settings tell whether a service is configured in three places. The list of configured services
runs over the entries of the service mapping; the client settings look one service up by its
name, with an empty mapping for a name that is missing; validation runs the client settings and
reads a missing key as `false`. The three agree once the service mapping is a mapping of
mappings, which is exactly when the list of configured services can be made, and the name asked
for can be a key. Then validation never fails and holds exactly for a true name among the
configured ones, and the client settings can be had exactly for a configured name.

A mapping read from a file never holds two equal keys. A plain mapping value may repeat a key,
and look-up then sees only the first, so the lemmas ask of the one name looked up that it is
equal to at most one key (`Settings.NamesOnce`).
-/

namespace SyntaxAdvisor

/-! ## Filtering in a computation that may fail -/

section FilterMapM

variable {ε α β : Type} {f : α → Except ε (Option β)}

/-- Filtering succeeds once every step does, keeping what the steps keep. -/
theorem filterMapM_eq_ok_of_forall {g : α → Option β} {xs : List α}
    (h : ∀ x ∈ xs, f x = .ok (g x)) : xs.filterMapM f = .ok (xs.filterMap g) := by
  induction xs with
  | nil => rfl
  | cons x xs ih =>
    have hx := h x List.mem_cons_self
    have hxs := ih fun y hy => h y (List.mem_cons_of_mem x hy)
    cases hg : g x <;> simp [List.filterMapM_cons, hx, hxs, hg]

/-- A filtering that succeeded took a successful step at every item. -/
theorem exists_ok_of_filterMapM_eq_ok {xs : List α} {ys : List β}
    (h : xs.filterMapM f = .ok ys) : ∀ x ∈ xs, ∃ r, f x = .ok r := by
  induction xs generalizing ys with
  | nil => simp
  | cons x xs ih =>
    rw [List.filterMapM_cons, except_bind_eq_ok] at h
    obtain ⟨r, hx, hrest⟩ := h
    -- the rest was filtered too, whether `x` was kept or not
    obtain ⟨zs, hzs⟩ : ∃ zs, xs.filterMapM f = .ok zs := by
      cases r with
      | none => exact ⟨ys, hrest⟩
      | some b =>
        obtain ⟨zs, hzs, -⟩ := except_bind_eq_ok.mp hrest
        exact ⟨zs, hzs⟩
    intro y hy
    rcases List.mem_cons.mp hy with rfl | hy
    · exact ⟨r, hx⟩
    · exact ih hzs y hy

end FilterMapM

namespace Value

@[simp] theorem lookup_nil (key : Value) : lookup [] key = Option.none := rfl

@[simp] theorem lookup_cons (k v key : Value) (es : List (Value × Value)) :
    lookup ((k, v) :: es) key = if k.equal key then some v else lookup es key := by
  by_cases h : k.equal key <;> simp [lookup, h]

@[simp] theorem get_dict_str (es : List (Value × Value)) (k : String) (d : Value) :
    (Value.dict es).get (.str k) d = .ok ((lookup es (.str k)).getD d) := rfl

theorem get_dict_of_hashable (es : List (Value × Value)) {key : Value} (d : Value)
    (h : key.unhashable = Option.none) : (Value.dict es).get key d = .ok ((lookup es key).getD d) := by
  simp [get, h]

@[simp] theorem getItem_dict_str (es : List (Value × Value)) (k : String) :
    (Value.dict es).getItem (.str k) =
      match lookup es (.str k) with
      | some x => .ok x
      | Option.none => .error (.keyError (.str k)) := rfl

end Value

namespace Settings

/-- The key a service's settings hold: their `api_key` entry, nothing when there is none. -/
def serviceKey (entry : Value) : Value := (entry.field? "api_key").getD .none

/-- The names of the services whose settings hold a key (true as a value), in order. -/
def keyedNames (ps : List (Value × Value)) : List Value :=
  ps.filterMap fun p => if (serviceKey p.2).truthy then some p.1 else none

/-- The name `q` names at most one service: at most one key of the service mapping is equal to
it, as in every mapping read from a file, whose keys are distinct. -/
def NamesOnce (s : Settings) (q : Value) : Prop :=
  ∀ ps, s.data.get (.str "providers") (.dict []) = .ok (.dict ps) →
    (ps.countP fun p => p.1.equal q) ≤ 1

@[simp] theorem keyedNames_nil : keyedNames [] = [] := rfl

@[simp] theorem keyedNames_cons (k e : Value) (ps : List (Value × Value)) :
    keyedNames ((k, e) :: ps) =
      if (serviceKey e).truthy then k :: keyedNames ps else keyedNames ps := by
  by_cases h : (serviceKey e).truthy <;> simp [keyedNames, h]

/-- Reading the key of a service's settings succeeds exactly on a mapping, with its key. -/
theorem get_apiKey_eq_ok {entry key : Value} (h : entry.get (.str "api_key") .none = .ok key) :
    (∃ fs, entry = .dict fs) ∧ key = serviceKey entry := by
  cases entry with
  | dict fs =>
    simp only [Value.get_dict_str, Except.ok.injEq] at h
    exact ⟨⟨fs, rfl⟩, h.symm⟩
  | _ => simp [Value.get] at h

theorem get_apiKey_dict (fs : List (Value × Value)) :
    (Value.dict fs).get (.str "api_key") .none = .ok (serviceKey (.dict fs)) := rfl

/-- The configured services, when they can be listed: the service mapping is a mapping of
mappings, and they are the names whose settings hold a key. -/
theorem configured_eq_ok {s : Settings} {names : List Value} (h : s.configured = .ok names) :
    ∃ ps, s.data.get (.str "providers") (.dict []) = .ok (.dict ps) ∧
      (∀ p ∈ ps, ∃ fs, p.2 = .dict fs) ∧ names = keyedNames ps := by
  obtain ⟨services, hservices, hrest⟩ := except_bind_eq_ok.mp h
  obtain ⟨ps, hitems, hfilter⟩ := except_bind_eq_ok.mp hrest
  obtain rfl : services = .dict ps := by
    cases services <;> simp [Value.items] at hitems
    rw [hitems]
  -- each step read a key, so each service's settings are a mapping
  have hdicts : ∀ p ∈ ps, ∃ fs, p.2 = .dict fs := by
    rintro ⟨name, entry⟩ hp
    obtain ⟨r, hr⟩ := exists_ok_of_filterMapM_eq_ok hfilter _ hp
    obtain ⟨key, hkey, -⟩ := except_bind_eq_ok.mp hr
    exact (get_apiKey_eq_ok hkey).1
  refine ⟨ps, hservices, hdicts, ?_⟩
  rw [filterMapM_eq_ok_of_forall (g := fun p : Value × Value =>
    if (serviceKey p.2).truthy then some p.1 else none)] at hfilter
  · exact (Except.ok.inj hfilter).symm
  · rintro ⟨name, entry⟩ hp
    obtain ⟨fs, rfl⟩ := hdicts _ hp
    rfl

/-- A name that no key is equal to names no keyed service. -/
theorem keyedNames_any_eq_false {ps : List (Value × Value)} {q : Value}
    (h : ∀ p ∈ ps, p.1.equal q = false) : (keyedNames ps).any (·.equal q) = false := by
  rw [List.any_eq_false]
  intro k hk
  obtain ⟨p, hp, hkp⟩ := List.mem_filterMap.mp hk
  split at hkp
  · cases hkp
    simp [h p hp]
  · cases hkp

/-- Looking a name up in the service mapping finds a key exactly when the name is among the
keyed names, when at most one key is equal to it. -/
theorem serviceKey_lookup_truthy {ps : List (Value × Value)} {q : Value}
    (honce : (ps.countP fun p => p.1.equal q) ≤ 1) :
    (serviceKey ((Value.lookup ps q).getD (.dict []))).truthy =
      (keyedNames ps).any (·.equal q) := by
  induction ps with
  | nil => rfl
  | cons p ps ih =>
    obtain ⟨k, e⟩ := p
    by_cases hk : k.equal q
    · -- the first key is the one looked up: no later key is equal to the name
      have hrest : ∀ p ∈ ps, p.1.equal q = false := by
        simp only [List.countP_cons, hk, if_true] at honce
        have hzero : (ps.countP fun p => p.1.equal q) = 0 := by omega
        simpa using List.countP_eq_zero.mp hzero
      by_cases hkey : (serviceKey e).truthy <;>
        simp [hk, hkey, keyedNames_any_eq_false hrest]
    · simp only [List.countP_cons, hk] at honce
      by_cases hkey : (serviceKey e).truthy <;> simp [hk, hkey, ih (by simpa using honce)]

/-- Every service's settings are a mapping, and so are the settings any name looks up. -/
theorem lookup_getD_dict {ps : List (Value × Value)} (q : Value)
    (h : ∀ p ∈ ps, ∃ fs, p.2 = .dict fs) :
    ∃ fs, (Value.lookup ps q).getD (.dict []) = .dict fs := by
  induction ps with
  | nil => exact ⟨[], rfl⟩
  | cons p ps ih =>
    obtain ⟨k, e⟩ := p
    by_cases hk : k.equal q
    · obtain ⟨fs, hfs⟩ := h (k, e) List.mem_cons_self
      exact ⟨fs, by simpa [hk] using hfs⟩
    · simpa [hk] using ih fun p hp => h p (List.mem_cons_of_mem _ hp)

section Lookup

variable {s : Settings} {named q : Value} {ps fs : List (Value × Value)}
  (hq : s.serviceName named = .ok q)
  (hps : s.data.get (.str "providers") (.dict []) = .ok (.dict ps))
  (hhash : q.unhashable = none)
  (hentry : (Value.lookup ps q).getD (.dict []) = .dict fs)
include hq hps hhash hentry

/-- The client settings of a service whose settings hold a key: its name, key and model. -/
theorem clientSettings_of_key (hkey : (serviceKey (.dict fs)).truthy = true) :
    s.clientSettings named = .ok (object [("type", q), ("api_key", serviceKey (.dict fs)),
      ("model", (Value.lookup fs (.str "model")).getD .none)]) := by
  -- a true key is an entry of the settings, which item look-up finds
  obtain ⟨key, hlookup⟩ : ∃ key, Value.lookup fs (.str "api_key") = some key := by
    cases h : Value.lookup fs (.str "api_key") with
    | none => simp [serviceKey, Value.field?, h, Value.truthy] at hkey
    | some key => exact ⟨key, rfl⟩
  have hkey' : serviceKey (.dict fs) = key := by simp [serviceKey, Value.field?, hlookup]
  rw [hkey'] at hkey ⊢
  simp [clientSettings, hq, hps, Value.get_dict_of_hashable _ _ hhash, hentry, hlookup, hkey]

/-- Without a key, the client settings fail with a value error. -/
theorem clientSettings_of_no_key (hkey : (serviceKey (.dict fs)).truthy = false) :
    ∃ m, s.clientSettings named = .error (.valueError m) := by
  simp only [clientSettings, hq, hps, Value.get_dict_of_hashable _ _ hhash, hentry,
    except_ok_bind, get_apiKey_dict, hkey, Bool.not_false, if_true]
  unfold Value.shown
  split
  · exact ⟨_, rfl⟩
  · exact ⟨_, rfl⟩

end Lookup

/-- Validation and the client settings agree with the list of configured services. Whenever
that list can be made and the name asked for can be a key, named at most once, validation does
not fail and holds exactly when the name is true and configured, and the client settings can be
had exactly for a configured name. -/
theorem isValid_eq_configured {s : Settings} {named q : Value} {names : List Value}
    (hnames : s.configured = .ok names) (hq : s.serviceName named = .ok q)
    (hhash : q.unhashable = none) (honce : s.NamesOnce q) :
    s.isValid named = .ok (q.truthy && names.any (·.equal q)) ∧
      ((∃ c, s.clientSettings named = .ok c) ↔ names.any (·.equal q) = true) := by
  obtain ⟨ps, hps, hdicts, rfl⟩ := configured_eq_ok hnames
  -- the settings of the service asked for: an entry of the mapping, or an empty mapping
  obtain ⟨fs, hentry⟩ := lookup_getD_dict q hdicts
  have hkey : (serviceKey (.dict fs)).truthy = (keyedNames ps).any (·.equal q) := by
    rw [← hentry]
    exact serviceKey_lookup_truthy (honce ps hps)
  cases hany : (keyedNames ps).any (·.equal q)
  · -- no key: the client settings fail with a value error, which validation reads as `false`
    obtain ⟨m, hcs⟩ := clientSettings_of_no_key hq hps hhash hentry (hkey.trans hany)
    simp [isValid, hcs]
  · have hcs := clientSettings_of_key hq hps hhash hentry (hkey.trans hany)
    refine ⟨?_, by simp [hcs]⟩
    simp [isValid, hcs, object, hkey.trans hany]

/-- Settings with one keyed service and no default service named: the default service `openai`
is configured, and validation holds for it. -/
theorem isValid_eq_configured_openai :
    ({ doc := Shared.ofValue (object [("providers",
        object [("openai", object [("api_key", .str "k")])])]) } : Settings).isValid .none =
      .ok ((Value.str "openai").truthy && [Value.str "openai"].any (·.equal (.str "openai"))) ∧
    ((∃ c, ({ doc := Shared.ofValue (object [("providers",
        object [("openai", object [("api_key", .str "k")])])]) } : Settings).clientSettings .none =
          .ok c) ↔ [Value.str "openai"].any (·.equal (.str "openai")) = true) :=
  isValid_eq_configured (by rfl) (by rfl) rfl fun ps hps => by
    obtain rfl : ps = [(.str "openai", object [("api_key", .str "k")])] := by
      injection hps with hps
      injection hps with hps
      exact hps.symm
    simp

/-- Settings whose default service is a list: no service is configured, yet validating the
default service fails instead of answering `false`, since a list cannot be a key. -/
theorem isValid_list_default_fails :
    ({ doc := Shared.ofValue (object [("default_provider", .list [.int 1])]) } :
        Settings).configured = .ok [] ∧
    ({ doc := Shared.ofValue (object [("default_provider", .list [.int 1])]) } :
        Settings).isValid .none = .error (.typeError "unhashable type: 'list'") :=
  ⟨by rfl, by rfl⟩

end Settings

end SyntaxAdvisor
