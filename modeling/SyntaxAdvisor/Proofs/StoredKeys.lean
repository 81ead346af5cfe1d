import SyntaxAdvisor.Proofs.SettingsOverrides

/-!
# Storing a service's key and the default service

Setting a service's key (`Settings.withService`) takes four steps, each looking its way down from
the top again: it makes sure the settings hold a service mapping, then that the service mapping
holds an entry for the service, stores the key there, and stores the model when one is given. On
settings laid out as a tree whose value can be stored into along the key's path
`providers.<name>.api_key` (`Settings.keyPath`), this is storing the key at that path
(`withService_storeAt`): the empty mappings the first two steps make are the ones storing at the
path makes on its way (`Value.storeAt_ensureAt`).

Setting the default service stores a new scalar under `default_provider` at the top; the settings
then read as the mapping with that key set to the scalar's value (`value_setItem_root`), whatever
that value is.
-/

namespace SyntaxAdvisor

namespace Value

/-- `v` with an empty mapping stored at a path where it holds nothing. -/
def ensureAt (v : Value) (path : List String) : Value :=
  if v.atPath path = Option.none then v.storeAt path (.dict []) else v

theorem storeAt_of_not_dict {v : Value} (hv : ∀ es, v ≠ .dict es) (path : List String)
    (x : Value) : v.storeAt path x = v := by
  cases v with
  | dict es => exact absurd rfl (hv es)
  | _ => cases path with
    | nil => rfl
    | cons k ks => cases ks <;> rfl

theorem storeAt_dict_single (es : List (Value × Value)) (k : String) (x : Value) :
    (Value.dict es).storeAt [k] x = .dict (setEntry es (.str k) x) := rfl

/-- Setting a key twice leaves the second value. -/
theorem setEntry_setEntry (es : List (Value × Value)) (k : String) (a b : Value) :
    setEntry (setEntry es (.str k) a) (.str k) b = setEntry es (.str k) b := by
  by_cases h : (es.any fun e => equal e.1 (.str k)) = true
  · -- the key is there: both change its entries in place, which keeps the keys
    have ha : setEntry es (.str k) a =
        es.map fun e => if equal e.1 (.str k) then (e.1, a) else e := by
      rw [setEntry, if_pos h]
    have hkeys : ((es.map fun e => if equal e.1 (.str k) then (e.1, a) else e).any
        fun e => equal e.1 (.str k)) = true := by
      obtain ⟨⟨k₀, v⟩, he, hek⟩ := List.any_eq_true.1 h
      refine List.any_eq_true.2 ⟨_, List.mem_map_of_mem he, ?_⟩
      simp_all
    rw [ha, setEntry, if_pos hkeys, setEntry, if_pos h, List.map_map]
    refine List.map_congr_left fun e _ => ?_
    obtain ⟨k₀, v⟩ := e
    by_cases he : equal k₀ (.str k) = true <;> simp [he]
  · -- the key is missing: it is added last, and then changed there
    have hnone : ∀ e ∈ es, equal e.1 (.str k) = false := fun e he =>
      Bool.eq_false_iff.2 fun hek => h (List.any_eq_true.2 ⟨e, he, hek⟩)
    have ha : setEntry es (.str k) a = es ++ [(Value.str k, a)] := by rw [setEntry, if_neg h]
    have hkeys : ((es ++ [(Value.str k, a)]).any fun e => equal e.1 (.str k)) = true := by simp
    rw [ha, setEntry, if_pos hkeys, setEntry, if_neg h, List.map_append,
      map_setValue_of_forall hnone]
    simp

/-- Storing below a path at which an empty mapping was just made where there was nothing stores
as if it had not been made: storing makes the empty mappings it needs on its way. -/
theorem storeAt_storeAt_empty : ∀ (q : List String) (v : Value), v.atPath q = Option.none →
    ∀ (r : List String), r ≠ [] → ∀ x,
      (v.storeAt q (.dict [])).storeAt (q ++ r) x = v.storeAt (q ++ r) x
  | [], v, h, _, _, _ => by simp at h
  | k :: q, v, h, r, hr, x => by
    by_cases hv : ∃ es, v = .dict es
    case neg =>
      rw [storeAt_of_not_dict fun es he => hv ⟨es, he⟩]
    obtain ⟨es, rfl⟩ := hv
    obtain ⟨k₂, r, rfl⟩ := List.exists_cons_of_ne_nil hr
    cases q with
    | nil =>
      have hlook : lookup es (.str k) = Option.none := by simpa [atPath_dict_cons] using h
      simp only [List.singleton_append, storeAt_dict_single, storeAt_dict_cons,
        lookup_setEntry_self, Option.getD_some, setEntry_setEntry, hlook, Option.getD_none]
    | cons k₁ q =>
      -- below `k` there is nothing at the rest of the path, in the value there or in the empty
      -- mapping standing for a missing one
      have hc : ((lookup es (.str k)).getD (.dict [])).atPath (k₁ :: q) = Option.none := by
        cases hlook : lookup es (.str k) with
        | none => rfl
        | some c => simpa [atPath_dict_cons, hlook] using h
      have ih := storeAt_storeAt_empty (k₁ :: q) _ hc (k₂ :: r) (List.cons_ne_nil _ _) x
      simp only [List.cons_append] at ih ⊢
      simp only [storeAt_dict_cons, lookup_setEntry_self, Option.getD_some, setEntry_setEntry, ih]

theorem storeAt_ensureAt (v : Value) (q r : List String) (hr : r ≠ []) (x : Value) :
    (v.ensureAt q).storeAt (q ++ r) x = v.storeAt (q ++ r) x := by
  unfold ensureAt
  split
  case isTrue h => exact storeAt_storeAt_empty q v h r hr x
  case isFalse => rfl

/-- Storing an empty mapping at a path keeps a value storable along any longer path. -/
theorem storable_storeAt_empty : ∀ (q : List String) (v : Value) (r : List String), r ≠ [] →
    v.Storable (q ++ r) → (v.storeAt q (.dict [])).Storable (q ++ r)
  | [], v, _, _, h => by
    cases v <;> exact h
  | [k], v, r, hr, h => by
    cases v with
    | dict es =>
      obtain ⟨k₂, r, rfl⟩ := List.exists_cons_of_ne_nil hr
      simp only [List.singleton_append, storeAt_dict_single, Storable, lookup_setEntry_self]
      exact storable_empty k₂ r
    | _ => simp [Storable] at h
  | k :: k₁ :: q, v, r, hr, h => by
    cases v with
    | dict es =>
      -- the value below `k`, or the empty mapping standing for a missing one, is storable along
      -- the rest of the path
      have hc : ((lookup es (.str k)).getD (.dict [])).Storable (k₁ :: q ++ r) := by
        cases hlook : lookup es (.str k) with
        | none => exact storable_empty k₁ (q ++ r)
        | some c => simpa [Storable, hlook] using h
      have ih := storable_storeAt_empty (k₁ :: q) _ r hr hc
      simp only [List.cons_append] at ih ⊢
      simp only [storeAt_dict_cons, Storable, lookup_setEntry_self]
      exact ih
    | _ => simp [Storable] at h

theorem storable_ensureAt (v : Value) (q r : List String) (hr : r ≠ [])
    (h : v.Storable (q ++ r)) : (v.ensureAt q).Storable (q ++ r) := by
  unfold ensureAt
  split
  case isTrue => exact storable_storeAt_empty q v r hr h
  case isFalse => exact h

/-- Only a mapping can be stored into. -/
theorem eq_dict_of_storable {v : Value} {path : List String} (h : v.Storable path) :
    ∃ es, v = .dict es := by
  cases v with
  | dict es => exact ⟨es, rfl⟩
  | _ => simp [Storable] at h

theorem storable_of_lookup {es : List (Value × Value)} {k k₂ : String} {rest : List String}
    {c : Value} (h : (Value.dict es).Storable (k :: k₂ :: rest))
    (hlook : lookup es (.str k) = some c) : c.Storable (k₂ :: rest) := by
  simpa [Storable, hlook] using h

/-- Storing along a path a value can be stored into along sets that path and nothing apart from
it. -/
theorem setAt_storeAt : ∀ (path : List String) (v : Value), v.Storable path → ∀ x,
    SetAt v path x (v.storeAt path x)
  | [], v, h, _ => by cases v <;> simp [Storable] at h
  | [k], v, h, x => by
    cases v with
    | dict es => exact setAt_setEntry_last es k x
    | _ => simp [Storable] at h
  | k :: k₂ :: r, v, h, x => by
    cases v with
    | dict es =>
      rw [storeAt_dict_cons]
      cases hlook : lookup es (.str k) with
      | none =>
        exact setAt_setEntry (setAt_storeAt (k₂ :: r) _ (storable_empty k₂ r) x) (.inr ⟨hlook, rfl⟩)
      | some c =>
        have hc : c.Storable (k₂ :: r) := by simpa [Storable, hlook] using h
        exact setAt_setEntry (setAt_storeAt (k₂ :: r) c hc x) (.inl hlook)
    | _ => simp [Storable] at h

end Value

namespace Shared

variable {s : Shared}

/-- A store that keeps the places of a mapping tree finds the same entry for a key. -/
theorem HoldsEntries.find?_frame {s' : Shared} {key : Value} : ∀ {entries : List (Nat × Nat)}
    {es : List (Value × Value)} {F : List Nat}, HoldsEntries s entries es F →
    (∀ j ∈ F, j < s'.parts.size ∧ s'.part j = s.part j) →
    (entries.find? fun (k, _) => s'.keyIs k key) = entries.find? fun (k, _) => s.keyIs k key := by
  intro entries
  -- on the entries: a mapping tree's entries are its parts in turn
  induction entries with
  | nil => intros; rfl
  | cons e rest ih =>
    intro es F hE hagree
    cases hE with
    | cons hk _ hs _ _ =>
      have hk' := hk.frame fun j hj => hagree j (by simp [hj])
      simp only [List.find?_cons, ih hs fun j hj => hagree j (by simp [hj])]
      simp only [keyIs, hk.valueAt, hk'.valueAt]

/-- The entries of a tree are found alike once a part is added. -/
theorem HoldsEntries.find?_add {entries : List (Nat × Nat)} {es : List (Value × Value)}
    {F : List Nat} (hE : HoldsEntries s entries es F) (p : Part) (key : Value) :
    (entries.find? fun (k, _) => (s.add p).1.keyIs k key) =
      entries.find? fun (k, _) => s.keyIs k key :=
  hE.find?_frame fun j hj =>
    have hlt := hE.nodup.2 j hj
    ⟨by simp; omega, part_add_of_lt p hlt⟩

theorem valueWithin_succ_dict {f i : Nat} {entries : List (Nat × Nat)}
    (hp : s.part i = .dict entries) :
    s.valueWithin (f + 1) i = .dict (entries.map fun (k, v) => (s.valueWithin f k, s.valueWithin f v)) := by
  rw [Shared.valueWithin, hp]

theorem HoldsEntries.length_le_size {entries : List (Nat × Nat)} {es : List (Value × Value)}
    {F : List Nat} (hE : HoldsEntries s entries es F) : F.length ≤ s.parts.size := by
  have := (hE.nodup.1.subperm fun j hj => List.mem_range.2 (hE.nodup.2 j hj)).length_le
  simpa using this

/-- The entries of a mapping tree, the entry for `key` now naming the part at `y`, read in a store
that keeps the tree's places: the plain entries with `key` set to what `y` reads as. -/
theorem HoldsEntries.valueWithin_setPlace {s' : Shared} (key : Value) {y f : Nat} {c : Value} :
    ∀ {entries : List (Nat × Nat)} {es : List (Value × Value)} {F : List Nat},
    HoldsEntries s entries es F → (∀ j ∈ F, j < s'.parts.size ∧ s'.part j = s.part j) →
    F.length ≤ f → s'.valueWithin f y = c →
    ((entries.map fun (k, v) => if s.keyIs k key then (k, y) else (k, v)).map
      fun (k, v) => (s'.valueWithin f k, s'.valueWithin f v)) =
      es.map fun (k, v) => if Value.equal k key then (k, c) else (k, v) := by
  intro entries
  -- on the entries: a mapping tree's entries are its parts in turn
  induction entries with
  | nil =>
    intro es F hE _ _ _
    cases hE
    rfl
  | cons e rest ih =>
    intro es F hE hagree hf hy
    cases hE with
    | @cons k₀ x₀ _ kv xv es S T U hk hx hs _ _ =>
      simp only [List.length_append] at hf
      have hk' := hk.frame fun j hj => hagree j (by simp [hj])
      have hx' := hx.frame fun j hj => hagree j (by simp [hj])
      have hkey : s.keyIs k₀ key = Value.equal kv key := by rw [keyIs, hk.valueAt]
      have ih := ih hs (fun j hj => hagree j (by simp [hj])) (by omega) hy
      simp only [List.map_cons, hkey, ih]
      by_cases hmatch : Value.equal kv key = true
      · simp [hmatch, hk'.valueWithin f (by omega), hy]
      · simp [hmatch, hk'.valueWithin f (by omega), hx'.valueWithin f (by omega)]

variable {i : Nat} {es : List (Value × Value)} {T : List Nat}

/-- A mapping tree contains a text key exactly when its plain mapping has an entry for it. -/
theorem Holds.contains_str (h : Holds s i (.dict es) T) (key : String) :
    s.contains i (.str key) = .ok (Value.lookup es (.str key)).isSome := by
  obtain ⟨entries, F, -, hp, hE, -, -, -⟩ := h.dict_inv
  rw [contains_dict hp]
  cases hfind : entries.find? fun (k, _) => s.keyIs k (.str key) with
  | none =>
    rw [(hE.find?_eq_none_iff _).1 hfind]
    exact congrArg Except.ok (List.any_eq_false.2 fun e he => by simpa using List.find?_eq_none.1 hfind e he)
  | some e =>
    obtain ⟨kp, cp⟩ := e
    obtain ⟨c, Tc, hc, -⟩ := hE.holds_of_mem (List.mem_of_find?_eq_some hfind)
    have hkey := List.find?_some hfind
    rw [hE.lookup_of_find? hfind hc]
    exact congrArg Except.ok (List.any_eq_true.2 ⟨_, List.mem_of_find?_eq_some hfind, hkey⟩)

theorem Holds.size_not_mem {v : Value} (h : Holds s i v T) : s.parts.size ∉ T :=
  fun hx => absurd (h.nodup.2 _ hx) (Nat.lt_irrefl _)

/-- Looking a text key up in a mapping part that works finds the key's entry and leaves the
store as it was. -/
theorem getItem_dict_eq_ok {entries : List (Nat × Nat)} (hp : s.part i = .dict entries)
    {key : String} {r : Shared × Nat} (h : s.getItem i (.str key) = .ok r) :
    ∃ kp cp, (entries.find? fun (k, _) => s.keyIs k (.str key)) = some (kp, cp) ∧ r = (s, cp) := by
  cases hfind : entries.find? fun (k, _) => s.keyIs k (.str key) with
  | none => simp [getItem, hp, Value.unhashable, hfind] at h
  | some e =>
    obtain ⟨kp, cp⟩ := e
    rw [getItem_dict_of_find? hp hfind] at h
    cases h
    exact ⟨kp, cp, rfl, rfl⟩

end Shared

namespace Settings

open Shared

/-- The path of a service's key in the settings. -/
def keyPath (name : String) : List String := ["providers", name, "api_key"]

theorem runSteps_cons_eq_none {d d' : Shared} {step : Shared → Except Failure Shared}
    {rest : List (Shared → Except Failure Shared)} (h : runSteps d (step :: rest) = (d', none)) :
    ∃ d₁, step d = .ok d₁ ∧ runSteps d₁ rest = (d', none) := by
  rw [runSteps] at h
  cases hs : step d with
  | ok d₁ =>
    rw [hs] at h
    exact ⟨d₁, rfl, h⟩
  | error f =>
    rw [hs] at h
    cases h

theorem ensureMapping_of_contains {d : Shared} {i : Nat} {key : Value} {b : Bool}
    (hc : d.contains i key = .ok b) :
    ensureMapping i key d = if b then .ok d else (d.add (.dict [])).1.setItem i key d.parts.size := by
  rw [ensureMapping, hc]
  cases b <;> rfl

/-- An empty mapping new to a store is a tree on its own place. -/
theorem holds_add_empty (d : Shared) :
    Holds (d.add (.dict [])).1 d.parts.size (.dict []) [d.parts.size] :=
  .dict (by simp) (part_add_self _ _) .nil List.not_mem_nil (by simp [TextKeysOnce])

section Steps

variable {d d₁ : Shared} {i : Nat} {W : Value} {T : List Nat}

/-- Making sure of a mapping under a text key of a mapping tree makes an empty one where the key
is missing. -/
theorem ensureMapping_holds (h : Holds d i W T) {key : String} {rest : List String}
    (hst : W.Storable (key :: rest)) (hrun : ensureMapping i (.str key) d = .ok d₁) :
    ∃ T₁, Holds d₁ i (W.ensureAt [key]) T₁ ∧ d₁.root = d.root := by
  obtain ⟨es, rfl⟩ := Value.eq_dict_of_storable hst
  rw [ensureMapping_of_contains (h.contains_str key)] at hrun
  cases hlook : Value.lookup es (.str key) with
  | some c =>
    -- the key is there: nothing changes
    simp only [hlook, Option.isSome_some, if_true, Except.ok.injEq] at hrun
    subst hrun
    refine ⟨T, ?_, rfl⟩
    rwa [Value.ensureAt, if_neg (by simp [Value.atPath_dict_cons, hlook])]
  | none =>
    simp only [hlook, Option.isSome_none, Bool.false_eq_true, if_false] at hrun
    have hset : setNestedIn (d.add (.dict [])).1 d.parts.size i ([key].map .str) = (d₁, none) := by
      simp only [List.map_cons, List.map_nil, setNestedIn, hrun]
    obtain ⟨W', T', hW', -, hroot, -, -, rfl⟩ := setNestedIn_setAt [key] (List.cons_ne_nil _ _)
      (h.add _) (holds_add_empty d) h.size_not_mem hset
    refine ⟨T', ?_, by simpa using hroot⟩
    rwa [Value.ensureAt, if_pos (by simp [Value.atPath_dict_cons, hlook])]

/-- Making sure of a mapping under a text key in the mapping found under another makes an empty
one where the key is missing. -/
theorem ensureMapping_below (h : Holds d i W T) {k₁ k₂ : String} {rest : List String}
    (hst : W.Storable (k₁ :: k₂ :: rest))
    (hrun : (do let (d', p) ← d.getItem i (.str k₁); ensureMapping p (.str k₂) d') = .ok d₁) :
    ∃ T₁, Holds d₁ i (W.ensureAt [k₁, k₂]) T₁ ∧ d₁.root = d.root := by
  obtain ⟨es, rfl⟩ := Value.eq_dict_of_storable hst
  obtain ⟨entries, F, hi, hp, hE, -, -, -⟩ := h.dict_inv
  obtain ⟨r, hget, hstep⟩ := except_bind_eq_ok.1 hrun
  obtain ⟨kp, p, hfind, rfl⟩ := getItem_dict_eq_ok hp hget
  dsimp only at hstep
  -- the entry found for `k₁` holds a mapping tree, as the path can be stored into
  obtain ⟨c, Tc, hc, -⟩ := hE.holds_of_mem (List.mem_of_find?_eq_some hfind)
  have hlook := hE.lookup_of_find? hfind hc
  obtain ⟨cs, rfl⟩ := Value.eq_dict_of_storable (Value.storable_of_lookup hst hlook)
  rw [ensureMapping_of_contains (hc.contains_str k₂)] at hstep
  have hpath : (Value.dict es).atPath [k₁, k₂] = Value.lookup cs (.str k₂) := by
    simp [Value.atPath_dict_cons, hlook]
  cases hlook₂ : Value.lookup cs (.str k₂) with
  | some e =>
    simp only [hlook₂, Option.isSome_some, if_true, Except.ok.injEq] at hstep
    subst hstep
    refine ⟨T, ?_, rfl⟩
    rwa [Value.ensureAt, if_neg (by simp [hpath, hlook₂])]
  | none =>
    simp only [hlook₂, Option.isSome_none, Bool.false_eq_true, if_false] at hstep
    -- storing a new empty mapping along `k₁, k₂` takes the same step
    have hset : setNestedIn (d.add (.dict [])).1 d.parts.size i ([k₁, k₂].map .str) =
        (d₁, none) := by
      rw [List.map_cons, List.map_cons, List.map_nil,
        setNestedIn_descend_of_find? ((part_add_of_lt _ hi).trans hp)
          ((hE.find?_add _ _).trans hfind) []]
      simp only [setNestedIn, hstep]
    obtain ⟨W', T', hW', -, hroot, -, -, rfl⟩ := setNestedIn_setAt [k₁, k₂] (by simp)
      (h.add _) (holds_add_empty d) h.size_not_mem hset
    refine ⟨T', ?_, by simpa using hroot⟩
    rwa [Value.ensureAt, if_pos (by simp [hpath, hlook₂])]

/-- Storing a text under a text key of the mapping found under two others. -/
theorem setField_holds (h : Holds d i W T) {k₁ k₂ k₃ : String}
    (hst : W.Storable [k₁, k₂, k₃]) (key : String)
    (hrun : (do
      let (d', p) ← d.getItem i (.str k₁)
      let (d', e) ← d'.getItem p (.str k₂)
      let (d', xi) := d'.addValue (.str key)
      d'.setItem e (.str k₃) xi) = .ok d₁) :
    ∃ T₁, Holds d₁ i (W.storeAt [k₁, k₂, k₃] (.str key)) T₁ ∧ d₁.root = d.root := by
  obtain ⟨es, rfl⟩ := Value.eq_dict_of_storable hst
  obtain ⟨entries, F, hi, hp, hE, -, -, -⟩ := h.dict_inv
  obtain ⟨r, hget, hstep⟩ := except_bind_eq_ok.1 hrun
  obtain ⟨kp, p, hfind, rfl⟩ := getItem_dict_eq_ok hp hget
  dsimp only at hstep
  -- below `k₁` stands a mapping tree, in which `k₂` is found
  obtain ⟨c, Tc, hc, -⟩ := hE.holds_of_mem (List.mem_of_find?_eq_some hfind)
  obtain ⟨cs, rfl⟩ := Value.eq_dict_of_storable
    (Value.storable_of_lookup hst (hE.lookup_of_find? hfind hc))
  obtain ⟨centries, G, hpi, hpp, hG, -, -, -⟩ := hc.dict_inv
  obtain ⟨r, hget₂, hstep⟩ := except_bind_eq_ok.1 hstep
  obtain ⟨kq, q, hfind₂, rfl⟩ := getItem_dict_eq_ok hpp hget₂
  have hstep : (d.add (.scalar (.str key))).1.setItem q (.str k₃) d.parts.size = .ok d₁ := hstep
  -- storing the new text along all three keys takes the same steps
  have hset : setNestedIn (d.add (.scalar (.str key))).1 d.parts.size i ([k₁, k₂, k₃].map .str) =
      (d₁, none) := by
    rw [List.map_cons, List.map_cons, List.map_cons, List.map_nil,
      setNestedIn_descend_of_find? ((part_add_of_lt _ hi).trans hp)
        ((hE.find?_add _ _).trans hfind) [.str k₃],
      setNestedIn_descend_of_find? ((part_add_of_lt _ hpi).trans hpp)
        ((hG.find?_add _ _).trans hfind₂) []]
    simp only [setNestedIn, hstep]
  obtain ⟨W', T', hW', -, hroot, -, -, rfl⟩ := setNestedIn_setAt [k₁, k₂, k₃] (by simp)
    (h.add _) (.scalar (by simp) (part_add_self _ _) rfl) h.size_not_mem hset
  exact ⟨T', hW', by simpa using hroot⟩

/-- Setting a service's key, with no model, in settings laid out as a tree that can be stored
into along the key's path stores the key at that path. -/
theorem withService_storeAt (h : Holds d d.root W T) {name : String}
    (hst : W.Storable (keyPath name)) (key : String)
    (hrun : withService d (.str name) (.str key) .none = (d₁, none)) :
    ∃ T₁, Holds d₁ d.root (W.storeAt (keyPath name) (.str key)) T₁ ∧ d₁.root = d.root := by
  unfold withService at hrun
  obtain ⟨e₁, hs₁, hrun⟩ := runSteps_cons_eq_none hrun
  obtain ⟨e₂, hs₂, hrun⟩ := runSteps_cons_eq_none hrun
  obtain ⟨e₃, hs₃, hrun⟩ := runSteps_cons_eq_none hrun
  obtain ⟨e₄, hs₄, hrun⟩ := runSteps_cons_eq_none hrun
  -- no model is stored, and nothing is left to run
  cases hs₄
  cases hrun
  -- each step keeps the tree and its top, the first two making the mappings on the way
  have hst₁ := Value.storable_ensureAt W ["providers"] [name, "api_key"] (by simp) hst
  have hst₂ := Value.storable_ensureAt _ ["providers", name] ["api_key"] (by simp) hst₁
  obtain ⟨T₁, h₁, hr₁⟩ := ensureMapping_holds h hst hs₁
  obtain ⟨T₂, h₂, hr₂⟩ := ensureMapping_below h₁ hst₁ hs₂
  obtain ⟨T₃, h₃, hr₃⟩ := setField_holds h₂ hst₂ key hs₃
  refine ⟨T₃, ?_, by rw [hr₃, hr₂, hr₁]⟩
  have hvalue : ((W.ensureAt ["providers"]).ensureAt ["providers", name]).storeAt
      ["providers", name, "api_key"] (.str key) = W.storeAt (keyPath name) (.str key) :=
    (Value.storeAt_ensureAt _ ["providers", name] ["api_key"] (by simp) _).trans
      (Value.storeAt_ensureAt W ["providers"] [name, "api_key"] (by simp) _)
  rwa [← hvalue]

/-- Storing a new scalar part under a text key at the top of a mapping tree: the data reads as the
mapping with the key set to the scalar's value, whatever that value is. -/
theorem value_setItem_root {es : List (Value × Value)} (h : Holds d d.root (.dict es) T)
    (key : String) (c : Value)
    (hset : (d.add (.scalar c)).1.setItem d.root (.str key) d.parts.size = .ok d₁) :
    d₁.value = .dict (Value.setEntry es (.str key) c) := by
  obtain ⟨entries, F, hi, hp, hE, hiF, -, rfl⟩ := h.dict_inv
  have hp₁ : (d.add (.scalar c)).1.part d.root = .dict entries := (part_add_of_lt _ hi).trans hp
  have hE₁ := hE.add (.scalar c)
  have hF := hE.length_le_size
  cases hfind : entries.find? fun (k, _) => d.keyIs k (.str key) with
  | some e =>
    obtain ⟨kp, cp⟩ := e
    rw [setItem_dict_of_find? hp₁ ((hE.find?_add _ _).trans hfind), Except.ok.injEq] at hset
    -- the entry for `key` names the new part, which reads as `c`
    have hany : (es.any fun (k, _) => Value.equal k (.str key)) = true := by
      obtain ⟨c', Tc, hc, -⟩ := hE.holds_of_mem (List.mem_of_find?_eq_some hfind)
      have hlook := hE.lookup_of_find? hfind hc
      rw [Value.lookup, Option.map_eq_some_iff] at hlook
      obtain ⟨e, he, -⟩ := hlook
      have hkey := List.find?_some he
      exact List.any_eq_true.2 ⟨e, List.mem_of_find?_eq_some he, by simpa using hkey⟩
    -- the store after: the tree's places kept, the root's entries changed, and the new part
    have hsize : d₁.parts.size = d.parts.size + 1 := by rw [← hset]; simp
    have hp' : d₁.part d.root = .dict (entries.map fun (k, v) =>
        if (d.add (.scalar c)).1.keyIs k (.str key) then (k, d.parts.size) else (k, v)) := by
      rw [← hset]
      exact part_put_self _ (by simp; omega)
    have hkept : ∀ j ∈ F, j < d₁.parts.size ∧ d₁.part j = (d.add (.scalar c)).1.part j :=
      fun j hj => ⟨by rw [hsize]; have := hE.nodup.2 j hj; omega,
        by rw [← hset]; exact part_put_of_ne _ fun (e : j = d.root) => hiF (e ▸ hj)⟩
    have hx : d₁.valueWithin (d.parts.size + 1) d.parts.size = c := by
      rw [← hset]
      simp [Shared.valueWithin, part_put_of_ne _ (Nat.ne_of_gt hi)]
    rw [Shared.value, Shared.valueAt, show d₁.root = d.root by rw [← hset]; rfl, hsize,
      valueWithin_succ_dict hp', hE₁.valueWithin_setPlace _ hkept (by omega) hx, Value.setEntry,
      if_pos hany]
  | none =>
    -- a new last entry, keyed by a new text part, names the new part
    have hany : (es.any fun (k, _) => Value.equal k (.str key)) = false := by
      have hlook := (hE.find?_eq_none_iff _).1 hfind
      simpa [Value.lookup] using hlook
    rw [setItem_dict_of_find?_none hp₁ ((hE.find?_add _ _).trans hfind), Except.ok.injEq] at hset
    -- the store after: the old places kept, the value at `d.parts.size` and the key after it
    have hsize : d₁.parts.size = d.parts.size + 2 := by rw [← hset]; simp
    have hp' : d₁.part d.root = .dict (entries ++ [(d.parts.size + 1, d.parts.size)]) := by
      rw [← hset, part_put_self _ (by simp; omega), size_add]
    have hk : d₁.part (d.parts.size + 1) = .scalar (.str key) := by
      rw [← hset, part_put_of_ne _ (by omega),
        show d.parts.size + 1 = (d.add (.scalar c)).1.parts.size by simp, part_add_self]
    have hx : d₁.part d.parts.size = .scalar c := by
      rw [← hset, part_put_of_ne _ (by omega), part_add_of_lt _ (by simp), part_add_self]
    have hE' : HoldsEntries d₁ entries es F := by
      rw [← hset]
      exact (hE₁.add _).put hiF _
    rw [Shared.value, Shared.valueAt, show d₁.root = d.root by rw [← hset]; rfl, hsize,
      valueWithin_succ_dict hp', List.map_append, hE'.valueWithin _ (by omega), Value.setEntry,
      if_neg (by simpa using hany)]
    simp [Shared.valueWithin, hk, hx]

end Steps

end Settings

end SyntaxAdvisor
