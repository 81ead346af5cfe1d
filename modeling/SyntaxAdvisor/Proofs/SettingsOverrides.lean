import SyntaxAdvisor.Proofs.SharedTrees
import SyntaxAdvisor.Proofs.ConfiguredServices
import SyntaxAdvisor.Settings.Load

/-!
# Storing settings at a path of keys

Settings are overridden by storing a value at a path of text keys, each key looked up in a
mapping and a new empty mapping made for each key missing on the way (`setNestedIn`). On plain
values the effect is `Value.SetAt v path x w`: `w` reads `x` at the path and reads as `v` at
every path apart from it (neither a prefix of the other).

When the settings data is laid out as a tree (no part shared, see `Shared.Holds`), storing at a
path that works has exactly this effect on the tree's value, and the result is a tree again
(`setNestedIn_setAt`). The environment's overrides are such stores, one per variable that is
set and not empty, at paths apart from each other; so after them each such path holds its
variable's value and every path apart from all of them reads as before
(`foldlM_overrideStep`).
-/

namespace SyntaxAdvisor

namespace Value

/-- The value at a path of text keys, each looked up in a mapping: nothing when a key is missing
or a value on the way is not a mapping. -/
def atPath : Value → List String → Option Value
  | v, [] => some v
  | v, k :: ks => (v.field? k).bind fun w => w.atPath ks

/-- Two paths of keys are apart when neither leads to or through the other. -/
def Apart (p q : List String) : Prop := ¬ p <+: q ∧ ¬ q <+: p

/-- `SetAt v path x w`: `w` is `v` with `x` stored at `path`. Reading `path` gives `x`, and
reading any path apart from it gives what `v` gives there. -/
def SetAt (v : Value) (path : List String) (x w : Value) : Prop :=
  w.atPath path = some x ∧ ∀ ks, Apart ks path → w.atPath ks = v.atPath ks

/-- `v` with `x` stored at a path of text keys: each key's entry is set in place, or added last
when the mapping lacks the key, and a new empty mapping stands in for a key missing on the way.
A value on the way that is not a mapping is left as it is. -/
def storeAt : Value → List String → Value → Value
  | .dict es, [k], x => .dict (setEntry es (.str k) x)
  | .dict es, k :: rest, x =>
    .dict (setEntry es (.str k) (storeAt ((lookup es (.str k)).getD (.dict [])) rest x))
  | v, _, _ => v

theorem storeAt_dict_cons (es : List (Value × Value)) (k k₂ : String) (r : List String)
    (x : Value) : (Value.dict es).storeAt (k :: k₂ :: r) x =
      .dict (setEntry es (.str k) (((lookup es (.str k)).getD (.dict [])).storeAt (k₂ :: r) x)) :=
  rfl

/-- A value can be stored into along a path of text keys: it is a mapping, and below each key it
holds, the value there can be stored into along the rest of the path. -/
def Storable : Value → List String → Prop
  | .dict _, [_] => True
  | .dict es, k :: rest =>
    match lookup es (.str k) with
    | some c => Storable c rest
    | Option.none => True
  | _, _ => False

/-- An empty mapping can be stored into along any path. -/
theorem storable_empty : ∀ (k : String) (rest : List String), (Value.dict []).Storable (k :: rest)
  | _, [] => trivial
  | _, _ :: _ => trivial

@[simp] theorem atPath_nil (v : Value) : v.atPath [] = some v := rfl

theorem atPath_dict_cons (es : List (Value × Value)) (k : String) (ks : List String) :
    (Value.dict es).atPath (k :: ks) = (lookup es (.str k)).bind fun w => w.atPath ks := rfl

theorem lookup_append (es fs : List (Value × Value)) (key : Value) :
    lookup (es ++ fs) key = (lookup es key).or (lookup fs key) := by
  simp [lookup, List.find?_append, Option.map_or]

theorem lookup_map_setValue_self {es : List (Value × Value)} {k : String} (c : Value)
    (h : (es.any fun e => equal e.1 (.str k)) = true) :
    lookup (es.map fun (k₀, v) => if equal k₀ (.str k) then (k₀, c) else (k₀, v)) (.str k) =
      some c := by
  induction es with
  | nil => simp at h
  | cons e es ih =>
    obtain ⟨a, b⟩ := e
    by_cases ha : equal a (.str k) = true
    · simp [lookup_cons, ha]
    · have hb : equal a (.str k) = false := by simpa using ha
      simp only [List.any_cons, hb, Bool.false_or] at h
      simp [lookup_cons, hb, ih h]

theorem lookup_map_setValue_of_ne {es : List (Value × Value)} {k k' : String} (c : Value)
    (hk : k' ≠ k) :
    lookup (es.map fun (k₀, v) => if equal k₀ (.str k) then (k₀, c) else (k₀, v)) (.str k') =
      lookup es (.str k') := by
  induction es with
  | nil => rfl
  | cons e es ih =>
    obtain ⟨a, b⟩ := e
    by_cases ha : equal a (.str k) = true
    · obtain rfl := equal_str_iff.1 ha
      simp [lookup_cons, ih, Ne.symm hk]
    · have hb : equal a (.str k) = false := by simpa using ha
      simp [lookup_cons, hb, ih]

theorem lookup_setEntry_self (es : List (Value × Value)) (k : String) (c : Value) :
    lookup (setEntry es (.str k) c) (.str k) = some c := by
  unfold setEntry
  split
  case isTrue h => exact lookup_map_setValue_self c (by simpa using h)
  case isFalse h =>
    have hnone : lookup es (.str k) = Option.none := by
      simp only [lookup, Option.map_eq_none_iff, List.find?_eq_none]
      simpa using h
    simp [lookup_append, hnone, lookup_cons]

theorem lookup_setEntry_of_ne (es : List (Value × Value)) {k k' : String} (c : Value)
    (hk : k' ≠ k) : lookup (setEntry es (.str k) c) (.str k') = lookup es (.str k') := by
  unfold setEntry
  split
  · exact lookup_map_setValue_of_ne c hk
  · cases h : lookup es (.str k') <;> simp [lookup_append, h, lookup_cons, Ne.symm hk]

theorem atPath_setEntry_of_ne (es : List (Value × Value)) {k k' : String} (c : Value)
    (hk : k' ≠ k) (ks : List String) :
    (Value.dict (setEntry es (.str k) c)).atPath (k' :: ks) = (Value.dict es).atPath (k' :: ks) := by
  simp only [atPath_dict_cons, lookup_setEntry_of_ne es c hk]

/-- Storing at a one-key path sets that key of the mapping. -/
theorem setAt_setEntry_last (es : List (Value × Value)) (k : String) (x : Value) :
    SetAt (.dict es) [k] x (.dict (setEntry es (.str k) x)) := by
  refine ⟨by simp [atPath_dict_cons, lookup_setEntry_self], fun ks hks => ?_⟩
  match ks, hks with
  | [], hks => exact absurd (List.nil_prefix) hks.1
  | k' :: ks, hks =>
    have hk : k' ≠ k := fun h => hks.2 (by simp [h])
    exact atPath_setEntry_of_ne es x hk ks

/-- Storing at a longer path stores below the first key, in the value there or, when the key is
missing, in a new empty mapping. -/
theorem setAt_setEntry {es : List (Value × Value)} {k : String} {rest : List String}
    {x c c' : Value} (hc : SetAt c rest x c')
    (hlook : lookup es (.str k) = some c ∨ (lookup es (.str k) = Option.none ∧ c = .dict [])) :
    SetAt (.dict es) (k :: rest) x (.dict (setEntry es (.str k) c')) := by
  refine ⟨by simp [atPath_dict_cons, lookup_setEntry_self, hc.1], fun ks hks => ?_⟩
  match ks, hks with
  | [], hks => exact absurd List.nil_prefix hks.1
  | k' :: ks, hks =>
    by_cases hk : k' = k
    · subst hk
      have hapart : Apart ks rest :=
        ⟨fun h => hks.1 (by simpa using h), fun h => hks.2 (by simpa using h)⟩
      rw [atPath_dict_cons, lookup_setEntry_self, Option.bind_some, hc.2 ks hapart,
        atPath_dict_cons]
      rcases hlook with hlook | ⟨hlook, rfl⟩
      · rw [hlook, Option.bind_some]
      · -- a path apart from another is not empty, and the empty mapping has nothing below
        match ks, hapart with
        | [], hapart => exact absurd List.nil_prefix hapart.1
        | _ :: _, _ => simp [hlook, atPath_dict_cons]
    · exact atPath_setEntry_of_ne es c' hk ks

end Value

namespace Shared

end Shared

namespace Settings

open Shared

section Nested

variable {s : Shared} {x i : Nat} {entries : List (Nat × Nat)} {key : String}

theorem setNestedIn_last_of_find? {j c : Nat} (hp : s.part i = .dict entries)
    (hfind : (entries.find? fun (k, _) => s.keyIs k (.str key)) = some (j, c)) :
    setNestedIn s x i [.str key] =
      (s.put i (.dict (entries.map fun (k, v) => if s.keyIs k (.str key) then (k, x) else (k, v))),
        none) := by
  simp only [setNestedIn, setItem_dict_of_find? hp hfind]

theorem setNestedIn_last_of_find?_none (hp : s.part i = .dict entries)
    (hfind : (entries.find? fun (k, _) => s.keyIs k (.str key)) = none) :
    setNestedIn s x i [.str key] =
      ((s.add (.scalar (.str key))).1.put i (.dict (entries ++ [(s.parts.size, x)])), none) := by
  simp only [setNestedIn, setItem_dict_of_find?_none hp hfind]

theorem setNestedIn_descend_of_find? {j c : Nat} (hp : s.part i = .dict entries)
    (hfind : (entries.find? fun (k, _) => s.keyIs k (.str key)) = some (j, c)) {k : Value}
    (keys : List Value) :
    setNestedIn s x i (.str key :: k :: keys) = setNestedIn s x c (k :: keys) := by
  have hany : (entries.any fun (k, _) => s.keyIs k (.str key)) = true := by
    have hkey := List.find?_some hfind
    exact List.any_eq_true.2 ⟨(j, c), List.mem_of_find?_eq_some hfind, hkey⟩
  simp only [setNestedIn, contains_dict hp, hany, if_true, getItem_dict_of_find? hp hfind]

/-- The store after a key missing from the mapping at `i` is given a new empty mapping: the
mapping at `s.parts.size`, the key's text at the place after it, and the entry last. -/
def madeMapping (s : Shared) (i : Nat) (entries : List (Nat × Nat)) (key : String) : Shared :=
  ((s.add (.dict [])).1.add (.scalar (.str key))).1.put i
    (.dict (entries ++ [(s.parts.size + 1, s.parts.size)]))

@[simp] theorem size_madeMapping :
    (madeMapping s i entries key).parts.size = s.parts.size + 2 := by
  simp [madeMapping]

@[simp] theorem root_madeMapping : (madeMapping s i entries key).root = s.root := rfl

theorem part_madeMapping_of_lt {j : Nat} (hj : j < s.parts.size) (hji : j ≠ i) :
    (madeMapping s i entries key).part j = s.part j := by
  rw [madeMapping, part_put_of_ne _ hji, part_add_of_lt _ (by simp; omega),
    part_add_of_lt _ hj]

theorem part_madeMapping_self (hi : i < s.parts.size) :
    (madeMapping s i entries key).part i = .dict (entries ++ [(s.parts.size + 1, s.parts.size)]) :=
  part_put_self _ (by simp; omega)

theorem holds_madeMapping_new (hi : i < s.parts.size) :
    Holds (madeMapping s i entries key) s.parts.size (.dict []) [s.parts.size] := by
  refine .dict (by simp) ?_ .nil (List.not_mem_nil) (by simp [TextKeysOnce])
  rw [madeMapping, part_put_of_ne _ (by omega), part_add_of_lt _ (by simp), part_add_self]

theorem holds_madeMapping_key (hi : i < s.parts.size) :
    Holds (madeMapping s i entries key) (s.parts.size + 1) (.str key) [s.parts.size + 1] := by
  refine .scalar (by simp) ?_ rfl
  rw [madeMapping, part_put_of_ne _ (by omega),
    show s.parts.size + 1 = (s.add (.dict [])).1.parts.size by simp, part_add_self]

theorem setNestedIn_descend_of_lookup_none {es : List (Value × Value)} {F : List Nat}
    (hp : s.part i = .dict entries) (hi : i < s.parts.size) (hE : HoldsEntries s entries es F)
    (hiF : i ∉ F) (hlook : Value.lookup es (.str key) = none) {k : Value} (keys : List Value) :
    setNestedIn s x i (.str key :: k :: keys) =
      setNestedIn (madeMapping s i entries key) x s.parts.size (k :: keys) := by
  have hany : (entries.any fun (k, _) => s.keyIs k (.str key)) = false :=
    List.any_eq_false.2 fun e he => List.find?_eq_none.1 ((hE.find?_eq_none_iff _).2 hlook) e he
  -- the new empty mapping goes at `s.parts.size`, its key at the place after
  have hp₁ : (s.add (.dict [])).1.part i = .dict entries := (part_add_of_lt _ hi).trans hp
  have hfind₁ := ((hE.add (.dict [])).find?_eq_none_iff (.str key)).2 hlook
  have hE₂ : HoldsEntries (madeMapping s i entries key) entries es F :=
    ((hE.add (.dict [])).add (.scalar (.str key))).put hiF _
  have hfind₂ : ((entries ++ [(s.parts.size + 1, s.parts.size)]).find? fun (k, _) =>
      (madeMapping s i entries key).keyIs k (.str key)) = some (s.parts.size + 1, s.parts.size) := by
    rw [List.find?_append, (hE₂.find?_eq_none_iff _).2 hlook]
    simp [keyIs, (holds_madeMapping_key hi).valueAt]
  simp only [setNestedIn, contains_dict hp, hany, Bool.false_eq_true, if_false, add_snd,
    setItem_dict_of_find?_none hp₁ hfind₁, size_add]
  rw [show ((s.add (.dict [])).1.add (.scalar (.str key))).1.put i
      (.dict (entries ++ [(s.parts.size + 1, s.parts.size)])) = madeMapping s i entries key from rfl,
    getItem_dict_of_find? (part_madeMapping_self hi) hfind₂]

/-- Storing under a text key below anything but a mapping tree fails. -/
theorem setNestedIn_error_of_not_dict {W : Value} {T : List Nat} (h : Holds s i W T)
    (hW : ∀ es, W ≠ .dict es) (key : String) (keys : List Value) :
    (setNestedIn s x i (.str key :: keys)).2 ≠ none := by
  cases keys with
  | nil =>
    obtain ⟨f, hf⟩ := h.setItem_str_error hW key x
    simp [setNestedIn, hf]
  | cons k keys =>
    simp only [setNestedIn]
    cases hc : s.contains i (.str key) with
    | error f => simp
    | ok has =>
      cases has
      · -- the key is missing, and storing a new mapping under it fails
        obtain ⟨f, hf⟩ := (h.add (.dict [])).setItem_str_error hW key s.parts.size
        simp [hf]
      · obtain ⟨f, hf⟩ := h.getItem_str_error hW key
        simp [hf]

/-- Storing along a path that the tree at `i` can be stored into along works. -/
theorem setNestedIn_ok : ∀ (keys : List String) {s : Shared} {i : Nat} {W : Value} {T : List Nat},
    Holds s i W T → W.Storable keys → (setNestedIn s x i (keys.map .str)).2 = none
  | [], _, _, W, _, _, hst => by cases W <;> simp [Value.Storable] at hst
  | [k], s, i, W, T, h, hst => by
    obtain ⟨es, rfl⟩ : ∃ es, W = .dict es := by cases W <;> simp_all [Value.Storable]
    obtain ⟨entries, F, -, hp, -, -, -, rfl⟩ := h.dict_inv
    cases hfind : entries.find? fun (k', _) => s.keyIs k' (.str k) with
    | none => rw [List.map_singleton, setNestedIn_last_of_find?_none hp hfind]
    | some e => rw [List.map_singleton, setNestedIn_last_of_find? hp hfind]
  | k :: k₂ :: r, s, i, W, T, h, hst => by
    obtain ⟨es, rfl⟩ : ∃ es, W = .dict es := by cases W <;> simp_all [Value.Storable]
    obtain ⟨entries, F, hi, hp, hE, hiF, -, rfl⟩ := h.dict_inv
    cases hfind : entries.find? fun (k', _) => s.keyIs k' (.str k) with
    | none =>
      -- a new empty mapping is made under the missing key, and storing goes on there
      rw [List.map_cons, List.map_cons,
        setNestedIn_descend_of_lookup_none hp hi hE hiF ((hE.find?_eq_none_iff _).1 hfind)]
      exact setNestedIn_ok (k₂ :: r) (holds_madeMapping_new hi) (Value.storable_empty k₂ r)
    | some e =>
      obtain ⟨kp, cp⟩ := e
      obtain ⟨c, Tc, hc, -⟩ := hE.holds_of_mem (List.mem_of_find?_eq_some hfind)
      have hst' : c.Storable (k₂ :: r) := by
        simpa [Value.Storable, hE.lookup_of_find? hfind hc] using hst
      rw [List.map_cons, List.map_cons, setNestedIn_descend_of_find? hp hfind]
      exact setNestedIn_ok (k₂ :: r) hc hst'

/-- Storing the part at `x`, a scalar tree outside the tree at `i`, at a path of text keys below
it: when that works, the tree at `i` stands for its old value with `x`'s value set at the path.
The store keeps every part outside the old tree, and the new tree uses only the old tree's
places, `x` and new places. -/
theorem setNestedIn_setAt {X : Value} :
    ∀ (keys : List String) {s s' : Shared} {i : Nat} {W : Value} {T : List Nat},
    keys ≠ [] → Holds s i W T → Holds s x X [x] → x ∉ T →
    setNestedIn s x i (keys.map .str) = (s', none) →
    ∃ W' T', Holds s' i W' T' ∧ Value.SetAt W keys X W' ∧ s'.root = s.root ∧
      (∀ j ∈ T', j ∈ T ∨ j = x ∨ s.parts.size ≤ j) ∧ Keeps s s' T ∧ W' = W.storeAt keys X
  | [], _, _, _, _, _, hne, _, _, _, _ => absurd rfl hne
  | k :: rest, s, s', i, W, T, _, h, hX, hx, hrun => by
    by_cases hW : ∃ es, W = .dict es
    case neg =>
      exact absurd (congrArg Prod.snd hrun)
        (setNestedIn_error_of_not_dict h (fun es he => hW ⟨es, he⟩) k _)
    obtain ⟨es, rfl⟩ := hW
    obtain ⟨entries, F, hi, hp, hE, hiF, hkeys, rfl⟩ := h.dict_inv
    have hxi : x ≠ i := fun e => hx (e ▸ List.mem_cons_self)
    have hxF : x ∉ F := fun hxF => hx (List.mem_cons_of_mem _ hxF)
    have hxlt : x < s.parts.size := hX.nodup.2 x (by simp)
    have hFlt : ∀ j ∈ F, j < s.parts.size := hE.nodup.2
    cases hfind : entries.find? fun (k', _) => s.keyIs k' (.str k) with
    | some e =>
      obtain ⟨kp, cp⟩ := e
      obtain ⟨c, Tc, hc, hTc⟩ := hE.holds_of_mem (List.mem_of_find?_eq_some hfind)
      have hiTc : i ∉ Tc := fun h => hiF (hTc h)
      match rest, hrun with
      | [], hrun =>
        -- the last key, present: its entry names `x` now
        rw [List.map_singleton, setNestedIn_last_of_find? hp hfind, Prod.mk.injEq] at hrun
        obtain ⟨rfl, -⟩ := hrun
        obtain ⟨F', hW', hF'⟩ := Holds.dict_of_setValue hE hiF hkeys hfind hc
          (hX.put (by simpa using hxi.symm) _) (by simpa using hi) (part_put_self _ hi)
          (fun j hj _ => ⟨by simpa using hFlt j hj, part_put_of_ne _ fun e => hiF (e ▸ hj)⟩)
          (fun j hj => .inr (by simp only [List.mem_singleton] at hj; exact hj ▸ hxF))
          (by simpa using hxi.symm)
        refine ⟨_, _, hW', Value.setAt_setEntry_last es k X, rfl, fun j hj => ?_,
          fun j hj hjT => ⟨by simpa using hj, part_put_of_ne _ (ne_of_mem_of_not_mem List.mem_cons_self hjT).symm⟩,
          rfl⟩
        rcases List.mem_cons.1 hj with rfl | hj
        · exact .inl List.mem_cons_self
        · rcases hF' j hj with ⟨hjF, -⟩ | hjx
          · exact .inl (List.mem_cons_of_mem _ hjF)
          · exact .inr (.inl (by simpa using hjx))
      | k₂ :: r, hrun =>
        -- a key on the way, present: the change is made in its value, in place
        rw [List.map_cons, List.map_cons, setNestedIn_descend_of_find? hp hfind] at hrun
        obtain ⟨C', Tc', hC', hset, hroot, hTc', hkeep, hCeq⟩ :=
          setNestedIn_setAt (k₂ :: r) (List.cons_ne_nil _ _) hc hX (fun h => hxF (hTc h)) hrun
        have hp' : s'.part i = .dict entries := (hkeep i hi hiTc).2.trans hp
        rw [← hE.map_setPlace_self hkeys hfind] at hp'
        have hfresh : ∀ j ∈ Tc', j ∈ Tc ∨ j ∉ F := fun j hj => by
          rcases hTc' j hj with hjT | rfl | hle
          · exact .inl hjT
          · exact .inr hxF
          · exact .inr fun hjF => absurd (hFlt j hjF) (by omega)
        have hiTc' : i ∉ Tc' := fun hiT => by
          rcases hTc' i hiT with hiT | rfl | hle
          · exact hiTc hiT
          · exact hxi rfl
          · omega
        obtain ⟨F', hW', hF'⟩ := Holds.dict_of_setValue hE hiF hkeys hfind hc hC'
          (hkeep i hi hiTc).1 hp' (fun j hj hjT => hkeep j (hFlt j hj) hjT) hfresh hiTc'
        refine ⟨_, _, hW', Value.setAt_setEntry hset (.inl (hE.lookup_of_find? hfind hc)), hroot,
          fun j hj => ?_, fun j hj hjT => hkeep j hj fun hjc => hjT (List.mem_cons_of_mem _ (hTc hjc)),
          by rw [Value.storeAt_dict_cons, hE.lookup_of_find? hfind hc, Option.getD_some, hCeq]⟩
        rcases List.mem_cons.1 hj with rfl | hj
        · exact .inl List.mem_cons_self
        · rcases hF' j hj with ⟨hjF, -⟩ | hjT
          · exact .inl (List.mem_cons_of_mem _ hjF)
          · rcases hTc' j hjT with hjT | rfl | hle
            · exact .inl (List.mem_cons_of_mem _ (hTc hjT))
            · exact .inr (.inl rfl)
            · exact .inr (.inr hle)
    | none =>
      have hlook := (hE.find?_eq_none_iff _).1 hfind
      match rest, hrun with
      | [], hrun =>
        -- the last key, missing: a new last entry names `x`
        rw [List.map_singleton, setNestedIn_last_of_find?_none hp hfind, Prod.mk.injEq] at hrun
        obtain ⟨rfl, -⟩ := hrun
        have hkey : Holds ((s.add (.scalar (.str k))).1.put i
            (.dict (entries ++ [(s.parts.size, x)]))) s.parts.size (.str k) [s.parts.size] :=
          .scalar (by simp) (by rw [part_put_of_ne _ (by omega), part_add_self]) rfl
        have hW' := Holds.dict_of_append hE hiF hkeys hlook hkey
          ((hX.add _).put (by simpa using hxi.symm) _) (by simp; omega) (part_put_self _ (by simp; omega))
          (fun j hj => ⟨by simp; have := hFlt j hj; omega,
            by rw [part_put_of_ne _ (ne_of_mem_of_not_mem hj hiF), part_add_of_lt _ (hFlt j hj)]⟩)
          (fun h => absurd (hFlt _ h) (by omega)) (by simp; omega)
          (fun j hjF hjx => hxF (by simp only [List.mem_singleton] at hjx; exact hjx ▸ hjF))
          (by omega) (by simpa using hxi.symm)
        refine ⟨_, _, hW', Value.setAt_setEntry_last es k X, rfl, fun j hj => ?_, fun j hj hjT => ?_,
          rfl⟩
        · simp only [List.mem_cons, List.mem_append, List.not_mem_nil, or_false] at hj
          rcases hj with rfl | hjF | rfl | rfl
          · exact .inl List.mem_cons_self
          · exact .inl (List.mem_cons_of_mem _ hjF)
          · exact .inr (.inr (Nat.le_refl _))
          · exact .inr (.inl rfl)
        · refine ⟨by simp; omega, ?_⟩
          rw [part_put_of_ne _ (ne_of_mem_of_not_mem List.mem_cons_self hjT).symm,
            part_add_of_lt _ hj]
      | k₂ :: r, hrun =>
        -- a key on the way, missing: a new empty mapping is made under it and the change is
        -- made there
        rw [List.map_cons, List.map_cons,
          setNestedIn_descend_of_lookup_none hp hi hE hiF hlook] at hrun
        have hX₂ : Holds (madeMapping s i entries k) x X [x] :=
          ((hX.add _).add _).put (by simpa using hxi.symm) _
        obtain ⟨C', Tc', hC', hset, hroot, hTc', hkeep, hCeq⟩ :=
          setNestedIn_setAt (k₂ :: r) (List.cons_ne_nil _ _) (holds_madeMapping_new hi) hX₂
            (by simp; omega) hrun
        simp only [Keeps, size_madeMapping, List.mem_singleton] at hTc' hkeep
        have hkeepF : ∀ j < s.parts.size, j ≠ i → j < s'.parts.size ∧ s'.part j = s.part j :=
          fun j hj hji => by
            obtain ⟨hlt, hpart⟩ := hkeep j (by omega) (by omega)
            exact ⟨hlt, hpart.trans (part_madeMapping_of_lt hj hji)⟩
        obtain ⟨hi', hp'⟩ := hkeep i (by omega) (by omega)
        rw [part_madeMapping_self hi] at hp'
        have hkey := (holds_madeMapping_key hi).frame fun j hj => by
          simp only [List.mem_singleton] at hj
          subst hj
          exact hkeep _ (by omega) (by omega)
        have hW' := Holds.dict_of_append hE hiF hkeys hlook hkey hC' hi' hp'
          (fun j hj => hkeepF j (hFlt j hj) fun e => hiF (e ▸ hj))
          (fun h => absurd (hFlt _ h) (by omega))
          (fun h => by rcases hTc' _ h with h | h | h <;> omega)
          (fun j hjF hjT => by
            have := hFlt j hjF
            rcases hTc' j hjT with h | rfl | h
            · omega
            · exact hxF hjF
            · omega)
          (by omega) (fun h => by rcases hTc' _ h with h | h | h <;> omega)
        refine ⟨_, _, hW', Value.setAt_setEntry hset (.inr ⟨hlook, rfl⟩), by simpa using hroot,
          fun j hj => ?_, fun j hj hjT => hkeepF j hj (ne_of_mem_of_not_mem List.mem_cons_self hjT).symm,
          by rw [Value.storeAt_dict_cons, hlook, Option.getD_none, hCeq]⟩
        simp only [List.mem_cons, List.mem_append, List.not_mem_nil, or_false] at hj
        rcases hj with rfl | hjF | rfl | hjT
        · exact .inl List.mem_cons_self
        · exact .inl (List.mem_cons_of_mem _ hjF)
        · exact .inr (.inr (by omega))
        · rcases hTc' j hjT with h | rfl | h
          · exact .inr (.inr (by omega))
          · exact .inr (.inl rfl)
          · exact .inr (.inr (by omega))

end Nested

/-! ## The environment's overrides -/

/-- The value an environment variable overrides its path with: its value when it is set and not
empty. -/
def overrideValue (env : Environment) (var : String) : Option String :=
  (env.get? var).filter fun v => !v.isEmpty

/-- One override applied to settings data. -/
def overrideStep (env : Environment) (data : Shared) : String × List String → Except Failure Shared
  | (var, path) =>
    match env.get? var with
    | some v =>
      if v.isEmpty then pure data
      else
        let (data, x) := data.add (.scalar (.str v))
        match setNestedIn data x data.root (path.map Value.str) with
        | (d, none) => pure d
        | (_, some f) => throw f
    | none => pure data

theorem applyOverrides_eq_foldlM (env : Environment) (data : Shared) :
    applyOverrides env data = overrides.foldlM (overrideStep env) data := rfl

/-- A variable that is not set overrides nothing. -/
theorem overrideStep_of_get?_none {env : Environment} {var : String} (h : env.get? var = none)
    (data : Shared) (path : List String) : overrideStep env data (var, path) = .ok data := by
  simp only [overrideStep, h]
  rfl

/-- One override applied to settings data laid out as a tree keeps it a tree, and sets its path
when the variable is set and not empty. -/
theorem overrideStep_setAt {env : Environment} {data d : Shared} {var : String}
    {path : List String} {V : Value} {S : List Nat} (hpath : path ≠ [])
    (h : Holds data data.root V S) (hrun : overrideStep env data (var, path) = .ok d) :
    ∃ V' S', Holds d d.root V' S' ∧
      match overrideValue env var with
      | some t => Value.SetAt V path (.str t) V'
      | none => V' = V := by
  cases hv : env.get? var with
  | none =>
    cases (overrideStep_of_get?_none hv data path).symm.trans hrun
    exact ⟨V, S, h, by simp [overrideValue, hv]⟩
  | some v =>
    simp only [overrideStep, hv] at hrun
    by_cases hempty : v.isEmpty = true
    · rw [if_pos hempty] at hrun
      cases hrun
      exact ⟨V, S, h, by simp [overrideValue, hv, Option.filter_some, hempty]⟩
    · rw [if_neg hempty] at hrun
      have hx : Holds (data.add (.scalar (.str v))).1 data.parts.size (.str v) [data.parts.size] :=
        .scalar (by simp) (part_add_self _ _) rfl
      have hxS : data.parts.size ∉ S := fun hx => absurd (h.nodup.2 _ hx) (Nat.lt_irrefl _)
      simp only [add_snd, root_add] at hrun
      cases hset : setNestedIn (data.add (.scalar (.str v))).1 data.parts.size data.root
          (path.map Value.str) with
      | mk d' f =>
        rw [hset] at hrun
        cases f with
        | some f => cases hrun
        | none =>
          cases hrun
          obtain ⟨V', T', hV', hsetAt, hroot, -, -⟩ :=
            setNestedIn_setAt path hpath (h.add _) hx hxS hset
          refine ⟨V', T', by rwa [hroot], ?_⟩
          simpa [overrideValue, hv, Option.filter_some, hempty] using hsetAt

/-- What one override does to the plain value of settings data: the variable's value is stored at
its path when the variable is set and not empty. -/
def overriddenBy (env : Environment) (V : Value) : String × List String → Value
  | (var, path) =>
    match overrideValue env var with
    | some t => V.storeAt path (.str t)
    | none => V

/-- One override applied to settings data laid out as a tree that can be stored into along its
path works, and stores the variable's value there when it is set and not empty. -/
theorem overrideStep_eq_ok {env : Environment} {data : Shared} {var : String}
    {path : List String} {V : Value} {S : List Nat} (hpath : path ≠ [])
    (h : Holds data data.root V S) (hst : V.Storable path) :
    ∃ d S', overrideStep env data (var, path) = .ok d ∧
      Holds d d.root (overriddenBy env V (var, path)) S' := by
  cases hv : env.get? var with
  | none =>
    refine ⟨data, S, overrideStep_of_get?_none hv data path, ?_⟩
    simpa [overriddenBy, overrideValue, hv] using h
  | some v =>
    by_cases hempty : v.isEmpty = true
    · refine ⟨data, S, by simp only [overrideStep, hv, hempty, if_true]; rfl, ?_⟩
      simpa [overriddenBy, overrideValue, hv, Option.filter_some, hempty] using h
    · have hx : Holds (data.add (.scalar (.str v))).1 data.parts.size (.str v) [data.parts.size] :=
        .scalar (by simp) (part_add_self _ _) rfl
      have hxS : data.parts.size ∉ S := fun hx => absurd (h.nodup.2 _ hx) (Nat.lt_irrefl _)
      obtain ⟨d, hset⟩ : ∃ d, setNestedIn (data.add (.scalar (.str v))).1 data.parts.size
          data.root (path.map Value.str) = (d, none) :=
        ⟨_, Prod.ext rfl (setNestedIn_ok path (h.add _) hst)⟩
      obtain ⟨V', T', hV', -, hroot, -, -, hV'eq⟩ := setNestedIn_setAt path hpath (h.add _) hx hxS hset
      refine ⟨d, T', ?_, ?_⟩
      · simp only [overrideStep, hv, hempty, Bool.false_eq_true, if_false, add_snd, root_add]
        rw [hset]
        rfl
      · rw [hroot]
        simpa [overriddenBy, overrideValue, hv, Option.filter_some, hempty, ← hV'eq] using hV'

/-- Overrides can be applied one after another to a value: each can be stored at its path in the
value the ones before it leave. -/
def StorableAlong (env : Environment) : Value → List (String × List String) → Prop
  | _, [] => True
  | V, (var, path) :: L => V.Storable path ∧ StorableAlong env (overriddenBy env V (var, path)) L

/-- Overrides that can be applied one after another to settings data laid out as a tree work,
and the data stands for the plain value with each one applied in turn. -/
theorem foldlM_overrideStep_eq_ok {env : Environment} :
    ∀ (L : List (String × List String)) {data : Shared} {V : Value} {S : List Nat},
    (∀ p ∈ L, p.2 ≠ []) → Holds data data.root V S → StorableAlong env V L →
    ∃ d S', L.foldlM (overrideStep env) data = .ok d ∧
      Holds d d.root (L.foldl (overriddenBy env) V) S'
  | [], data, V, S, _, h, _ => ⟨data, S, rfl, h⟩
  | (var, path) :: L, _, _, _, hne, h, ⟨hst, hrest⟩ => by
    obtain ⟨d₁, S₁, hstep, h₁⟩ := overrideStep_eq_ok (hne _ List.mem_cons_self) h hst
    obtain ⟨d, S', hrun, h'⟩ := foldlM_overrideStep_eq_ok L
      (fun p hp => hne p (List.mem_cons_of_mem _ hp)) h₁ hrest
    exact ⟨d, S', by rw [List.foldlM_cons, hstep]; exact hrun, h'⟩

/-- The overrides of a list whose paths are apart, applied to settings data laid out as a tree:
each path whose variable is set and not empty holds the variable's value, and every path apart
from all those reads as before. -/
theorem foldlM_overrideStep {env : Environment} :
    ∀ (L : List (String × List String)) {data d : Shared} {V : Value} {S : List Nat},
    (∀ p ∈ L, p.2 ≠ []) → L.Pairwise (fun a b => Value.Apart a.2 b.2) →
    Holds data data.root V S → L.foldlM (overrideStep env) data = .ok d →
    ∃ V' S', Holds d d.root V' S' ∧
      (∀ var path t, (var, path) ∈ L → overrideValue env var = some t →
        V'.atPath path = some (.str t)) ∧
      ∀ ks, (∀ var path t, (var, path) ∈ L → overrideValue env var = some t →
        Value.Apart ks path) → V'.atPath ks = V.atPath ks
  | [], _, _, V, S, _, _, h, hrun => by
    cases hrun
    exact ⟨V, S, h, by simp, fun _ _ => rfl⟩
  | (var, path) :: L, data, d, V, S, hne, hpw, h, hrun => by
    rw [List.foldlM_cons] at hrun
    cases hstep : overrideStep env data (var, path) with
    | error f => rw [hstep] at hrun; cases hrun
    | ok d₁ =>
      rw [hstep] at hrun
      obtain ⟨V₁, S₁, h₁, hV₁⟩ := overrideStep_setAt (hne _ List.mem_cons_self) h hstep
      obtain ⟨V', S', h', hset, hkeep⟩ := foldlM_overrideStep L
        (fun p hp => hne p (List.mem_cons_of_mem _ hp)) (List.pairwise_cons.1 hpw).2 h₁ hrun
      refine ⟨V', S', h', fun var₀ path₀ t hmem ht => ?_, fun ks hks => ?_⟩
      · rcases List.mem_cons.1 hmem with heq | hmem
        · -- the path set first is apart from every later one, so it keeps its value
          cases heq
          rw [hkeep path fun _ _ _ hmem _ => (List.pairwise_cons.1 hpw).1 _ hmem]
          simp only [ht] at hV₁
          exact hV₁.1
        · exact hset var₀ path₀ t hmem ht
      · rw [hkeep ks fun var' path' t hmem ht => hks var' path' t (List.mem_cons_of_mem _ hmem) ht]
        cases hv : overrideValue env var with
        | none =>
          simp only [hv] at hV₁
          rw [hV₁]
        | some t =>
          simp only [hv] at hV₁
          exact hV₁.2 ks (hks var path t List.mem_cons_self hv)

end Settings

end SyntaxAdvisor
