import SyntaxAdvisor.Value.Shared
import Mathlib.Data.List.Nodup
import Mathlib.Data.List.Perm.Subperm

/-!
# Shared values laid out as trees

A shared value keeps its parts in a store, and a container names its items by their places, so
one part may be reached along several paths and a change made along one shows along all. Where
no part is reached twice the store is a tree, and then it behaves as the plain value it stands
for. `Holds s i v S` says so of the part at place `i`: it is the plain value `v`, laid out on the
places `S` with no place used twice (and no mapping holding a text key twice, so that a text key
names at most one entry).

A tree is read the same from any store that agrees with the old one on its places
(`Holds.frame`), whatever else was added or put; its plain value is what `valueAt` reads
(`Holds.valueAt`), and a place holds at most one tree (`Holds.unique`). On a mapping tree the
item operations with a text key are those of the plain mapping: membership and look-up find the
entry whose key is that text (`HoldsEntries.find?_keyIs`), and storing under it gives the
entries of `Value.setEntry` laid out again on places apart (`HoldsEntries.setValue`,
`HoldsEntries.append`). On any other tree they fail.
-/

namespace SyntaxAdvisor

namespace Value

/-- A value is equal to a text only when it is that text. -/
theorem equal_str_iff {a : Value} {t : String} : Value.equal a (.str t) = true ↔ a = .str t := by
  unfold Value.equal
  cases a <;> simp [Value.equalWithin, Value.number?]

theorem map_setValue_of_forall {key c : Value} {es : List (Value × Value)}
    (h : ∀ e ∈ es, Value.equal e.1 key = false) :
    (es.map fun (k, v) => if Value.equal k key then (k, c) else (k, v)) = es := by
  conv_rhs => rw [← List.map_id es]
  refine List.map_congr_left fun e he => ?_
  obtain ⟨k, v⟩ := e
  simp [h _ he]

end Value

namespace Shared

variable {s : Shared}

/-! ## The store under `add` and `put` -/

@[simp] theorem size_add (s : Shared) (p : Part) : (s.add p).1.parts.size = s.parts.size + 1 := by
  simp [add]

@[simp] theorem add_snd (s : Shared) (p : Part) : (s.add p).2 = s.parts.size := rfl

@[simp] theorem root_add (s : Shared) (p : Part) : (s.add p).1.root = s.root := rfl

theorem part_add_of_lt {j : Nat} (p : Part) (h : j < s.parts.size) :
    (s.add p).1.part j = s.part j := by
  simp [add, part, Array.getD_eq_getD_getElem?, Array.getElem?_push, Nat.ne_of_lt h]

@[simp] theorem part_add_self (s : Shared) (p : Part) : (s.add p).1.part s.parts.size = p := by
  simp [add, part, Array.getD_eq_getD_getElem?]

@[simp] theorem size_put (s : Shared) (i : Nat) (p : Part) : (s.put i p).parts.size = s.parts.size := by
  simp [put]

@[simp] theorem root_put (s : Shared) (i : Nat) (p : Part) : (s.put i p).root = s.root := rfl

theorem part_put_self {i : Nat} (p : Part) (h : i < s.parts.size) :
    (s.put i p).part i = p := by
  simp [put, part, Array.getD_eq_getD_getElem?, h]

theorem part_put_of_ne {i j : Nat} (p : Part) (h : j ≠ i) :
    (s.put i p).part j = s.part j := by
  simp [put, part, Array.getD_eq_getD_getElem?, Ne.symm h]

/-! ## Parts laid out as a tree -/

/-- A mapping holds no text key twice. -/
def TextKeysOnce (es : List (Value × Value)) : Prop :=
  (es.map Prod.fst).Pairwise fun a b => ∀ t, a = .str t → b ≠ .str t

mutual

/-- `Holds s i v S`: the part at place `i` is the plain value `v`, laid out as a tree on the
places `S`, its own place first: no place is used twice, so no part is shared, and no mapping
holds a text key twice. -/
inductive Holds (s : Shared) : Nat → Value → List Nat → Prop
  | scalar {i : Nat} {v : Value} : i < s.parts.size → s.part i = .scalar v → v.unhashable = none →
      Holds s i v [i]
  | list {i : Nat} {items : List Nat} {vs : List Value} {S : List Nat} :
      i < s.parts.size → s.part i = .list items → HoldsItems s items vs S → i ∉ S →
      Holds s i (.list vs) (i :: S)
  | tuple {i : Nat} {items : List Nat} {vs : List Value} {S : List Nat} :
      i < s.parts.size → s.part i = .tuple items → HoldsItems s items vs S → i ∉ S →
      Holds s i (.list vs) (i :: S)
  | set {i : Nat} {members : List Nat} {vs : List Value} {S : List Nat} :
      i < s.parts.size → s.part i = .set members → HoldsItems s members vs S → i ∉ S →
      Holds s i (.set vs) (i :: S)
  | dict {i : Nat} {entries : List (Nat × Nat)} {es : List (Value × Value)} {S : List Nat} :
      i < s.parts.size → s.part i = .dict entries → HoldsEntries s entries es S → i ∉ S →
      TextKeysOnce es → Holds s i (.dict es) (i :: S)

/-- The items of a list or set, each laid out on places apart from the others'. -/
inductive HoldsItems (s : Shared) : List Nat → List Value → List Nat → Prop
  | nil : HoldsItems s [] [] []
  | cons {j : Nat} {js : List Nat} {v : Value} {vs : List Value} {S T : List Nat} :
      Holds s j v S → HoldsItems s js vs T → S.Disjoint T → HoldsItems s (j :: js) (v :: vs) (S ++ T)

/-- The entries of a mapping, each key and value laid out on places apart from the others'. -/
inductive HoldsEntries (s : Shared) : List (Nat × Nat) → List (Value × Value) → List Nat → Prop
  | nil : HoldsEntries s [] [] []
  | cons {k x : Nat} {rest : List (Nat × Nat)} {kv xv : Value} {es : List (Value × Value)}
      {S T U : List Nat} :
      Holds s k kv S → Holds s x xv T → HoldsEntries s rest es U → S.Disjoint T →
      (S ++ T).Disjoint U → HoldsEntries s ((k, x) :: rest) ((kv, xv) :: es) (S ++ T ++ U)

end

mutual

theorem Holds.nodup : ∀ {i : Nat} {v : Value} {S : List Nat}, Holds s i v S →
    S.Nodup ∧ ∀ j ∈ S, j < s.parts.size
  | _, _, _, .scalar hi _ _ => ⟨List.nodup_singleton _, by simpa using hi⟩
  | _, _, _, .list hi _ h hfresh | _, _, _, .tuple hi _ h hfresh | _, _, _, .set hi _ h hfresh => by
    obtain ⟨hnd, hlt⟩ := h.nodup
    exact ⟨List.nodup_cons.2 ⟨hfresh, hnd⟩, by simpa [hi] using hlt⟩
  | _, _, _, .dict hi _ h hfresh _ => by
    obtain ⟨hnd, hlt⟩ := h.nodup
    exact ⟨List.nodup_cons.2 ⟨hfresh, hnd⟩, by simpa [hi] using hlt⟩

theorem HoldsItems.nodup : ∀ {js : List Nat} {vs : List Value} {S : List Nat},
    HoldsItems s js vs S → S.Nodup ∧ ∀ j ∈ S, j < s.parts.size
  | _, _, _, .nil => ⟨List.nodup_nil, by simp⟩
  | _, _, _, .cons h hs hd => by
    obtain ⟨hnd₁, hlt₁⟩ := h.nodup
    obtain ⟨hnd₂, hlt₂⟩ := hs.nodup
    exact ⟨List.nodup_append.2 ⟨hnd₁, hnd₂, fun a ha b hb hab => hd ha (hab ▸ hb)⟩,
      fun j hj => (List.mem_append.1 hj).elim (hlt₁ j) (hlt₂ j)⟩

theorem HoldsEntries.nodup : ∀ {entries : List (Nat × Nat)} {es : List (Value × Value)}
    {S : List Nat}, HoldsEntries s entries es S → S.Nodup ∧ ∀ j ∈ S, j < s.parts.size
  | _, _, _, .nil => ⟨List.nodup_nil, by simp⟩
  | _, _, _, .cons hk hx hs hd₁ hd₂ => by
    obtain ⟨hnd₁, hlt₁⟩ := hk.nodup
    obtain ⟨hnd₂, hlt₂⟩ := hx.nodup
    obtain ⟨hnd₃, hlt₃⟩ := hs.nodup
    refine ⟨List.nodup_append.2 ⟨List.nodup_append.2 ⟨hnd₁, hnd₂, fun a ha b hb hab => hd₁ ha (hab ▸ hb)⟩,
      hnd₃, fun a ha b hb hab => hd₂ ha (hab ▸ hb)⟩, fun j hj => ?_⟩
    rcases List.mem_append.1 hj with hj | hj
    · exact (List.mem_append.1 hj).elim (hlt₁ j) (hlt₂ j)
    · exact hlt₃ j hj

end

mutual

/-- A tree is read the same from any store that keeps its places. -/
theorem Holds.frame {s' : Shared} : ∀ {i : Nat} {v : Value} {S : List Nat}, Holds s i v S →
    (∀ j ∈ S, j < s'.parts.size ∧ s'.part j = s.part j) → Holds s' i v S
  | _, _, _, .scalar _ hp hv, h => .scalar (h _ (by simp)).1 ((h _ (by simp)).2.trans hp) hv
  | _, _, _, .list _ hp hs hfresh, h =>
    .list (h _ (by simp)).1 ((h _ (by simp)).2.trans hp)
      (hs.frame fun j hj => h j (List.mem_cons_of_mem _ hj)) hfresh
  | _, _, _, .tuple _ hp hs hfresh, h =>
    .tuple (h _ (by simp)).1 ((h _ (by simp)).2.trans hp)
      (hs.frame fun j hj => h j (List.mem_cons_of_mem _ hj)) hfresh
  | _, _, _, .set _ hp hs hfresh, h =>
    .set (h _ (by simp)).1 ((h _ (by simp)).2.trans hp)
      (hs.frame fun j hj => h j (List.mem_cons_of_mem _ hj)) hfresh
  | _, _, _, .dict _ hp hs hfresh hkeys, h =>
    .dict (h _ (by simp)).1 ((h _ (by simp)).2.trans hp)
      (hs.frame fun j hj => h j (List.mem_cons_of_mem _ hj)) hfresh hkeys

theorem HoldsItems.frame {s' : Shared} : ∀ {js : List Nat} {vs : List Value} {S : List Nat},
    HoldsItems s js vs S → (∀ j ∈ S, j < s'.parts.size ∧ s'.part j = s.part j) →
    HoldsItems s' js vs S
  | _, _, _, .nil, _ => .nil
  | _, _, _, .cons h hs hd, hagree =>
    .cons (h.frame fun j hj => hagree j (List.mem_append_left _ hj))
      (hs.frame fun j hj => hagree j (List.mem_append_right _ hj)) hd

theorem HoldsEntries.frame {s' : Shared} : ∀ {entries : List (Nat × Nat)}
    {es : List (Value × Value)} {S : List Nat}, HoldsEntries s entries es S →
    (∀ j ∈ S, j < s'.parts.size ∧ s'.part j = s.part j) → HoldsEntries s' entries es S
  | _, _, _, .nil, _ => .nil
  | _, _, _, .cons hk hx hs hd₁ hd₂, hagree =>
    .cons (hk.frame fun j hj => hagree j (by simp [hj]))
      (hx.frame fun j hj => hagree j (by simp [hj]))
      (hs.frame fun j hj => hagree j (by simp [hj])) hd₁ hd₂

end

mutual

/-- A tree on `S` is read whole by any depth of at least `S.length`. -/
theorem Holds.valueWithin : ∀ {i : Nat} {v : Value} {S : List Nat}, Holds s i v S →
    ∀ f, S.length ≤ f → s.valueWithin f i = v
  | _, _, _, .scalar _ hp _, f + 1, _ => by simp [Shared.valueWithin, hp]
  | _, _, _, .list _ hp hs _, f + 1, hf => by
    simp [Shared.valueWithin, hp, hs.valueWithin f (by simpa using hf)]
  | _, _, _, .tuple _ hp hs _, f + 1, hf => by
    simp [Shared.valueWithin, hp, hs.valueWithin f (by simpa using hf)]
  | _, _, _, .set _ hp hs _, f + 1, hf => by
    simp [Shared.valueWithin, hp, hs.valueWithin f (by simpa using hf)]
  | _, _, _, .dict _ hp hs _ _, f + 1, hf => by
    simp [Shared.valueWithin, hp, hs.valueWithin f (by simpa using hf)]

theorem HoldsItems.valueWithin : ∀ {js : List Nat} {vs : List Value} {S : List Nat},
    HoldsItems s js vs S → ∀ f, S.length ≤ f → js.map (s.valueWithin f) = vs
  | _, _, _, .nil, _, _ => rfl
  | _, _, _, .cons h hs _, f, hf => by
    simp only [List.length_append] at hf
    simp [h.valueWithin f (by omega), hs.valueWithin f (by omega)]

theorem HoldsEntries.valueWithin : ∀ {entries : List (Nat × Nat)}
    {es : List (Value × Value)} {S : List Nat}, HoldsEntries s entries es S →
    ∀ f, S.length ≤ f →
      (entries.map fun (k, v) => (s.valueWithin f k, s.valueWithin f v)) = es
  | _, _, _, .nil, _, _ => rfl
  | _, _, _, .cons hk hx hs _ _, f, hf => by
    simp only [List.length_append] at hf
    simp [hk.valueWithin f (by omega), hx.valueWithin f (by omega), hs.valueWithin f (by omega)]

end

private theorem length_le_of_nodup_of_lt {S : List Nat} {n : Nat} (hnd : S.Nodup) (hlt : ∀ j ∈ S, j < n) :
    S.length ≤ n := by
  have := (hnd.subperm fun j hj => List.mem_range.2 (hlt j hj)).length_le
  simpa using this

/-- The value of a tree is its plain value. -/
theorem Holds.valueAt {i : Nat} {v : Value} {S : List Nat} (h : Holds s i v S) :
    s.valueAt i = v := by
  obtain ⟨hnd, hlt⟩ := h.nodup
  exact h.valueWithin _ (Nat.le_succ_of_le (length_le_of_nodup_of_lt hnd hlt))

theorem HoldsEntries.valueAt {entries : List (Nat × Nat)}
    {es : List (Value × Value)} {F : List Nat} (h : HoldsEntries s entries es F) :
    (entries.map fun (k, v) => (s.valueAt k, s.valueAt v)) = es := by
  obtain ⟨hnd, hlt⟩ := h.nodup
  exact h.valueWithin _ (Nat.le_succ_of_le (length_le_of_nodup_of_lt hnd hlt))

mutual

/-- A place holds at most one tree. -/
theorem Holds.unique : ∀ {i : Nat} {v v' : Value} {S S' : List Nat},
    Holds s i v S → Holds s i v' S' → v = v' ∧ S = S'
  | _, _, _, _, _, .scalar _ hp _, h' => by
    cases h' <;> simp_all
  | _, _, _, _, _, .list _ hp hs _, h' => by
    cases h' with
    | list _ hp' hs' _ =>
      rw [hp] at hp'; cases hp'
      obtain ⟨rfl, rfl⟩ := hs.unique hs'
      exact ⟨rfl, rfl⟩
    | _ => simp_all
  | _, _, _, _, _, .tuple _ hp hs _, h' => by
    cases h' with
    | tuple _ hp' hs' _ =>
      rw [hp] at hp'; cases hp'
      obtain ⟨rfl, rfl⟩ := hs.unique hs'
      exact ⟨rfl, rfl⟩
    | _ => simp_all
  | _, _, _, _, _, .set _ hp hs _, h' => by
    cases h' with
    | set _ hp' hs' _ =>
      rw [hp] at hp'; cases hp'
      obtain ⟨rfl, rfl⟩ := hs.unique hs'
      exact ⟨rfl, rfl⟩
    | _ => simp_all
  | _, _, _, _, _, .dict _ hp hs _ _, h' => by
    cases h' with
    | dict _ hp' hs' _ _ =>
      rw [hp] at hp'; cases hp'
      obtain ⟨rfl, rfl⟩ := hs.unique hs'
      exact ⟨rfl, rfl⟩
    | _ => simp_all

theorem HoldsItems.unique : ∀ {js : List Nat} {vs vs' : List Value} {S S' : List Nat},
    HoldsItems s js vs S → HoldsItems s js vs' S' → vs = vs' ∧ S = S'
  | _, _, _, _, _, .nil, .nil => ⟨rfl, rfl⟩
  | _, _, _, _, _, .cons h hs _, .cons h' hs' _ => by
    obtain ⟨rfl, rfl⟩ := h.unique h'
    obtain ⟨rfl, rfl⟩ := hs.unique hs'
    exact ⟨rfl, rfl⟩

theorem HoldsEntries.unique : ∀ {entries : List (Nat × Nat)}
    {es es' : List (Value × Value)} {S S' : List Nat},
    HoldsEntries s entries es S → HoldsEntries s entries es' S' → es = es' ∧ S = S'
  | _, _, _, _, _, .nil, .nil => ⟨rfl, rfl⟩
  | _, _, _, _, _, .cons hk hx hs _ _, .cons hk' hx' hs' _ _ => by
    obtain ⟨rfl, rfl⟩ := hk.unique hk'
    obtain ⟨rfl, rfl⟩ := hx.unique hx'
    obtain ⟨rfl, rfl⟩ := hs.unique hs'
    exact ⟨rfl, rfl⟩

end

/-- The places of an entry of a mapping tree are trees inside the mapping's. -/
theorem HoldsEntries.holds_of_mem : ∀ {entries : List (Nat × Nat)}
    {es : List (Value × Value)} {F : List Nat}, HoldsEntries s entries es F →
    ∀ {kp cp : Nat}, (kp, cp) ∈ entries → ∃ c T, Holds s cp c T ∧ T ⊆ F
  | _, _, _, .nil, _, _, hmem => absurd hmem List.not_mem_nil
  | _, _, _, .cons _ hx hs _ _, _, _, hmem => by
    rcases List.mem_cons.1 hmem with heq | hmem
    · cases heq
      exact ⟨_, _, hx, fun j hj => by simp [hj]⟩
    · obtain ⟨c, T, hc, hT⟩ := hs.holds_of_mem hmem
      exact ⟨c, T, hc, fun j hj => by simp [hT hj]⟩

/-- Looking a key up among the entries of a mapping tree finds the entry whose plain key is
equal to it. -/
theorem HoldsEntries.find?_keyIs {entries : List (Nat × Nat)}
    {es : List (Value × Value)} {F : List Nat} (h : HoldsEntries s entries es F) (key : Value) :
    (entries.find? fun (k, _) => s.keyIs k key).map (fun (k, v) => (s.valueAt k, s.valueAt v)) =
      es.find? fun (k, _) => Value.equal k key := by
  rw [← h.valueAt, List.find?_map]
  rfl

/-- Whether a mapping tree has an entry for a key is whether its plain mapping has one. -/
theorem HoldsEntries.find?_eq_none_iff {entries : List (Nat × Nat)} {es : List (Value × Value)}
    {F : List Nat} (h : HoldsEntries s entries es F) (key : Value) :
    (entries.find? fun (k, _) => s.keyIs k key) = none ↔ Value.lookup es key = none := by
  rw [Value.lookup, Option.map_eq_none_iff, ← h.find?_keyIs, Option.map_eq_none_iff]

/-- The entry found for a key holds the value the plain mapping has under it. -/
theorem HoldsEntries.lookup_of_find? {entries : List (Nat × Nat)} {es : List (Value × Value)}
    {F : List Nat} (h : HoldsEntries s entries es F) {key c : Value} {kp cp : Nat} {Tc : List Nat}
    (hfind : (entries.find? fun (k, _) => s.keyIs k key) = some (kp, cp)) (hc : Holds s cp c Tc) :
    Value.lookup es key = some c := by
  rw [Value.lookup, ← h.find?_keyIs, hfind]
  simp [hc.valueAt]

theorem Holds.dict_inv {i : Nat} {es : List (Value × Value)} {T : List Nat}
    (h : Holds s i (.dict es) T) : ∃ entries F, i < s.parts.size ∧ s.part i = .dict entries ∧
      HoldsEntries s entries es F ∧ i ∉ F ∧ TextKeysOnce es ∧ T = i :: F := by
  cases h with
  | scalar _ _ hu => simp [Value.unhashable] at hu
  | dict hi hp hE hiF hkeys => exact ⟨_, _, hi, hp, hE, hiF, hkeys, rfl⟩

/-- `s'` keeps every part of `s` outside the places `T`. -/
def Keeps (s s' : Shared) (T : List Nat) : Prop :=
  ∀ j < s.parts.size, j ∉ T → j < s'.parts.size ∧ s'.part j = s.part j

theorem Holds.add {i : Nat} {v : Value} {S : List Nat} (h : Holds s i v S) (p : Part) :
    Holds (s.add p).1 i v S :=
  h.frame fun j hj => have hlt := h.nodup.2 j hj; ⟨by simp; omega, part_add_of_lt p hlt⟩

theorem Holds.put {i k : Nat} {v : Value} {S : List Nat} (h : Holds s i v S) (hk : k ∉ S)
    (p : Part) : Holds (s.put k p) i v S :=
  h.frame fun j hj => ⟨by simpa using h.nodup.2 j hj, part_put_of_ne p fun e => hk (e ▸ hj)⟩

theorem HoldsEntries.add {entries : List (Nat × Nat)} {es : List (Value × Value)} {F : List Nat}
    (h : HoldsEntries s entries es F) (p : Part) : HoldsEntries (s.add p).1 entries es F :=
  h.frame fun j hj => have hlt := h.nodup.2 j hj; ⟨by simp; omega, part_add_of_lt p hlt⟩

theorem HoldsEntries.put {k : Nat} {entries : List (Nat × Nat)} {es : List (Value × Value)}
    {F : List Nat} (h : HoldsEntries s entries es F) (hk : k ∉ F) (p : Part) :
    HoldsEntries (s.put k p) entries es F :=
  h.frame fun j hj => ⟨by simpa using h.nodup.2 j hj, part_put_of_ne p fun e => hk (e ▸ hj)⟩

/-! ## Plain values added to a store -/

mutual

/-- No mapping within the value holds a text key twice. -/
def KeysOnce : Value → Prop
  | .list xs => ItemsKeysOnce xs
  | .set xs => ItemsKeysOnce xs
  | .dict es => TextKeysOnce es ∧ EntriesKeysOnce es
  | _ => True

/-- No mapping within the items holds a text key twice. -/
def ItemsKeysOnce : List Value → Prop
  | [] => True
  | x :: xs => KeysOnce x ∧ ItemsKeysOnce xs

/-- No mapping within the entries holds a text key twice. -/
def EntriesKeysOnce : List (Value × Value) → Prop
  | [] => True
  | (k, v) :: es => KeysOnce k ∧ KeysOnce v ∧ EntriesKeysOnce es

end

/-- `s'` is `s` with parts added after its own. -/
def Extends (s s' : Shared) : Prop :=
  s.parts.size ≤ s'.parts.size ∧ ∀ j < s.parts.size, s'.part j = s.part j

theorem Extends.refl (s : Shared) : Extends s s := ⟨Nat.le_refl _, fun _ _ => rfl⟩

theorem Extends.trans {s₁ s₂ s₃ : Shared} (h₁ : Extends s₁ s₂) (h₂ : Extends s₂ s₃) :
    Extends s₁ s₃ :=
  ⟨Nat.le_trans h₁.1 h₂.1, fun j hj => (h₂.2 j (Nat.lt_of_lt_of_le hj h₁.1)).trans (h₁.2 j hj)⟩

theorem extends_add (s : Shared) (p : Part) : Extends s (s.add p).1 :=
  ⟨by simp, fun _ hj => part_add_of_lt p hj⟩

theorem Holds.extend {s s' : Shared} {i : Nat} {v : Value} {S : List Nat} (h : Holds s i v S)
    (hs : Extends s s') : Holds s' i v S :=
  h.frame fun j hj => have hlt := h.nodup.2 j hj; ⟨Nat.lt_of_lt_of_le hlt hs.1, hs.2 j hlt⟩

theorem HoldsItems.extend {s s' : Shared} {js : List Nat} {vs : List Value} {S : List Nat}
    (h : HoldsItems s js vs S) (hs : Extends s s') : HoldsItems s' js vs S :=
  h.frame fun j hj => have hlt := h.nodup.2 j hj; ⟨Nat.lt_of_lt_of_le hlt hs.1, hs.2 j hlt⟩

theorem HoldsEntries.extend {s s' : Shared} {entries : List (Nat × Nat)}
    {es : List (Value × Value)} {S : List Nat}
    (h : HoldsEntries s entries es S) (hs : Extends s s') : HoldsEntries s' entries es S :=
  h.frame fun j hj => have hlt := h.nodup.2 j hj; ⟨Nat.lt_of_lt_of_le hlt hs.1, hs.2 j hlt⟩

theorem holds_add_scalar (s : Shared) {v : Value} (hv : v.unhashable = none) :
    Extends s (s.add (.scalar v)).1 ∧ ∃ S, Holds (s.add (.scalar v)).1 (s.add (.scalar v)).2 v S ∧
      ∀ j ∈ S, s.parts.size ≤ j :=
  ⟨extends_add _ _, [s.parts.size], .scalar (by simp) (part_add_self _ _) hv, by simp⟩

mutual

/-- A plain value added to a store is laid out as a tree on new places. -/
theorem holds_addValue : ∀ (s : Shared) (v : Value), KeysOnce v →
    Extends s (s.addValue v).1 ∧ ∃ S, Holds (s.addValue v).1 (s.addValue v).2 v S ∧
      ∀ j ∈ S, s.parts.size ≤ j
  | s, .list xs, hv => by
    obtain ⟨hext, S, hS, hge⟩ := holds_addItems s xs hv
    rcases hadd : s.addItems xs with ⟨s₁, items⟩
    rw [hadd] at hext hS
    simp only [addValue, hadd]
    refine ⟨hext.trans (extends_add _ _), s₁.parts.size :: S,
      .list (by simp) (part_add_self _ _) (hS.extend (extends_add _ _))
        fun h => absurd (hS.nodup.2 _ h) (Nat.lt_irrefl _), fun j hj => ?_⟩
    rcases List.mem_cons.1 hj with rfl | hj
    · exact hext.1
    · exact hge j hj
  | s, .set xs, hv => by
    obtain ⟨hext, S, hS, hge⟩ := holds_addItems s xs hv
    rcases hadd : s.addItems xs with ⟨s₁, items⟩
    rw [hadd] at hext hS
    simp only [addValue, hadd]
    refine ⟨hext.trans (extends_add _ _), s₁.parts.size :: S,
      .set (by simp) (part_add_self _ _) (hS.extend (extends_add _ _))
        fun h => absurd (hS.nodup.2 _ h) (Nat.lt_irrefl _), fun j hj => ?_⟩
    rcases List.mem_cons.1 hj with rfl | hj
    · exact hext.1
    · exact hge j hj
  | s, .dict es, hv => by
    obtain ⟨hext, S, hS, hge⟩ := holds_addEntries s es hv.2
    rcases hadd : s.addEntries es with ⟨s₁, entries⟩
    rw [hadd] at hext hS
    simp only [addValue, hadd]
    refine ⟨hext.trans (extends_add _ _), s₁.parts.size :: S,
      .dict (by simp) (part_add_self _ _) (hS.extend (extends_add _ _))
        (fun h => absurd (hS.nodup.2 _ h) (Nat.lt_irrefl _)) hv.1, fun j hj => ?_⟩
    rcases List.mem_cons.1 hj with rfl | hj
    · exact hext.1
    · exact hge j hj
  | s, .none, _ | s, .bool _, _ | s, .int _, _ | s, .float _, _ | s, .str _, _
  | s, .bytes _, _ | s, .date _, _ | s, .datetime _, _ => holds_add_scalar s rfl

theorem holds_addItems : ∀ (s : Shared) (xs : List Value), ItemsKeysOnce xs →
    Extends s (s.addItems xs).1 ∧ ∃ S, HoldsItems (s.addItems xs).1 (s.addItems xs).2 xs S ∧
      ∀ j ∈ S, s.parts.size ≤ j
  | s, [], _ => ⟨Extends.refl s, [], .nil, by simp⟩
  | s, x :: xs, hv => by
    obtain ⟨hext₁, S₁, hS₁, hge₁⟩ := holds_addValue s x hv.1
    obtain ⟨hext₂, S₂, hS₂, hge₂⟩ := holds_addItems (s.addValue x).1 xs hv.2
    refine ⟨hext₁.trans hext₂, S₁ ++ S₂, .cons (hS₁.extend hext₂) hS₂ fun j hj₁ hj₂ => ?_,
      fun j hj => ?_⟩
    · exact absurd (hge₂ j hj₂) (Nat.not_le.2 (hS₁.nodup.2 j hj₁))
    · rcases List.mem_append.1 hj with hj | hj
      · exact hge₁ j hj
      · exact Nat.le_trans hext₁.1 (hge₂ j hj)

theorem holds_addEntries : ∀ (s : Shared) (es : List (Value × Value)), EntriesKeysOnce es →
    Extends s (s.addEntries es).1 ∧
      ∃ S, HoldsEntries (s.addEntries es).1 (s.addEntries es).2 es S ∧ ∀ j ∈ S, s.parts.size ≤ j
  | s, [], _ => ⟨Extends.refl s, [], .nil, by simp⟩
  | s, (k, v) :: es, hv => by
    obtain ⟨hext₁, S₁, hS₁, hge₁⟩ := holds_addValue s k hv.1
    obtain ⟨hext₂, S₂, hS₂, hge₂⟩ := holds_addValue (s.addValue k).1 v hv.2.1
    obtain ⟨hext₃, S₃, hS₃, hge₃⟩ := holds_addEntries ((s.addValue k).1.addValue v).1 es hv.2.2
    refine ⟨hext₁.trans (hext₂.trans hext₃), S₁ ++ S₂ ++ S₃,
      .cons ((hS₁.extend hext₂).extend hext₃) (hS₂.extend hext₃) hS₃
        (fun j hj₁ hj₂ => absurd (hge₂ j hj₂) (Nat.not_le.2 (hS₁.nodup.2 j hj₁)))
        (fun j hj hj₃ => ?_), fun j hj => ?_⟩
    · have hlt : j < ((s.addValue k).1.addValue v).1.parts.size := by
        rcases List.mem_append.1 hj with hj | hj
        · exact Nat.lt_of_lt_of_le (hS₁.nodup.2 j hj) hext₂.1
        · exact hS₂.nodup.2 j hj
      exact absurd (hge₃ j hj₃) (Nat.not_le.2 hlt)
    · simp only [List.mem_append] at hj
      rcases hj with (hj | hj) | hj
      · exact hge₁ j hj
      · exact Nat.le_trans hext₁.1 (hge₂ j hj)
      · exact Nat.le_trans (Nat.le_trans hext₁.1 hext₂.1) (hge₃ j hj)

end

/-- A plain value whose mappings hold each text key once, made shared, is laid out as a tree. -/
theorem holds_ofValue {v : Value} (hv : KeysOnce v) :
    ∃ S, Holds (ofValue v) (ofValue v).root v S := by
  obtain ⟨-, S, hS, -⟩ := holds_addValue {} v hv
  rcases hadd : ({} : Shared).addValue v with ⟨s, root⟩
  rw [hadd] at hS
  simp only [ofValue, hadd]
  exact ⟨S, hS.frame fun j hj => ⟨hS.nodup.2 j hj, rfl⟩⟩

/-! ## Item operations on trees, with a text key -/

section TextKey

variable {i : Nat} {entries : List (Nat × Nat)}

theorem contains_dict (hp : s.part i = .dict entries) (key : String) :
    s.contains i (.str key) = .ok (entries.any fun (k, _) => s.keyIs k (.str key)) := by
  simp only [contains, hp]
  rfl

theorem getItem_dict_of_find? (hp : s.part i = .dict entries) {key : String} {kp cp : Nat}
    (hfind : (entries.find? fun (k, _) => s.keyIs k (.str key)) = some (kp, cp)) :
    s.getItem i (.str key) = .ok (s, cp) := by
  simp only [getItem, hp, Value.unhashable, hfind]

theorem setItem_dict_of_find? (hp : s.part i = .dict entries) {key : String} {kp cp : Nat}
    (hfind : (entries.find? fun (k, _) => s.keyIs k (.str key)) = some (kp, cp)) (y : Nat) :
    s.setItem i (.str key) y = .ok (s.put i (.dict (entries.map fun (k, v) =>
      if s.keyIs k (.str key) then (k, y) else (k, v)))) := by
  have hany : (entries.any fun (k, _) => s.keyIs k (.str key)) = true := by
    have hkey := List.find?_some hfind
    exact List.any_eq_true.2 ⟨(kp, cp), List.mem_of_find?_eq_some hfind, hkey⟩
  simp only [setItem, hp, Value.unhashable, hany, if_true]

theorem setItem_dict_of_find?_none (hp : s.part i = .dict entries) {key : String}
    (hfind : (entries.find? fun (k, _) => s.keyIs k (.str key)) = none) (y : Nat) :
    s.setItem i (.str key) y =
      .ok ((s.add (.scalar (.str key))).1.put i (.dict (entries ++ [(s.parts.size, y)]))) := by
  have hany : (entries.any fun (k, _) => s.keyIs k (.str key)) = false :=
    List.any_eq_false.2 fun e he => List.find?_eq_none.1 hfind e he
  simp only [setItem, hp, Value.unhashable, hany]
  rfl

variable {v : Value} {S : List Nat}

/-- Only a mapping takes a text key: storing under one in any other tree fails. -/
theorem Holds.setItem_str_error (h : Holds s i v S) (hv : ∀ es, v ≠ .dict es) (key : String)
    (y : Nat) : ∃ f, s.setItem i (.str key) y = .error f := by
  have hval := h.valueAt
  cases h with
  | scalar _ hp hu =>
    subst hval
    simp only [setItem, hp]
    cases hs : s.valueAt i <;> simp_all [Value.setItem, Value.unhashable, bind, Except.bind]
  | list _ hp _ _ => simp [setItem, hp, Value.number?]
  | tuple _ hp _ _ => simp [setItem, hp]
  | set _ hp _ _ => simp [setItem, hp, hval, Value.setItem, bind, Except.bind]
  | dict => exact absurd rfl (hv _)

/-- Only a mapping takes a text key: looking one up in any other tree fails. -/
theorem Holds.getItem_str_error (h : Holds s i v S) (hv : ∀ es, v ≠ .dict es) (key : String) :
    ∃ f, s.getItem i (.str key) = .error f := by
  have hval := h.valueAt
  cases h with
  | scalar _ hp hu =>
    subst hval
    simp only [getItem, hp]
    cases hs : s.valueAt i <;> simp_all [Value.getItem, Value.unhashable, Value.number?, bind, Except.bind]
  | list _ hp _ _ => simp [getItem, hp, Value.number?]
  | tuple _ hp _ _ => simp [getItem, hp, Value.number?]
  | set _ hp _ _ => simp [getItem, hp, hval, Value.getItem, bind, Except.bind]
  | dict => exact absurd rfl (hv _)

/-- Entries none of whose keys is `key` keep their places when the entry for `key` is given a
new place. -/
theorem map_setPlace_of_forall {key : Value} {y : Nat} {entries : List (Nat × Nat)}
    (h : ∀ e ∈ entries, s.keyIs e.1 key = false) :
    (entries.map fun (k, v) => if s.keyIs k key then (k, y) else (k, v)) = entries := by
  conv_rhs => rw [← List.map_id entries]
  refine List.map_congr_left fun e he => ?_
  obtain ⟨k, v⟩ := e
  simp [h _ he]

/-- In a mapping with text keys once, no entry after one keyed `key` is keyed `key`. -/
theorem TextKeysOnce.equal_tail {key : String} {c : Value} {es : List (Value × Value)}
    (h : TextKeysOnce ((.str key, c) :: es)) : ∀ e ∈ es, Value.equal e.1 (.str key) = false := by
  intro e he
  have hne := (List.pairwise_cons.1 h).1 e.1 (List.mem_map_of_mem he) key rfl
  exact Bool.eq_false_iff.2 fun heq => hne (Value.equal_str_iff.1 heq)

theorem HoldsEntries.keyIs_eq_false {key : Value} {entries : List (Nat × Nat)}
    {es : List (Value × Value)} {F : List Nat} (h : HoldsEntries s entries es F)
    (hes : ∀ e ∈ es, Value.equal e.1 key = false) : ∀ e ∈ entries, s.keyIs e.1 key = false :=
  fun e he => hes (s.valueAt e.1, s.valueAt e.2) (h.valueAt ▸ List.mem_map_of_mem he)

/-- The entries of a mapping tree after the entry for `key`, found at value place `cp`, is given
the tree at `y` (a new one, or the one at `cp` changed in place): the other entries keep their
trees, since none of their places is one the change touched. -/
theorem HoldsEntries.setValue {s' : Shared} {key : String} {kp cp y : Nat} {c c' : Value}
    {Tc Tc' : List Nat} (hc : Holds s cp c Tc) (hy : Holds s' y c' Tc') :
    ∀ {entries : List (Nat × Nat)} {es : List (Value × Value)} {F : List Nat},
    HoldsEntries s entries es F → TextKeysOnce es →
    (entries.find? fun (k, _) => s.keyIs k (.str key)) = some (kp, cp) →
    (∀ j ∈ F, j ∉ Tc → j < s'.parts.size ∧ s'.part j = s.part j) →
    (∀ j ∈ Tc', j ∈ Tc ∨ j ∉ F) →
    ∃ F', HoldsEntries s'
        (entries.map fun (k, v) => if s.keyIs k (.str key) then (k, y) else (k, v))
        (es.map fun (k, v) => if Value.equal k (.str key) then (k, c') else (k, v)) F' ∧
      ∀ j ∈ F', (j ∈ F ∧ j ∉ Tc) ∨ j ∈ Tc'
  | _, _, _, .nil, _, hfind, _, _ => by simp at hfind
  | _, _, _, @HoldsEntries.cons _ k0 x0 rest kv xv es S T U hk hx hs hd₁ hd₂, hkeys, hfind,
      hkeep, hfresh => by
    have hkey : s.keyIs k0 (.str key) = Value.equal kv (.str key) := by rw [keyIs, hk.valueAt]
    by_cases hmatch : Value.equal kv (.str key) = true
    · -- the entry for `key`: its value tree is the one that changed
      rw [List.find?_cons_of_pos (by simpa [hkey] using hmatch)] at hfind
      obtain ⟨rfl, rfl⟩ : k0 = kp ∧ x0 = cp := by simpa using hfind
      obtain ⟨rfl, rfl⟩ := hx.unique hc
      obtain rfl := Value.equal_str_iff.1 hmatch
      have hrest := TextKeysOnce.equal_tail hkeys
      have hrest' := hs.keyIs_eq_false hrest
      refine ⟨S ++ Tc' ++ U, ?_, ?_⟩
      · simp only [List.map_cons, hkey, hmatch, if_true, map_setPlace_of_forall hrest',
          Value.map_setValue_of_forall hrest]
        refine .cons (hk.frame fun j hj => hkeep j (by simp [hj]) fun hjT => hd₁ hj hjT) hy
          (hs.frame fun j hj => hkeep j (by simp [hj]) fun hjT => hd₂ (by simp [hjT]) hj)
          (fun j hjS hjT => ?_) (fun j hj hjU => ?_)
        · rcases hfresh j hjT with hjT | hjF
          · exact hd₁ hjS hjT
          · exact hjF (by simp [hjS])
        · rcases List.mem_append.1 hj with hjS | hjT
          · exact hd₂ (by simp [hjS]) hjU
          · rcases hfresh j hjT with hjT | hjF
            · exact hd₂ (by simp [hjT]) hjU
            · exact hjF (by simp [hjU])
      · intro j hj
        simp only [List.mem_append] at hj
        rcases hj with (hjS | hjT) | hjU
        · exact .inl ⟨by simp [hjS], fun hjT => hd₁ hjS hjT⟩
        · exact .inr hjT
        · exact .inl ⟨by simp [hjU], fun hjT => hd₂ (by simp [hjT]) hjU⟩
    · -- another entry: the changed tree lies in the rest
      have hmatch : Value.equal kv (.str key) = false := by simpa using hmatch
      rw [List.find?_cons_of_neg (by simp [hkey, hmatch])] at hfind
      obtain ⟨c₂, T₂, hc₂, hT₂⟩ := hs.holds_of_mem (List.mem_of_find?_eq_some hfind)
      obtain ⟨rfl, rfl⟩ := hc₂.unique hc
      obtain ⟨F', hE', hF'⟩ := hs.setValue hc hy (List.pairwise_cons.1 hkeys).2 hfind
        (fun j hj hjT => hkeep j (by simp [hj]) hjT)
        (fun j hj => (hfresh j hj).imp_right fun hjF hjU => hjF (by simp [hjU]))
      refine ⟨S ++ T ++ F', ?_, ?_⟩
      · simp only [List.map_cons, hkey, hmatch]
        refine .cons (hk.frame fun j hj => hkeep j (by simp [hj]) fun hjT => hd₂ (by simp [hj]) (hT₂ hjT))
          (hx.frame fun j hj => hkeep j (by simp [hj]) fun hjT => hd₂ (by simp [hj]) (hT₂ hjT))
          hE' hd₁ (fun j hj hjF' => ?_)
        rcases hF' j hjF' with ⟨hjU, -⟩ | hjT
        · exact hd₂ hj hjU
        · rcases hfresh j hjT with hjT | hjF
          · exact hd₂ hj (hT₂ hjT)
          · exact hjF (by simp_all)
      · intro j hj
        simp only [List.mem_append] at hj
        rcases hj with (hjS | hjT) | hjF'
        · exact .inl ⟨by simp [hjS], fun hjT => hd₂ (by simp [hjS]) (hT₂ hjT)⟩
        · exact .inl ⟨by simp [hjT], fun hjT' => hd₂ (by simp [hjT]) (hT₂ hjT')⟩
        · rcases hF' j hjF' with ⟨hjU, hjT⟩ | hjT
          · exact .inl ⟨by simp [hjU], hjT⟩
          · exact .inr hjT

/-- Changing the entry for `key` in place leaves the places of the entries as they are. -/
theorem HoldsEntries.map_setPlace_self {key : String} {kp cp : Nat} :
    ∀ {entries : List (Nat × Nat)} {es : List (Value × Value)} {F : List Nat},
    HoldsEntries s entries es F → TextKeysOnce es →
    (entries.find? fun (k, _) => s.keyIs k (.str key)) = some (kp, cp) →
    (entries.map fun (k, v) => if s.keyIs k (.str key) then (k, cp) else (k, v)) = entries
  | _, _, _, .nil, _, hfind => by simp at hfind
  | _, _, _, @HoldsEntries.cons _ k0 x0 rest kv xv es S T U hk _ hs _ _, hkeys, hfind => by
    have hkey : s.keyIs k0 (.str key) = Value.equal kv (.str key) := by rw [keyIs, hk.valueAt]
    by_cases hmatch : Value.equal kv (.str key) = true
    · rw [List.find?_cons_of_pos (by simpa [hkey] using hmatch)] at hfind
      obtain ⟨rfl, rfl⟩ : k0 = kp ∧ x0 = cp := by simpa using hfind
      obtain rfl := Value.equal_str_iff.1 hmatch
      simp [hkey, hmatch, map_setPlace_of_forall (hs.keyIs_eq_false (TextKeysOnce.equal_tail hkeys))]
    · have hmatch : Value.equal kv (.str key) = false := by simpa using hmatch
      rw [List.find?_cons_of_neg (by simp [hkey, hmatch])] at hfind
      simp [hkey, hmatch, hs.map_setPlace_self (List.pairwise_cons.1 hkeys).2 hfind]

/-- Entries of two mapping trees on places apart make the entries of one. -/
theorem HoldsEntries.append : ∀ {A : List (Nat × Nat)} {a : List (Value × Value)} {FA : List Nat},
    HoldsEntries s A a FA → ∀ {B : List (Nat × Nat)} {b : List (Value × Value)} {FB : List Nat},
    HoldsEntries s B b FB → FA.Disjoint FB → HoldsEntries s (A ++ B) (a ++ b) (FA ++ FB)
  | _, _, _, .nil, _, _, _, hB, _ => by simpa using hB
  | _, _, _, .cons hk hx hs hd₁ hd₂, _, _, _, hB, hd => by
    rw [List.append_assoc]
    refine .cons hk hx (hs.append hB fun j hjU hjB => hd (by simp [hjU]) hjB) hd₁ ?_
    intro j hj hj'
    rcases List.mem_append.1 hj' with hjU | hjB
    · exact hd₂ hj hjU
    · exact hd (List.mem_append_left _ hj) hjB

theorem TextKeysOnce.setEntry {es : List (Value × Value)} (h : TextKeysOnce es) (k : String)
    (c : Value) : TextKeysOnce (Value.setEntry es (.str k) c) := by
  unfold Value.setEntry
  split
  case isTrue =>
    have hkeys : ((es.map fun (k₀, v) => if Value.equal k₀ (.str k) then (k₀, c) else (k₀, v)).map
        Prod.fst) = es.map Prod.fst := by
      rw [List.map_map]
      refine List.map_congr_left fun e _ => ?_
      obtain ⟨a, b⟩ := e
      by_cases ha : Value.equal a (.str k) = true <;> simp [ha]
    unfold TextKeysOnce
    rw [hkeys]
    exact h
  case isFalse habsent =>
    unfold TextKeysOnce
    rw [List.map_append, List.pairwise_append]
    refine ⟨h, List.pairwise_singleton _ _, ?_⟩
    intro a ha b hb t hat
    obtain ⟨⟨k₀, v⟩, he, rfl⟩ := List.mem_map.1 ha
    simp only [List.map_cons, List.map_nil, List.mem_singleton] at hb
    subst hb
    intro hkt
    cases hkt
    exact habsent (List.any_eq_true.2 ⟨(k₀, v), he, Value.equal_str_iff.2 hat⟩)

/-- A mapping tree whose entry for `key` now names the tree at `y`, the other entries' places
kept: it is the plain mapping with `key` set to `y`'s value. -/
theorem Holds.dict_of_setValue {s' : Shared} {key : String} {kp cp y : Nat} {c c' : Value}
    {es : List (Value × Value)} {F Tc Tc' : List Nat} (hE : HoldsEntries s entries es F)
    (hiF : i ∉ F) (hkeys : TextKeysOnce es)
    (hfind : (entries.find? fun (k, _) => s.keyIs k (.str key)) = some (kp, cp))
    (hc : Holds s cp c Tc) (hy : Holds s' y c' Tc') (hi : i < s'.parts.size)
    (hp : s'.part i = .dict (entries.map fun (k, v) =>
      if s.keyIs k (.str key) then (k, y) else (k, v)))
    (hkeep : ∀ j ∈ F, j ∉ Tc → j < s'.parts.size ∧ s'.part j = s.part j)
    (hfresh : ∀ j ∈ Tc', j ∈ Tc ∨ j ∉ F) (hiy : i ∉ Tc') :
    ∃ F', Holds s' i (.dict (Value.setEntry es (.str key) c')) (i :: F') ∧
      ∀ j ∈ F', (j ∈ F ∧ j ∉ Tc) ∨ j ∈ Tc' := by
  obtain ⟨F', hE', hF'⟩ := hE.setValue hc hy hkeys hfind hkeep hfresh
  have hany : (es.any fun (k, _) => Value.equal k (.str key)) = true := by
    have hlook := hE.lookup_of_find? hfind hc
    simp only [Value.lookup, Option.map_eq_some_iff] at hlook
    obtain ⟨e, he, -⟩ := hlook
    have hkey := List.find?_some he
    exact List.any_eq_true.2 ⟨e, List.mem_of_find?_eq_some he, by simpa using hkey⟩
  have hset : Value.setEntry es (.str key) c' =
      es.map fun (k, v) => if Value.equal k (.str key) then (k, c') else (k, v) := by
    rw [Value.setEntry, if_pos hany]
  refine ⟨F', ?_, hF'⟩
  rw [hset]
  refine .dict hi hp hE' (fun hiF' => ?_) (hset ▸ hkeys.setEntry key c')
  rcases hF' i hiF' with ⟨hiF'', -⟩ | hiT
  · exact hiF hiF''
  · exact hiy hiT

/-- A mapping tree given a last entry for a key it lacked, keyed by a new text part and naming
the tree at `y`: it is the plain mapping with `key` set to `y`'s value. -/
theorem Holds.dict_of_append {s' : Shared} {key : String} {kp y : Nat} {c' : Value}
    {es : List (Value × Value)} {F Tc' : List Nat} (hE : HoldsEntries s entries es F)
    (hiF : i ∉ F) (hkeys : TextKeysOnce es) (hlook : Value.lookup es (.str key) = none)
    (hkey : Holds s' kp (.str key) [kp]) (hy : Holds s' y c' Tc') (hi : i < s'.parts.size)
    (hp : s'.part i = .dict (entries ++ [(kp, y)]))
    (hkeep : ∀ j ∈ F, j < s'.parts.size ∧ s'.part j = s.part j)
    (hkF : kp ∉ F) (hkT : kp ∉ Tc') (hFT : F.Disjoint Tc') (hik : i ≠ kp) (hiT : i ∉ Tc') :
    Holds s' i (.dict (Value.setEntry es (.str key) c')) (i :: (F ++ ([kp] ++ Tc' ++ []))) := by
  have hany : (es.any fun (k, _) => Value.equal k (.str key)) = false := by
    simp only [Value.lookup, Option.map_eq_none_iff, List.find?_eq_none] at hlook
    exact List.any_eq_false.2 fun e he => hlook e he
  have hset : Value.setEntry es (.str key) c' = es ++ [(.str key, c')] := by
    rw [Value.setEntry, hany]
    rfl
  have hnew : HoldsEntries s' [(kp, y)] [(.str key, c')] ([kp] ++ Tc' ++ []) :=
    .cons hkey hy .nil (by simpa using hkT) (by simp)
  have hall := (hE.frame hkeep).append hnew fun j hjF hj => by
    simp only [List.append_nil, List.singleton_append, List.mem_cons] at hj
    rcases hj with rfl | hjT
    · exact hkF hjF
    · exact hFT hjF hjT
  rw [hset]
  refine .dict hi hp hall (fun hi' => ?_) (hset ▸ hkeys.setEntry key c')
  simp only [List.append_nil, List.singleton_append, List.mem_append, List.mem_cons] at hi'
  rcases hi' with hiF' | rfl | hiT'
  · exact hiF hiF'
  · exact hik rfl
  · exact hiT hiT'

end TextKey

end Shared

end SyntaxAdvisor
