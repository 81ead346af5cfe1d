import Mathlib
import SyntaxAdvisor.Scan.Detector

/-!
# Integer values

The operations on dynamic values, specialised to integers: arithmetic, comparison, the larger
and smaller of two, equality, indices and the plain form all act as on `Int`. Lists of text
are looked up and measured as lists. These lemmas let the later proofs run the window and
snippet computations symbolically, without unfolding the general dispatch on value kinds.
-/

namespace SyntaxAdvisor

@[simp] theorem except_pure {ε α : Type} (x : α) : (pure x : Except ε α) = .ok x := rfl

@[simp] theorem except_ok_bind {ε α β : Type} (x : α) (f : α → Except ε β) :
    (Except.ok x >>= f) = f x := rfl

@[simp] theorem except_error_bind {ε α β : Type} (e : ε) (f : α → Except ε β) :
    (Except.error e >>= f) = Except.error e := rfl

@[simp] theorem except_throw {ε α : Type} (e : ε) : (throw e : Except ε α) = .error e := rfl

/-- A computation that succeeds after a first step succeeded at that step. -/
theorem except_bind_eq_ok {ε α β : Type} {x : Except ε α} {f : α → Except ε β} {b : β} :
    x >>= f = .ok b ↔ ∃ a, x = .ok a ∧ f a = .ok b := by
  cases x <;> simp

/-- The sign a number comparison uses: a negative integer is never zero. -/
theorem sign_flag_int (x : Int) : (decide (x < 0) && !(x.natAbs == 0)) = decide (x < 0) := by
  by_cases h : x < 0
  · have hne : x.natAbs ≠ 0 := by omega
    simp [h, hne]
  · simp [h]

theorem natAbs_eq_ite (x : Int) : (x.natAbs : Int) = if x < 0 then -x else x := by
  split
  · exact Int.ofNat_natAbs_of_nonpos (by omega)
  · exact Int.natAbs_of_nonneg (by omega)

/-- Two integers compare as integers. -/
theorem Number.compare_int (a b : Int) :
    (Number.int a).compare (.int b) = some (if a < b then .lt else if b < a then .gt else .eq) := by
  simp only [Number.compare, Number.exact, Decimal.Ratio.lt, Nat.mul_one, sign_flag_int]
  have ea := natAbs_eq_ite a
  have eb := natAbs_eq_ite b
  -- the signs decide unless they agree; then the magnitudes decide, reversed for negatives
  by_cases ha : a < 0 <;> by_cases hb : b < 0 <;>
    simp only [ha, hb, decide_true, decide_false, bne_self_eq_false, Bool.bne_false,
      Bool.false_bne, Bool.false_eq_true, ↓reduceIte, decide_eq_true_eq] at ea eb ⊢ <;>
    split_ifs <;> simp <;> omega

namespace Value

variable (a b : Int)

@[simp] theorem sub_int : Value.sub (.int a) (.int b) = .ok (.int (a - b)) := rfl

@[simp] theorem add_int : Value.add (.int a) (.int b) = .ok (.int (a + b)) := rfl

@[simp] theorem lt_int : Value.lt (.int a) (.int b) = .ok (decide (a < b)) := by
  simp only [Value.lt, number?, Number.compare_int]
  split_ifs <;> simp <;> omega

@[simp] theorem gt_int : Value.gt (.int a) (.int b) = .ok (decide (b < a)) := by
  simp only [Value.gt, number?, Number.compare_int]
  split_ifs <;> simp <;> omega

@[simp] theorem ge_int : Value.ge (.int a) (.int b) = .ok (decide (b ≤ a)) := by
  simp only [Value.ge, number?, Number.compare_int]
  split_ifs <;> simp <;> omega

@[simp] theorem max_int : Value.max (.int a) (.int b) = .ok (.int (Max.max a b)) := by
  simp only [Value.max, gt_int]
  by_cases h : a < b
  · have hm : Max.max a b = b := by omega
    simp [h, hm]
  · have hm : Max.max a b = a := by omega
    simp [h, hm]

@[simp] theorem min_int : Value.min (.int a) (.int b) = .ok (.int (Min.min a b)) := by
  simp only [Value.min, lt_int]
  by_cases h : b < a
  · have hm : Min.min a b = b := by omega
    simp [h, hm]
  · have hm : Min.min a b = a := by omega
    simp [h, hm]

@[simp] theorem asIndex_int : Value.asIndex (.int a) = .ok a := rfl

@[simp] theorem equal_int : Value.equal (.int a) (.int b) = decide (a = b) := by
  simp only [Value.equal, depth]
  simp only [equalWithin, number?, Number.compare_int]
  split_ifs <;> simp <;> omega

@[simp] theorem equal_str (a b : String) : Value.equal (.str a) (.str b) = (a == b) := by
  simp [Value.equal, Value.equalWithin, Value.number?]

/-- An integer is written out as its decimal text when it has at most `maxTextDigits` digits. -/
theorem shown_int (h : a.natAbs < 10 ^ maxTextDigits) : Value.shown (.int a) = .ok (toString a) := by
  have hw : (Value.int a).writable = true := by
    simp only [writable]
    exact decide_eq_true h
  rw [Value.shown, if_pos hw]
  rfl

@[simp] theorem shown_str (s : String) : Value.shown (.str s) = .ok s := by
  simp [Value.shown, writable, text]

@[simp] theorem len_list (xs : List Value) : Value.len (.list xs) = .ok xs.length := rfl

@[simp] theorem truthy_list (xs : List Value) : (Value.list xs).truthy = !xs.isEmpty := rfl

/-- An index within a list picks its item. -/
theorem getItem_list (xs : List Value) (i : Nat) (h : i < xs.length) :
    Value.getItem (.list xs) (.int i) = .ok xs[i] := by
  have hp : position i xs.length = some i := by
    simp only [position]
    split_ifs <;> simp_all <;> omega
  simp [getItem, number?, hp, List.getD_eq_getElem?_getD, List.getElem?_eq_getElem h]

end Value

@[simp] theorem sliceBound_int (a : Int) : sliceBound (.int a) = .ok a := rfl

end SyntaxAdvisor
