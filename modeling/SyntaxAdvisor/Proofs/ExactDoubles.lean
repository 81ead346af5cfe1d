import SyntaxAdvisor.Decimal.Notation
import SyntaxAdvisor.Decimal.Reading
import Mathlib

/-!
# Doubles as exact rational values

The printer and the reader of doubles work in exact natural-number arithmetic on ratios. This
module gives that arithmetic its meaning in `ℚ`: a ratio stands for the quotient of its two
numbers, and the tests the code makes on ratios are the comparisons of those quotients.

It also says what a double is, as far as the printer and the reader are concerned. The bits of a
double decode to a sign and either a not-a-number, an infinity, or a finite value `m · 2^e` with
`Legal m e`. Putting the decoded fields back together gives the double itself, and the one
not-a-number is the reader's. A decimal reads as the finite double `m · 2^e` exactly when it lies
in the double's rounding interval (`InRounding`): within half a gap of the double, the ends
included when `m` is even.
-/

namespace SyntaxAdvisor.Decimal

open Float.Model UnpackedFloat

/-! ## Ratios -/

namespace Ratio

/-- The rational number a ratio stands for. -/
def val (a : Ratio) : ℚ := a.num / a.den

theorem lt_eq_true_iff {a b : Ratio} (ha : 0 < a.den) (hb : 0 < b.den) :
    a.lt b = true ↔ a.val < b.val := by
  have ha' : (0 : ℚ) < a.den := by exact_mod_cast ha
  have hb' : (0 : ℚ) < b.den := by exact_mod_cast hb
  rw [lt, decide_eq_true_iff, val, val, div_lt_div_iff₀ ha' hb']
  exact_mod_cast Iff.rfl

theorem le_eq_true_iff {a b : Ratio} (ha : 0 < a.den) (hb : 0 < b.den) :
    a.le b = true ↔ a.val ≤ b.val := by
  have ha' : (0 : ℚ) < a.den := by exact_mod_cast ha
  have hb' : (0 : ℚ) < b.den := by exact_mod_cast hb
  rw [le, decide_eq_true_iff, val, val, div_le_div_iff₀ ha' hb']
  exact_mod_cast Iff.rfl

theorem floor_eq (a : Ratio) : a.floor = ⌊a.val⌋₊ := by
  rw [floor, val, Nat.floor_div_eq_div]

/-- A power with an integer exponent, as the code forms it from two natural powers. -/
theorem zpow_eq_div (b : ℚ) (k : ℤ) : b ^ k = b ^ k.toNat / b ^ (-k).toNat := by
  obtain ⟨n, rfl | rfl⟩ := Int.eq_nat_or_neg k
  · simp
  · simp [zpow_neg, div_eq_inv_mul]

theorem val_ofBinary (m : Nat) (e : Int) : (ofBinary m e).val = m * 2 ^ e := by
  rw [val, ofBinary, zpow_eq_div]
  push_cast
  ring

theorem val_ofDecimal (c : Nat) (k : Int) : (ofDecimal c k).val = c * 10 ^ k := by
  rw [val, ofDecimal, zpow_eq_div]
  push_cast
  ring

theorem den_ofBinary_pos (m : Nat) (e : Int) : 0 < (ofBinary m e).den := Nat.two_pow_pos _

theorem den_ofDecimal_pos (c : Nat) (k : Int) : 0 < (ofDecimal c k).den :=
  Nat.pow_pos (by decide)

/-- Scaling a ratio by a power of ten, as the digit search does. -/
theorem val_scale (a : Ratio) (k : Int) :
    (Ratio.mk (a.num * 10 ^ (-k).toNat) (a.den * 10 ^ k.toNat)).val = a.val / 10 ^ k := by
  rw [val, val, zpow_eq_div]
  push_cast
  field_simp

/-- Scaling a ratio by a power of two, as the search for the nearest double does. -/
theorem val_scale_two (a : Ratio) (e : Int) :
    (Ratio.mk (a.num * 2 ^ (-e).toNat) (a.den * 2 ^ e.toNat)).val = a.val / 2 ^ e := by
  rw [val, val, zpow_eq_div]
  push_cast
  field_simp

end Ratio

/-- A positive number lies between the powers of ten its length names. -/
theorem decimalLength_bounds {n : Nat} (hn : 0 < n) :
    10 ^ (decimalLength n - 1) ≤ n ∧ n < 10 ^ decimalLength n := by
  have hlen : 0 < decimalLength n := Nat.length_repr_pos
  refine ⟨?_, (Nat.length_repr_le_iff hlen).1 le_rfl⟩
  rcases Nat.eq_or_lt_of_le (Nat.succ_le_of_lt hlen) with h1 | h1
  · rw [← h1]
    exact hn
  · by_contra hlt
    have hshort : decimalLength n ≤ decimalLength n - 1 :=
      (Nat.length_repr_le_iff (n := n) (by omega)).2 (by omega)
    omega

namespace Ratio

/-- The power of ten the code estimates for a ratio is at most the ratio. -/
theorem pow_log10_le {a : Ratio} (hnum : 0 < a.num) (hden : 0 < a.den) :
    (10 : ℚ) ^ a.log10 ≤ a.val := by
  obtain ⟨hn1, -⟩ := decimalLength_bounds hnum
  obtain ⟨-, hd2⟩ := decimalLength_bounds hden
  -- the estimate from the lengths of the two numbers is at most one too large
  have hlow : (10 : ℚ) ^ ((decimalLength a.num : ℤ) - decimalLength a.den - 1) < a.val := by
    have hpow : (10 : ℚ) ^ ((decimalLength a.num : ℤ) - decimalLength a.den - 1) =
        (10 : ℚ) ^ (decimalLength a.num - 1) / 10 ^ decimalLength a.den := by
      have hlen : 0 < decimalLength a.num := Nat.length_repr_pos
      rw [show (decimalLength a.num : ℤ) - decimalLength a.den - 1 =
          ((decimalLength a.num - 1 : ℕ) : ℤ) - (decimalLength a.den : ℤ) by omega,
        zpow_sub₀ (by norm_num), zpow_natCast, zpow_natCast]
    have hden' : (0 : ℚ) < a.den := by exact_mod_cast hden
    have hn1' : (10 : ℚ) ^ (decimalLength a.num - 1) ≤ a.num := by exact_mod_cast hn1
    have hd2' : (a.den : ℚ) < 10 ^ decimalLength a.den := by exact_mod_cast hd2
    rw [hpow, val]
    calc (10 : ℚ) ^ (decimalLength a.num - 1) / 10 ^ decimalLength a.den
        < (10 : ℚ) ^ (decimalLength a.num - 1) / a.den := by gcongr
      _ ≤ a.num / a.den := by gcongr
  have hle : ∀ t : ℤ, (Ratio.ofDecimal 1 t).le a = true ↔ (10 : ℚ) ^ t ≤ a.val := fun t => by
    rw [le_eq_true_iff (den_ofDecimal_pos 1 t) hden, val_ofDecimal, Nat.cast_one, one_mul]
  unfold log10
  dsimp only
  -- each branch ends on a power of ten that was checked, except the last, which the estimate
  -- rules out
  split_ifs with h1 h2 h3 h3 <;> rw [hle] at *
  · exact h2
  · exact h1
  · exact h3
  · exact h3
  · exact absurd hlow.le h3

end Ratio

/-! ## The fields of a double -/

/-- A double put together from the fields of its own bits is the double. -/
theorem floatOfFields_fields (x : Float) :
    floatOfFields (decide (x.toBits.toNat ≥ 2 ^ 63)) (x.toBits.toNat / 2 ^ 52 % 2 ^ 11)
      (x.toBits.toNat % 2 ^ 52) = x := by
  have hb := x.toBits.toNat_lt
  have hsum : (if decide (x.toBits.toNat ≥ 2 ^ 63) = true then 2 ^ 63 else 0) +
      x.toBits.toNat / 2 ^ 52 % 2 ^ 11 * 2 ^ 52 + x.toBits.toNat % 2 ^ 52 = x.toBits.toNat := by
    split <;> simp_all <;> omega
  rw [floatOfFields, hsum, UInt64.ofNat_toNat, Float.ofBits_toBits]

/-- The significand and exponent of a finite double, as its bits give them: a significand below
`2^53`, an exponent from `-1074` to `971`, and the hidden bit set above the smallest exponent. -/
structure Legal (m : Nat) (e : Int) : Prop where
  significand_lt : m < 2 ^ 53
  exponent_ge : -1074 ≤ e
  exponent_le : e ≤ 971
  normal : -1074 < e → 2 ^ 52 ≤ m

/-- The exponent field of the double `m · 2^e`: zero for a subnormal one. -/
def exponentField (m : Nat) (e : Int) : Nat := if m < 2 ^ 52 then 0 else (e + 1075).toNat

theorem ofFloat_eq_finite {x : Float} {v : BinaryFloat} (h : DoubleKind.ofFloat x = .finite v) :
    Legal v.significand v.exponent ∧
      x = floatOfFields v.negative (exponentField v.significand v.exponent)
        (v.significand % 2 ^ 52) := by
  have hb := x.toBits.toNat_lt
  unfold DoubleKind.ofFloat at h
  dsimp only at h
  by_cases hinf : x.toBits.toNat / 2 ^ 52 % 2 ^ 11 = 2047
  · simp only [hinf, beq_self_eq_true, ↓reduceIte] at h
    split at h <;> cases h
  by_cases hzero : x.toBits.toNat / 2 ^ 52 % 2 ^ 11 = 0
  · -- a subnormal double, or a zero
    simp only [hzero, beq_self_eq_true, ↓reduceIte, beq_iff_eq, show (0 : Nat) ≠ 2047 by decide,
      DoubleKind.finite.injEq] at h
    subst h
    dsimp only
    refine ⟨⟨by omega, le_rfl, by decide, fun h => absurd h (lt_irrefl _)⟩, ?_⟩
    conv_lhs => rw [← floatOfFields_fields x]
    simp only [exponentField]
    rw [if_pos (by omega), hzero, Nat.mod_mod]
  · -- a normal double: the hidden bit is set
    simp only [beq_iff_eq, hinf, hzero, if_false, DoubleKind.finite.injEq] at h
    subst h
    dsimp only
    refine ⟨⟨by omega, by omega, by omega, fun _ => by omega⟩, ?_⟩
    conv_lhs => rw [← floatOfFields_fields x]
    have hfield : ((x.toBits.toNat / 2 ^ 52 % 2 ^ 11 : Nat) - 1075 + 1075 : Int).toNat =
        x.toBits.toNat / 2 ^ 52 % 2 ^ 11 := by omega
    have hfraction : (x.toBits.toNat % 2 ^ 52 + 2 ^ 52) % 2 ^ 52 = x.toBits.toNat % 2 ^ 52 := by
      omega
    simp only [exponentField]
    rw [if_neg (by omega), hfield, hfraction]

theorem ofFloat_eq_infinity {x : Float} {negative : Bool}
    (h : DoubleKind.ofFloat x = .infinity negative) : x = floatOfFields negative 2047 0 := by
  unfold DoubleKind.ofFloat at h
  dsimp only at h
  split_ifs at h with hinf hzero
  · cases h
    simp only [beq_iff_eq] at hinf hzero
    conv_lhs => rw [← floatOfFields_fields x]
    rw [hinf, hzero]

theorem ofFloat_eq_nan {x : Float} (h : DoubleKind.ofFloat x = .nan) : x = notANumber := by
  unfold DoubleKind.ofFloat at h
  dsimp only at h
  split_ifs at h with hinf hzero
  simp only [beq_iff_eq] at hinf hzero
  -- a not-a-number is stored with the one canonical pattern
  have hexp : @unpackExponent Format.binary64 x.toModel.toBits.toBitVec = -1#11 := by
    apply BitVec.eq_of_toNat_eq
    rw [unpackExponent_def, BitVec.extractLsb'_toNat, Nat.shiftRight_eq_div_pow]
    exact hinf
  have hman : @unpackMantissa Format.binary64 x.toModel.toBits.toBitVec ≠ 0#52 := by
    intro h0
    have h0' := congrArg BitVec.toNat h0
    rw [unpackMantissa_def, BitVec.extractLsb'_toNat, Nat.shiftRight_zero] at h0'
    exact hzero h0'
  have hcanon := x.toModel.valid.eq_packedNaN hexp hman
  have hnan : notANumber.toBits.toBitVec = packedNaN Format.binary64 := by decide +kernel
  rw [← Float.toBits_inj, ← UInt64.toBitVec_inj, hnan]
  exact hcanon

/-! ## Rounding intervals -/

/-- The distance from the double `m · 2^e` down to the next smaller one: half as far at the
bottom of a binade, where the exponent drops. -/
def gapBelow (m : Nat) (e : Int) : ℚ := if m = 2 ^ 52 ∧ -1074 < e then 2 ^ (e - 1) else 2 ^ e

/-- The rationals that read as the positive double `m · 2^e`: those within half a gap of it, the
ends included when `m` is even (a tie goes to the even significand). -/
def InRounding (m : Nat) (e : Int) (x : ℚ) : Prop :=
  if m % 2 = 0 then m * 2 ^ e - gapBelow m e / 2 ≤ x ∧ x ≤ m * 2 ^ e + 2 ^ e / 2
  else m * 2 ^ e - gapBelow m e / 2 < x ∧ x < m * 2 ^ e + 2 ^ e / 2

theorem gapBelow_pos (m : Nat) (e : Int) : 0 < gapBelow m e := by
  unfold gapBelow
  split <;> positivity

theorem gapBelow_le (m : Nat) (e : Int) : gapBelow m e ≤ 2 ^ e := by
  unfold gapBelow
  split
  · exact zpow_le_zpow_right₀ (by norm_num) (by omega)
  · exact le_rfl

variable {m : Nat} {e : Int} {x : ℚ}

/-- A rational strictly within half a gap reads as the double, whatever its parity. -/
theorem inRounding_of_lt (hlo : m * 2 ^ e - gapBelow m e / 2 < x)
    (hhi : x < m * 2 ^ e + 2 ^ e / 2) : InRounding m e x := by
  unfold InRounding
  split
  · exact ⟨hlo.le, hhi.le⟩
  · exact ⟨hlo, hhi⟩

theorem InRounding.low_le (h : InRounding m e x) : m * 2 ^ e - gapBelow m e / 2 ≤ x := by
  unfold InRounding at h
  split at h
  · exact h.1
  · exact h.1.le

theorem InRounding.le_high (h : InRounding m e x) : x ≤ m * 2 ^ e + 2 ^ e / 2 := by
  unfold InRounding at h
  split at h
  · exact h.2
  · exact h.2.le

/-- What reads as a positive double is positive. -/
theorem InRounding.pos (hm : 0 < m) (h : InRounding m e x) : 0 < x := by
  have hm1 : (1 : ℚ) ≤ m := by exact_mod_cast hm
  have hpow : (0 : ℚ) < 2 ^ e := by positivity
  have hgap := gapBelow_le m e
  calc (0 : ℚ) < 1 * 2 ^ e - 2 ^ e / 2 := by linarith
    _ ≤ m * 2 ^ e - gapBelow m e / 2 := by gcongr
    _ ≤ x := h.low_le

end SyntaxAdvisor.Decimal
