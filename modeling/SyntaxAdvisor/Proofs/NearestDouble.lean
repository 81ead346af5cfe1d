import SyntaxAdvisor.Proofs.ExactDoubles

/-!
# The reader rounds a decimal to the double whose interval holds it

`nearestDouble` first finds the exponent of two at which the decimal has a significand of 53
bits, or the smallest exponent for values below the normal range. It then rounds the scaled
value to the nearest integer, a tie going to the even one, and carries a significand that
rounds up to `2^53` into the next exponent. For a decimal in the rounding interval of a
finite double `m · 2^e` (`InRounding`), these steps land on the double's own exponent and
significand, so the reader gives the double back.
-/

namespace SyntaxAdvisor.Decimal

open Ratio

/-! ## Rounding half to even -/

/-- `n` is the integer nearest to `y`, a tie going to the even one. -/
def NearestEven (n : Nat) (y : ℚ) : Prop :=
  if n % 2 = 0 then (n : ℚ) - 1 / 2 ≤ y ∧ y ≤ n + 1 / 2
  else (n : ℚ) - 1 / 2 < y ∧ y < n + 1 / 2

theorem NearestEven.weak {n : Nat} {y : ℚ} (h : NearestEven n y) :
    (n : ℚ) - 1 / 2 ≤ y ∧ y ≤ n + 1 / 2 := by
  unfold NearestEven at h
  split at h
  · exact h
  · exact ⟨h.1.le, h.2.le⟩

/-- An odd integer is nearest only to values strictly within half of it. -/
theorem NearestEven.strict_of_odd {n : Nat} {y : ℚ} (h : NearestEven n y) (hodd : n % 2 = 1) :
    (n : ℚ) - 1 / 2 < y ∧ y < n + 1 / 2 := by
  unfold NearestEven at h
  rw [if_neg (by omega)] at h
  exact h

/-- Below half past an integer, the nearest integer is that integer. -/
theorem NearestEven.eq_of_lt_half {n q : Nat} {s : ℚ} (h : NearestEven n (q + s)) (hs0 : 0 ≤ s)
    (hs : s < 1 / 2) : n = q := by
  obtain ⟨h1, h2⟩ := h.weak
  have hlt : (n : ℚ) < q + 1 := by linarith
  have hgt : (q : ℚ) < n + 1 := by linarith
  have hlt' : n < q + 1 := by exact_mod_cast hlt
  have hgt' : q < n + 1 := by exact_mod_cast hgt
  omega

/-- Above half past an integer, and below the next one, the nearest integer is the next one. -/
theorem NearestEven.eq_succ_of_half_lt {n q : Nat} {s : ℚ} (h : NearestEven n (q + s))
    (hs : 1 / 2 < s) (hs1 : s < 1) : n = q + 1 := by
  obtain ⟨h1, h2⟩ := h.weak
  have hlt : (n : ℚ) < q + 2 := by linarith
  have hgt : (q : ℚ) < n := by linarith
  have hlt' : n < q + 2 := by exact_mod_cast hlt
  have hgt' : q < n := by exact_mod_cast hgt
  omega

/-- Exactly half past an integer, the nearest integer is the even one of the two around. -/
theorem NearestEven.of_half {n q : Nat} (h : NearestEven n (q + 1 / 2)) :
    n % 2 = 0 ∧ (n = q ∨ n = q + 1) := by
  obtain ⟨h1, h2⟩ := h.weak
  have hlt : (n : ℚ) < q + 2 := by linarith
  have hge : (q : ℚ) ≤ n := by linarith
  have hlt' : n < q + 2 := by exact_mod_cast hlt
  have hge' : q ≤ n := by exact_mod_cast hge
  -- an odd integer would have to lie strictly within half of the value
  have heven : n % 2 = 0 := by
    by_contra hodd
    have hst := h.strict_of_odd (by omega)
    have h3 : (n : ℚ) < q + 1 := by linarith [hst.1]
    have h4 : (q : ℚ) < n := by linarith [hst.2]
    have h3' : n < q + 1 := by exact_mod_cast h3
    have h4' : q < n := by exact_mod_cast h4
    omega
  exact ⟨heven, by omega⟩

/-- Rounding a quotient of naturals half to even, as the reader does with the remainder, gives
the integer nearest to the quotient. -/
theorem roundHalfEven_eq {num den n : Nat} (hden : 0 < den) (h : NearestEven n (num / den)) :
    (if (decide (2 * (num % den) > den) || 2 * (num % den) == den && num / den % 2 == 1) = true
      then num / den + 1 else num / den) = n := by
  have hdq : (0 : ℚ) < den := by exact_mod_cast hden
  -- the quotient is the integer part `q` plus a fraction `s` below one
  have hsplit : (num : ℚ) / den = (num / den : ℕ) + (num % den : ℕ) / den := by
    have hnum : (num : ℚ) = den * (num / den : ℕ) + (num % den : ℕ) := by
      exact_mod_cast (Nat.div_add_mod num den).symm
    rw [hnum]
    field_simp
  have hfrac : ((num % den : ℕ) : ℚ) / den < 1 :=
    (div_lt_one hdq).2 (by exact_mod_cast Nat.mod_lt num hden)
  have hfrac0 : 0 ≤ ((num % den : ℕ) : ℚ) / den := by positivity
  rw [hsplit] at h
  generalize num / den = q at *
  generalize hr : num % den = r at *
  generalize hs : (r : ℚ) / den = s at *
  -- the remainder against half the divisor: the fraction against one half
  rcases Nat.lt_trichotomy (2 * r) den with hlt | heq | hgt
  · have hs2 : s < 1 / 2 := by
      rw [← hs, div_lt_iff₀ hdq]
      have : ((2 * r : ℕ) : ℚ) < den := by exact_mod_cast hlt
      push_cast at this
      linarith
    rw [if_neg (by simp only [Bool.or_eq_true, decide_eq_true_eq, Bool.and_eq_true, beq_iff_eq]; omega)]
    exact (h.eq_of_lt_half hfrac0 hs2).symm
  · have hs2 : s = 1 / 2 := by
      rw [← hs, div_eq_iff hdq.ne']
      have : ((2 * r : ℕ) : ℚ) = den := by exact_mod_cast heq
      push_cast at this
      linarith
    subst hs2
    obtain ⟨heven, hn⟩ := h.of_half
    split_ifs with hc
    · simp only [Bool.or_eq_true, decide_eq_true_eq, Bool.and_eq_true, beq_iff_eq] at hc
      omega
    · simp only [Bool.or_eq_true, decide_eq_true_eq, Bool.and_eq_true, beq_iff_eq, not_or,
        not_and] at hc
      omega
  · have hs2 : 1 / 2 < s := by
      rw [← hs, lt_div_iff₀ hdq]
      have : (den : ℚ) < ((2 * r : ℕ) : ℚ) := by exact_mod_cast hgt
      push_cast at this
      linarith
    rw [if_pos (by simp only [Bool.or_eq_true, decide_eq_true_eq]; left; omega)]
    exact (h.eq_succ_of_half_lt hs2 hfrac).symm

/-! ## The exponent of the significand -/

/-- `T` is the exponent of two at which `V` has a significand of 53 bits, or the smallest
exponent when `V` lies below the normal range. -/
def InBinade (V : ℚ) (T : Int) : Prop :=
  -1074 ≤ T ∧ V < 2 ^ 53 * 2 ^ T ∧ (T = -1074 ∨ 2 ^ 52 * 2 ^ T ≤ V)

theorem two_pow_mul_zpow (n : Nat) (T : Int) : (2 : ℚ) ^ n * 2 ^ T = 2 ^ ((n : Int) + T) := by
  rw [← zpow_natCast, ← zpow_add₀ two_ne_zero]

theorem two_pow_mul_zpow_add_one (n : Nat) (T : Int) :
    (2 : ℚ) ^ n * 2 ^ (T + 1) = 2 ^ (n + 1) * 2 ^ T := by
  rw [zpow_add_one₀ two_ne_zero, pow_succ]
  ring

theorem not_lt_of_inBinade {V : ℚ} {T T' : Int} (h : InBinade V T) (h' : InBinade V T') :
    ¬T < T' := by
  intro hlt
  -- above the smallest exponent the value has 53 bits at `T'`, too many for `T`
  have hlow : 2 ^ 52 * 2 ^ T' ≤ V := h'.2.2.resolve_left (by have := h.1; omega)
  have hstep : (2 : ℚ) ^ 53 * 2 ^ T ≤ 2 ^ 52 * 2 ^ T' := by
    rw [two_pow_mul_zpow, two_pow_mul_zpow]
    exact zpow_le_zpow_right₀ (by norm_num) (by push_cast; omega)
  linarith [h.2.1]

theorem InBinade.unique {V : ℚ} {T T' : Int} (h : InBinade V T) (h' : InBinade V T') : T = T' :=
  le_antisymm (not_lt.1 (not_lt_of_inBinade h' h)) (not_lt.1 (not_lt_of_inBinade h h'))

/-- The test of the search for the exponent: whether the scaled value has more than 53 bits. -/
theorem floor_scale_ge_iff (v : Ratio) (e : Int) :
    (Ratio.mk (v.num * 2 ^ (-e).toNat) (v.den * 2 ^ e.toNat)).floor ≥ 2 ^ 53 ↔
      2 ^ 53 * 2 ^ e ≤ v.val := by
  have hv : 0 ≤ v.val := by unfold val; positivity
  rw [ge_iff_le, floor_eq, val_scale_two, Nat.le_floor_iff (by positivity),
    le_div_iff₀ (by positivity)]
  push_cast
  rfl

theorem settle_succ (v : Ratio) (e : Int) (n : Nat) :
    nearestDouble.settle v e (n + 1) =
      if (Ratio.mk (v.num * 2 ^ (-e).toNat) (v.den * 2 ^ e.toNat)).floor ≥ 2 ^ 53 then
        nearestDouble.settle v (e + 1) n
      else e := by
  rw [nearestDouble.settle]

/-- The estimate of the binary logarithm from the lengths of the numerator and the denominator
is at most one too small: at it the value has 53 or 54 bits. -/
theorem log2_estimate_bounds {v : Ratio} (hnum : 0 < v.num) (hden : 0 < v.den) :
    2 ^ 52 * 2 ^ ((Nat.log2 v.num : Int) - Nat.log2 v.den - 53) < v.val ∧
      v.val < 2 ^ 54 * 2 ^ ((Nat.log2 v.num : Int) - Nat.log2 v.den - 53) := by
  have hpow : ∀ a b : Nat, (2 : ℚ) ^ ((a : Int) - b) = 2 ^ a / 2 ^ b := fun a b => by
    rw [zpow_sub₀ two_ne_zero, zpow_natCast, zpow_natCast]
  have hnum1 : (2 : ℚ) ^ Nat.log2 v.num ≤ v.num := by
    exact_mod_cast Nat.log2_self_le hnum.ne'
  have hnum2 : (v.num : ℚ) < 2 ^ (Nat.log2 v.num + 1) := by
    exact_mod_cast Nat.lt_log2_self
  have hden1 : (2 : ℚ) ^ Nat.log2 v.den ≤ v.den := by
    exact_mod_cast Nat.log2_self_le hden.ne'
  have hden2 : (v.den : ℚ) < 2 ^ (Nat.log2 v.den + 1) := by
    exact_mod_cast Nat.lt_log2_self
  have hdq : (0 : ℚ) < v.den := by exact_mod_cast hden
  constructor
  · have hlow : 2 ^ 52 * (2 : ℚ) ^ ((Nat.log2 v.num : Int) - Nat.log2 v.den - 53) =
        2 ^ Nat.log2 v.num / 2 ^ (Nat.log2 v.den + 1) := by
      rw [two_pow_mul_zpow, ← hpow]
      congr 1
      push_cast
      ring
    rw [hlow, val]
    calc (2 : ℚ) ^ Nat.log2 v.num / 2 ^ (Nat.log2 v.den + 1)
        < 2 ^ Nat.log2 v.num / v.den := by gcongr
      _ ≤ v.num / v.den := by gcongr
  · have hhigh : 2 ^ 54 * (2 : ℚ) ^ ((Nat.log2 v.num : Int) - Nat.log2 v.den - 53) =
        2 ^ (Nat.log2 v.num + 1) / 2 ^ Nat.log2 v.den := by
      rw [two_pow_mul_zpow, ← hpow]
      congr 1
      push_cast
      ring
    rw [hhigh, val]
    calc (v.num : ℚ) / v.den < 2 ^ (Nat.log2 v.num + 1) / v.den := by gcongr
      _ ≤ 2 ^ (Nat.log2 v.num + 1) / 2 ^ Nat.log2 v.den := by gcongr

/-- The search for the exponent, started from the estimate the lengths of the numerator and
the denominator give, ends on the exponent of the significand. -/
theorem settle_inBinade {v : Ratio} (hnum : 0 < v.num) (hden : 0 < v.den) :
    InBinade v.val (nearestDouble.settle v
      (max ((Nat.log2 v.num : Int) - (Nat.log2 v.den : Int) - 53) (-1074)) 4) := by
  obtain ⟨habove, hbelow⟩ := log2_estimate_bounds hnum hden
  generalize (Nat.log2 v.num : Int) - (Nat.log2 v.den : Int) = lg at habove hbelow ⊢
  set e0 := max (lg - 53) (-1074) with he0
  have hle : lg - 53 ≤ e0 := le_max_left _ _
  have hbelow0 : v.val < 2 ^ 54 * 2 ^ e0 := lt_of_lt_of_le hbelow (by gcongr; norm_num)
  rw [settle_succ]
  split_ifs with hbig
  · -- one step up: the value has at most 54 bits at the estimate
    rw [floor_scale_ge_iff] at hbig
    have hnext : ¬(Ratio.mk (v.num * 2 ^ (-(e0 + 1)).toNat)
        (v.den * 2 ^ (e0 + 1).toNat)).floor ≥ 2 ^ 53 := by
      rw [floor_scale_ge_iff, not_le, two_pow_mul_zpow_add_one]
      exact hbelow0
    rw [settle_succ, if_neg hnext]
    refine ⟨by omega, ?_, .inr ?_⟩
    · rw [two_pow_mul_zpow_add_one]
      exact hbelow0
    · rw [two_pow_mul_zpow_add_one]
      exact hbig
  · -- the estimate is the exponent, unless it was raised to the smallest one
    rw [floor_scale_ge_iff, not_le] at hbig
    refine ⟨le_max_right _ _, hbig, ?_⟩
    rcases le_total (lg - 53) (-1074) with hsmall | hlarge
    · exact .inl (max_eq_right hsmall)
    · exact .inr (by rw [he0, max_eq_left hlarge]; exact habove.le)

/-! ## The double whose interval holds the value -/

variable {m : Nat} {e : Int} {V : ℚ}

/-- In the interval of `m · 2^e`, away from the short lower half at the bottom of a binade, the
value scaled down by `2^e` rounds to `m`. -/
theorem nearestEven_of_inRounding (h : InRounding m e V)
    (hlow : gapBelow m e = 2 ^ e ∨ m * 2 ^ e ≤ V) : NearestEven m (V / 2 ^ e) := by
  have h2 : (0 : ℚ) < 2 ^ e := by positivity
  have hlo : ((m : ℚ) - 1 / 2) * 2 ^ e = m * 2 ^ e - 2 ^ e / 2 := by ring
  have hhi : ((m : ℚ) + 1 / 2) * 2 ^ e = m * 2 ^ e + 2 ^ e / 2 := by ring
  unfold NearestEven
  rw [le_div_iff₀ h2, div_le_iff₀ h2, lt_div_iff₀ h2, div_lt_iff₀ h2, hlo, hhi]
  unfold InRounding at h
  rcases hlow with hgap | habove
  · rw [hgap] at h
    exact h
  · split_ifs at h ⊢
    · exact ⟨by linarith, h.2⟩
    · exact ⟨by linarith, h.2⟩

/-- A value just below the bottom of a binade, scaled one exponent lower, rounds up to `2^53`. -/
theorem nearestEven_bottom (h : InRounding (2 ^ 52) e V) (he : -1074 < e)
    (hV : V < 2 ^ 52 * 2 ^ e) : NearestEven (2 ^ 53) (V / 2 ^ (e - 1)) := by
  have h1 : (2 : ℚ) ^ e = 2 ^ (e - 1) * 2 := by rw [← zpow_add_one₀ two_ne_zero, sub_add_cancel]
  have h2 : (0 : ℚ) < 2 ^ (e - 1) := by positivity
  have hlow := h.low_le
  rw [gapBelow, if_pos ⟨rfl, he⟩] at hlow
  unfold NearestEven
  rw [if_pos (by norm_num), le_div_iff₀ h2, div_le_iff₀ h2]
  push_cast at hlow ⊢
  rw [h1] at hlow hV
  constructor <;> linarith

theorem inBinade_of_inRounding (hl : Legal m e) (h : InRounding m e V)
    (hbottom : ¬(m = 2 ^ 52 ∧ -1074 < e ∧ V < 2 ^ 52 * 2 ^ e)) : InBinade V e := by
  have h2 : (0 : ℚ) < 2 ^ e := by positivity
  have hm53 : (m : ℚ) + 1 ≤ 2 ^ 53 := by exact_mod_cast hl.significand_lt
  refine ⟨hl.exponent_ge, ?_, ?_⟩
  · -- below the next binade
    have := mul_le_mul_of_nonneg_right hm53 h2.le
    linarith [h.le_high]
  · rcases eq_or_lt_of_le hl.exponent_ge with heq | hgt
    · exact .inl heq.symm
    · right
      by_cases hm52 : m = 2 ^ 52
      · -- at the bottom of the binade the value is not below the double
        exact not_lt.1 fun hV => hbottom ⟨hm52, hgt, hV⟩
      · -- above it the gap below is the full one
        have hgap : gapBelow m e = 2 ^ e := by rw [gapBelow, if_neg fun hb => hm52 hb.1]
        have hm1 : (2 : ℚ) ^ 52 + 1 ≤ m := by
          exact_mod_cast (show 2 ^ 52 + 1 ≤ m by have := hl.normal hgt; omega)
        have := mul_le_mul_of_nonneg_right hm1 h2.le
        linarith [hgap ▸ h.low_le]

theorem inBinade_bottom (h : InRounding (2 ^ 52) e V) (he : -1074 < e)
    (hV : V < 2 ^ 52 * 2 ^ e) : InBinade V (e - 1) := by
  have h1 : (2 : ℚ) ^ e = 2 ^ (e - 1) * 2 := by rw [← zpow_add_one₀ two_ne_zero, sub_add_cancel]
  have h2 : (0 : ℚ) < 2 ^ (e - 1) := by positivity
  have hlow := h.low_le
  rw [gapBelow, if_pos ⟨rfl, he⟩] at hlow
  push_cast at hlow
  rw [h1] at hlow hV
  exact ⟨by omega, by linarith, .inr (by linarith)⟩

/-- The exponent and the rounded integer the reader arrives at for a value in the interval of
`m · 2^e`, and the carry of a significand of `2^53` into the next exponent. -/
theorem exists_rounding (hl : Legal m e) (h : InRounding m e V) :
    ∃ T n, InBinade V T ∧ NearestEven n (V / 2 ^ T) ∧
      (if (n == 2 ^ 53) = true then ((2 ^ 52 : Nat), T + 1) else (n, T)) = (m, e) := by
  by_cases hbottom : m = 2 ^ 52 ∧ -1074 < e ∧ V < 2 ^ 52 * 2 ^ e
  · obtain ⟨rfl, he, hV⟩ := hbottom
    exact ⟨e - 1, 2 ^ 53, inBinade_bottom h he hV, nearestEven_bottom h he hV, by simp⟩
  · refine ⟨e, m, inBinade_of_inRounding hl h hbottom, nearestEven_of_inRounding h ?_, ?_⟩
    · by_cases hb : m = 2 ^ 52 ∧ -1074 < e
      · right
        rw [hb.1]
        push_cast
        exact not_lt.1 fun hV => hbottom ⟨hb.1, hb.2, hV⟩
      · left
        rw [gapBelow, if_neg hb]
    · rw [if_neg (by have := hl.significand_lt; simp only [beq_iff_eq]; omega)]

/-- The range of doubles against powers of ten: `2^1075 < 10^401`. -/
theorem two_pow_lt_ten_pow : (2 : ℚ) ^ 1075 < 10 ^ 401 := by
  exact_mod_cast (by decide +kernel : 2 ^ 1075 < 10 ^ 401)

/-- What reads as a double lies between half the smallest subnormal and the first power of two
beyond the largest double. -/
theorem inRounding_bounds (hl : Legal m e) (hm : 0 < m) (h : InRounding m e V) :
    2 ^ (-1075 : ℤ) ≤ V ∧ V < 2 ^ 1024 := by
  have h2 : (0 : ℚ) < 2 ^ e := by positivity
  have hm1 : (1 : ℚ) ≤ m := by exact_mod_cast hm
  have hm53 : (m : ℚ) + 1 ≤ 2 ^ 53 := by exact_mod_cast hl.significand_lt
  have hgap := gapBelow_le m e
  have hsmall : (2 : ℚ) ^ (-1074 : ℤ) ≤ 2 ^ e := zpow_le_zpow_right₀ (by norm_num) hl.exponent_ge
  constructor
  · calc (2 : ℚ) ^ (-1075 : ℤ) = 2 ^ (-1074 : ℤ) / 2 := by
          rw [show (-1074 : ℤ) = -1075 + 1 by norm_num, zpow_add_one₀ two_ne_zero]
          ring
      _ ≤ 2 ^ e / 2 := by gcongr
      _ ≤ m * 2 ^ e - gapBelow m e / 2 := by nlinarith
      _ ≤ V := h.low_le
  · have hlarge : (2 : ℚ) ^ e ≤ 2 ^ 971 := by
      rw [← zpow_natCast]
      exact zpow_le_zpow_right₀ (by norm_num) (by push_cast; exact hl.exponent_le)
    calc V ≤ m * 2 ^ e + 2 ^ e / 2 := h.le_high
      _ < (m + 1) * 2 ^ e := by linarith
      _ ≤ 2 ^ 53 * 2 ^ e := by gcongr
      _ ≤ 2 ^ 53 * 2 ^ 971 := by gcongr
      _ = 2 ^ 1024 := by rw [← pow_add]

/-- A decimal below the first power of two beyond the doubles has an exponent of at most
400. -/
theorem exponent_le_of_lt_two_pow {M : Nat} {E : Int} (hM : 0 < M)
    (h : (M : ℚ) * 10 ^ E < 2 ^ 1024) : E ≤ 400 := by
  by_contra hE
  have hM1 : (1 : ℚ) ≤ M := by exact_mod_cast hM
  refine absurd h (not_lt.2 ?_)
  calc (2 : ℚ) ^ 1024 ≤ 2 ^ 1075 := pow_le_pow_right₀ (by norm_num) (by norm_num)
    _ ≤ 10 ^ 401 := two_pow_lt_ten_pow.le
    _ = 10 ^ (401 : ℤ) := (zpow_ofNat _ _).symm
    _ ≤ 10 ^ E := zpow_le_zpow_right₀ (by norm_num) (by omega)
    _ = 1 * 10 ^ E := (one_mul _).symm
    _ ≤ M * 10 ^ E := by gcongr

/-- A decimal of at least half the smallest subnormal ends at most 400 places after the
point. -/
theorem length_add_exponent_ge {M : Nat} {E : Int} (hM : 0 < M)
    (h : 2 ^ (-1075 : ℤ) ≤ (M : ℚ) * 10 ^ E) : -400 ≤ (decimalLength M : Int) + E := by
  by_contra hlen
  have hMlt : (M : ℚ) < 10 ^ decimalLength M := by exact_mod_cast (decimalLength_bounds hM).2
  refine absurd h (not_le.2 ?_)
  calc (M : ℚ) * 10 ^ E < 10 ^ decimalLength M * 10 ^ E := by gcongr
    _ = 10 ^ ((decimalLength M : Int) + E) := by rw [zpow_add₀ (by norm_num), zpow_natCast]
    _ ≤ 10 ^ (-401 : ℤ) := zpow_le_zpow_right₀ (by norm_num) (by omega)
    _ < 2 ^ (-1075 : ℤ) := by
      rw [zpow_neg, zpow_neg, zpow_ofNat, zpow_ofNat, inv_lt_inv₀ (by positivity) (by positivity)]
      exact two_pow_lt_ten_pow

/-- A decimal in the rounding interval of the positive double `m · 2^e` reads as that double,
with the sign it is given. -/
theorem nearestDouble_of_inRounding {negative : Bool} {M : Nat} {E : Int} (hl : Legal m e)
    (hm : 0 < m) (h : InRounding m e (M * 10 ^ E)) :
    nearestDouble negative M E = floatOfFields negative (exponentField m e) (m % 2 ^ 52) := by
  have hpos := h.pos hm
  have hM : 0 < M := by
    by_contra h0
    rw [Nat.eq_zero_of_not_pos h0, Nat.cast_zero, zero_mul] at hpos
    exact lt_irrefl _ hpos
  obtain ⟨hmin, hmax⟩ := inRounding_bounds hl hm h
  -- the decimal lies in the range of doubles, so neither shortcut is taken
  have hE := exponent_le_of_lt_two_pow hM hmax
  have hlen := length_add_exponent_ge hM hmin
  unfold nearestDouble
  rw [if_neg (by simp only [beq_iff_eq]; omega), if_neg (by simp only [gt_iff_lt]; omega),
    if_neg (by simp only [Bool.and_eq_true, decide_eq_true_eq]; omega)]
  extract_lets v lg e0 eS num den q r q'
  have hV : v.val = M * 10 ^ E := val_ofDecimal M E
  have hnum : 0 < v.num := Nat.mul_pos hM (Nat.pow_pos (by norm_num))
  have hden : 0 < v.den := den_ofDecimal_pos M E
  obtain ⟨T, n, hT, hn, hnorm⟩ := exists_rounding hl h
  have heS : eS = T := (settle_inBinade hnum hden).unique (hV ▸ hT)
  -- the remainder test rounds the scaled value to `n`
  have hq' : q' = n := by
    have hround : NearestEven n ((num : ℚ) / den) := by
      have hscaled : (num : ℚ) / den = v.val / 2 ^ eS := val_scale_two v eS
      rw [hscaled, hV, heS]
      exact hn
    exact roundHalfEven_eq (Nat.mul_pos hden (Nat.two_pow_pos _)) hround
  rw [hq', heS, hnorm]
  dsimp only
  unfold exponentField
  by_cases hsmall : m < 2 ^ 52
  · rw [if_pos hsmall, if_pos hsmall, Nat.mod_eq_of_lt hsmall]
  · have := hl.significand_lt
    rw [if_neg hsmall, if_neg hsmall, if_neg (by have := hl.exponent_le; omega),
      show m - 2 ^ 52 = m % 2 ^ 52 by omega]

end SyntaxAdvisor.Decimal
