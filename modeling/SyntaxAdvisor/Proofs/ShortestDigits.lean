import SyntaxAdvisor.Proofs.ExactDoubles

/-!
# The shortest digits read back as the double

`shortestDigits m e` tries one digit, then two, up to seventeen, and takes a multiple of a power
of ten that lies in the rounding interval of the positive double `m · 2^e`. Every candidate it
takes lies in that interval, and with seventeen digits one of the two multiples around the
double always does: the step `10^k` between them is then narrower than the interval. Dropping
trailing zeros keeps the value. So the digits always read back as the double.
-/

namespace SyntaxAdvisor.Decimal

open Ratio

/-! ## Trailing zeros -/

theorem dropTrailingZeros_value (c : Nat) (k : Int) (fuel : Nat) :
    ((dropTrailingZeros c k fuel).1 : ℚ) * 10 ^ (dropTrailingZeros c k fuel).2 = c * 10 ^ k := by
  induction fuel generalizing c k with
  | zero => rfl
  | succ fuel ih =>
    rw [dropTrailingZeros]
    split
    · -- ten divides `c`: a zero moves into the exponent
      rename_i h
      have hdvd : 10 ∣ c := by simp only [Bool.and_eq_true, bne_iff_ne, beq_iff_eq] at h; omega
      have hc : (c : ℚ) = (c / 10 : ℕ) * 10 := by exact_mod_cast (Nat.div_mul_cancel hdvd).symm
      rw [ih, zpow_add_one₀ (by norm_num), hc]
      ring
    · rfl

theorem dropTrailingZeros_pos {c : Nat} (k : Int) (fuel : Nat) (hc : 0 < c) :
    0 < (dropTrailingZeros c k fuel).1 := by
  induction fuel generalizing c k with
  | zero => exact hc
  | succ fuel ih =>
    rw [dropTrailingZeros]
    split
    · rename_i h
      simp only [Bool.and_eq_true, bne_iff_ne, beq_iff_eq] at h
      exact ih _ (by omega)
    · exact hc

/-! ## The rounding interval in the units of the search -/

/-- The low end of the rounding interval as the search writes it, in units of `2^(e-2)`. -/
theorem val_lowEnd {m : Nat} (e : Int) (hm : 0 < m) :
    (ofBinary (4 * m - if (m == 2 ^ 52 && decide (e > -1074)) = true then 1 else 2)
      (e - 2)).val = m * 2 ^ e - gapBelow m e / 2 := by
  have h2 : (2 : ℚ) ^ (e - 2) = 2 ^ e / 4 := by rw [zpow_sub₀ (by norm_num)]; norm_num
  have h1 : (2 : ℚ) ^ (e - 1) = 2 ^ e / 2 := by rw [zpow_sub₀ (by norm_num)]; norm_num
  rw [val_ofBinary, gapBelow]
  by_cases hb : m = 2 ^ 52 ∧ -1074 < e
  · rw [if_pos (by simp [hb.1, hb.2]), if_pos hb, Nat.cast_sub (by omega), h2, h1]
    push_cast
    ring
  · rw [if_neg (by simpa using hb), if_neg hb, Nat.cast_sub (by omega), h2]
    push_cast
    ring

/-- The high end of the rounding interval as the search writes it. -/
theorem val_highEnd (m : Nat) (e : Int) :
    (ofBinary (4 * m + 2) (e - 2)).val = m * 2 ^ e + 2 ^ e / 2 := by
  have h2 : (2 : ℚ) ^ (e - 2) = 2 ^ e / 4 := by rw [zpow_sub₀ (by norm_num)]; norm_num
  rw [val_ofBinary, h2]
  push_cast
  ring

/-- Once the step `10^k` is at most the double over `10^16`, it is narrower than the rounding
interval, so of the two multiples of the step around the double one lies in the interval: the
lower one when it is close enough, else the upper one. -/
theorem inRounding_around {m q : Nat} {e k : Int} (hlt : m < 2 ^ 53)
    (hfine : (10 : ℚ) ^ k * 10 ^ 16 ≤ m * 2 ^ e) (hbelow : (q : ℚ) * 10 ^ k ≤ m * 2 ^ e)
    (habove : (m : ℚ) * 2 ^ e < (q + 1) * 10 ^ k) :
    InRounding m e (q * 10 ^ k) ∨ InRounding m e ((q + 1 : ℕ) * 10 ^ k) := by
  have h2e : (0 : ℚ) < 2 ^ e := by positivity
  have hstep : (10 : ℚ) ^ k < gapBelow m e / 2 + 2 ^ e / 2 := by
    unfold gapBelow
    split
    · rename_i hb
      have h1 : (2 : ℚ) ^ (e - 1) = 2 ^ e / 2 := by rw [zpow_sub₀ (by norm_num)]; norm_num
      rw [hb.1] at hfine
      rw [h1]
      push_cast at hfine
      linarith
    · have hm53 : (m : ℚ) * 2 ^ e ≤ 2 ^ 53 * 2 ^ e := by
        gcongr
        exact_mod_cast hlt.le
      linarith
  push_cast
  by_cases hclose : m * 2 ^ e - q * 10 ^ k < gapBelow m e / 2
  · left
    exact inRounding_of_lt (by linarith) (by linarith)
  · right
    exact inRounding_of_lt (by linarith [gapBelow_pos m e]) (by linarith)

/-- The search finds a multiple of a power of ten in the rounding interval, and the digits are
that multiple with its trailing zeros dropped. -/
theorem shortestDigits_eq_drop {m : Nat} {e : Int} (hm : 0 < m) (hlt : m < 2 ^ 53) :
    ∃ (c : Nat) (k : Int), InRounding m e (c * 10 ^ k) ∧
      shortestDigits m e = dropTrailingZeros c k (decimalLength c + 1) := by
  unfold shortestDigits
  extract_lets v lowGap lo hi inclusive inside t twice pick found
  have hinside : ∀ c k, inside c k = true ↔ InRounding m e (c * 10 ^ k) := by
    intro c k
    have hlo : lo.val = m * 2 ^ e - gapBelow m e / 2 := val_lowEnd e hm
    have hhi : hi.val = m * 2 ^ e + 2 ^ e / 2 := val_highEnd m e
    have hlo0 : 0 < lo.den := den_ofBinary_pos _ _
    have hhi0 : 0 < hi.den := den_ofBinary_pos _ _
    have hx0 := den_ofDecimal_pos c k
    simp only [inside, inclusive, InRounding, beq_iff_eq]
    split_ifs
    · rw [Bool.and_eq_true, le_eq_true_iff hlo0 hx0, le_eq_true_iff hx0 hhi0, hlo, hhi,
        val_ofDecimal]
    · rw [Bool.and_eq_true, lt_eq_true_iff hlo0 hx0, lt_eq_true_iff hx0 hhi0, hlo, hhi,
        val_ofDecimal]
  have hpick : ∀ n c k, pick n = some (c, k) → inside c k = true := by
    intro n c k h
    simp only [pick, Bool.and_eq_true] at h
    split_ifs at h with hboth _ _ _ hlow hup <;>
      simp only [Option.some.injEq, Prod.mk.injEq] at h
    · rw [← h.1, ← h.2]; exact hboth.1
    · rw [← h.1, ← h.2]; exact hboth.2
    · rw [← h.1, ← h.2]; exact hboth.1
    · rw [← h.1, ← h.2]; exact hboth.2
    · rw [← h.1, ← h.2]; exact hlow
    · rw [← h.1, ← h.2]; exact hup
  have hsome : (pick 17).isSome := by
    have hV : v.val = m * 2 ^ e := val_ofBinary m e
    have hnum : 0 < v.num := Nat.mul_pos hm (Nat.two_pow_pos _)
    have ht : (10 : ℚ) ^ t ≤ m * 2 ^ e := hV ▸ pow_log10_le hnum (den_ofBinary_pos m e)
    set k := t - ((17 : ℕ) : ℤ) + 1 with hk
    set q := (Ratio.mk (v.num * 10 ^ (-k).toNat) (v.den * 10 ^ k.toNat)).floor with hq
    have hpow : (0 : ℚ) < 10 ^ k := by positivity
    -- seventeen digits make the step between candidates narrower than the interval
    have hfine : (10 : ℚ) ^ k * 10 ^ 16 ≤ m * 2 ^ e := by
      rw [← zpow_natCast, ← zpow_add₀ (by norm_num), hk]
      convert ht using 2
      push_cast
      ring
    have hqv : (q : ℚ) = ⌊(m * 2 ^ e : ℚ) / 10 ^ k⌋₊ := by
      rw [hq, floor_eq, val_scale, hV]
    have hbelow : (q : ℚ) * 10 ^ k ≤ m * 2 ^ e := by
      rw [hqv, ← le_div_iff₀ hpow]
      exact Nat.floor_le (by positivity)
    have habove : (m : ℚ) * 2 ^ e < (q + 1) * 10 ^ k := by
      rw [hqv, ← div_lt_iff₀ hpow]
      exact Nat.lt_floor_add_one _
    have hpass : inside q k = true ∨ inside (q + 1) k = true := by
      rw [hinside, hinside]
      exact inRounding_around hlt hfine hbelow habove
    simp only [pick, ← hk, ← hq]
    rcases hpass with hpass | hpass
    · simp only [hpass, Bool.true_and]
      split_ifs <;> rfl
    · simp only [hpass, Bool.and_true]
      split_ifs <;> rfl
  have hfound : found.isSome :=
    List.findSome?_isSome_iff.2 ⟨16, List.mem_range.2 (by norm_num), hsome⟩
  obtain ⟨⟨c, k⟩, hfound⟩ := Option.isSome_iff_exists.1 hfound
  obtain ⟨i, -, hi⟩ := List.exists_of_findSome?_eq_some hfound
  refine ⟨c, k, (hinside c k).1 (hpick _ c k hi), ?_⟩
  rw [hfound, Option.getD_some]

/-- The shortest digits of a positive double are a positive number, and with their exponent
they lie in the double's rounding interval. -/
theorem shortestDigits_inRounding {m : Nat} {e : Int} (hm : 0 < m) (hlt : m < 2 ^ 53) :
    0 < (shortestDigits m e).1 ∧
      InRounding m e ((shortestDigits m e).1 * 10 ^ (shortestDigits m e).2) := by
  obtain ⟨c, k, hin, heq⟩ := shortestDigits_eq_drop (e := e) hm hlt
  have hc : 0 < c := by
    have hpos := hin.pos hm
    by_contra h0
    rw [Nat.eq_zero_of_not_pos h0, Nat.cast_zero, zero_mul] at hpos
    exact lt_irrefl _ hpos
  rw [heq, dropTrailingZeros_value]
  exact ⟨dropTrailingZeros_pos k _ hc, hin⟩

end SyntaxAdvisor.Decimal
