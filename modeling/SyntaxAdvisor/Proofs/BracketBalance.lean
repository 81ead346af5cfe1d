import SyntaxAdvisor.Python.Lexer

/-!
# Brackets in text that lexes

The lexer keeps a stack of the brackets it has opened, and reads a text to its end only when that
stack is empty. In a text with no quote and no `#` no string literal or comment can start, so
every round or square bracket character is a bracket token. The lexer then keeps the count of
each opener read equal to the count of its closer read plus the openers still on the stack.

Main statement: `lex_balanced`, a text without quotes and `#` that the lexer reads to its end has
as many closing as opening round brackets, and square ones. The proof says once what a token step
can do (`ScanStep`, by `scanToken_step`), shows the invariant `LexInv` kept by each kind of step,
and runs it along `lexRun` by induction on its fuel.
-/

namespace SyntaxAdvisor.Python

/-- The four characters the line checks count: round and square brackets. -/
def isBracket (c : Char) : Bool := c == '(' || c == ')' || c == '[' || c == ']'

/-- No bracket stands at the positions `a` up to `b` of the source. -/
def BracketFree (src : Array Char) (a b : Nat) : Prop :=
  ∀ k c, a ≤ k → k < b → src[k]? = some c → isBracket c = false

namespace BracketFree

variable {src : Array Char} {a b d : Nat}

theorem refl (a : Nat) : BracketFree src a a := fun _ _ h₁ h₂ _ => absurd h₂ (by omega)

theorem trans (h₁ : BracketFree src a b) (h₂ : BracketFree src b d) : BracketFree src a d := by
  intro k c hak hkd hk
  by_cases hkb : k < b
  · exact h₁ k c hak hkb hk
  · exact h₂ k c (by omega) hkd hk

theorem single (h : ∀ c, src[a]? = some c → isBracket c = false) : BracketFree src a (a + 1) := by
  intro k c hak hka hk
  obtain rfl : k = a := by omega
  exact h c hk

theorem mono (h : BracketFree src a d) (hbd : b ≤ d) : BracketFree src a b :=
  fun k c hak hkb hk => h k c hak (by omega) hk

end BracketFree

/-! ## Counting brackets -/

/-- Counting a character over the first `k + 1` characters adds the character at `k`. -/
theorem count_take_succ (src : Array Char) (k : Nat) (x : Char) :
    (src.toList.take (k + 1)).count x =
      (src.toList.take k).count x + if src[k]? = some x then 1 else 0 := by
  rw [List.take_add_one, List.count_append, Array.getElem?_toList]
  cases src[k]? with
  | none => simp
  | some c => by_cases hc : c = x <;> simp [hc]

/-- Passing over positions without brackets leaves the count of every bracket as it was. -/
theorem count_take_of_bracketFree {src : Array Char} {a b : Nat} {x : Char} (hab : a ≤ b)
    (hc : BracketFree src a b) (hx : isBracket x = true) :
    (src.toList.take b).count x = (src.toList.take a).count x := by
  obtain ⟨n, rfl⟩ := Nat.exists_eq_add_of_le hab
  induction n with
  | zero => rfl
  | succ n ih =>
    rw [← Nat.add_assoc, count_take_succ, ih (by omega) (hc.mono (by omega))]
    -- the character at `a + n` is no bracket, so it is not `x`
    cases hk : src[a + n]? with
    | none => simp
    | some c =>
      have hcb := hc (a + n) c (by omega) (by omega) hk
      have : c ≠ x := fun h => by rw [h, hx] at hcb; cases hcb
      simp [this]

/-! ## The scanners pass no bracket

Each scanner of blanks, indentation, names and numbers only moves forward and passes over no
bracket character.
-/

/-- A test of characters that takes no bracket. -/
def TakesNoBracket (p : Char → Bool) : Prop :=
  p '(' = false ∧ p ')' = false ∧ p '[' = false ∧ p ']' = false

/-- A character that a test takes, where the test takes no bracket, is no bracket. -/
theorem isBracket_eq_false_of {p : Char → Bool} {c : Char} (h : p c = true)
    (hp : TakesNoBracket p) : isBracket c = false := by
  cases hb : isBracket c
  · rfl
  · obtain ⟨h₁, h₂, h₃, h₄⟩ := hp
    simp only [isBracket, Bool.or_eq_true, beq_iff_eq] at hb
    rcases hb with ((rfl | rfl) | rfl) | rfl <;> simp_all

theorem bracketFree_at {src : Array Char} {k : Nat} {c : Char} (hk : src[k]? = some c)
    (hc : isBracket c = false) : BracketFree src k (k + 1) :=
  BracketFree.single fun d hd => by rw [hk] at hd; cases hd; exact hc

theorem skipBlanks_bracketFree (src : Array Char) (k fuel : Nat) :
    k ≤ scanToken.skipBlanks src k fuel ∧ BracketFree src k (scanToken.skipBlanks src k fuel) := by
  induction fuel generalizing k with
  | zero => exact ⟨Nat.le_refl k, BracketFree.refl k⟩
  | succ fuel ih =>
    unfold scanToken.skipBlanks
    split
    -- a blank is passed over; anything else ends the run
    case h_4 => exact ⟨Nat.le_refl k, BracketFree.refl k⟩
    all_goals
      rename_i hk
      obtain ⟨hle, hc⟩ := ih (k + 1)
      exact ⟨by omega, (bracketFree_at hk rfl).trans hc⟩

theorem measureIndent_bracketFree {src : Array Char} {i col alt joined fuel : Nat}
    {r : Nat × Nat × Nat × Nat} (h : measureIndent src i col alt joined fuel = some r) :
    i ≤ r.1 ∧ BracketFree src i r.1 := by
  induction fuel generalizing i col alt joined with
  | zero =>
    simp only [measureIndent, Option.some.injEq] at h
    subst h
    exact ⟨Nat.le_refl i, BracketFree.refl i⟩
  | succ fuel ih =>
    unfold measureIndent at h
    split at h
    case h_4 =>
      -- a backslash must join its line to the next, whatever column it records
      rename_i hk
      have hjoin : ∀ j', (if (src[i + 1]? == some '\n' && (src[i + 2]?).isSome) = true then
          measureIndent src (i + 2) col alt j' fuel else none) = some r →
          i ≤ r.1 ∧ BracketFree src i r.1 := by
        intro j' h
        split at h
        · rename_i hnext
          simp only [Bool.and_eq_true, beq_iff_eq] at hnext
          obtain ⟨hle, hc⟩ := ih h
          exact ⟨by omega, ((bracketFree_at hk rfl).trans (bracketFree_at hnext.1 rfl)).trans hc⟩
        · cases h
      split at h <;> exact hjoin _ h
    case h_5 =>
      simp only [Option.some.injEq] at h
      subst h
      exact ⟨Nat.le_refl i, BracketFree.refl i⟩
    all_goals
      rename_i hk
      obtain ⟨hle, hc⟩ := ih h
      exact ⟨by omega, (bracketFree_at hk rfl).trans hc⟩

theorem exists_of_any_eq_true {p : Char → Bool} {o : Option Char} (h : o.any p = true) :
    ∃ c, o = some c ∧ p c = true := by
  cases o with
  | none => cases h
  | some c => exact ⟨c, rfl, h⟩

theorem mayContinueName_takesNoBracket : TakesNoBracket mayContinueName := ⟨rfl, rfl, rfl, rfl⟩

theorem nameEnd_bracketFree (src : Array Char) (k fuel : Nat) :
    k ≤ scanName.nameEnd src k fuel ∧ BracketFree src k (scanName.nameEnd src k fuel) := by
  induction fuel generalizing k with
  | zero => exact ⟨Nat.le_refl k, BracketFree.refl k⟩
  | succ fuel ih =>
    unfold scanName.nameEnd
    split
    · rename_i hname
      obtain ⟨c, hk, hc⟩ := exists_of_any_eq_true hname
      obtain ⟨hle, hrest⟩ := ih (k + 1)
      exact ⟨by omega, (bracketFree_at hk (isBracket_eq_false_of hc mayContinueName_takesNoBracket)).trans hrest⟩
    · exact ⟨Nat.le_refl k, BracketFree.refl k⟩

/-- A string prefix is found only right before a quote. -/
theorem quote_of_prefixEnd {src : Array Char} {k : Nat} {b r u f : Bool} {fuel q : Nat}
    (h : scanName.prefixEnd src k b r u f fuel = some q) :
    src[q]? = some '\'' ∨ src[q]? = some '"' := by
  induction fuel generalizing k b r u f with
  | zero => cases h
  | succ fuel ih =>
    unfold scanName.prefixEnd at h
    split at h
    · dsimp only at h
      split at h
      · split at h
        · rename_i hq
          cases h
          simpa only [Bool.or_eq_true, beq_iff_eq] using hq
        · exact ih h
      · cases h
    · cases h

theorem digitRun_bracketFree {src : Array Char} {digit : Char → Bool} {i j : Nat}
    (hd : TakesNoBracket digit) (h : digitRun src digit i = some j) : i ≤ j ∧ BracketFree src i j := by
  induction i using digitRun.induct src digit with
  | case1 x hx _ hdig ih =>
    rw [digitRun, dif_pos hx, if_pos hdig] at h
    obtain ⟨hle, hc⟩ := ih h
    exact ⟨by omega,
      (bracketFree_at (Array.getElem?_eq_getElem hx) (isBracket_eq_false_of hdig hd)).trans hc⟩
  | case2 x hx _ hdig hu hx1 hdig1 ih =>
    rw [digitRun, dif_pos hx, if_neg hdig, if_pos hu, dif_pos hx1, if_pos hdig1] at h
    obtain ⟨hle, hc⟩ := ih h
    have hus : src[x] = '_' := by simpa using hu
    refine ⟨by omega, ((bracketFree_at (Array.getElem?_eq_getElem hx) (by rw [hus]; rfl)).trans
      (bracketFree_at (Array.getElem?_eq_getElem hx1) (isBracket_eq_false_of hdig1 hd))).trans hc⟩
  | case3 x hx _ hdig hu hx1 hdig1 =>
    rw [digitRun, dif_pos hx, if_neg hdig, if_pos hu, dif_pos hx1, if_neg hdig1] at h
    cases h
  | case4 x hx _ hdig hu hx1 =>
    rw [digitRun, dif_pos hx, if_neg hdig, if_pos hu, dif_neg hx1] at h
    cases h
  | case5 x hx _ hdig hu =>
    rw [digitRun, dif_pos hx, if_neg hdig, if_neg hu] at h
    cases h
    exact ⟨Nat.le_refl _, BracketFree.refl _⟩
  | case6 x hx =>
    rw [digitRun, dif_neg hx] at h
    cases h
    exact ⟨Nat.le_refl _, BracketFree.refl _⟩

theorem isDecimal_takesNoBracket : TakesNoBracket isDecimal := ⟨rfl, rfl, rfl, rfl⟩

theorem afterImaginary_eq {src : Array Char} {k j : Nat} (h : afterImaginary src k = some j) :
    j = k := by
  unfold afterImaginary at h
  split at h
  · cases h; rfl
  · cases h

/-- A number ends where it ends well, or not at all. -/
theorem eq_of_endsWell {src : Array Char} {j r : Nat}
    (h : (if numberEndsWell src j = true then some j else none) = some r) : r = j := by
  split at h
  · cases h; rfl
  · cases h

/-- Digits, then an imaginary suffix or the end of the number. -/
theorem digitsThenEnd_bracketFree {src : Array Char} {d r : Nat}
    (h : (do
      let j ← digitRun src isDecimal d
      match src[j]? with
        | some 'j' => afterImaginary src (j + 1)
        | some 'J' => afterImaginary src (j + 1)
        | _ => if numberEndsWell src j = true then some j else none) = some r) :
    d ≤ r ∧ BracketFree src d r := by
  obtain ⟨j, hrun, hend⟩ := Option.bind_eq_some_iff.1 h
  obtain ⟨hle, hc⟩ := digitRun_bracketFree isDecimal_takesNoBracket hrun
  split at hend
  case h_3 =>
    rw [eq_of_endsWell hend]
    exact ⟨hle, hc⟩
  all_goals
    rename_i hj
    rw [afterImaginary_eq hend]
    exact ⟨by omega, hc.trans (bracketFree_at hj rfl)⟩

theorem afterExponentMark_bracketFree {src : Array Char} {k j : Nat} (hk : BracketFree src k (k + 1))
    (h : afterExponentMark src k = some j) : k ≤ j ∧ BracketFree src k j := by
  unfold afterExponentMark at h
  dsimp only at h
  split at h
  case h_3 =>
    rename_i c _ _ hnext
    split at h
    · -- a digit right after the mark
      rename_i hdig
      obtain ⟨hle, hc⟩ := digitsThenEnd_bracketFree h
      exact ⟨by omega, (hk.trans (bracketFree_at hnext (isBracket_eq_false_of hdig
        isDecimal_takesNoBracket))).trans hc⟩
    · rw [eq_of_endsWell h]
      exact ⟨Nat.le_refl k, BracketFree.refl k⟩
  case h_4 =>
    rw [eq_of_endsWell h]
    exact ⟨Nat.le_refl k, BracketFree.refl k⟩
  all_goals
    -- a sign, then a digit
    rename_i hsign
    split at h
    · rename_i hdig
      obtain ⟨c, hc2, hdc⟩ := exists_of_any_eq_true hdig
      obtain ⟨hle, hc⟩ := digitsThenEnd_bracketFree h
      exact ⟨by omega, ((hk.trans (bracketFree_at hsign rfl)).trans (bracketFree_at hc2
        (isBracket_eq_false_of hdc isDecimal_takesNoBracket))).trans hc⟩
    · cases h

/-- After the digits of a decimal number: an exponent, an imaginary suffix, or the end. -/
theorem numberSuffix_bracketFree {src : Array Char} {j r : Nat}
    (h : (match src[j]? with
      | some 'e' => afterExponentMark src j
      | some 'E' => afterExponentMark src j
      | some 'j' => afterImaginary src (j + 1)
      | some 'J' => afterImaginary src (j + 1)
      | _ => if numberEndsWell src j = true then some j else none) = some r) :
    j ≤ r ∧ BracketFree src j r := by
  split at h
  case h_5 =>
    rw [eq_of_endsWell h]
    exact ⟨Nat.le_refl j, BracketFree.refl j⟩
  case h_1 | h_2 =>
    rename_i he
    exact afterExponentMark_bracketFree (bracketFree_at he rfl) h
  all_goals
    rename_i hi
    rw [afterImaginary_eq h]
    exact ⟨by omega, bracketFree_at hi rfl⟩

theorem afterPoint_bracketFree {src : Array Char} {k r : Nat} (h : afterPoint src k = some r) :
    k ≤ r ∧ BracketFree src k r := by
  unfold afterPoint at h
  dsimp only at h
  split at h
  · -- the fraction's digits
    rename_i hdig
    obtain ⟨c, hk, hc⟩ := exists_of_any_eq_true hdig
    obtain ⟨j, hdigits, hsuffix⟩ := Option.bind_eq_some_iff.1 h
    obtain ⟨hle, hrun⟩ := digitRun_bracketFree isDecimal_takesNoBracket hdigits
    obtain ⟨hle', hrest⟩ := numberSuffix_bracketFree hsuffix
    exact ⟨by omega, ((bracketFree_at hk (isBracket_eq_false_of hc isDecimal_takesNoBracket)).trans
      hrun).trans hrest⟩
  · exact numberSuffix_bracketFree h

theorem afterIntegerDigits_bracketFree {src : Array Char} {j r : Nat}
    (h : afterIntegerDigits src j = some r) : j ≤ r ∧ BracketFree src j r := by
  unfold afterIntegerDigits at h
  split at h
  case h_1 =>
    rename_i hpoint
    obtain ⟨hle, hc⟩ := afterPoint_bracketFree h
    exact ⟨by omega, (bracketFree_at hpoint rfl).trans hc⟩
  case h_2 | h_3 =>
    rename_i he
    exact afterExponentMark_bracketFree (bracketFree_at he rfl) h
  case h_6 =>
    rw [eq_of_endsWell h]
    exact ⟨Nat.le_refl j, BracketFree.refl j⟩
  all_goals
    rename_i hi
    rw [afterImaginary_eq h]
    exact ⟨by omega, bracketFree_at hi rfl⟩

theorem prefixedDigits_bracketFree {src : Array Char} {digit : Char → Bool} {k r : Nat}
    (hd : TakesNoBracket digit) (h : prefixedDigits src digit k = some r) :
    k ≤ r ∧ BracketFree src k r := by
  unfold prefixedDigits at h
  dsimp only at h
  -- an underscore may stand between the base prefix and the first digit
  have hunder : ∀ k', (if (src[k]? == some '_') = true then k + 1 else k) = k' →
      k ≤ k' ∧ BracketFree src k k' := by
    intro k' hk'
    split at hk'
    · rename_i hu
      subst hk'
      exact ⟨by omega, bracketFree_at (by simpa using hu) rfl⟩
    · subst hk'
      exact ⟨Nat.le_refl k, BracketFree.refl k⟩
  generalize hk' : (if (src[k]? == some '_') = true then k + 1 else k) = k' at h
  obtain ⟨hle, hc⟩ := hunder k' hk'
  split at h
  · simp at h
  · rename_i hfirst
    simp only [Bool.not_eq_true', Bool.not_eq_false] at hfirst
    obtain ⟨c, hk'c, hdc⟩ := exists_of_any_eq_true hfirst
    obtain ⟨j, hrun, hend⟩ := Option.bind_eq_some_iff.1 h
    obtain ⟨hle', hc'⟩ := digitRun_bracketFree hd hrun
    split at hend
    · simp at hend
    · rw [eq_of_endsWell hend]
      exact ⟨by omega, (hc.trans (bracketFree_at hk'c (isBracket_eq_false_of hdc hd))).trans hc'⟩

theorem zeros_bracketFree {src : Array Char} {k fuel z : Nat} (h : scanNumber.zeros src k fuel = some z) :
    k ≤ z ∧ BracketFree src k z := by
  induction fuel generalizing k with
  | zero =>
    cases h
    exact ⟨Nat.le_refl _, BracketFree.refl _⟩
  | succ fuel ih =>
    unfold scanNumber.zeros at h
    split at h
    · -- an underscore, followed by a digit
      rename_i hu
      split at h
      · obtain ⟨hle, hc⟩ := ih h
        exact ⟨by omega, (bracketFree_at hu rfl).trans hc⟩
      · cases h
    · rename_i hz
      obtain ⟨hle, hc⟩ := ih h
      exact ⟨by omega, (bracketFree_at hz rfl).trans hc⟩
    · cases h
      exact ⟨Nat.le_refl _, BracketFree.refl _⟩

theorem isHexadecimal_takesNoBracket : TakesNoBracket isHexadecimal := ⟨rfl, rfl, rfl, rfl⟩

theorem isOctal_takesNoBracket : TakesNoBracket isOctal := ⟨rfl, rfl, rfl, rfl⟩

theorem isBinary_takesNoBracket : TakesNoBracket isBinary := ⟨rfl, rfl, rfl, rfl⟩

theorem scanNumber_bracketFree {src : Array Char} {i j : Nat} (hi : BracketFree src i (i + 1))
    (h : scanNumber src i = some j) : i ≤ j ∧ BracketFree src i j := by
  unfold scanNumber at h
  split at h
  · split at h
    case h_7 =>
      -- a zero, more zeros, and perhaps digits that need a point, exponent or suffix
      obtain ⟨z, hz, hrest⟩ := Option.bind_eq_some_iff.1 h
      obtain ⟨hle, hc⟩ := zeros_bracketFree hz
      have hiz : BracketFree src i z := hi.trans hc
      split at hrest
      · rename_i c hzc
        split at hrest
        · rename_i hdig
          obtain ⟨j', hrun, hsuffix⟩ := Option.bind_eq_some_iff.1 hrest
          obtain ⟨hle', hc'⟩ := digitRun_bracketFree isDecimal_takesNoBracket hrun
          have hzj : BracketFree src i j' :=
            (hiz.trans (bracketFree_at hzc (isBracket_eq_false_of hdig isDecimal_takesNoBracket))).trans hc'
          split at hsuffix
          case h_6 => cases hsuffix
          all_goals
            obtain ⟨hle'', hc''⟩ := afterIntegerDigits_bracketFree hsuffix
            exact ⟨by omega, hzj.trans hc''⟩
        · obtain ⟨hle', hc'⟩ := afterIntegerDigits_bracketFree hrest
          exact ⟨by omega, hiz.trans hc'⟩
      · obtain ⟨hle', hc'⟩ := afterIntegerDigits_bracketFree hrest
        exact ⟨by omega, hiz.trans hc'⟩
    case h_1 | h_2 =>
      rename_i hx
      obtain ⟨hle, hc⟩ := prefixedDigits_bracketFree isHexadecimal_takesNoBracket h
      exact ⟨by omega, (hi.trans (bracketFree_at hx rfl)).trans hc⟩
    case h_3 | h_4 =>
      rename_i hx
      obtain ⟨hle, hc⟩ := prefixedDigits_bracketFree isOctal_takesNoBracket h
      exact ⟨by omega, (hi.trans (bracketFree_at hx rfl)).trans hc⟩
    case h_5 | h_6 =>
      rename_i hx
      obtain ⟨hle, hc⟩ := prefixedDigits_bracketFree isBinary_takesNoBracket h
      exact ⟨by omega, (hi.trans (bracketFree_at hx rfl)).trans hc⟩
  · obtain ⟨j', hrun, hrest⟩ := Option.bind_eq_some_iff.1 h
    obtain ⟨hle, hc⟩ := digitRun_bracketFree isDecimal_takesNoBracket hrun
    obtain ⟨hle', hc'⟩ := afterIntegerDigits_bracketFree hrest
    exact ⟨by omega, (hi.trans hc).trans hc'⟩

theorem endmarker_not_mem_foldl_push {toks : Array Token} {extra : List Token}
    (hextra : ∀ t ∈ extra, t ≠ .endmarker) (h : Token.endmarker ∉ toks) :
    Token.endmarker ∉ extra.foldl Array.push toks := by
  induction extra generalizing toks with
  | nil => exact h
  | cons t rest ih =>
    rw [List.foldl_cons]
    refine ih (fun u hu => hextra u (List.mem_cons_of_mem t hu)) ?_
    rw [Array.mem_push]
    rintro (hin | heq)
    · exact h hin
    · exact hextra t List.mem_cons_self heq.symm

/-! ## One token step -/

/-- The start of a line passes over its indentation, where no bracket stands, and adds only
indentation tokens. -/
theorem startLine_spec {src : Array Char} {st st' : LexState} (h : startLine src st = some st') :
    st.pos ≤ st'.pos ∧ BracketFree src st.pos st'.pos ∧ st'.brackets = st.brackets ∧
      (Token.endmarker ∉ st.tokens → Token.endmarker ∉ st'.tokens) := by
  unfold startLine at h
  obtain ⟨⟨i, col, alt, joined⟩, hm, h⟩ := Option.bind_eq_some_iff.1 h
  obtain ⟨hle, hc⟩ := measureIndent_bracketFree hm
  dsimp only at h hle hc
  repeat' split at h
  -- every way through keeps the brackets and adds at most indentation tokens
  all_goals first
    | (cases h; done)
    | (cases h
       refine ⟨hle, hc, rfl, fun hn => ?_⟩
       first
        | exact hn
        | exact endmarker_not_mem_foldl_push
            (fun t ht => by rw [List.eq_of_mem_replicate ht]; exact nofun) hn
        | exact @endmarker_not_mem_foldl_push _ [.indent] (by simp) hn)

/-- The source has no quote and no `#`, so no string literal and no comment starts in it. -/
def NoLiterals (src : Array Char) : Prop :=
  ∀ (k : Nat) (c : Char), src[k]? = some c → c ≠ '\'' ∧ c ≠ '"' ∧ c ≠ '#'

/-- What one token step of the lexer does to its state, in a source without quotes and `#`: it
ends the text, stops, passes over text without brackets, opens a bracket or closes the last one
opened. -/
inductive ScanStep (src : Array Char) (st : LexState) : LexStep → Prop where
  /-- The text is read to its end with no bracket open. -/
  | done (i : Nat) (hle : st.pos ≤ i) (hc : BracketFree src st.pos i) (hend : src[i]? = none)
      (hbr : st.brackets = []) : ScanStep src st (.done (st.tokens.push .endmarker))
  /-- The text breaks a rule. -/
  | broken : ScanStep src st (.broken st.tokens)
  /-- Text without brackets is passed over; no end marker is added. -/
  | pass (st' : LexState) (hle : st.pos ≤ st'.pos) (hc : BracketFree src st.pos st'.pos)
      (hbr : st'.brackets = st.brackets)
      (htok : Token.endmarker ∉ st.tokens → Token.endmarker ∉ st'.tokens) :
      ScanStep src st (.more st')
  /-- A bracket is opened. -/
  | opening (i : Nat) (c : Char) (hle : st.pos ≤ i) (hc : BracketFree src st.pos i)
      (hi : src[i]? = some c) (hopen : c = '(' ∨ c = '[' ∨ c = '{') :
      ScanStep src st (.more { st with pos := i + 1, brackets := c :: st.brackets,
                                       tokens := st.tokens.push (.op (String.singleton c)) })
  /-- The last bracket opened is closed. -/
  | closing (i : Nat) (c opener : Char) (rest : List Char) (hle : st.pos ≤ i)
      (hc : BracketFree src st.pos i) (hi : src[i]? = some c) (hbr : st.brackets = opener :: rest)
      (hmatch : closerOf opener = c) :
      ScanStep src st (.more { st with pos := i + 1, brackets := rest,
                                       tokens := st.tokens.push (.op (String.singleton c)) })

theorem bracketFree_of_slice {src : Array Char} {i n : Nat}
    (h : ∀ d ∈ (slice src i (i + n)).toList, isBracket d = false) : BracketFree src i (i + n) := by
  intro k d hik hkn hk
  apply h
  -- the character at `k` is the one at `k - i` of the slice
  rw [slice, String.toList_ofList, Array.toList_extract, List.extract_eq_take_drop,
    show i + n - i = n by omega]
  apply @List.mem_of_getElem? _ _ (k - i)
  rw [List.getElem?_take_of_lt (by omega), List.getElem?_drop, show i + (k - i) = k by omega,
    Array.getElem?_toList, hk]

/-- No operator of two or three characters holds a bracket. -/
theorem ops_takeNoBracket : ∀ s ∈ threeCharOps ++ twoCharOps, ∀ d ∈ s.toList, isBracket d = false := by
  simp [threeCharOps, twoCharOps, isBracket]

theorem scanName_step {src : Array Char} {st : LexState} {i : Nat}
    (hsrc : NoLiterals src) (hle : st.pos ≤ i) (hc : BracketFree src st.pos i) :
    ScanStep src st (scanName src st i) := by
  unfold scanName
  cases hp : scanName.prefixEnd src i false false false false 4 with
  | some q =>
    -- a string prefix ends at a quote, and the source has none
    exfalso
    rcases quote_of_prefixEnd hp with hq | hq
    · exact (hsrc q _ hq).1 rfl
    · exact (hsrc q _ hq).2.1 rfl
  | none =>
    dsimp only
    obtain ⟨hle', hc'⟩ := nameEnd_bracketFree src i (src.size + 1)
    split
    · exact .broken
    · refine .pass _ (by dsimp only; omega) (hc.trans hc') rfl fun hn => ?_
      simpa [Array.mem_push] using hn

theorem scanToken_step {src : Array Char} {st : LexState} (hsrc : NoLiterals src) :
    ScanStep src st (scanToken src st) := by
  unfold scanToken
  obtain ⟨hle, hc⟩ := skipBlanks_bracketFree src st.pos (src.size + 1)
  generalize scanToken.skipBlanks src st.pos (src.size + 1) = i at hle hc ⊢
  dsimp only
  cases hi : src[i]? with
  | none =>
    dsimp only
    split
    · rename_i hbr
      exact .done i hle hc hi (List.isEmpty_iff.1 hbr)
    · exact .broken
  | some c =>
    dsimp only
    obtain ⟨hq, hdq, hhash⟩ := hsrc i c hi
    rw [if_neg (by simpa using hhash)]
    have hci : ∀ p : Char → Bool, p c = true → TakesNoBracket p → BracketFree src i (i + 1) :=
      fun p hp hpb => bracketFree_at hi (isBracket_eq_false_of hp hpb)
    -- the branches are taken one at a time: `split` on the whole step is too slow
    by_cases hnl : (c == '\n') = true
    · rw [if_pos hnl]
      have hi1 : BracketFree src i (i + 1) := bracketFree_at hi (by rw [show c = '\n' by simpa using hnl]; rfl)
      split
      · exact .pass _ (by dsimp only; omega) (hc.trans hi1) rfl id
      · exact .pass _ (by dsimp only; omega) (hc.trans hi1) rfl
          fun hn => by simpa [Array.mem_push] using hn
    rw [if_neg hnl]
    by_cases hname : mayStartName c = true
    · rw [if_pos hname]
      exact scanName_step hsrc hle hc
    rw [if_neg hname]
    by_cases hdot : (c == '.') = true
    · -- a point: a fraction, an ellipsis or an operator
      rw [if_pos hdot]
      have hi1 : BracketFree src i (i + 1) := bracketFree_at hi (by rw [show c = '.' by simpa using hdot]; rfl)
      split
      · split
        · rename_i j hj
          obtain ⟨hle', hc'⟩ := afterPoint_bracketFree hj
          exact .pass _ (by dsimp only; omega) ((hc.trans hi1).trans hc') rfl
            fun hn => by simpa [Array.mem_push] using hn
        · exact .broken
      split
      · rename_i hdots
        simp only [textAt, Bool.and_true, Bool.and_eq_true, beq_iff_eq] at hdots
        exact .pass _ (by dsimp only; omega)
          (((hc.trans hi1).trans (bracketFree_at hdots.1 rfl)).trans (bracketFree_at hdots.2 rfl)) rfl
          fun hn => by simpa [Array.mem_push] using hn
      · exact .pass _ (by dsimp only; omega) (hc.trans hi1) rfl
          fun hn => by simpa [Array.mem_push] using hn
    rw [if_neg hdot]
    by_cases hdig : isDecimal c = true
    · -- a number
      rw [if_pos hdig]
      split
      · rename_i j hj
        obtain ⟨hle', hc'⟩ := scanNumber_bracketFree (hci _ hdig isDecimal_takesNoBracket) hj
        exact .pass _ (by dsimp only; omega) (hc.trans hc') rfl
          fun hn => by simpa [Array.mem_push] using hn
      · exact .broken
    rw [if_neg hdig]
    rw [if_neg (by simp [hq, hdq])]
    by_cases hback : (c == '\\') = true
    · -- a backslash joins the line to the next
      rw [if_pos hback]
      split
      · rename_i hjoin
        simp only [Bool.and_eq_true, beq_iff_eq] at hjoin
        have hi1 : BracketFree src i (i + 1) :=
          bracketFree_at hi (by rw [show c = '\\' by simpa using hback]; rfl)
        exact .pass _ (by dsimp only; omega) ((hc.trans hi1).trans (bracketFree_at hjoin.1 rfl)) rfl id
      · exact .broken
    rw [if_neg hback]
    by_cases hthree : threeCharOps.contains (slice src i (i + 3)) = true
    · rw [if_pos hthree]
      have hops := ops_takeNoBracket _ (List.mem_append_left _ (List.contains_iff_mem.1 hthree))
      exact .pass _ (by dsimp only; omega) (hc.trans (bracketFree_of_slice hops)) rfl
        fun hn => by simpa [Array.mem_push] using hn
    rw [if_neg hthree]
    by_cases htwo : twoCharOps.contains (slice src i (i + 2)) = true
    · rw [if_pos htwo]
      have hops := ops_takeNoBracket _ (List.mem_append_right _ (List.contains_iff_mem.1 htwo))
      exact .pass _ (by dsimp only; omega) (hc.trans (bracketFree_of_slice hops)) rfl
        fun hn => by simpa [Array.mem_push] using hn
    rw [if_neg htwo]
    by_cases hopen : (c == '(' || c == '[' || c == '\x7b') = true
    · rw [if_pos hopen]
      split
      · exact .broken
      · simp only [Bool.or_eq_true, beq_iff_eq] at hopen
        exact .opening i c hle hc hi (or_assoc.1 hopen)
    rw [if_neg hopen]
    by_cases hclose : (c == ')' || c == ']' || c == '\x7d') = true
    · rw [if_pos hclose]
      split
      · rename_i opener rest hbr
        split
        · rename_i hmatch
          exact .closing i c opener rest hle hc hi hbr (by simpa using hmatch)
        · exact .broken
      · exact .broken
    rw [if_neg hclose]
    split
    · exact .broken
    · -- any other character is an operator of its own, and no bracket
      have hnb : isBracket c = false := by
        simp only [Bool.or_eq_true, beq_iff_eq, not_or] at hopen hclose
        simp [isBracket, hopen.1.1, hopen.1.2, hclose.1.1, hclose.1.2]
      exact .pass _ (by dsimp only; omega) (hc.trans (bracketFree_at hi hnb)) rfl
        fun hn => by simpa [Array.mem_push] using hn

/-! ## The bracket stack along a run -/

/-- Every round or square bracket of the source is closed: as many of each opener as of its
closer. -/
def Balanced (src : Array Char) : Prop :=
  ∀ o, o = '(' ∨ o = '[' → src.toList.count o = src.toList.count (closerOf o)

/-- What the lexer keeps in step with the text it has read: each bracket read and not closed is
on the stack, and no end marker has been produced. -/
structure LexInv (src : Array Char) (st : LexState) : Prop where
  balance : ∀ o, o = '(' ∨ o = '[' →
    (src.toList.take st.pos).count o =
      (src.toList.take st.pos).count (closerOf o) + st.brackets.count o
  noEnd : Token.endmarker ∉ st.tokens

theorem closerOf_cases (x : Char) :
    (x = '(' ∧ closerOf x = ')') ∨ (x = '[' ∧ closerOf x = ']') ∨
      (x ≠ '(' ∧ x ≠ '[' ∧ closerOf x = '\x7d') := by
  unfold closerOf
  split
  · exact .inl ⟨rfl, rfl⟩
  · exact .inr (.inl ⟨rfl, rfl⟩)
  · rename_i h₁ h₂
    exact .inr (.inr ⟨h₁, h₂, rfl⟩)

theorem isBracket_of_opener {o : Char} (ho : o = '(' ∨ o = '[') :
    isBracket o = true ∧ isBracket (closerOf o) = true := by
  rcases ho with rfl | rfl <;> exact ⟨rfl, rfl⟩

namespace LexInv

variable {src : Array Char} {st st' : LexState}

theorem init (src : Array Char) : LexInv src { pos := 0 } :=
  ⟨fun o _ => by simp, by simp⟩

theorem pass (hinv : LexInv src st) (hle : st.pos ≤ st'.pos) (hc : BracketFree src st.pos st'.pos)
    (hbr : st'.brackets = st.brackets)
    (htok : Token.endmarker ∉ st.tokens → Token.endmarker ∉ st'.tokens) : LexInv src st' := by
  refine ⟨fun o ho => ?_, htok hinv.noEnd⟩
  obtain ⟨hob, hcb⟩ := isBracket_of_opener ho
  rw [count_take_of_bracketFree hle hc hob, count_take_of_bracketFree hle hc hcb, hbr]
  exact hinv.balance o ho

theorem opening {i : Nat} {c : Char} (hinv : LexInv src st) (hle : st.pos ≤ i)
    (hc : BracketFree src st.pos i) (hi : src[i]? = some c) (hopen : c = '(' ∨ c = '[' ∨ c = '\x7b') :
    LexInv src { st with pos := i + 1, brackets := c :: st.brackets,
                         tokens := st.tokens.push (.op (String.singleton c)) } := by
  refine ⟨fun o ho => ?_, by simpa [Array.mem_push] using hinv.noEnd⟩
  obtain ⟨hob, hcb⟩ := isBracket_of_opener ho
  have hbal := hinv.balance o ho
  dsimp only
  rw [count_take_succ, count_take_succ, count_take_of_bracketFree hle hc hob,
    count_take_of_bracketFree hle hc hcb, hi, List.count_cons]
  -- the opener read is counted once on each side; it closes nothing
  have hne : c ≠ closerOf o := by
    rcases ho with rfl | rfl <;> rcases hopen with rfl | rfl | rfl <;> decide
  by_cases hco : c = o
  · subst hco
    simp [hne]
    omega
  · simp [hco, hne]
    omega

theorem closing {i : Nat} {c opener : Char} {rest : List Char} (hinv : LexInv src st)
    (hle : st.pos ≤ i) (hc : BracketFree src st.pos i) (hi : src[i]? = some c)
    (hbr : st.brackets = opener :: rest) (hmatch : closerOf opener = c) :
    LexInv src { st with pos := i + 1, brackets := rest,
                         tokens := st.tokens.push (.op (String.singleton c)) } := by
  refine ⟨fun o ho => ?_, by simpa [Array.mem_push] using hinv.noEnd⟩
  obtain ⟨hob, hcb⟩ := isBracket_of_opener ho
  have hbal := hinv.balance o ho
  rw [hbr, List.count_cons] at hbal
  dsimp only
  rw [count_take_succ, count_take_succ, count_take_of_bracketFree hle hc hob,
    count_take_of_bracketFree hle hc hcb, hi]
  -- the closer read closes the opener on top of the stack, and is no opener itself
  subst hmatch
  rcases ho with rfl | rfl <;>
    rcases closerOf_cases opener with ⟨rfl, h⟩ | ⟨rfl, h⟩ | ⟨h₁, h₂, h⟩
  all_goals
    simp only [h, show closerOf '(' = ')' from rfl, show closerOf '[' = ']' from rfl] at hbal ⊢
    simp_all <;> omega

end LexInv

/-- What a lexer step leaves: the invariant when it goes on, no end marker when it stops on a
broken rule, and a balanced source when it reads the text to its end. -/
def StepOk (src : Array Char) : LexStep → Prop
  | .more st' => LexInv src st'
  | .broken toks => Token.endmarker ∉ toks
  | .done _ => Balanced src

theorem scanToken_ok {src : Array Char} {st : LexState} (hsrc : NoLiterals src)
    (hinv : LexInv src st) : StepOk src (scanToken src st) := by
  have hstep := @scanToken_step _ st hsrc
  generalize scanToken src st = r at hstep ⊢
  cases hstep with
  | done i hle hc hend hbr =>
    -- at the end of the text every bracket read is closed, since none is open
    intro o ho
    obtain ⟨hob, hcb⟩ := isBracket_of_opener ho
    have hall : src.toList.take i = src.toList := List.take_of_length_le (by
      rw [Array.length_toList]
      exact Nat.le_of_not_lt fun hlt => by simp [Array.getElem?_eq_getElem hlt] at hend)
    have hbal := hinv.balance o ho
    rw [hbr, List.count_nil, Nat.add_zero, ← count_take_of_bracketFree hle hc hob,
      ← count_take_of_bracketFree hle hc hcb, hall] at hbal
    exact hbal
  | broken => exact hinv.noEnd
  | pass st' hle hc hbr htok => exact hinv.pass hle hc hbr htok
  | opening i c hle hc hi hopen => exact hinv.opening hle hc hi hopen
  | closing i c opener rest hle hc hi hbr hmatch => exact hinv.closing hle hc hi hbr hmatch

theorem lexStep_ok {src : Array Char} {st : LexState} (hsrc : NoLiterals src)
    (hinv : LexInv src st) : StepOk src (lexStep src st) := by
  unfold lexStep
  split
  · split
    · rename_i st' hstart
      obtain ⟨hle, hc, hbr, htok⟩ := startLine_spec hstart
      exact scanToken_ok hsrc (hinv.pass hle hc hbr htok)
    · exact hinv.noEnd
  · exact scanToken_ok hsrc hinv

/-- A run of the lexer that produced an end marker, or did not stop on a broken rule, read a
source whose brackets are balanced. -/
theorem lexRun_balanced {src : Array Char} {st : LexState} {fuel : Nat} (hsrc : NoLiterals src)
    (hinv : LexInv src st)
    (h : Token.endmarker ∈ (lexRun src fuel st).tokens ∨ (lexRun src fuel st).broken = false) :
    Balanced src := by
  induction fuel generalizing st with
  | zero =>
    simp only [lexRun, Bool.true_eq_false, or_false] at h
    exact absurd h hinv.noEnd
  | succ fuel ih =>
    have hok := lexStep_ok hsrc hinv
    unfold lexRun at h
    split at h
    · rename_i st' hstep
      rw [hstep] at hok
      exact ih hok h
    · rename_i toks hstep
      rw [hstep] at hok
      exact hok
    · rename_i toks hstep
      rw [hstep] at hok
      simp only [Bool.true_eq_false, or_false] at h
      exact absurd h hok

/-- A text without quotes and `#` that the lexer read to its end, or to an end marker, has as
many closing as opening round brackets, and square ones. -/
theorem lex_balanced {text : String}
    (hplain : ∀ c ∈ text.toList, c ≠ '\'' ∧ c ≠ '"' ∧ c ≠ '#')
    (h : Token.endmarker ∈ (lex text).tokens ∨ (lex text).broken = false) :
    text.toList.count '(' = text.toList.count ')' ∧
      text.toList.count '[' = text.toList.count ']' := by
  unfold lex at h
  -- the lexer reads the text with a line end added, which holds no bracket
  have hsrc : ∀ o, o = '(' ∨ o = ')' ∨ o = '[' ∨ o = ']' →
      ((if text.endsWith "\n" = true then text else text.push '\n').toList.toArray.toList).count o =
        text.toList.count o := by
    intro o ho
    split
    · rfl
    · have hno : '\n' ≠ o := by rcases ho with rfl | rfl | rfl | rfl <;> decide
      simp [String.toList_push, hno]
  have hlit : NoLiterals (if text.endsWith "\n" = true then text else text.push '\n').toList.toArray := by
    intro k c hk
    have hmem : c ∈ (if text.endsWith "\n" = true then text else text.push '\n').toList := by
      rw [← Array.getElem?_toList, List.toList_toArray] at hk
      exact List.mem_of_getElem? hk
    split at hmem
    · exact hplain c hmem
    · rw [String.toList_push, List.mem_append, List.mem_singleton] at hmem
      rcases hmem with hmem | rfl
      · exact hplain c hmem
      · exact ⟨by decide, by decide, by decide⟩
  have hbal := lexRun_balanced hlit (LexInv.init _) h
  have hp := hbal '(' (.inl rfl)
  have hb := hbal '[' (.inr rfl)
  rw [show closerOf '(' = ')' from rfl, hsrc '(' (.inl rfl), hsrc ')' (.inr (.inl rfl))] at hp
  rw [show closerOf '[' = ']' from rfl, hsrc '[' (.inr (.inr (.inl rfl))),
    hsrc ']' (.inr (.inr (.inr rfl)))] at hb
  exact ⟨hp, hb⟩

end SyntaxAdvisor.Python
