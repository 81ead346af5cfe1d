import SyntaxAdvisor.Proofs.ShortestDigits
import SyntaxAdvisor.Proofs.NearestDouble

/-!
# Reading back the written form of a double

The written form of a double (`floatText`) reads back as the same double (`readFloat`), for
every double: not-a-number, both infinities, both zeros, subnormal and normal values. The
digits are the shortest digits, which lie in the double's rounding interval; the reader takes
the text apart into a mantissa and an exponent of the same value, whether the text is
positional or in exponent form, and rounds it to the double whose interval holds it.
-/

namespace SyntaxAdvisor.Decimal

/-! ## The value of digits -/

theorem digitsValue_eq_ofDigitChars (ds : List Char) :
    digitsValue ds = Nat.ofDigitChars 10 ds 0 := by
  unfold digitsValue Nat.ofDigitChars
  congr 1
  funext n d
  rw [Nat.mul_comm]
  rfl

theorem digitsValue_repr (c : Nat) : digitsValue (Nat.repr c).toList = c := by
  rw [digitsValue_eq_ofDigitChars, Nat.toList_repr, Nat.ofDigitChars_ten_toDigits]

/-- Leading zeros add nothing. -/
theorem digitsValue_zeros_append (z : Nat) (ds : List Char) :
    digitsValue (List.replicate z '0' ++ ds) = digitsValue ds := by
  rw [digitsValue_eq_ofDigitChars, digitsValue_eq_ofDigitChars, Nat.ofDigitChars_append,
    Nat.ofDigitChars_replicate_zero, Nat.mul_zero]

/-- Trailing zeros multiply by powers of ten. -/
theorem digitsValue_append_zeros (ds : List Char) (z : Nat) :
    digitsValue (ds ++ List.replicate z '0') = digitsValue ds * 10 ^ z := by
  rw [digitsValue_eq_ofDigitChars, digitsValue_eq_ofDigitChars, Nat.ofDigitChars_append,
    Nat.ofDigitChars_replicate_zero, Nat.mul_comm]

theorem isDigit_of_mem_repr {c : Nat} {d : Char} (h : d ∈ (Nat.repr c).toList) :
    d.isDigit = true := by
  rw [Nat.toList_repr] at h
  exact Nat.isDigit_of_mem_toDigits (by norm_num) (by norm_num) h

/-! ## Taking a decimal apart -/

/-- All characters are decimal digits. -/
def AllDigits (cs : List Char) : Prop := ∀ c ∈ cs, c.isDigit = true

theorem allDigits_append {xs ys : List Char} (hx : AllDigits xs) (hy : AllDigits ys) :
    AllDigits (xs ++ ys) := by
  intro c hc
  rcases List.mem_append.1 hc with h | h
  · exact hx c h
  · exact hy c h

theorem allDigits_replicate_zero (z : Nat) : AllDigits (List.replicate z '0') := by
  intro c hc
  rw [List.eq_of_mem_replicate hc]
  rfl

/-- The digits before a character that is not one are taken, and the rest is left. -/
theorem takeWhile_digits {ds : List Char} (rest : List Char) (hds : AllDigits ds)
    (hstop : ∀ c ∈ rest.head?, c.isDigit = false) :
    (ds ++ rest).takeWhile Char.isDigit = ds ∧ (ds ++ rest).dropWhile Char.isDigit = rest := by
  rw [List.takeWhile_append_of_pos hds, List.dropWhile_append_of_pos hds]
  cases rest with
  | nil => simp
  | cons c cs =>
    have hc : c.isDigit = false := hstop c rfl
    rw [List.takeWhile_cons_of_neg (by simp [hc]), List.dropWhile_cons_of_neg (by simp [hc]),
      List.append_nil]
    exact ⟨rfl, rfl⟩

/-- A positional decimal: its digits with the point taken out, scaled by its fraction's
length. -/
theorem readDecimal_point {whole frac : List Char} (hw : AllDigits whole) (hf : AllDigits frac)
    (hne : whole ≠ []) :
    readDecimal (whole ++ '.' :: frac) = some (digitsValue (whole ++ frac), -(frac.length : Int)) := by
  obtain ⟨hwt, hwd⟩ := takeWhile_digits ('.' :: frac) hw (by simp)
  obtain ⟨hft, hfd⟩ := takeWhile_digits [] hf (by simp)
  rw [List.append_nil] at hft hfd
  simp only [readDecimal, hwt, hwd, hft, hfd]
  rw [if_neg (by simp [hne])]

/-- A decimal in exponent form with a signed exponent: the exponent adds to the scale. -/
theorem readDecimal_exponent {whole frac xs : List Char} {sign : Char} (hw : AllDigits whole)
    (hf : AllDigits frac) (hx : AllDigits xs) (hne : whole ≠ []) (hxs : xs ≠ [])
    (hsign : sign = '-' ∨ sign = '+') :
    readDecimal (whole ++ (if frac = [] then [] else '.' :: frac) ++ 'e' :: sign :: xs) =
      some (digitsValue (whole ++ frac),
        -(frac.length : Int) + if sign = '-' then -(digitsValue xs : Int) else digitsValue xs) := by
  have hall : xs.all Char.isDigit = true := List.all_eq_true.2 hx
  have hxne : xs.isEmpty = false := List.isEmpty_eq_false_iff.2 hxs
  have hsplit : splitSign (sign :: xs) = (decide (sign = '-'), xs) := by
    rcases hsign with rfl | rfl <;> rfl
  by_cases hfrac : frac = []
  · subst hfrac
    obtain ⟨hwt, hwd⟩ := takeWhile_digits ('e' :: sign :: xs) hw (by simp)
    rw [if_pos rfl, List.append_nil]
    simp only [readDecimal, hwt, hwd]
    simp [hne, hsplit, hall, hxne]
  · rw [if_neg hfrac, List.append_assoc, List.cons_append]
    obtain ⟨hwt, hwd⟩ := takeWhile_digits ('.' :: (frac ++ 'e' :: sign :: xs)) hw (by simp)
    obtain ⟨hft, hfd⟩ := takeWhile_digits ('e' :: sign :: xs) hf (by simp)
    simp only [readDecimal, hwt, hwd, hft, hfd, hsplit, hall, hxne]
    simp [hne]

/-! ## Written decimals -/

/-- The characters a written decimal is made of. -/
def NumberChar (c : Char) : Prop := c.isDigit = true ∨ c = '.' ∨ c = 'e' ∨ c = '+' ∨ c = '-'

theorem toNat_of_isDigit {c : Char} (h : c.isDigit = true) : 48 ≤ c.toNat ∧ c.toNat ≤ 57 := by
  unfold Char.isDigit at h
  simp only [Bool.and_eq_true, decide_eq_true_eq, UInt32.le_iff_toNat_le] at h
  exact h

/-- The characters of a written decimal are printable ASCII characters other than the
underscore. -/
theorem NumberChar.toNat_bounds {c : Char} (h : NumberChar c) :
    32 < c.toNat ∧ c.toNat < 127 ∧ c.toNat ≠ 95 := by
  rcases h with hd | rfl | rfl | rfl | rfl
  · have := toNat_of_isDigit hd
    omega
  all_goals decide

theorem NumberChar.isUpper_eq_false {c : Char} (h : NumberChar c) : c.isUpper = false := by
  rcases h with hd | rfl | rfl | rfl | rfl
  · have := toNat_of_isDigit hd
    unfold Char.isUpper
    simp only [decide_eq_false_iff_not, UInt32.le_iff_toNat_le]
    rw [show 'A'.val.toNat = 65 from rfl]
    exact fun h => absurd h.1 (by change ¬65 ≤ c.toNat; omega)
  all_goals decide

theorem toNat_le_of_isAsciiSpace {c : Char} (h : isAsciiSpace c = true) : c.toNat ≤ 32 := by
  unfold isAsciiSpace at h
  simp only [Bool.or_eq_true, beq_iff_eq] at h
  rcases h with (((((rfl | rfl) | rfl) | rfl) | rfl) | rfl) <;> decide

/-- The characters of a text of `value`, written with digits, a point, an exponent mark and
signs, that starts with a digit and that the decimal reader takes apart into a mantissa and an
exponent of that value. -/
structure WrittenDecimal (cs : List Char) (value : ℚ) : Prop where
  chars : ∀ c ∈ cs, NumberChar c
  head : ∀ c ∈ cs.head?, c.isDigit = true
  reads : ∃ (M : Nat) (E : Int), readDecimal cs = some (M, E) ∧ (M : ℚ) * 10 ^ E = value

/-- A written decimal is not empty. -/
theorem WrittenDecimal.ne_nil {cs : List Char} {value : ℚ} (h : WrittenDecimal cs value) :
    cs ≠ [] := by
  rintro rfl
  obtain ⟨M, E, hread, -⟩ := h.reads
  simp [readDecimal] at hread

/-! ## Reading a written decimal -/

theorem mapM_asciiForm {cs : List Char} (h : ∀ c ∈ cs, c.toNat < 127) :
    cs.mapM asciiForm = some cs := by
  induction cs with
  | nil => rfl
  | cons c cs ih =>
    rw [List.mapM_cons, ih fun d hd => h d (List.mem_cons_of_mem _ hd), asciiForm,
      if_pos (h c List.mem_cons_self)]
    rfl

theorem dropWhile_of_forall_false {cs : List Char} {p : Char → Bool}
    (h : ∀ c ∈ cs, p c = false) : cs.dropWhile p = cs := by
  cases cs with
  | nil => rfl
  | cons c cs => exact List.dropWhile_cons_of_neg (by simp [h c List.mem_cons_self])

theorem underscoresFit_of_not_mem {cs : List Char} (h : '_' ∉ cs) : underscoresFit cs = true := by
  unfold underscoresFit
  rw [List.all_eq_true]
  intro i hi
  rw [List.mem_range, List.size_toArray] at hi
  rw [getElem!_pos cs.toArray i (by simpa using hi)]
  simp only [List.getElem_toArray, Bool.or_eq_true, bne_iff_ne]
  left
  intro heq
  exact h (heq ▸ List.getElem_mem hi)

/-- A text made of the characters of written decimals passes the reader's clean-up unchanged
(it is ASCII, has no blanks at its ends and no underscores), and is read as a decimal after its
sign. -/
theorem readFloat_of_numberChars {cs : List Char} {M : Nat} {E : Int} (h : ∀ c ∈ cs, NumberChar c)
    (hread : readDecimal (splitSign cs).2 = some (M, E)) :
    readFloat (String.ofList cs) = some (nearestDouble (splitSign cs).1 M E) := by
  have hspace : ∀ c ∈ cs, isAsciiSpace c = false := fun c hc => by
    have := (h c hc).toNat_bounds
    by_contra hsp
    have := toNat_le_of_isAsciiSpace (Bool.not_eq_false _ ▸ hsp)
    omega
  have hrev : ∀ c ∈ cs.reverse, isAsciiSpace c = false := fun c hc =>
    hspace c (List.mem_reverse.1 hc)
  have hunder : '_' ∉ cs := fun hc => (h _ hc).toNat_bounds.2.2 rfl
  have hkeep : cs.filter (· != '_') = cs :=
    List.filter_eq_self.2 fun c hc => bne_iff_ne.2 fun heq => hunder (heq ▸ hc)
  unfold readFloat
  rw [String.toList_ofList, mapM_asciiForm fun c hc => (h c hc).toNat_bounds.2.1]
  simp only [Option.bind_eq_bind, Option.bind]
  rw [dropWhile_of_forall_false hspace, dropWhile_of_forall_false hrev, List.reverse_reverse,
    underscoresFit_of_not_mem hunder, hkeep, hread]
  rfl

/-! ## The two written forms -/

section Forms

variable {c : Nat}

theorem allDigits_repr (c : Nat) : AllDigits (Nat.repr c).toList := fun _ h => isDigit_of_mem_repr h

theorem repr_ne_nil (c : Nat) : (Nat.repr c).toList ≠ [] := by
  rw [Nat.toList_repr]
  exact Nat.toDigits_ne_nil

theorem numberChar_of_allDigits {cs : List Char} (h : AllDigits cs) : ∀ d ∈ cs, NumberChar d :=
  fun d hd => .inl (h d hd)

theorem head?_isDigit {d : Char} {rest : List Char} (hd : d.isDigit = true) :
    ∀ x ∈ (d :: rest).head?, x.isDigit = true := by
  intro x hx
  rw [List.head?_cons, Option.mem_some_iff] at hx
  rw [← hx]
  exact hd

theorem numberChar_of_mem_append {xs ys : List Char} (hx : ∀ d ∈ xs, NumberChar d)
    (hy : ∀ d ∈ ys, NumberChar d) : ∀ d ∈ xs ++ ys, NumberChar d := by
  intro d hd
  rcases List.mem_append.1 hd with h | h
  · exact hx d h
  · exact hy d h

theorem numberChar_point : NumberChar '.' := .inr (.inl rfl)

/-- The point and the zero that stand for no fraction. -/
theorem numberChar_point_zero : ∀ d ∈ ['.', '0'], NumberChar d :=
  List.forall_mem_cons.2 ⟨numberChar_point, List.forall_mem_cons.2 ⟨.inl rfl, by simp⟩⟩

/-- A point left of the digits: `0.`, zeros and the digits. -/
theorem writtenDecimal_left {ds : List Char} (hds : AllDigits ds) (z : Nat) :
    WrittenDecimal ('0' :: '.' :: (List.replicate z '0' ++ ds))
      (digitsValue ds * 10 ^ (-((z + ds.length : ℕ) : ℤ))) := by
  have hfrac := allDigits_append (allDigits_replicate_zero z) hds
  refine ⟨List.forall_mem_cons.2 ⟨.inl rfl, List.forall_mem_cons.2
    ⟨numberChar_point, numberChar_of_allDigits hfrac⟩⟩, head?_isDigit rfl, ?_⟩
  refine ⟨_, _, readDecimal_point (allDigits_replicate_zero 1) hfrac (List.cons_ne_nil _ _), ?_⟩
  rw [← List.append_assoc, List.replicate_append_replicate, digitsValue_zeros_append,
    List.length_append, List.length_replicate]

/-- A point right of the digits: the digits, zeros and `.0`. -/
theorem writtenDecimal_right {ds : List Char} (hds : AllDigits ds) (hne : ds ≠ []) (z : Nat) :
    WrittenDecimal ((ds ++ List.replicate z '0') ++ ['.', '0']) (digitsValue ds * 10 ^ (z : ℤ)) := by
  have hwhole := allDigits_append hds (allDigits_replicate_zero z)
  obtain ⟨d, rest, rfl⟩ := List.exists_cons_of_ne_nil hne
  refine ⟨numberChar_of_mem_append (numberChar_of_allDigits hwhole) numberChar_point_zero,
    by rw [List.append_assoc, List.cons_append]; exact head?_isDigit (hds d List.mem_cons_self),
    ?_⟩
  refine ⟨_, _, readDecimal_point hwhole (allDigits_replicate_zero 1) (by simp), ?_⟩
  -- the zero after the point is one more trailing zero, and one place less
  rw [show ['0'] = List.replicate 1 '0' from rfl, List.append_assoc, List.replicate_append_replicate,
    digitsValue_append_zeros, List.length_replicate]
  push_cast
  rw [mul_assoc, ← zpow_natCast, ← zpow_add₀ (by norm_num)]
  congr 2
  omega

/-- A point among the digits, after the first `j` of them. -/
theorem writtenDecimal_among {ds : List Char} (hds : AllDigits ds) (j : Nat) (hj : 0 < j)
    (hjlen : j < ds.length) :
    WrittenDecimal (ds.take j ++ '.' :: ds.drop j)
      (digitsValue ds * 10 ^ (-((ds.length - j : ℕ) : ℤ))) := by
  have htake : AllDigits (ds.take j) := fun x hx => hds x (List.mem_of_mem_take hx)
  have hdrop : AllDigits (ds.drop j) := fun x hx => hds x (List.mem_of_mem_drop hx)
  obtain ⟨d, rest, rfl⟩ := List.exists_cons_of_ne_nil
    (List.ne_nil_of_length_pos (show 0 < ds.length by omega))
  obtain ⟨p, rfl⟩ : ∃ p, j = p + 1 := ⟨j - 1, by omega⟩
  refine ⟨numberChar_of_mem_append (numberChar_of_allDigits htake)
      (List.forall_mem_cons.2 ⟨numberChar_point, numberChar_of_allDigits hdrop⟩),
    by rw [List.take_succ_cons, List.cons_append]; exact head?_isDigit (hds d List.mem_cons_self),
    ?_⟩
  refine ⟨_, _, readDecimal_point htake hdrop (by simp), ?_⟩
  rw [List.take_append_drop, List.length_drop]

/-- Positional notation: a point placed among the digits, padded with zeros on the side it
falls outside them. -/
theorem writtenDecimal_placeDigits (point : Int) :
    WrittenDecimal (placeDigits (Nat.repr c) point).toList
      (c * 10 ^ (point - (Nat.repr c).length)) := by
  have hD := allDigits_repr c
  have hlen : (Nat.repr c).toList.length = (Nat.repr c).length := String.length_toList
  unfold placeDigits
  dsimp only
  split_ifs with hneg hbeyond
  · have htext : ("0." ++ String.ofList (List.replicate (-point).toNat '0') ++ Nat.repr c).toList =
        '0' :: '.' :: (List.replicate (-point).toNat '0' ++ (Nat.repr c).toList) := by
      simp only [String.toList_append, String.toList_ofList]
      rfl
    have hexp : -(((-point).toNat + (Nat.repr c).toList.length : ℕ) : ℤ) =
        point - (Nat.repr c).length := by
      omega
    have h := writtenDecimal_left hD (-point).toNat
    rw [htext]
    rwa [digitsValue_repr, hexp] at h
  · have htext : (Nat.repr c ++ String.ofList (List.replicate (point - (Nat.repr c).length).toNat
        '0') ++ ".0").toList = ((Nat.repr c).toList ++
        List.replicate (point - (Nat.repr c).length).toNat '0') ++ ['.', '0'] := by
      simp only [String.toList_append, String.toList_ofList]
      rfl
    have hexp : (((point - (Nat.repr c).length).toNat : ℕ) : ℤ) = point - (Nat.repr c).length := by
      omega
    have h := writtenDecimal_right hD (repr_ne_nil c) (point - (Nat.repr c).length).toNat
    rw [htext]
    rwa [digitsValue_repr, hexp] at h
  · have htext : (((Nat.repr c).take point.toNat).toString ++ "." ++
        ((Nat.repr c).drop point.toNat).toString).toList =
        (Nat.repr c).toList.take point.toNat ++ '.' :: (Nat.repr c).toList.drop point.toNat := by
      simp [String.toList_append]
    have hexp : -(((Nat.repr c).toList.length - point.toNat : ℕ) : ℤ) =
        point - (Nat.repr c).length := by
      omega
    have h := writtenDecimal_among hD point.toNat (by omega) (by omega)
    rw [htext]
    rwa [digitsValue_repr, hexp] at h

/-- The digits of an exponent, padded to two: digits, at least one, of the exponent's value. -/
theorem exponentDigits (a : Nat) :
    AllDigits (if (Nat.repr a).length < 2 then "0" ++ Nat.repr a else Nat.repr a).toList ∧
      (if (Nat.repr a).length < 2 then "0" ++ Nat.repr a else Nat.repr a).toList ≠ [] ∧
      digitsValue (if (Nat.repr a).length < 2 then "0" ++ Nat.repr a else Nat.repr a).toList = a := by
  split
  · have htext : ("0" ++ Nat.repr a).toList = List.replicate 1 '0' ++ (Nat.repr a).toList := by
      rw [String.toList_append]
      rfl
    rw [htext, digitsValue_zeros_append, digitsValue_repr]
    exact ⟨allDigits_append (allDigits_replicate_zero 1) (allDigits_repr a), by simp, rfl⟩
  · exact ⟨allDigits_repr a, repr_ne_nil a, digitsValue_repr a⟩

/-- Exponent form: a first digit, the other digits after a point when there are any, the mark
`e`, a sign and the exponent's digits. -/
theorem writtenDecimal_exponentForm {d sign : Char} {rest xs : List Char} (hd : d.isDigit = true)
    (hrest : AllDigits rest) (hx : AllDigits xs) (hxs : xs ≠ []) (hsign : sign = '-' ∨ sign = '+') :
    WrittenDecimal ([d] ++ (if rest = [] then [] else '.' :: rest) ++ 'e' :: sign :: xs)
      (digitsValue (d :: rest) *
        10 ^ (-(rest.length : ℤ) + if sign = '-' then -(digitsValue xs : ℤ) else digitsValue xs)) := by
  have hfirst : AllDigits [d] := fun x hx => List.mem_singleton.1 hx ▸ hd
  refine ⟨?_, by rw [List.append_assoc, List.singleton_append]; exact head?_isDigit hd, ?_⟩
  · -- digits, a point, the exponent mark and its sign
    have hfrac : ∀ x ∈ (if rest = [] then [] else '.' :: rest), NumberChar x := by
      split
      · simp
      · exact List.forall_mem_cons.2 ⟨numberChar_point, numberChar_of_allDigits hrest⟩
    have hmark : NumberChar 'e' := .inr (.inr (.inl rfl))
    have hsignc : NumberChar sign := by
      rcases hsign with h | h <;> rw [h]
      · exact .inr (.inr (.inr (.inr rfl)))
      · exact .inr (.inr (.inr (.inl rfl)))
    exact numberChar_of_mem_append (numberChar_of_mem_append (numberChar_of_allDigits hfirst) hfrac)
      (List.forall_mem_cons.2 ⟨hmark, List.forall_mem_cons.2 ⟨hsignc, numberChar_of_allDigits hx⟩⟩)
  · exact ⟨_, _, readDecimal_exponent hfirst hrest hx (List.cons_ne_nil _ _) hxs hsign, rfl⟩

/-- Exponent notation: the first digit, the others after a point, and the signed exponent of
the first digit's place. -/
theorem writtenDecimal_scientificDigits (point : Int) :
    WrittenDecimal (scientificDigits (Nat.repr c) point).toList
      (c * 10 ^ (point - (Nat.repr c).length)) := by
  have hD := allDigits_repr c
  obtain ⟨d, rest, hDeq⟩ := List.exists_cons_of_ne_nil (repr_ne_nil c)
  have hd : d.isDigit = true := hD d (by rw [hDeq]; exact List.mem_cons_self)
  have hrest : AllDigits rest := fun x hx => hD x (by rw [hDeq]; exact List.mem_cons_of_mem _ hx)
  have hlen : (Nat.repr c).length = rest.length + 1 := by
    rw [← String.length_toList, hDeq, List.length_cons]
  obtain ⟨hX, hXne, hXval⟩ := exponentDigits (point - 1).natAbs
  unfold scientificDigits
  dsimp only
  generalize (if (Nat.repr (point - 1).natAbs).length < 2 then "0" ++ Nat.repr (point - 1).natAbs
    else Nat.repr (point - 1).natAbs) = expText at hX hXne hXval ⊢
  -- the mantissa: one digit, or a digit, a point and the other digits
  have hmant : (if (Nat.repr c).length == 1 then Nat.repr c
      else ((Nat.repr c).take 1).toString ++ "." ++ ((Nat.repr c).drop 1).toString).toList =
      [d] ++ if rest = [] then [] else '.' :: rest := by
    by_cases hone : rest = []
    · rw [if_pos (by simp [hlen, hone]), if_pos hone, hDeq, hone]
      rfl
    · rw [if_neg (by simpa [hlen] using hone), if_neg hone]
      simp [String.toList_append, hDeq]
  set sign : Char := if point - 1 < 0 then '-' else '+' with hsign
  have hsigntext : (if point - 1 < 0 then "-" else "+").toList = [sign] := by
    rw [hsign]
    split <;> rfl
  have htext : ((if (Nat.repr c).length == 1 then Nat.repr c
      else ((Nat.repr c).take 1).toString ++ "." ++ ((Nat.repr c).drop 1).toString) ++ "e" ++
      (if point - 1 < 0 then "-" else "+") ++ expText).toList =
      [d] ++ (if rest = [] then [] else '.' :: rest) ++ 'e' :: sign :: expText.toList := by
    simp only [String.toList_append, hmant, hsigntext]
    simp
  have hsign' : sign = '-' ∨ sign = '+' := by
    rw [hsign]
    split
    · exact .inl rfl
    · exact .inr rfl
  -- the exponent counts from the first digit's place
  have hexp : (-(rest.length : ℤ) + if sign = '-' then -((point - 1).natAbs : ℤ)
      else ((point - 1).natAbs : ℤ)) = point - (Nat.repr c).length := by
    rw [hsign]
    by_cases hlt : point - 1 < 0
    · rw [if_pos hlt, if_pos rfl]
      omega
    · rw [if_neg hlt, if_neg (by decide)]
      omega
  have h := writtenDecimal_exponentForm hd hrest hX hXne hsign'
  rw [htext]
  rwa [← hDeq, digitsValue_repr, hXval, hexp] at h

/-- The digits of a double's written form, in exponent form when the point falls far from
them and positional otherwise, are a written decimal of their value. -/
theorem writtenDecimal_digits (c : Nat) (k : Int) :
    WrittenDecimal (if ((Nat.repr c).length + k < -3 || (Nat.repr c).length + k > 16) = true
      then scientificDigits (Nat.repr c) ((Nat.repr c).length + k)
      else placeDigits (Nat.repr c) ((Nat.repr c).length + k)).toList (c * 10 ^ k) := by
  have hpoint : ((Nat.repr c).length + k : ℤ) - (Nat.repr c).length = k := by omega
  split
  · have h := writtenDecimal_scientificDigits (c := c) ((Nat.repr c).length + k)
    rwa [hpoint] at h
  · have h := writtenDecimal_placeDigits (c := c) ((Nat.repr c).length + k)
    rwa [hpoint] at h

end Forms

/-! ## The round trip -/

theorem splitSign_of_isDigit {d : Char} {rest : List Char} (hd : d.isDigit = true) :
    splitSign (d :: rest) = (false, d :: rest) := by
  have hminus : d ≠ '-' := fun h => absurd (h ▸ hd) (by decide)
  have hplus : d ≠ '+' := fun h => absurd (h ▸ hd) (by decide)
  unfold splitSign
  split
  · rename_i h
    exact absurd (List.cons.inj h).1 hminus
  · rename_i h
    exact absurd (List.cons.inj h).1 hplus
  · rfl

/-- A written decimal, with a minus sign or none, reads as the double nearest to a decimal of
its value, with that sign. -/
theorem readFloat_signed {negative : Bool} {body : List Char} {value : ℚ}
    (h : WrittenDecimal body value) :
    ∃ (M : Nat) (E : Int), (M : ℚ) * 10 ^ E = value ∧
      readFloat ((if negative then "-" else "") ++ String.ofList body) =
        some (nearestDouble negative M E) := by
  obtain ⟨M, E, hread, hval⟩ := h.reads
  refine ⟨M, E, hval, ?_⟩
  cases negative
  · -- no sign: the text starts with a digit
    obtain ⟨d, rest, rfl⟩ : ∃ d rest, body = d :: rest := by
      cases body with
      | nil => simp [readDecimal] at hread
      | cons d rest => exact ⟨d, rest, rfl⟩
    have hsplit : splitSign (d :: rest) = (false, d :: rest) := splitSign_of_isDigit (h.head d rfl)
    have hread' : readDecimal (splitSign (d :: rest)).2 = some (M, E) := by
      rw [hsplit]
      exact hread
    have hfloat := readFloat_of_numberChars h.chars hread'
    rw [hsplit] at hfloat
    rw [if_neg Bool.false_ne_true, String.empty_append]
    exact hfloat
  · -- a minus sign, then the decimal
    have htext : "-" ++ String.ofList body = String.ofList ('-' :: body) := by
      rw [← String.toList_inj]
      simp [String.toList_append]
    rw [if_pos rfl, htext]
    exact readFloat_of_numberChars
      (List.forall_mem_cons.2 ⟨.inr (.inr (.inr (.inr rfl))), h.chars⟩) hread

/-- The written form of a double is not empty and is made of printable ASCII characters other
than blanks and capital letters. -/
theorem floatText_chars (x : Float) : (floatText x).toList ≠ [] ∧
    ∀ ch ∈ (floatText x).toList, 32 < ch.toNat ∧ ch.toNat < 127 ∧ ch.isUpper = false := by
  have hnumber : ∀ ch, NumberChar ch → 32 < ch.toNat ∧ ch.toNat < 127 ∧ ch.isUpper = false :=
    fun ch h => ⟨h.toNat_bounds.1, h.toNat_bounds.2.1, h.isUpper_eq_false⟩
  have hsign : ∀ negative : Bool, ∀ ch ∈ (if negative then "-" else "").toList, NumberChar ch := by
    intro negative ch hch
    cases negative
    · cases hch
    · rw [List.mem_singleton.1 hch]
      exact .inr (.inr (.inr (.inr rfl)))
  unfold floatText
  cases DoubleKind.ofFloat x with
  | nan =>
    refine ⟨by simp, fun ch hch => ?_⟩
    simp only [show "nan".toList = ['n', 'a', 'n'] from rfl, List.mem_cons, List.not_mem_nil,
      or_false] at hch
    rcases hch with rfl | rfl | rfl <;> decide
  | infinity negative =>
    cases negative
    · refine ⟨by simp, fun ch hch => ?_⟩
      simp only [show "inf".toList = ['i', 'n', 'f'] from rfl, List.mem_cons, List.not_mem_nil,
        or_false, Bool.false_eq_true, ↓reduceIte] at hch
      rcases hch with rfl | rfl | rfl <;> decide
    · refine ⟨by simp, fun ch hch => ?_⟩
      simp only [show "-inf".toList = ['-', 'i', 'n', 'f'] from rfl, List.mem_cons,
        List.not_mem_nil, or_false, ↓reduceIte] at hch
      rcases hch with rfl | rfl | rfl | rfl <;> decide
  | finite v =>
    dsimp only
    split
    · -- a zero
      refine ⟨by simp, fun ch hch => hnumber ch ?_⟩
      rw [String.toList_append, show "0.0".toList = ['0', '.', '0'] from rfl] at hch
      rcases List.mem_append.1 hch with hch | hch
      · exact hsign _ ch hch
      · exact List.forall_mem_cons.2 ⟨.inl rfl, numberChar_point_zero⟩ ch hch
    · -- the digits, positional or in exponent form
      obtain ⟨c, k⟩ := shortestDigits v.significand v.exponent
      dsimp only
      have hbody := writtenDecimal_digits c k
      rw [String.toList_append]
      refine ⟨fun h => hbody.ne_nil (List.append_eq_nil_iff.1 h).2, fun ch hch => hnumber ch ?_⟩
      rcases List.mem_append.1 hch with hch | hch
      · exact hsign _ ch hch
      · exact hbody.chars ch hch

/-- Every double reads back from its written form. -/
theorem readFloat_floatText (x : Float) : readFloat (floatText x) = some x := by
  unfold floatText
  cases hk : DoubleKind.ofFloat x with
  | nan =>
    rw [ofFloat_eq_nan hk]
    rfl
  | infinity negative =>
    rw [ofFloat_eq_infinity hk]
    cases negative
    · rfl
    · have hneg : -infinity = floatOfFields true 2047 0 := by decide +kernel
      rw [← hneg]
      rfl
  | finite v =>
    obtain ⟨hl, hx⟩ := ofFloat_eq_finite hk
    dsimp only
    by_cases hzero : v.significand = 0
    · -- a zero, written `0.0` with its sign
      rw [if_pos (by simp [hzero])]
      have hdec : WrittenDecimal ['0', '.', '0'] 0 := by
        exact ⟨List.forall_mem_cons.2 ⟨.inl rfl, numberChar_point_zero⟩, head?_isDigit rfl,
          0, -1, rfl, by simp⟩
      obtain ⟨M, E, hval, hread⟩ := @readFloat_signed v.negative _ _ hdec
      have hM : M = 0 := by
        rcases mul_eq_zero.1 hval with h0 | h0
        · exact_mod_cast h0
        · exact absurd h0 (by positivity)
      rw [show "0.0" = String.ofList ['0', '.', '0'] from rfl, hread, hM, hx, hzero]
      unfold nearestDouble
      rw [beq_self_eq_true, if_pos rfl, exponentField, if_pos (by norm_num), Nat.zero_mod]
    · -- the shortest digits, positional or in exponent form
      have hm : 0 < v.significand := Nat.pos_of_ne_zero hzero
      rw [if_neg (by simpa using hzero)]
      obtain ⟨hc, hin⟩ := shortestDigits_inRounding hm hl.significand_lt
      generalize shortestDigits v.significand v.exponent = ck at hc hin ⊢
      obtain ⟨c, k⟩ := ck
      dsimp only at hc hin ⊢
      have hbody := writtenDecimal_digits c k
      obtain ⟨M, E, hval, hread⟩ := @readFloat_signed v.negative _ _ hbody
      rw [String.ofList_toList] at hread
      rw [hread, nearestDouble_of_inRounding hl hm (hval ▸ hin), ← hx]

end SyntaxAdvisor.Decimal
