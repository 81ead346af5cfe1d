import SyntaxAdvisor.Report.Stored
import SyntaxAdvisor.Proofs.IntValues
import Mathlib.Tactic.Ring

/-!
# Reading back the ISO text of a date-time

The ISO text of a date-time is read back to the same date-time, for every date-time the library
can hold: one whose fields are in range and whose offset from UTC is either zero or at least a
second and less than a day. These are exactly the date-times reading makes: reading never gives
a field out of range, and an offset of less than a second is read as UTC.

The reader works on bytes. Its steps are stated here for bytes known to stand at known places
(`BytesAt`), so that the round trip becomes a run of the reader over the known shape of the text:
four, two and two digits with dashes, `T`, two-digit fields with colons, six digits of fraction,
and the offset in the same form.
-/

namespace SyntaxAdvisor

open Decimal

/-! ## Fixed-width decimal text -/

theorem padDigits_toList (n w : Nat) :
    (padDigits n w).toList =
      List.replicate (w - (Nat.toDigits 10 n).length) '0' ++ Nat.toDigits 10 n := by
  simp [padDigits, ← String.length_toList]

/-- A number below `10 ^ w` is written with exactly `w` digits. -/
theorem length_padDigits {n w : Nat} (hw : 0 < w) (h : n < 10 ^ w) :
    (padDigits n w).toList.length = w := by
  have hlen : (Nat.toDigits 10 n).length ≤ w := (Nat.length_toDigits_le_iff (by omega) hw).2 h
  rw [padDigits_toList, List.length_append, List.length_replicate]
  omega

/-- Leading zeros do not change the value of the digits. -/
@[simp] theorem ofDigitChars_padDigits (n w : Nat) :
    Nat.ofDigitChars 10 (padDigits n w).toList 0 = n := by
  rw [padDigits_toList, Nat.ofDigitChars_append, Nat.ofDigitChars_replicate_zero, Nat.mul_zero,
    Nat.ofDigitChars_ten_toDigits]

theorem isDigit_of_mem_padDigits {n w : Nat} {c : Char} (h : c ∈ (padDigits n w).toList) :
    c.isDigit := by
  rw [padDigits_toList, List.mem_append] at h
  rcases h with h | h
  · rw [List.eq_of_mem_replicate h]
    rfl
  · exact Nat.isDigit_of_mem_toDigits (by omega) (by omega) h

namespace IsoText

/-! ## Bytes at known places -/

/-- The characters `cs`, all ASCII, stand as bytes from position `i` of `s` on. -/
def BytesAt (s : Array UInt8) (i : Nat) (cs : List Char) : Prop :=
  ∀ k (hk : k < cs.length), byteAt s (i + k) = cs[k].toNat

variable {s : Array UInt8} {i : Nat}

theorem BytesAt.cons {c : Char} {cs : List Char} :
    BytesAt s i (c :: cs) ↔ byteAt s i = c.toNat ∧ BytesAt s (i + 1) cs := by
  constructor
  · intro h
    refine ⟨h 0 (by simp), fun k hk => ?_⟩
    have hk' := h (k + 1) (by simp [hk])
    rwa [← Nat.add_assoc, Nat.add_right_comm] at hk'
  · rintro ⟨hc, hcs⟩ k hk
    cases k with
    | zero => exact hc
    | succ k =>
      have hk' := hcs k (by simpa using hk)
      rwa [Nat.add_assoc, Nat.add_comm 1 k] at hk'

theorem BytesAt.append {cs ds : List Char} :
    BytesAt s i (cs ++ ds) ↔ BytesAt s i cs ∧ BytesAt s (i + cs.length) ds := by
  induction cs generalizing i with
  | nil => simp [BytesAt]
  | cons c cs ih =>
    rw [List.cons_append, BytesAt.cons, BytesAt.cons, ih, List.length_cons, and_assoc,
      Nat.add_assoc, Nat.add_comm 1 cs.length]

theorem BytesAt.byteAt_eq {cs : List Char} (h : BytesAt s i cs) {k : Nat} (hk : k < cs.length) :
    byteAt s (i + k) = cs[k].toNat :=
  h k hk

/-- Past its end a text reads as zero bytes. -/
theorem byteAt_of_size_le {j : Nat} (h : s.size ≤ j) : byteAt s j = 0 := by
  simp [byteAt, Array.getD, Nat.not_lt.2 h]

/-! ## Reading digits -/

theorem isDigit_toNat {c : Char} (h : c.isDigit) : isDigit c.toNat = true := by
  have := Char.isDigit_iff_toNat.1 h
  simp only [isDigit, Bool.and_eq_true, decide_eq_true_eq]
  exact ⟨this.1, this.2⟩

/-- One step of reading digits: a digit at the position is appended to the value. -/
def digitStep (s : Array UInt8) (acc : Nat × Nat) (_ : Nat) : Option (Nat × Nat) :=
  if isDigit (byteAt s acc.2) then some (acc.1 * 10 + (byteAt s acc.2 - 48), acc.2 + 1) else none

theorem digits_eq_foldlM (n : Nat) : digits s i n = (List.range n).foldlM (digitStep s) (0, i) :=
  rfl

theorem foldlM_digitStep_succ (n v : Nat) :
    (List.range (n + 1)).foldlM (digitStep s) (v, i) =
      if isDigit (byteAt s i) then (List.range n).foldlM (digitStep s) (v * 10 + (byteAt s i - 48), i + 1)
      else none := by
  -- the step does not look at the index it is given
  have hidx : (fun acc k => digitStep s acc (Nat.succ k)) = digitStep s := rfl
  rw [List.range_succ_eq_map, List.foldlM_cons]
  simp only [List.foldlM_map, hidx]
  by_cases h : isDigit (byteAt s i) <;> simp [digitStep, h]

/-- Digits standing at a position are read as their value, whatever was read before. -/
theorem foldlM_digitStep_of_bytesAt {cs : List Char} (h : BytesAt s i cs)
    (hd : ∀ c ∈ cs, c.isDigit) (v : Nat) :
    (List.range cs.length).foldlM (digitStep s) (v, i) =
      some (Nat.ofDigitChars 10 cs v, i + cs.length) := by
  induction cs generalizing i v with
  | nil => simp
  | cons c cs ih =>
    obtain ⟨hc, hcs⟩ := BytesAt.cons.1 h
    have hdig : isDigit (byteAt s i) = true := hc ▸ isDigit_toNat (hd c (by simp))
    rw [List.length_cons, foldlM_digitStep_succ, if_pos hdig,
      ih hcs (fun d hd' => hd d (by simp [hd'])), Nat.ofDigitChars_cons, hc]
    simp [Nat.mul_comm, Nat.add_assoc, Nat.add_comm 1]

theorem digits_of_bytesAt {cs : List Char} (h : BytesAt s i cs) (hd : ∀ c ∈ cs, c.isDigit) :
    digits s i cs.length = some (Nat.ofDigitChars 10 cs 0, i + cs.length) :=
  foldlM_digitStep_of_bytesAt h hd 0

/-- A number written with `w` digits at a position is read back from there. -/
theorem digits_of_padDigits {n w : Nat} (hw : 0 < w) (hn : n < 10 ^ w)
    (h : BytesAt s i (padDigits n w).toList) : digits s i w = some (n, i + w) := by
  have hlen := length_padDigits hw hn
  have hread := digits_of_bytesAt h (fun _ hc => isDigit_of_mem_padDigits hc)
  rwa [hlen, ofDigitChars_padDigits] at hread

/-- What `n` steps read after the value `v` is less than `v + 1` followed by `n` zeros. -/
theorem foldlM_digitStep_lt {n v w j : Nat}
    (h : (List.range n).foldlM (digitStep s) (v, i) = some (w, j)) : w < (v + 1) * 10 ^ n := by
  induction n generalizing i v with
  | zero =>
    simp only [List.range_zero, List.foldlM_nil, Option.pure_def, Option.some.injEq,
      Prod.mk.injEq] at h
    omega
  | succ n ih =>
    rw [foldlM_digitStep_succ] at h
    split at h
    · rename_i hdig
      have hle : byteAt s i - 48 ≤ 9 := by
        simp only [isDigit, Bool.and_eq_true, decide_eq_true_eq] at hdig
        omega
      have hw := ih h
      calc w < (v * 10 + (byteAt s i - 48) + 1) * 10 ^ n := hw
        _ ≤ (v * 10 + 10) * 10 ^ n := Nat.mul_le_mul_right _ (by omega)
        _ = (v + 1) * 10 ^ (n + 1) := by rw [Nat.pow_succ]; ring
    · simp at h

/-- `n` digits make a number below `10 ^ n`. -/
theorem digits_lt {n w j : Nat} (h : digits s i n = some (w, j)) : w < 10 ^ n := by
  simpa using foldlM_digitStep_lt h

/-! ## The date -/

theorem Date.isoformat_toList (d : Date) :
    d.isoformat.toList = (padDigits d.year 4).toList ++ ('-' :: ((padDigits d.month 2).toList ++
      '-' :: (padDigits d.day 2).toList)) := by
  simp [Date.isoformat]

/-- What the ISO text of a date at the start of a text puts there: the year in four digits, a
dash, the month in two digits (so no week mark), a dash and the day in two digits. -/
theorem date_parts {d : Date} (hy : d.year < 10 ^ 4) (hm : d.month < 10 ^ 2) (hd : d.day < 10 ^ 2)
    (h : BytesAt s 0 d.isoformat.toList) :
    digits s 0 4 = some (d.year, 4) ∧ byteAt s 4 = 45 ∧ isDigit (byteAt s 5) = true ∧
      digits s 5 2 = some (d.month, 7) ∧ byteAt s 7 = 45 ∧ digits s 8 2 = some (d.day, 10) := by
  rw [Date.isoformat_toList] at h
  obtain ⟨hY, h⟩ := BytesAt.append.1 h
  obtain ⟨hdash, h⟩ := BytesAt.cons.1 h
  obtain ⟨hM, h⟩ := BytesAt.append.1 h
  obtain ⟨hdash', hD⟩ := BytesAt.cons.1 h
  simp only [length_padDigits (by omega) hy, length_padDigits (by omega) hm,
    Nat.zero_add] at hdash hM hdash' hD
  have hM5 : isDigit (byteAt s 5) = true := by
    have := hM.byteAt_eq (k := 0) (by rw [length_padDigits (by omega) hm]; omega)
    rw [Nat.add_zero] at this
    rw [this]
    exact isDigit_toNat (isDigit_of_mem_padDigits (List.getElem_mem _))
  exact ⟨digits_of_padDigits (by omega) hy hY, hdash, hM5, digits_of_padDigits (by omega) hm hM,
    hdash', digits_of_padDigits (by omega) hd hD⟩

/-- A text that starts with a date in the dashed form has its separator after the date. -/
theorem separator_of_dashed (hsize : s.size ≠ 7) (h4 : byteAt s 4 = 45)
    (h5 : isDigit (byteAt s 5) = true) : separator s = some 10 := by
  have h5' : byteAt s 5 ≠ 87 := by
    simp only [isDigit, Bool.and_eq_true, decide_eq_true_eq] at h5
    omega
  simp [separator, hsize, h4, h5']

/-- The ISO text of a date at the start is read back as its year, month and day. -/
theorem readDate_of_bytesAt {d : Date} (hy : d.year < 10 ^ 4) (hm : d.month < 10 ^ 2)
    (hd : d.day < 10 ^ 2) (h : BytesAt s 0 d.isoformat.toList) :
    readDate s 10 = some ((d.year : Int), (d.month : Int), (d.day : Int)) := by
  obtain ⟨hY, hdash, hM5, hM, hdash', hD⟩ := date_parts hy hm hd h
  have hM5' : byteAt s 5 ≠ 87 := by
    simp only [isDigit, Bool.and_eq_true, decide_eq_true_eq] at hM5
    omega
  simp [readDate, hY, hdash, hM5', hM, hdash', hD]

/-! ## Times: two-digit fields with colons -/

section Fields

variable {stop fuel p v : Nat} {first colons : Bool} {fields : List Nat}

/-- A field followed by a colon, with more of the time to come, is read, and reading goes on
after the colon. -/
theorem readFields_colon (hv : digits s p 2 = some (v, p + 2)) (hc : byteAt s (p + 2) = 58)
    (hstop : p + 3 < stop) (hcolons : (first || colons) = true) :
    readFields s stop (fuel + 1) p first colons fields =
      readFields s stop fuel (p + 3) false true (fields ++ [v]) := by
  have hnot : ¬ stop ≤ p + 2 + 1 := by omega
  cases first <;> simp_all [readFields]

/-- A field that reaches the end of the time is the last one read. -/
theorem readFields_last (hv : digits s p 2 = some (v, p + 2)) (hstop : stop ≤ p + 3) :
    readFields s stop (fuel + 1) p first colons fields =
      some (.finished (fields ++ [v]) (byteAt s (p + 2) != 0)) := by
  have hend : stop ≤ p + 2 + 1 := by omega
  simp [readFields, hv, hend]

/-- A field followed by a point starts the fraction. -/
theorem readFields_point (hv : digits s p 2 = some (v, p + 2)) (hc : byteAt s (p + 2) = 46)
    (hstop : p + 3 < stop) :
    readFields s stop (fuel + 1) p first colons fields =
      some (.fraction (fields ++ [v]) (p + 3)) := by
  have hnot : ¬ stop ≤ p + 2 + 1 := by omega
  simp [readFields, hv, hc, hnot]

end Fields

/-- The text of two-digit fields joined by colons. -/
def fieldsText : List Nat → List Char
  | [] => []
  | [a] => (padDigits a 2).toList
  | a :: rest => (padDigits a 2).toList ++ (':' :: fieldsText rest)

theorem fieldsText_cons_cons (a b : Nat) (rest : List Nat) :
    fieldsText (a :: b :: rest) = (padDigits a 2).toList ++ (':' :: fieldsText (b :: rest)) :=
  rfl

variable {stop a b c : Nat}

/-- Two fields reaching the end are read as hours and minutes. -/
theorem readClock_two (ha : a < 10 ^ 2) (hb : b < 10 ^ 2)
    (h : BytesAt s i (fieldsText [a, b])) (hstop : stop = i + 5) :
    readClock s i stop = some ({ hour := a, minute := b }, byteAt s (i + 5) != 0) := by
  rw [fieldsText_cons_cons] at h
  obtain ⟨hA, h⟩ := BytesAt.append.1 h
  obtain ⟨hcolon, hB⟩ := BytesAt.cons.1 h
  rw [length_padDigits (by omega) ha] at hcolon hB
  subst hstop
  have hfirst : readFields s (i + 5) 3 i true true [] =
      readFields s (i + 5) 2 (i + 3) false true [a] :=
    readFields_colon (digits_of_padDigits (by omega) ha hA) hcolon (by omega) rfl
  have hlast : readFields s (i + 5) 2 (i + 3) false true [a] =
      some (.finished [a, b] (byteAt s (i + 5) != 0)) :=
    readFields_last (digits_of_padDigits (by omega) hb hB) (by omega)
  simp [readClock, hfirst, hlast]

/-- Three fields ending the time are read as hours, minutes and seconds. -/
theorem readClock_three (ha : a < 10 ^ 2) (hb : b < 10 ^ 2) (hc : c < 10 ^ 2)
    (h : BytesAt s i (fieldsText [a, b, c])) (hlo : i + 6 < stop) (hhi : stop ≤ i + 9) :
    readClock s i stop =
      some ({ hour := a, minute := b, second := c }, byteAt s (i + 8) != 0) := by
  rw [fieldsText_cons_cons, fieldsText_cons_cons] at h
  obtain ⟨hA, h⟩ := BytesAt.append.1 h
  obtain ⟨hcolon, h⟩ := BytesAt.cons.1 h
  obtain ⟨hB, h⟩ := BytesAt.append.1 h
  obtain ⟨hcolon', hC⟩ := BytesAt.cons.1 h
  rw [length_padDigits (by omega) ha] at hcolon hB hcolon' hC
  rw [length_padDigits (by omega) hb] at hcolon' hC
  have h1 : readFields s stop 3 i true true [] = readFields s stop 2 (i + 3) false true [a] :=
    readFields_colon (digits_of_padDigits (by omega) ha hA) hcolon (by omega) rfl
  have h2 : readFields s stop 2 (i + 3) false true [a] =
      readFields s stop 1 (i + 6) false true [a, b] :=
    readFields_colon (digits_of_padDigits (by omega) hb hB) hcolon' (by omega) rfl
  have h3 : readFields s stop 1 (i + 6) false true [a, b] =
      some (.finished [a, b, c] (byteAt s (i + 8) != 0)) :=
    readFields_last (digits_of_padDigits (by omega) hc hC) (by omega)
  simp [readClock, h1, h2, h3]

theorem skipDigits_of_not_digit {fuel : Nat} (h : isDigit (byteAt s i) = false) :
    skipDigits s fuel i = i := by
  cases fuel <;> simp [skipDigits, h]

/-- Three fields and a fraction of six digits are read as a time with microseconds. -/
theorem readClock_fraction {f : Nat} (ha : a < 10 ^ 2) (hb : b < 10 ^ 2) (hc : c < 10 ^ 2)
    (hf : f < 10 ^ 6) (h : BytesAt s i (fieldsText [a, b, c] ++ ('.' :: (padDigits f 6).toList)))
    (hstop : stop = i + 15) (hnext : isDigit (byteAt s (i + 15)) = false) :
    readClock s i stop =
      some ({ hour := a, minute := b, second := c, micro := f }, byteAt s (i + 15) != 0) := by
  subst hstop
  obtain ⟨h, hF⟩ := BytesAt.append.1 h
  obtain ⟨hpoint, hF⟩ := BytesAt.cons.1 hF
  rw [fieldsText_cons_cons, fieldsText_cons_cons] at h
  obtain ⟨hA, h⟩ := BytesAt.append.1 h
  obtain ⟨hcolon, h⟩ := BytesAt.cons.1 h
  obtain ⟨hB, h⟩ := BytesAt.append.1 h
  obtain ⟨hcolon', hC⟩ := BytesAt.cons.1 h
  have hlen : (fieldsText [a, b, c]).length = 8 := by
    simp [fieldsText, length_padDigits (by omega) ha, length_padDigits (by omega) hb,
      length_padDigits (by omega) hc]
  rw [hlen] at hpoint hF
  rw [length_padDigits (by omega) ha] at hcolon hB hcolon' hC
  rw [length_padDigits (by omega) hb] at hcolon' hC
  have h1 : readFields s (i + 15) 3 i true true [] =
      readFields s (i + 15) 2 (i + 3) false true [a] :=
    readFields_colon (digits_of_padDigits (by omega) ha hA) hcolon (by omega) rfl
  have h2 : readFields s (i + 15) 2 (i + 3) false true [a] =
      readFields s (i + 15) 1 (i + 6) false true [a, b] :=
    readFields_colon (digits_of_padDigits (by omega) hb hB) hcolon' (by omega) rfl
  have h3 : readFields s (i + 15) 1 (i + 6) false true [a, b] =
      some (.fraction [a, b, c] (i + 9)) :=
    readFields_point (digits_of_padDigits (by omega) hc hC) hpoint (by omega)
  have hF' : digits s (i + 9) 6 = some (f, i + 15) := by
    have := digits_of_padDigits (by omega) hf hF
    rwa [Nat.add_assoc] at this
  simp [readClock, h1, h2, h3, hF', skipDigits_of_not_digit hnext]

/-! ## Where the offset starts -/

/-- The offset starts at the first sign after the start of the time, or at the end. -/
theorem offsetStart_eq {start e : Nat} (hlt : start < e)
    (hno : ∀ j, start ≤ j → j < e → byteAt s j ≠ 90 ∧ byteAt s j ≠ 43 ∧ byteAt s j ≠ 45)
    (hend : e = s.size ∨ e < s.size ∧ (byteAt s e = 43 ∨ byteAt s e = 45)) :
    offsetStart s start = e := by
  have hstart : (byteAt s start == 90 || byteAt s start == 43 || byteAt s start == 45) = false := by
    simp [hno start (Nat.le_refl _) hlt]
  simp only [offsetStart, hstart, Bool.false_eq_true, ↓reduceIte]
  rcases hend with rfl | ⟨hsize, hmark⟩
  · -- no sign at all: the search finds nothing and the offset starts at the end
    have hnone : (List.range (s.size - start - 1)).find? (fun k =>
        byteAt s (start + 1 + k) == 90 || byteAt s (start + 1 + k) == 43 ||
          byteAt s (start + 1 + k) == 45) = none := by
      rw [List.find?_range_eq_none]
      intro k hk
      have := hno (start + 1 + k) (by omega) (by omega)
      simp [this]
    rw [hnone]
    simp only
    omega
  · -- the sign at `e` is the first one after the start
    have hsome : (List.range (s.size - start - 1)).find? (fun k =>
        byteAt s (start + 1 + k) == 90 || byteAt s (start + 1 + k) == 43 ||
          byteAt s (start + 1 + k) == 45) = some (e - start - 1) := by
      rw [List.find?_range_eq_some]
      have he : start + 1 + (e - start - 1) = e := by omega
      refine ⟨by rcases hmark with h | h <;> simp [he, h], by simp; omega, fun j hj => ?_⟩
      have := hno (start + 1 + j) (by omega) (by omega)
      simp [this]
    rw [hsome]
    simp only
    omega

/-! ## Clocks: hours, minutes, seconds and a fraction -/

/-- The text of a clock: three fields, and six digits of fraction when there are microseconds. -/
def clockText (h m sec micro : Nat) : List Char :=
  fieldsText [h, m, sec] ++ if micro = 0 then [] else '.' :: (padDigits micro 6).toList

theorem length_fieldsText_three (ha : a < 10 ^ 2) (hb : b < 10 ^ 2) (hc : c < 10 ^ 2) :
    (fieldsText [a, b, c]).length = 8 := by
  simp [fieldsText, length_padDigits (by omega) ha, length_padDigits (by omega) hb,
    length_padDigits (by omega) hc]

theorem length_clockText {micro : Nat} (ha : a < 10 ^ 2) (hb : b < 10 ^ 2) (hc : c < 10 ^ 2)
    (hf : micro < 10 ^ 6) :
    (clockText a b c micro).length = if micro = 0 then 8 else 15 := by
  by_cases h0 : micro = 0 <;>
    simp [clockText, h0, length_fieldsText_three ha hb hc, length_padDigits (by omega) hf]

/-- A clock whose text runs to `stop` is read back, followed by the byte at `stop`. -/
theorem readClock_clockText {micro : Nat} (ha : a < 10 ^ 2) (hb : b < 10 ^ 2) (hc : c < 10 ^ 2)
    (hf : micro < 10 ^ 6) (h : BytesAt s i (clockText a b c micro))
    (hstop : stop = i + (clockText a b c micro).length)
    (hnext : isDigit (byteAt s stop) = false) :
    readClock s i stop =
      some ({ hour := a, minute := b, second := c, micro }, byteAt s stop != 0) := by
  rw [length_clockText ha hb hc hf] at hstop
  by_cases h0 : micro = 0
  · subst h0
    simp only [clockText, if_pos, List.append_nil] at h
    simp only [if_pos] at hstop
    subst hstop
    exact readClock_three ha hb hc h (by omega) (by omega)
  · simp only [clockText, h0, if_false] at h
    simp only [h0, if_false] at hstop
    subst hstop
    exact readClock_fraction ha hb hc hf h rfl hnext

/-! ## The characters of a time -/

/-- The characters a clock is written with: digits, colons and the point. -/
def ClockChar (c : Char) : Prop := c.isDigit ∨ c = ':' ∨ c = '.'

theorem clockChar_of_mem_fieldsText {xs : List Nat} {c : Char} (h : c ∈ fieldsText xs) :
    ClockChar c := by
  induction xs with
  | nil => simp [fieldsText] at h
  | cons a rest ih =>
    cases rest with
    | nil => exact .inl (isDigit_of_mem_padDigits h)
    | cons b rest =>
      rw [fieldsText_cons_cons, List.mem_append, List.mem_cons] at h
      rcases h with h | h | h
      · exact .inl (isDigit_of_mem_padDigits h)
      · exact .inr (.inl h)
      · exact ih h

theorem clockChar_of_mem_clockText {h m sec micro : Nat} {c : Char}
    (hc : c ∈ clockText h m sec micro) : ClockChar c := by
  rw [clockText, List.mem_append] at hc
  rcases hc with hc | hc
  · exact clockChar_of_mem_fieldsText hc
  · split at hc
    · simp at hc
    · rcases List.mem_cons.1 hc with hc | hc
      · exact .inr (.inr hc)
      · exact .inl (isDigit_of_mem_padDigits hc)

/-- No clock character is a mark that starts an offset. -/
theorem BytesAt.not_mark {cs : List Char} (h : BytesAt s i cs) (hcs : ∀ c ∈ cs, ClockChar c)
    {j : Nat} (hij : i ≤ j) (hj : j < i + cs.length) :
    byteAt s j ≠ 90 ∧ byteAt s j ≠ 43 ∧ byteAt s j ≠ 45 := by
  have hk : j - i < cs.length := by omega
  have hbyte := h.byteAt_eq hk
  rw [Nat.add_sub_cancel' hij] at hbyte
  rw [hbyte]
  rcases hcs _ (List.getElem_mem hk) with hd | hd | hd
  · have := Char.isDigit_iff_toNat.1 hd
    simp only [Char.reduceToNat] at this
    omega
  · simp [hd]
  · simp [hd]

/-! ## Offsets -/

/-- The text of an offset after its sign: hours and minutes, the seconds when there are any, and
the microseconds when there are any. -/
def offsetBody (secs micro : Nat) : List Char :=
  if micro = 0 ∧ secs % 60 = 0 then fieldsText [secs / 3600, secs / 60 % 60]
  else clockText (secs / 3600) (secs / 60 % 60) (secs % 60) micro

theorem offsetText_toList (off : Int) :
    (offsetText off).toList = (if off < 0 then '-' else '+') ::
      offsetBody (off.natAbs / 1000000) (off.natAbs % 1000000) := by
  by_cases hneg : off < 0 <;>
  by_cases hmicro : off.natAbs % 1000000 = 0 <;>
  by_cases hsec : off.natAbs / 1000000 % 60 = 0 <;>
  simp [offsetText, offsetBody, clockText, fieldsText, hneg, hmicro, hsec]

/-- The body of an offset of less than a day reaches the end of the text and is read back as its
seconds and microseconds. -/
theorem readClock_offsetBody {secs micro : Nat} (hsecs : secs < 86400) (hmicro : micro < 10 ^ 6)
    (h : BytesAt s i (offsetBody secs micro)) (hsize : s.size = i + (offsetBody secs micro).length) :
    ∃ o : Clock, readClock s i s.size = some (o, false) ∧
      o.hour * 3600 + o.minute * 60 + o.second = secs ∧ o.micro = micro := by
  have hh : secs / 3600 < 10 ^ 2 := by omega
  have hm : secs / 60 % 60 < 10 ^ 2 := by omega
  have hs : secs % 60 < 10 ^ 2 := by omega
  have hend : byteAt s s.size = 0 := byteAt_of_size_le (Nat.le_refl _)
  by_cases htwo : micro = 0 ∧ secs % 60 = 0
  · simp only [offsetBody, if_pos htwo] at h hsize
    have hlen : (fieldsText [secs / 3600, secs / 60 % 60]).length = 5 := by
      simp [fieldsText, length_padDigits (by omega) hh, length_padDigits (by omega) hm]
    rw [hlen] at hsize
    refine ⟨{ hour := secs / 3600, minute := secs / 60 % 60 }, ?_, ?_, ?_⟩
    · rw [readClock_two hh hm h hsize, ← hsize, hend]
      rfl
    · simp only
      omega
    · exact htwo.1.symm
  · simp only [offsetBody, if_neg htwo] at h hsize
    refine ⟨{ hour := secs / 3600, minute := secs / 60 % 60, second := secs % 60, micro },
      ?_, ?_, rfl⟩
    · rw [readClock_clockText hh hm hs hmicro h hsize (by simp [hend, isDigit]), hend]
      rfl
    · simp only
      omega

/-! ## Times with and without an offset -/

section Time

variable {start tz : Nat} {c o : Clock} {more : Bool}

/-- A time that runs to the end has no offset. -/
theorem readTime_of_end (hstart : offsetStart s start = s.size)
    (hclock : readClock s start s.size = some (c, false)) : readTime s start = some (c, none) := by
  simp [readTime, hstart, hclock]

/-- The sign of an offset read at `tz`: minus one after `-`, one otherwise. -/
def signAt (s : Array UInt8) (tz : Nat) : Int := if byteAt s tz = 45 then -1 else 1

/-- A time followed by a signed offset: the offset is read as signed seconds and microseconds. -/
theorem readTime_of_sign (hstart : offsetStart s start = tz) (htz : tz < s.size)
    (hsign : byteAt s tz = 43 ∨ byteAt s tz = 45)
    (hclock : readClock s start tz = some (c, more))
    (hoff : readClock s (tz + 1) s.size = some (o, false)) :
    readTime s start = some (c, some (signAt s tz * ((o.hour * 3600 + o.minute * 60 + o.second : Nat) : Int),
      signAt s tz * (o.micro : Int))) := by
  have hne : tz ≠ s.size := Nat.ne_of_lt htz
  have hz : byteAt s tz ≠ 90 := by omega
  simp [readTime, hstart, hclock, hne, hz, hoff, signAt]

end Time

/-- An offset the library can hold: UTC, or at least a second and less than a day either way. -/
def OffsetFits (off : Int) : Prop := off = 0 ∨ 1000000 ≤ off.natAbs ∧ off.natAbs < 86400000000

/-- The seconds and microseconds written for an offset, signed alike, stand for the offset again.
An offset of zero seconds would be UTC whatever its microseconds; the offsets the library holds
have no such part. -/
theorem offsetOf_of_fits {off : Int} (h : OffsetFits off) :
    offsetOf ((if off < 0 then -1 else 1) * ((off.natAbs / 1000000 : Nat) : Int))
      ((if off < 0 then -1 else 1) * ((off.natAbs % 1000000 : Nat) : Int)) = .ok off := by
  rcases h with rfl | ⟨hlo, hhi⟩
  · simp [offsetOf]
  · have hsecs : (if off < 0 then -1 else 1) * ((off.natAbs / 1000000 : Nat) : Int) ≠ 0 := by
      by_cases hneg : off < 0 <;> simp only [hneg, if_true, if_false] <;> omega
    have htotal : (if off < 0 then -1 else 1) * ((off.natAbs / 1000000 : Nat) : Int) * 1000000 +
        (if off < 0 then -1 else 1) * ((off.natAbs % 1000000 : Nat) : Int) = off := by
      by_cases hneg : off < 0 <;> simp only [hneg, if_true, if_false] <;> omega
    have hin : (decide (off ≤ -(86400 * 1000000)) || decide (off ≥ 86400 * 1000000)) = false := by
      simp only [Bool.or_eq_false_iff, decide_eq_false_iff_not]
      omega
    simp only [offsetOf, hsecs, beq_iff_eq, if_false, htotal, dayMicros, hin, Bool.false_eq_true]

/-! ## ASCII text as bytes -/

theorem flatMap_encodeChar_of_ascii {cs : List Char} (h : ∀ c ∈ cs, c.toNat < 128) :
    cs.flatMap Text.encodeChar = cs.map (fun c => c.toNat.toUInt8) := by
  induction cs with
  | nil => rfl
  | cons c cs ih =>
    have hc : Text.encodeChar c = [c.toNat.toUInt8] := by
      simp [Text.encodeChar, h c (by simp)]
    simp [hc, ih (fun d hd => h d (by simp [hd]))]

/-- ASCII text is encoded one byte per character. -/
theorem bytesAt_encodeUtf8 {t : String} (h : ∀ c ∈ t.toList, c.toNat < 128) :
    BytesAt (Text.encodeUtf8 t).toArray 0 t.toList ∧
      (Text.encodeUtf8 t).toArray.size = t.toList.length := by
  have hmap : Text.encodeUtf8 t = t.toList.map (fun c => c.toNat.toUInt8) :=
    flatMap_encodeChar_of_ascii h
  refine ⟨fun k hk => ?_, by simp [hmap]⟩
  have hlt := h _ (List.getElem_mem hk)
  simp [byteAt, hmap, hk, Nat.mod_eq_of_lt (by omega : t.toList[k].toNat < 256)]

/-! ## Building a date-time from fields in range -/

theorem daysInMonth_le (year month : Int) : daysInMonth year month ≤ 31 := by
  have hall : ∀ x ∈ daysInMonthTable, x ≤ 31 := by decide
  have htable : ∀ k, daysInMonthTable.getD k 0 ≤ 31 := by
    intro k
    rw [List.getD_eq_getElem?_getD]
    cases hk : daysInMonthTable[k]? with
    | none => simp
    | some x => exact hall x (List.mem_of_getElem? hk)
  unfold daysInMonth
  split
  · omega
  · exact htable _

end IsoText

/-- A date-time the library can hold: each field in range, and an offset that fits. -/
structure DateTime.Valid (t : DateTime) : Prop where
  year : 1 ≤ t.date.year ∧ t.date.year ≤ 9999
  month : 1 ≤ t.date.month ∧ t.date.month ≤ 12
  day : 1 ≤ t.date.day ∧ (t.date.day : Int) ≤ IsoText.daysInMonth t.date.year t.date.month
  hour : t.hour ≤ 23
  minute : t.minute ≤ 59
  second : t.second ≤ 59
  micro : t.micro < 1000000
  offset : ∀ off ∈ t.offset, IsoText.OffsetFits off

namespace IsoText

/-- Fields in range build the date-time they are the fields of. -/
theorem build_of_valid {t : DateTime} (ht : t.Valid) :
    build t.date.year t.date.month t.date.day
      { hour := t.hour, minute := t.minute, second := t.second, micro := t.micro } t.offset =
      .ok t := by
  obtain ⟨⟨hy1, hy2⟩, ⟨hm1, hm2⟩, ⟨hd1, hd2⟩, hh, hmi, hs, -, -⟩ := ht
  have hyear : ¬ (t.date.year = 0 ∨ 9999 < t.date.year) := by omega
  have hmonth : ¬ (t.date.month = 0 ∨ 12 < t.date.month) := by omega
  have hday : ¬ (t.date.day = 0 ∨ daysInMonth t.date.year t.date.month < t.date.day) := by omega
  have hh' : ¬ 23 < t.hour := by omega
  have hmi' : ¬ 59 < t.minute := by omega
  have hs' : ¬ 59 < t.second := by omega
  simp [build, hyear, hmonth, hday, hh', hmi', hs']

theorem ClockChar.toNat_lt {c : Char} (h : ClockChar c) : c.toNat < 128 := by
  rcases h with h | h | h
  · have := Char.isDigit_iff_toNat.1 h
    simp only [Char.reduceToNat] at this
    omega
  · simp [h]
  · simp [h]

theorem toNat_lt_of_mem_date {d : Date} {c : Char} (h : c ∈ d.isoformat.toList) : c.toNat < 128 := by
  rw [Date.isoformat_toList] at h
  simp only [List.mem_append, List.mem_cons] at h
  rcases h with h | h | h | h | h
  · exact ClockChar.toNat_lt (.inl (isDigit_of_mem_padDigits h))
  · simp [h]
  · exact ClockChar.toNat_lt (.inl (isDigit_of_mem_padDigits h))
  · simp [h]
  · exact ClockChar.toNat_lt (.inl (isDigit_of_mem_padDigits h))

/-! ## What reading gives -/

/-- A clock as read has fewer than a million microseconds: a longer fraction is cut at six
digits, a shorter one scaled up to six. -/
theorem readClock_micro_lt {start stop : Nat} {c : Clock} {more : Bool}
    (h : readClock s start stop = some (c, more)) : c.micro < 10 ^ 6 := by
  cases hr : readFields s stop 3 start true true [] with
  | none => simp [readClock, hr] at h
  | some r =>
    cases r with
    | finished fields more' =>
      simp [readClock, hr] at h
      rw [← h.1]
      simp
    | fraction fields p =>
      cases hv : digits s p (min 6 (stop - p)) with
      | none => simp [readClock, hr, hv] at h
      | some vq =>
        obtain ⟨v, q⟩ := vq
        simp [readClock, hr, hv] at h
        rw [← h.1]
        have hlt := digits_lt hv
        have hsplit : 10 ^ 6 = 10 ^ min 6 (stop - p) * 10 ^ (6 - min 6 (stop - p)) := by
          rw [← Nat.pow_add]
          congr 1
          omega
        rw [hsplit]
        exact Nat.mul_lt_mul_of_pos_right hlt (Nat.pow_pos (by omega))

/-- The parts of an offset as read: seconds and microseconds with one sign, the microseconds
fewer than a million. -/
def SignedParts (secs micros : Int) : Prop :=
  ∃ sign : Int, (sign = 1 ∨ sign = -1) ∧ ∃ n m : Nat, m < 10 ^ 6 ∧ secs = sign * n ∧ micros = sign * m

theorem readTime_spec {start : Nat} {c : Clock} {tz : Option (Int × Int)}
    (h : readTime s start = some (c, tz)) :
    c.micro < 10 ^ 6 ∧ ∀ p ∈ tz, SignedParts p.1 p.2 := by
  unfold readTime at h
  generalize offsetStart s start = e at h
  cases hc : readClock s start e with
  | none => simp [hc] at h
  | some cm =>
    obtain ⟨clock, more⟩ := cm
    have hmicro := readClock_micro_lt hc
    by_cases hend : e = s.size
    · -- a time that runs to the end has no offset
      subst hend
      cases more <;>
        simp only [hc, beq_self_eq_true, if_true, if_false, Option.bind_eq_bind, Option.bind_some,
          Option.pure_def, Bool.false_eq_true, reduceCtorEq] at h
      obtain ⟨rfl, rfl⟩ := Prod.mk.inj (Option.some.inj h)
      exact ⟨hmicro, by simp⟩
    · by_cases hz : byteAt s e = 90
      · -- `Z` is UTC
        cases hnext : byteAt s (e + 1) != 0 <;>
          simp only [hc, hend, hz, hnext, beq_iff_eq, if_false, if_true, Option.bind_eq_bind,
            Option.bind_some, Option.pure_def, Bool.false_eq_true, reduceCtorEq] at h
        obtain ⟨rfl, rfl⟩ := Prod.mk.inj (Option.some.inj h)
        refine ⟨hmicro, fun p hp => ?_⟩
        simp only [Option.mem_def, Option.some.injEq] at hp
        subst hp
        exact ⟨1, .inl rfl, 0, 0, by omega, by simp, by simp⟩
      · -- a signed offset, read as a clock
        cases ho : readClock s (e + 1) s.size with
        | none => simp [hc, hend, hz, ho] at h
        | some om =>
          obtain ⟨o, more'⟩ := om
          have homicro := readClock_micro_lt ho
          cases more' <;>
            simp only [hc, hend, hz, ho, beq_iff_eq, if_false, if_true, Option.bind_eq_bind,
              Option.bind_some, Option.pure_def, Bool.false_eq_true, reduceCtorEq] at h
          obtain ⟨rfl, rfl⟩ := Prod.mk.inj (Option.some.inj h)
          refine ⟨hmicro, fun p hp => ?_⟩
          simp only [Option.mem_def, Option.some.injEq] at hp
          subst hp
          refine ⟨_, ?_, _, o.micro, homicro, rfl, rfl⟩
          split <;> simp

/-- An offset read from parts with one sign fits: zero seconds is UTC, and otherwise the
seconds make it at least a second long, while the range check keeps it under a day. -/
theorem offsetOf_fits {secs micros o : Int} (hp : SignedParts secs micros)
    (h : offsetOf secs micros = .ok o) : OffsetFits o := by
  obtain ⟨sign, hsign, n, m, hm, rfl, rfl⟩ := hp
  unfold offsetOf at h
  split at h
  · cases h
    exact .inl rfl
  · rename_i hzero
    simp only at h
    split at h
    · cases h
    · cases h
      rename_i hrange
      simp only [beq_iff_eq] at hzero
      simp only [dayMicros, Bool.or_eq_true, not_or] at hrange
      have hlo := of_decide_eq_false (Bool.eq_false_iff.2 hrange.1)
      have hhi := of_decide_eq_false (Bool.eq_false_iff.2 hrange.2)
      right
      rcases hsign with rfl | rfl <;> omega

/-- The text of an optional offset. -/
def offsetChars (off : Option Int) : List Char := ((off.map offsetText).getD "").toList

/-- A clock followed by an optional offset, running to the end of the text, is read back as the
clock and the parts of the offset, which stand for the offset again. -/
theorem readTime_clockText {h m sec micro : Nat} {off : Option Int} (hh : h < 10 ^ 2)
    (hm : m < 10 ^ 2) (hsec : sec < 10 ^ 2) (hmicro : micro < 10 ^ 6)
    (hoff : ∀ o ∈ off, OffsetFits o) (hb : BytesAt s i (clockText h m sec micro ++ offsetChars off))
    (hsize : s.size = i + (clockText h m sec micro ++ offsetChars off).length) :
    ∃ parts, readTime s i = some ({ hour := h, minute := m, second := sec, micro }, parts) ∧
      (match parts with
        | some (secs, micros) => (offsetOf secs micros).map some
        | none => pure none) = (.ok off : Except Failure (Option Int)) := by
  obtain ⟨hC, hO⟩ := BytesAt.append.1 hb
  have hclen := length_clockText hh hm hsec hmicro
  have hlen8 : 8 ≤ (clockText h m sec micro).length := by rw [hclen]; split <;> omega
  have hnomark : ∀ j, i ≤ j → j < i + (clockText h m sec micro).length →
      byteAt s j ≠ 90 ∧ byteAt s j ≠ 43 ∧ byteAt s j ≠ 45 :=
    fun _ hj1 hj2 => hC.not_mark (fun _ hc => clockChar_of_mem_clockText hc) hj1 hj2
  rw [List.length_append] at hsize
  cases off with
  | none =>
    -- no offset: the clock runs to the end
    simp only [offsetChars, Option.map_none, Option.getD_none, String.toList_empty,
      List.length_nil, Nat.add_zero] at hsize
    have hstart : offsetStart s i = s.size :=
      offsetStart_eq (by omega) (fun j hj1 hj2 => hnomark j hj1 (by omega)) (.inl rfl)
    have hend : byteAt s s.size = 0 := byteAt_of_size_le (Nat.le_refl _)
    have hclock := readClock_clockText hh hm hsec hmicro hC hsize (by rw [hend]; rfl)
    rw [hend] at hclock
    exact ⟨none, readTime_of_end hstart hclock, rfl⟩
  | some o =>
    -- an offset: its sign ends the clock, and its body runs to the end
    have hfits := hoff o rfl
    simp only [offsetChars, Option.map_some, Option.getD_some, offsetText_toList] at hO hsize
    obtain ⟨hsign, hbody⟩ := BytesAt.cons.1 hO
    simp only [List.length_cons] at hsize
    have hsign' : byteAt s (i + (clockText h m sec micro).length) =
        if o < 0 then 45 else 43 := by
      rw [hsign]
      split <;> rfl
    have hmark : byteAt s (i + (clockText h m sec micro).length) = 43 ∨
        byteAt s (i + (clockText h m sec micro).length) = 45 := by
      rw [hsign']
      split <;> simp
    have hstart : offsetStart s i = i + (clockText h m sec micro).length :=
      offsetStart_eq (by omega) hnomark (.inr ⟨by omega, hmark⟩)
    have hclock := readClock_clockText hh hm hsec hmicro hC rfl (by rw [hsign']; split <;> rfl)
    have hday : o.natAbs / 1000000 < 86400 := by
      rcases hfits with rfl | ⟨_, hhi⟩ <;> omega
    obtain ⟨oc, hoc, hsecs, hmic⟩ :=
      readClock_offsetBody hday (by omega : o.natAbs % 1000000 < 10 ^ 6) hbody (by omega)
    refine ⟨_, readTime_of_sign hstart (by omega) hmark hclock hoc, ?_⟩
    have hsignAt : signAt s (i + (clockText h m sec micro).length) = if o < 0 then -1 else 1 := by
      rw [signAt, hsign']
      split <;> simp_all
    simp only [hsignAt, hsecs, hmic, offsetOf_of_fits hfits]
    rfl

/-- What `build` makes is valid, given a fraction and an offset that are: each field it keeps
has passed its range check. -/
theorem build_valid {y m d : Int} {c : Clock} {off : Option Int} {t : DateTime}
    (h : build y m d c off = .ok t) (hc : c.micro < 10 ^ 6) (hoff : ∀ o ∈ off, OffsetFits o) :
    t.Valid := by
  -- each range check that fails makes `build` fail, so each one passed, in order
  have hy : ¬ (y < 1 ∨ 9999 < y) := by
    intro hbad
    simp [build, hbad] at h
  have hm : ¬ (m < 1 ∨ 12 < m) := by
    intro hbad
    simp [build, hy, hbad] at h
  have hd : ¬ (d < 1 ∨ daysInMonth y m < d) := by
    intro hbad
    simp [build, hy, hm, hbad] at h
  have hh : ¬ 23 < c.hour := by
    intro hbad
    simp [build, hy, hm, hd, hbad] at h
  have hmi : ¬ 59 < c.minute := by
    intro hbad
    simp [build, hy, hm, hd, hh, hbad] at h
  have hs : ¬ 59 < c.second := by
    intro hbad
    simp [build, hy, hm, hd, hh, hmi, hbad] at h
  simp [build, hy, hm, hd, hh, hmi, hs] at h
  subst h
  have hy' : ((y.toNat : Nat) : Int) = y := Int.toNat_of_nonneg (by omega)
  have hm' : ((m.toNat : Nat) : Int) = m := Int.toNat_of_nonneg (by omega)
  refine ⟨?_, ?_, ?_, ?_, ?_, ?_, hc, hoff⟩
  · show 1 ≤ y.toNat ∧ y.toNat ≤ 9999
    omega
  · show 1 ≤ m.toNat ∧ m.toNat ≤ 12
    omega
  · show 1 ≤ d.toNat ∧ ((d.toNat : Nat) : Int) ≤ daysInMonth (y.toNat : Nat) (m.toNat : Nat)
    rw [hy', hm']
    omega
  · show c.hour ≤ 23
    omega
  · show c.minute ≤ 59
    omega
  · show c.second ≤ 59
    omega

end IsoText

open IsoText

/-- The ISO text of a date-time: the date, `T`, the clock, and the offset when there is one. -/
theorem DateTime.isoformat_toList (t : DateTime) :
    t.isoformat.toList = t.date.isoformat.toList ++ ('T' ::
      (clockText t.hour t.minute t.second t.micro ++ ((t.offset.map offsetText).getD "").toList)) := by
  by_cases h0 : t.micro = 0 <;> simp [DateTime.isoformat, clockText, fieldsText, h0]

/-- The ISO text of a date-time is ASCII. -/
theorem DateTime.isoformat_ascii (t : DateTime) : ∀ c ∈ t.isoformat.toList, c.toNat < 128 := by
  intro c hc
  rw [DateTime.isoformat_toList, List.mem_append, List.mem_cons, List.mem_append] at hc
  rcases hc with hc | hc | hc | hc
  · exact toNat_lt_of_mem_date hc
  · simp [hc]
  · exact (clockChar_of_mem_clockText hc).toNat_lt
  · cases ho : t.offset with
    | none => simp [ho] at hc
    | some off =>
      simp only [ho, Option.map_some, Option.getD_some, offsetText_toList, List.mem_cons] at hc
      rcases hc with hc | hc
      · split at hc <;> simp [hc]
      · unfold offsetBody at hc
        split at hc
        · exact (clockChar_of_mem_fieldsText hc).toNat_lt
        · exact (clockChar_of_mem_clockText hc).toNat_lt


/-- Reading the ISO text of a date-time the library can hold gives the date-time back. -/
theorem DateTime.ofIsoText_isoformat {t : DateTime} (ht : t.Valid) :
    DateTime.ofIsoText t.isoformat = .ok t := by
  have hy : t.date.year < 10 ^ 4 := by have := ht.year; omega
  have hm : t.date.month < 10 ^ 2 := by have := ht.month; omega
  have hd : t.date.day < 10 ^ 2 := by
    have := ht.day.2
    have := daysInMonth_le t.date.year t.date.month
    omega
  have hh : t.hour < 10 ^ 2 := by have := ht.hour; omega
  have hmi : t.minute < 10 ^ 2 := by have := ht.minute; omega
  have hsec : t.second < 10 ^ 2 := by have := ht.second; omega
  have hmicro : t.micro < 10 ^ 6 := ht.micro
  obtain ⟨hb, hsize⟩ := bytesAt_encodeUtf8 t.isoformat_ascii
  generalize hs : (Text.encodeUtf8 t.isoformat).toArray = s at hb hsize
  rw [DateTime.isoformat_toList] at hb hsize
  -- the date takes ten bytes, `T` one, and the time the rest
  have hdlen : t.date.isoformat.toList.length = 10 := by
    simp [Date.isoformat_toList, length_padDigits (by omega) hy, length_padDigits (by omega) hm,
      length_padDigits (by omega) hd]
  obtain ⟨hD, h⟩ := BytesAt.append.1 hb
  obtain ⟨hT, hrest⟩ := BytesAt.cons.1 h
  rw [hdlen] at hT hrest
  simp only [List.length_append, List.length_cons, hdlen] at hsize
  obtain ⟨-, h4, h5, -, -, -⟩ := date_parts hy hm hd hD
  have hsep : separator s = some 10 := separator_of_dashed (by omega) h4 h5
  have hdate := readDate_of_bytesAt hy hm hd hD
  obtain ⟨parts, htime, hoff⟩ := readTime_clockText hh hmi hsec hmicro ht.offset hrest
    (by simp only [List.length_append, offsetChars]; omega)
  have hT' : byteAt s 10 = 84 := hT
  have hwidth : separatorWidth 84 = 1 := rfl
  simp only [DateTime.ofIsoText, hs, hsep, hdate, show 10 < s.size by omega, if_true, hT', hwidth]
  rw [show (10 + 1 : Nat) = 11 from rfl, htime]
  -- what is left is the offset, read as it was written, and the fields, all in range
  rcases parts with _ | ⟨secs, micros⟩
  · simp only at hoff ⊢
    rw [hoff, except_ok_bind]
    exact build_of_valid ht
  · simp only at hoff ⊢
    rw [hoff, except_ok_bind]
    exact build_of_valid ht


/-- Every date-time read from text is one the library can hold. -/
theorem DateTime.ofIsoText_valid {text : String} {t : DateTime}
    (h : DateTime.ofIsoText text = .ok t) : t.Valid := by
  simp only [DateTime.ofIsoText] at h
  split at h
  · split at h
    · split at h
      · rename_i clock tz htime
        -- the clock was read, or is midnight when the text holds only a date
        have hclock : clock.micro < 10 ^ 6 ∧ ∀ p ∈ tz, SignedParts p.1 p.2 := by
          split at htime
          · exact readTime_spec htime
          · cases htime
            exact ⟨by simp, by simp⟩
        -- the offset, if any, was checked; then `build` checked the fields
        cases tz with
        | none =>
          simp only [except_pure, except_ok_bind] at h
          exact build_valid h hclock.1 (by simp)
        | some p =>
          obtain ⟨secs, micros⟩ := p
          cases hoff : offsetOf secs micros with
          | error f => simp [hoff, Except.map] at h
          | ok o =>
            simp only [hoff, Except.map, except_ok_bind] at h
            refine build_valid h hclock.1 fun o' ho' => ?_
            cases ho'
            exact offsetOf_fits (hclock.2 (secs, micros) rfl) hoff
      · simp at h
    · simp at h
  · simp at h

end SyntaxAdvisor
