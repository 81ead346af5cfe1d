/-!
# Lone surrogates

A Lean character is a Unicode scalar value, so the surrogate code points U+D800–U+DFFF are not
characters. Texts here still have to hold them: an escape such as `\uD800` in a double-quoted
YAML scalar stands for one surrogate code point on its own, and the two escapes of a pair are
decoded one by one, so `"\uD83D\uDE00"` is two lone surrogates, not one emoji.

A lone surrogate `s` is held as the stand-in character `s + 0x40000`, in U+4D800–U+4DFFF, a
stretch of plane 4 where no character is assigned. Everything that shows, orders or encodes
text reads a character through `codePoint`, which gives a stand-in's surrogate:

* ordering compares code points, so a surrogate sorts between U+D7FF and U+E000;
* an escaped form writes a surrogate with four hexadecimal digits;
* strict UTF-8 encoding refuses a surrogate.

A text that holds a character of that unassigned stretch itself is read the same way.
-/

namespace SyntaxAdvisor.Text

/-- How far above its surrogate a stand-in character lies. -/
def standInOffset : Nat := 0x40000

/-- Whether `n` is a surrogate code point. -/
def isSurrogate (n : Nat) : Bool := 0xD800 ≤ n && n ≤ 0xDFFF

/-- The stand-in character for the surrogate code point `s`. -/
def surrogateChar (s : Nat) : Char := Char.ofNat (s + standInOffset)

/-- The surrogate code point a character stands for, when it is a stand-in. -/
def surrogateOf (c : Char) : Option Nat :=
  if 0xD800 + standInOffset ≤ c.toNat && c.toNat ≤ 0xDFFF + standInOffset then
    some (c.toNat - standInOffset)
  else none

/-- The character for the code point `n`: the stand-in when `n` is a surrogate. -/
def charOfCode (n : Nat) : Char := if isSurrogate n then surrogateChar n else Char.ofNat n

/-- The code point a character is read as: a stand-in's surrogate, or the character's own. -/
def codePoint (c : Char) : Nat := (surrogateOf c).getD c.toNat

/-- Whether the characters `a` come before `b` in the order of their code points, a proper
prefix first. -/
def codesBefore : List Char → List Char → Bool
  | [], [] => false
  | [], _ :: _ => true
  | _ :: _, [] => false
  | a :: as, b :: bs => codePoint a < codePoint b || (a == b && codesBefore as bs)

/-- Whether text `s` comes before text `t`, comparing code points. -/
def textBefore (s t : String) : Bool := codesBefore s.toList t.toList

/-- A stand-in's code point is the surrogate it was made for. -/
theorem codePoint_surrogateChar (s : Nat) (h : isSurrogate s = true) :
    codePoint (surrogateChar s) = s := by
  simp only [isSurrogate, Bool.and_eq_true, decide_eq_true_eq] at h
  have hv : Nat.isValidChar (s + standInOffset) := by
    unfold Nat.isValidChar standInOffset
    omega
  have hn : (surrogateChar s).toNat = s + standInOffset := by
    unfold surrogateChar Char.ofNat
    rw [dif_pos hv]
    rfl
  unfold codePoint surrogateOf
  rw [hn]
  unfold standInOffset
  split
  · simp
  · rename_i hne
    simp only [Bool.and_eq_true, decide_eq_true_eq] at hne
    omega

/-- A character below the surrogates is read as itself. -/
theorem codePoint_of_lt (c : Char) (h : c.toNat < 0xD800) : codePoint c = c.toNat := by
  unfold codePoint surrogateOf standInOffset
  split
  · rename_i hs
    simp only [Bool.and_eq_true, decide_eq_true_eq] at hs
    omega
  · rfl

end SyntaxAdvisor.Text
