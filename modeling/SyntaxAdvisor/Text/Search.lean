/-!
# Searching text

Finding one text inside another, and replacing its occurrences. Texts are compared character by
character; occurrences are found from the left and do not overlap, so replacing `aa` in `aaa`
leaves one `a`.
-/

namespace SyntaxAdvisor.Text

/-- Whether `pat` occurs in `cs` at some position. -/
def occursIn (pat : List Char) : List Char → Bool
  | [] => pat.isEmpty
  | c :: cs => pat.isPrefixOf (c :: cs) || occursIn pat cs

/-- Whether `pat` occurs in `s`. -/
def contains (s pat : String) : Bool := occursIn pat.toList s.toList

/-- Replaces, from the left, every occurrence of the pattern `p :: ps` in `cs` by `rep`, onto
the reversed output `acc`. -/
def replaceOnto (p : Char) (ps rep : List Char) (acc : List Char) : List Char → List Char
  | [] => acc.reverse
  | c :: cs =>
    if (p :: ps).isPrefixOf (c :: cs) then
      replaceOnto p ps rep (rep.reverse ++ acc) (cs.drop ps.length)
    else replaceOnto p ps rep (c :: acc) cs
termination_by cs => cs.length
decreasing_by
  all_goals simp only [List.length_drop, List.length_cons]
  all_goals omega

/-- Replaces every occurrence of `pat` in `s` by `rep`; an empty pattern occurs between every
two characters and at both ends. -/
def replace (s pat rep : String) : String :=
  if pat.isEmpty then
    rep ++ String.join (s.toList.map fun c => String.singleton c ++ rep)
  else match pat.toList with
    | p :: ps => String.ofList (replaceOnto p ps rep.toList [] s.toList)
    | [] => s

end SyntaxAdvisor.Text
