import SelectorProse.Text.Basic

/-!
How alike two words are: the share of their characters that lie in common runs, taken longest
first and then on both sides of it.
-/

set_option autoImplicit false

namespace SelectorProse.Text

/-- A run of equal characters: where it starts in each of two texts, and its length. -/
structure CommonRun where
  first : Nat
  second : Nat
  length : Nat
  deriving DecidableEq, Repr

def commonStart : Text → Text → Nat
  | c :: s, d :: t => if c = d then commonStart s t + 1 else 0
  | _, _ => 0

/-- The longest common run; of several, the one that starts earliest in the first text, and then
in the second. -/
def longestRun (s t : Text) : CommonRun :=
  (List.range s.length).foldl (fun best i =>
    (List.range t.length).foldl (fun best j =>
      let length := commonStart (s.drop i) (t.drop j)
      if best.length < length then ⟨i, j, length⟩ else best) best) ⟨0, 0, 0⟩

/-- The number of characters in common runs. -/
def matched (s t : Text) : Nat :=
  match longestRun s t with
  | ⟨first, second, length⟩ =>
    if 0 < length ∧ first + length ≤ s.length then
      length + matched (s.take first) (t.take second) +
        matched (s.drop (first + length)) (t.drop (second + length))
    else
      0
termination_by s.length
decreasing_by
  all_goals
    simp only [List.length_take, List.length_drop]
    omega

/-- At least three fifths of the characters of the two are in common runs. -/
def isSimilar (s t : Text) : Bool := 3 * (s.length + t.length) ≤ 5 * (2 * matched s t)

end SelectorProse.Text
