import SelectorProse.Text.Basic

/-!
Terminal control sequences: an escape character, an opening bracket, parameters from `0` to `?`,
intermediate characters from the space to `/`, and one final character from `@` to `~`.
-/

set_option autoImplicit false

namespace SelectorProse.Text

def isParameter (c : CodePoint) : Bool := 0x30 ≤ c.val && c.val ≤ 0x3F

def isIntermediate (c : CodePoint) : Bool := 0x20 ≤ c.val && c.val ≤ 0x2F

def isFinal (c : CodePoint) : Bool := 0x40 ≤ c.val && c.val ≤ 0x7E

/-- What follows the control sequence at the start of the text, if one stands there. -/
def afterControlSequence? (t : Text) : Option Text :=
  if (Text.ofString "\x1b[").isPrefixOf t then
    match ((t.drop 2).dropWhile isParameter).dropWhile isIntermediate with
    | last :: rest => if isFinal last then some rest else none
    | [] => none
  else
    none

theorem afterControlSequence?_length {t rest : Text} (found : afterControlSequence? t = some rest) :
    rest.length < t.length := by
  unfold afterControlSequence? at found
  split at found
  · split at found
    · next last tail shape =>
      split at found
      · cases found
        have within := ((List.dropWhile_suffix isIntermediate).trans
          (List.dropWhile_suffix isParameter)).trans (List.drop_suffix 2 t)
        have bound := within.length_le
        rw [shape] at bound
        exact Nat.lt_of_lt_of_le (Nat.lt_succ_self _) bound
      · cases found
    · cases found
  · cases found

/-- The text without its control sequences, each taken as early as it can be. -/
def removeControlSequences (t : Text) : Text :=
  match t with
  | [] => []
  | c :: tail =>
    match _found : afterControlSequence? (c :: tail) with
    | some rest => removeControlSequences rest
    | none => c :: removeControlSequences tail
termination_by t.length
decreasing_by
  · exact afterControlSequence?_length (by assumption)
  · simp

end SelectorProse.Text
