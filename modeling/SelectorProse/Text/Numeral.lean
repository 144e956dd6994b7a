import SelectorProse.Text.Basic

/-!
Numbers written in decimal and, at a fixed width, in hexadecimal digits, and the length up to which
whole numbers are read and written.
-/

set_option autoImplicit false

namespace SelectorProse.Text

/-- One digit, with the letters `a` to `f` from ten on. -/
def digit (d : Nat) : CodePoint :=
  CodePoint.ofNat (if d < 10 then 0x30 + d else 0x57 + d)

/-- The decimal digits of a number, without leading zeros. -/
def ofNat (n : Nat) : Text :=
  if n < 10 then [digit n] else ofNat (n / 10) ++ [digit (n % 10)]

theorem ofNat_of_lt {n : Nat} (small : n < 10) : ofNat n = [digit n] := by
  rw [ofNat, if_pos small]

theorem ofNat_of_le {n : Nat} (large : 10 ≤ n) :
    ofNat n = ofNat (n / 10) ++ [digit (n % 10)] := by
  rw [ofNat, if_neg (by omega)]

/-- A number below zero has its sign in front. -/
def ofInt : Int → Text
  | .ofNat n => ofNat n
  | .negSucc n => CodePoint.ofChar '-' :: ofNat (n + 1)

/-- A whole number of more decimal digits is neither read nor written. -/
def digitLimit : Nat := 4300

/-- Has the number at most `digitLimit` digits? -/
def isWritable (i : Int) : Bool := i.natAbs < Nat.pow 10 digitLimit

/-- The message on a number above the limit, with what is known of it. -/
def digitLimitMessage (detail : Text) : Text :=
  ofString "Exceeds the limit (" ++ ofNat digitLimit ++
    ofString " digits) for integer string conversion" ++ detail ++
    ofString "; use sys.set_int_max_str_digits() to increase the limit"

/-- The last digits of a number to base sixteen, as many as the width says. -/
def hex : Nat → Nat → Text
  | 0, _ => []
  | width + 1, n => hex width (n / 16) ++ [digit (n % 16)]

@[simp] theorem length_hex (width n : Nat) : (hex width n).length = width := by
  induction width generalizing n with
  | zero => rfl
  | succ width ih => simp [hex, ih]

end SelectorProse.Text
