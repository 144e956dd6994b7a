import SelectorProse.Binary64.Basic
import SelectorProse.Text.Numeral

/-!
Floating point numbers written with the fewest decimal digits that read back as the number.
-/

set_option autoImplicit false

namespace SelectorProse.Binary64

/-- The number `digits * 10 ^ exponent`. -/
structure Decimal where
  digits : Nat
  exponent : Int
  deriving DecidableEq, Repr

/-- Compares `digits * 10 ^ exponent` with `significand * 2 ^ exponent`. -/
def Decimal.compareBinary (d : Decimal) (significand : Nat) (exponent : Int) :
    Ordering :=
  compare (d.digits * power 10 d.exponent * power 2 (-exponent))
    (significand * power 2 exponent * power 10 (-d.exponent))

/-- Does the decimal round to `significand * 2 ^ exponent`? It does between the middles towards the
two neighbours, which belong to the even significand. Below a power of two the neighbour is half
as far away. -/
def readsBack (significand : Nat) (exponent : Int) (d : Decimal) : Bool :=
  let gap := if 2 * significand = significandBound ∧ leastExponent < exponent then 1 else 2
  let below := d.compareBinary (4 * significand - gap) (exponent - 2)
  let above := d.compareBinary (4 * significand + 2) (exponent - 2)
  let even := significand % 2 == 0
  (below == .gt || (even && below == .eq)) && (above == .lt || (even && above == .eq))

/-- The largest multiple of `10 ^ grid` that is not above the number. -/
def floorDecimal (significand : Nat) (exponent grid : Int) : Decimal :=
  ⟨significand * power 2 exponent * power 10 (-grid) /
    (power 2 (-exponent) * power 10 grid), grid⟩

/-- The multiple of `10 ^ grid` that reads back and is nearest, the even one of two equally near,
if any reads back. -/
def nearest? (significand : Nat) (exponent grid : Int) : Option Decimal :=
  let low := floorDecimal significand exponent grid
  let high : Decimal := ⟨low.digits + 1, grid⟩
  match readsBack significand exponent low, readsBack significand exponent high with
  | false, false => none
  | true, false => some low
  | false, true => some high
  | true, true =>
    let middle : Decimal := ⟨2 * low.digits + 1, grid⟩
    match middle.compareBinary (2 * significand) exponent with
    | .gt => some low
    | .lt => some high
    | .eq => some (if low.digits % 2 = 0 then low else high)

/-- The least power of ten above the number. -/
def powerAbove (significand : Nat) (exponent : Int) : Int :=
  let estimate := Int.fdiv (((significand.log2 : Int) + exponent) * 30103) 100000
  let candidates := [estimate - 1, estimate, estimate + 1, estimate + 2]
  (candidates.find? fun top =>
    Decimal.compareBinary ⟨1, top⟩ significand exponent == .gt).getD (estimate + 3)

/-- Tries one digit, then two, and so on; seventeen always suffice. -/
def shortestFrom (significand : Nat) (exponent top : Int) (used : Nat) : Nat → Decimal
  | 0 => ⟨significand * power 2 exponent * power 5 (-exponent), min exponent 0⟩
  | left + 1 =>
    match nearest? significand exponent (top - (used + 1 : Nat)) with
    | some found => found
    | none => shortestFrom significand exponent top (used + 1) left

/-- Zeros at the end of the digits moved into the exponent. -/
def Decimal.reduced (d : Decimal) : Decimal :=
  if d.digits ≠ 0 ∧ d.digits % 10 = 0 then
    Decimal.reduced ⟨d.digits / 10, d.exponent + 1⟩
  else
    d
termination_by d.digits
decreasing_by omega

/-- The decimal with the fewest digits that reads back as a number above zero. -/
def shortest (significand : Nat) (exponent : Int) : Decimal :=
  (shortestFrom significand exponent (powerAbove significand exponent) 0 17).reduced

/-- Positional from `0.0001` up to but not including `1e+16`, otherwise with an exponent of at
least two digits and its sign. -/
def Decimal.layout (d : Decimal) : Text :=
  let digits := Text.ofNat d.digits
  let point := d.exponent + digits.length
  let zeros (count : Int) : Text := List.replicate count.toNat '0'
  if -4 < point && point ≤ 16 then
    if point ≤ 0 then
      Text.ofString "0." ++ zeros (-point) ++ digits
    else if point < digits.length then
      digits.take point.toNat ++ Text.ofString "." ++ digits.drop point.toNat
    else
      digits ++ zeros (point - digits.length) ++ Text.ofString ".0"
  else
    let fraction := if digits.length = 1 then [] else Text.ofString "." ++ digits.drop 1
    let scale := point - 1
    let sign := Text.ofString (if scale < 0 then "-" else "+")
    let padding := if scale.natAbs < 10 then Text.ofString "0" else []
    digits.take 1 ++ fraction ++ Text.ofString "e" ++ sign ++ padding ++ Text.ofNat scale.natAbs

/-- The magnitude of a finite number. -/
def magnitude (significand : Nat) (exponent : Int) : Text :=
  if significand = 0 then Text.ofString "0.0" else (shortest significand exponent).layout

/-- The layout of a finite number; the names of the other values depend on who reads them. -/
def written (nanName infinityName : Text) : Binary64 → Text
  | .nan => nanName
  | .infinite negative => (if negative then Text.ofString "-" else []) ++ infinityName
  | .finite negative significand exponent =>
    (if negative then Text.ofString "-" else []) ++ magnitude significand exponent

end SelectorProse.Binary64
