/-!
Floating point numbers with 53 significant bits: the number nearest to a decimal fraction, and
equality of values.
-/

set_option autoImplicit false

namespace SelectorProse

/-- A finite number is its significand times a power of two. The significand is below `2 ^ 53`, and
at least `2 ^ 52` unless the exponent is the least one, `-1074`. -/
inductive Binary64 where
  | nan
  | infinite (negative : Bool)
  | finite (negative : Bool) (significand : Nat) (exponent : Int)
  deriving DecidableEq, Repr

namespace Binary64

def leastExponent : Int := -1074

def greatestExponent : Int := 971

/-- A power with a whole exponent; below zero it counts as one. -/
def power (base : Nat) (exponent : Int) : Nat := base.pow exponent.toNat

/-- Significands are below this number. -/
def significandBound : Nat := power 2 53

def zero (negative : Bool) : Binary64 := .finite negative 0 leastExponent

def isZero : Binary64 → Bool
  | .finite _ 0 _ => true
  | _ => false

/-- The quotient rounded to the nearest number, a half to the even one. -/
def roundedQuotient (numerator denominator : Nat) : Nat :=
  let quotient := numerator / denominator
  match compare (2 * (numerator % denominator)) denominator with
  | .lt => quotient
  | .eq => quotient + quotient % 2
  | .gt => quotient + 1

/-- The number nearest to a positive fraction; of two equally near, the one with the even
significand. -/
def ofFraction (negative : Bool) (numerator denominator : Nat) : Binary64 :=
  let scaled (exponent : Int) : Nat × Nat :=
    (numerator * power 2 (-exponent), denominator * power 2 exponent)
  let estimate : Int := (numerator.log2 : Int) - (denominator.log2 : Int) - 52
  let (top, bottom) := scaled estimate
  let fitted := if 2 * top < bottom * significandBound then estimate - 1 else estimate
  let exponent := max fitted leastExponent
  let (top, bottom) := scaled exponent
  let rounded := roundedQuotient top bottom
  let (significand, exponent) :=
    if rounded = significandBound then (significandBound / 2, exponent + 1) else (rounded, exponent)
  if greatestExponent < exponent then .infinite negative else .finite negative significand exponent

/-- The number nearest to `digits * 10 ^ exponent`. Powers far outside the range are settled
without being computed. -/
def ofDecimal (negative : Bool) (digits : Nat) (exponent : Int) : Binary64 :=
  if digits = 0 then zero negative
  else if 400 < exponent then .infinite negative
  else if exponent + digits.log2 < -400 then zero negative
  else ofFraction negative (digits * power 10 exponent) (power 10 (-exponent))

/-- The whole number that the value is, if it is one. -/
def toInt? : Binary64 → Option Int
  | .finite negative significand exponent =>
    let divisor := power 2 (-exponent)
    if significand % divisor = 0 then
      let magnitude : Int := ↑(significand * power 2 exponent / divisor)
      some (if negative then -magnitude else magnitude)
    else
      none
  | _ => none

/-- Equality of values: `nan` equals nothing, and the two zeros are equal. -/
def sameValue : Binary64 → Binary64 → Bool
  | .infinite n, .infinite n' => n == n'
  | .finite n s e, .finite n' s' e' => s == s' && (s == 0 || (n == n' && e == e'))
  | _, _ => false

end Binary64

end SelectorProse
