import Mathlib.Data.Nat.Init
import SelectorProse.Json.Token
import SelectorProse.Proofs.Text.Numeral

/-!
Numbers as they stand in a document: sign, whole digits, fraction and exponent. Main statement: the
scanner finds exactly the parts that were written, whatever comes behind them.
-/

set_option autoImplicit false

namespace SelectorProse.Json

open Text (digit ofNat ofNat_of_lt ofNat_of_le)

theorem isDigit_iff {c : CodePoint} : isDigit c = true ↔ 0x30 ≤ c.val ∧ c.val ≤ 0x39 := by
  simp only [isDigit, Bool.and_eq_true, decide_eq_true_eq]

theorem isDigit_digit {d : Nat} (decimal : d < 10) : isDigit (digit d) = true := by
  rw [isDigit_iff, Text.val_digit_of_lt decimal]
  omega

/-- Only decimal digits are written. -/
theorem isDigit_of_mem_ofNat {n : Nat} {c : CodePoint} (member : c ∈ ofNat n) :
    isDigit c = true := by
  induction n using Nat.strongRecOn with
  | ind n ih =>
    by_cases small : n < 10
    · rw [ofNat_of_lt small] at member
      rw [List.mem_singleton.mp member]
      exact isDigit_digit small
    · rw [ofNat_of_le (by omega)] at member
      rcases List.mem_append.mp member with upper | last
      · exact ih (n / 10) (by omega) upper
      · rw [List.mem_singleton.mp last]
        exact isDigit_digit (by omega)

theorem ofDigits_append_singleton (digits : Text) (c : CodePoint) :
    ofDigits (digits ++ [c]) = ofDigits digits * 10 + (c.val - 0x30) := by
  simp only [ofDigits, List.foldl_append, List.foldl_cons, List.foldl_nil]

/-- The digits of a number spell it. -/
@[simp] theorem ofDigits_ofNat (n : Nat) : ofDigits (ofNat n) = n := by
  induction n using Nat.strongRecOn with
  | ind n ih =>
    by_cases small : n < 10
    · rw [ofNat_of_lt small]
      change 0 * 10 + ((digit n).val - 0x30) = n
      rw [Text.val_digit_of_lt small]
      omega
    · rw [ofNat_of_le (by omega), ofDigits_append_singleton, ih (n / 10) (by omega),
        Text.val_digit_of_lt (by omega)]
      omega

/-- What stands behind a number cannot be read as more of it. -/
def EndsNumber (tail : Text) : Prop :=
  ∀ c rest, tail = c :: rest → isDigit c = false ∧ c ≠ '.' ∧ c ≠ 'e' ∧ c ≠ 'E'

theorem endsNumber_nil : EndsNumber [] := by
  intro c rest impossible
  cases impossible

theorem endsNumber_cons {c : CodePoint} (rest : Text)
    (other : isDigit c = false ∧ c ≠ '.' ∧ c ≠ 'e' ∧ c ≠ 'E') : EndsNumber (c :: rest) := by
  intro d tail same
  cases same
  exact other

theorem takeWhile_isDigit_append {digits tail : Text} (decimal : ∀ c ∈ digits, isDigit c = true)
    (stops : ∀ c rest, tail = c :: rest → isDigit c = false) :
    (digits ++ tail).takeWhile isDigit = digits := by
  induction digits with
  | nil =>
    cases tail with
    | nil => rfl
    | cons c rest =>
      rw [List.nil_append, List.takeWhile_cons, stops c rest rfl]
      rfl
  | cons first digits ih =>
    rw [List.cons_append, List.takeWhile_cons, decimal first (List.mem_cons_self ..)]
    exact congrArg (first :: ·) (ih fun c member => decimal c (List.mem_cons_of_mem _ member))

/-- The parts of a number. Without digits there is no fraction or no exponent. -/
structure Numeral where
  negative : Bool
  whole : Text
  fraction : Text
  sign : CodePoint
  power : Text

namespace Numeral

/-- Whole digits without a leading zero, and a sign in front of an exponent. -/
structure WellFormed (numeral : Numeral) : Prop where
  whole : ∀ c ∈ numeral.whole, isDigit c = true
  leading : numeral.whole = Text.ofString "0" ∨
    ∃ first rest, numeral.whole = first :: rest ∧ 0x30 < first.val
  fraction : ∀ c ∈ numeral.fraction, isDigit c = true
  sign : numeral.sign = '+' ∨ numeral.sign = '-'
  power : ∀ c ∈ numeral.power, isDigit c = true

def minus (numeral : Numeral) : Text := if numeral.negative then Text.ofString "-" else []

def pointed (numeral : Numeral) : Text :=
  if numeral.fraction = [] then [] else '.' :: numeral.fraction

def scaled (numeral : Numeral) : Text :=
  if numeral.power = [] then [] else 'e' :: numeral.sign :: numeral.power

def spelling (numeral : Numeral) : Text :=
  numeral.minus ++ numeral.whole ++ numeral.pointed ++ numeral.scaled

/-- The power of ten that the digits before and behind the point are taken by. -/
def exponent (numeral : Numeral) : Int :=
  (if numeral.sign = '-' then -(ofDigits numeral.power : Int) else ofDigits numeral.power) -
    numeral.fraction.length

/-- Whole digits alone are a whole number. -/
def token (numeral : Numeral) : Token :=
  if numeral.fraction = [] ∧ numeral.power = [] then .int numeral.negative numeral.whole
  else .float (.ofDecimal numeral.negative (ofDigits (numeral.whole ++ numeral.fraction))
    numeral.exponent)

variable {numeral : Numeral} {tail : Text}

theorem scaled_append_not_digit (ended : EndsNumber tail) (c : CodePoint) (rest : Text)
    (same : numeral.scaled ++ tail = c :: rest) : isDigit c = false ∧ c ≠ '.' := by
  rw [scaled] at same
  split at same
  · exact ⟨(ended c rest same).1, (ended c rest same).2.1⟩
  · cases same
    decide

theorem pointed_append_not_digit (ended : EndsNumber tail) (c : CodePoint) (rest : Text)
    (same : numeral.pointed ++ (numeral.scaled ++ tail) = c :: rest) : isDigit c = false := by
  rw [pointed] at same
  split at same
  · exact (scaled_append_not_digit ended c rest same).1
  · cases same
    decide

theorem WellFormed.exists_digit (wellFormed : numeral.WellFormed) :
    ∃ first rest, numeral.whole = first :: rest ∧ isDigit first = true := by
  rcases wellFormed.leading with zero | ⟨first, rest, spelling, -⟩
  · exact ⟨'0', [], zero, by decide⟩
  · refine ⟨first, rest, spelling, wellFormed.whole first ?_⟩
    rw [spelling]
    exact List.mem_cons_self ..

theorem wholeDigits_append (wellFormed : numeral.WellFormed) (ended : EndsNumber tail) :
    wholeDigits (numeral.whole ++ (numeral.pointed ++ (numeral.scaled ++ tail))) =
      numeral.whole := by
  rcases wellFormed.leading with zero | ⟨first, rest, spelling, large⟩
  · rw [zero]
    rfl
  · have other : (Text.ofString "0").isPrefixOf
        (numeral.whole ++ (numeral.pointed ++ (numeral.scaled ++ tail))) = false := by
      rw [spelling]
      change (CodePoint.ofChar '0' == first && true) = false
      rw [Bool.and_true, beq_eq_false_iff_ne]
      rintro rfl
      exact absurd large (by decide)
    rw [wholeDigits, other, if_neg Bool.false_ne_true]
    exact takeWhile_isDigit_append wellFormed.whole (pointed_append_not_digit ended)

theorem fractionDigits_append (wellFormed : numeral.WellFormed) (ended : EndsNumber tail) :
    fractionDigits (numeral.pointed ++ (numeral.scaled ++ tail)) = numeral.fraction := by
  rw [pointed]
  split
  · rename_i none
    rw [none, List.nil_append, fractionDigits]
    intro _ rest same
    exact (scaled_append_not_digit ended _ rest same).2 rfl
  · exact takeWhile_isDigit_append wellFormed.fraction
      fun c rest same => (scaled_append_not_digit ended c rest same).1

theorem exponentParts_of_ended (ended : EndsNumber tail) : exponentParts tail = ([], []) := by
  cases tail with
  | nil => rfl
  | cons letter rest =>
    obtain ⟨-, -, lower, upper⟩ := ended letter rest rfl
    rw [exponentParts.eq_def]
    simp only [lower, upper, decide_false, Bool.or_self, Bool.false_eq_true, ↓reduceIte]

theorem exponentParts_append (wellFormed : numeral.WellFormed) (ended : EndsNumber tail)
    (some : numeral.power ≠ []) :
    exponentParts (numeral.scaled ++ tail) = ([numeral.sign], numeral.power) := by
  have signed : (decide (numeral.sign = '+') || decide (numeral.sign = '-')) = true := by
    simpa only [Bool.or_eq_true, decide_eq_true_eq] using wellFormed.sign
  have digits := takeWhile_isDigit_append wellFormed.power fun c rest same => (ended c rest same).1
  rw [scaled, if_neg some, List.cons_append, List.cons_append, exponentParts.eq_def]
  simp only [decide_true, Bool.true_or, ↓reduceIte, signed, digits]

theorem isPrefixOf_minus (wellFormed : numeral.WellFormed) (rest : Text) :
    (Text.ofString "-").isPrefixOf (numeral.minus ++ (numeral.whole ++ rest)) =
      numeral.negative := by
  rw [minus]
  cases numeral.negative with
  | true => rfl
  | false =>
    obtain ⟨first, others, spelling, decimal⟩ := wellFormed.exists_digit
    rw [spelling]
    change (CodePoint.ofChar '-' == first && true) = false
    rw [Bool.and_true, beq_eq_false_iff_ne]
    rintro rfl
    exact absurd decimal (by decide)

theorem drop_minus (rest : Text) :
    (if numeral.negative = true then (numeral.minus ++ rest).drop 1 else numeral.minus ++ rest) =
      rest := by
  rw [minus]
  cases numeral.negative <;> rfl

theorem length_pointed : numeral.pointed.length =
    if numeral.fraction = [] then 0 else numeral.fraction.length + 1 := by
  rw [pointed]
  split <;> rfl

theorem length_minus : numeral.minus.length = if numeral.negative = true then 1 else 0 := by
  rw [minus]
  cases numeral.negative <;> rfl

/-- The scanner finds the parts that were written, and stops behind them. -/
theorem number?_spelling (wellFormed : numeral.WellFormed) (ended : EndsNumber tail) :
    number? (numeral.spelling ++ tail) = some (numeral.token, numeral.spelling.length) := by
  obtain ⟨first, others, spelling, -⟩ := wellFormed.exists_digit
  have written : numeral.whole ≠ [] := by
    rw [spelling]
    exact List.cons_ne_nil _ _
  have behind : (numeral.pointed ++ (numeral.scaled ++ tail)).drop
      (if numeral.fraction = [] then 0 else numeral.fraction.length + 1) =
        numeral.scaled ++ tail := by
    rw [← length_pointed]
    exact List.drop_left ..
  simp only [number?, Numeral.spelling, List.append_assoc, isPrefixOf_minus wellFormed, drop_minus,
    wholeDigits_append wellFormed ended, written, ↓reduceIte, List.drop_left,
    fractionDigits_append wellFormed ended, behind]
  by_cases plain : numeral.power = []
  · have none : (ofDigits [] : Int) = 0 := rfl
    rw [scaled, if_pos plain, List.nil_append, exponentParts_of_ended ended]
    simp only [token, exponent, plain, ↓reduceIte, and_true, List.length_append, length_minus,
      length_pointed, List.append_nil, Nat.add_zero, none, Int.neg_zero, ite_self, Nat.add_assoc]
    split <;> rfl
  · have signed : ([numeral.sign] = Text.ofString "-") = (numeral.sign = '-') := by
      change ([numeral.sign] = [CodePoint.ofChar '-']) = _
      rw [List.cons.injEq, and_iff_left rfl]
    rw [exponentParts_append wellFormed ended plain]
    simp only [token, exponent, scaled, plain, ↓reduceIte, and_false, List.length_append,
      length_minus, length_pointed, List.length_cons, List.length_nil, signed]
    congr 2
    omega

end Numeral

end SelectorProse.Json
