import SelectorProse.Json.Writer
import SelectorProse.Proofs.Binary64.Shortest
import SelectorProse.Proofs.Json.Scan

/-!
Floating point numbers as they stand in a document. Main statement: none of their layouts can be
taken for a whole number, so that each is read as a floating point number.
-/

set_option autoImplicit false

namespace SelectorProse.Json

open Text (ofNat)

/-- With a sign in front or without, the text is a number with a fraction or an exponent. -/
def SpellsFloat (written : Text) : Prop :=
  ∀ negative : Bool, ∃ numeral : Numeral, numeral.WellFormed ∧
    numeral.spelling = (if negative then Text.ofString "-" else []) ++ written ∧
    ¬ (numeral.fraction = [] ∧ numeral.power = [])

theorem isDigit_of_mem_zero : ∀ c ∈ Text.ofString "0", isDigit c = true := by
  intro c member
  rw [List.mem_singleton.mp member]
  decide

/-- Digits that do not begin with a zero. -/
def Leads (digits : Text) : Prop := ∃ first rest, digits = first :: rest ∧ 0x30 < first.val

theorem Leads.append {digits : Text} (leads : Leads digits) (more : Text) :
    Leads (digits ++ more) := by
  obtain ⟨first, rest, rfl, large⟩ := leads
  exact ⟨first, rest ++ more, List.cons_append, large⟩

theorem Leads.take {digits : Text} (leads : Leads digits) {count : Nat} (positive : 0 < count) :
    Leads (digits.take count) := by
  obtain ⟨first, rest, rfl, large⟩ := leads
  obtain ⟨count, rfl⟩ := Nat.exists_eq_succ_of_ne_zero (Nat.ne_of_gt positive)
  exact ⟨first, rest.take count, List.take_succ_cons, large⟩

theorem spellsFloat_of_fraction {whole fraction : Text}
    (wholeDigits : ∀ c ∈ whole, isDigit c = true)
    (leading : whole = Text.ofString "0" ∨ Leads whole)
    (fractionDigits : ∀ c ∈ fraction, isDigit c = true) (some : fraction ≠ []) :
    SpellsFloat (whole ++ Text.ofString "." ++ fraction) := by
  intro negative
  refine ⟨⟨negative, whole, fraction, '+', []⟩,
    ⟨wholeDigits, leading, fractionDigits, Or.inl rfl, ?_⟩, ?_, fun none => some none.1⟩
  · intro c impossible
    cases impossible
  · simp only [Numeral.spelling, Numeral.minus, Numeral.pointed, Numeral.scaled, some, ↓reduceIte,
      List.append_nil, List.append_assoc]
    rfl

theorem spellsFloat_of_power {whole fraction power : Text} {sign : CodePoint}
    (wholeDigits : ∀ c ∈ whole, isDigit c = true) (leading : Leads whole)
    (fractionDigits : ∀ c ∈ fraction, isDigit c = true) (signed : sign = '+' ∨ sign = '-')
    (powerDigits : ∀ c ∈ power, isDigit c = true) (some : power ≠ []) :
    SpellsFloat (whole ++ (if fraction = [] then [] else Text.ofString "." ++ fraction) ++
      Text.ofString "e" ++ [sign] ++ power) := by
  intro negative
  refine ⟨⟨negative, whole, fraction, sign, power⟩,
    ⟨wholeDigits, Or.inr leading, fractionDigits, signed, powerDigits⟩, ?_,
    fun none => some none.2⟩
  simp only [Numeral.spelling, Numeral.minus, Numeral.pointed, Numeral.scaled, some, ↓reduceIte,
    List.append_assoc]
  rfl

section

variable {digits : Text} (decimal : ∀ c ∈ digits, isDigit c = true) (leads : Leads digits)
include decimal leads

/-- Zeros stand between the point and the digits. -/
theorem spellsFloat_below_one (count : Nat) :
    SpellsFloat (Text.ofString "0." ++ List.replicate count (CodePoint.ofChar '0') ++ digits) := by
  obtain ⟨first, rest, spelling, -⟩ := leads
  rw [List.append_assoc]
  refine spellsFloat_of_fraction ?_ (Or.inl rfl) ?_ ?_
  · exact isDigit_of_mem_zero
  · intro c member
    rcases List.mem_append.mp member with zero | other
    · rw [List.eq_of_mem_replicate zero]
      decide
    · exact decimal c other
  · rw [spelling]
    exact List.append_ne_nil_of_right_ne_nil _ (List.cons_ne_nil _ _)

/-- The point stands among the digits. -/
theorem spellsFloat_pointed {count : Nat} (positive : 0 < count) (inside : count < digits.length) :
    SpellsFloat (digits.take count ++ Text.ofString "." ++ digits.drop count) := by
  refine spellsFloat_of_fraction (fun c member => decimal c (List.mem_of_mem_take member))
    (Or.inr (leads.take positive)) (fun c member => decimal c (List.mem_of_mem_drop member)) ?_
  intro none
  have short := List.drop_eq_nil_iff.mp none
  omega

/-- Zeros stand between the digits and the point. -/
theorem spellsFloat_above (count : Nat) :
    SpellsFloat (digits ++ List.replicate count (CodePoint.ofChar '0') ++ Text.ofString ".0") := by
  have whole := spellsFloat_of_fraction (fun c member => ?_)
    (Or.inr (leads.append (List.replicate count (CodePoint.ofChar '0'))))
    isDigit_of_mem_zero (by decide)
  · rwa [List.append_assoc _ (Text.ofString ".")] at whole
  · rcases List.mem_append.mp member with other | zero
    · exact decimal c other
    · rw [List.eq_of_mem_replicate zero]
      decide

theorem spellsFloat_scaled (scale : Int) :
    SpellsFloat (digits.take 1 ++
      (if digits.length = 1 then [] else Text.ofString "." ++ digits.drop 1) ++
      Text.ofString "e" ++ Text.ofString (if scale < 0 then "-" else "+") ++
      (if scale.natAbs < 10 then Text.ofString "0" else []) ++ ofNat scale.natAbs) := by
  have pointed : (digits.length = 1) = (digits.drop 1 = []) := by
    obtain ⟨first, rest, rfl, -⟩ := leads
    simp
  have sign : Text.ofString (if scale < 0 then "-" else "+") =
      [if scale < 0 then CodePoint.ofChar '-' else CodePoint.ofChar '+'] := by
    split <;> rfl
  rw [sign, List.append_assoc _ (if scale.natAbs < 10 then _ else _)]
  simp only [pointed]
  refine spellsFloat_of_power (fun c member => decimal c (List.mem_of_mem_take member))
    (leads.take Nat.one_pos) (fun c member => decimal c (List.mem_of_mem_drop member)) ?_ ?_ ?_
  · split
    · exact Or.inr rfl
    · exact Or.inl rfl
  · intro c member
    rcases List.mem_append.mp member with padding | other
    · split at padding
      · exact isDigit_of_mem_zero c padding
      · cases padding
    · exact isDigit_of_mem_ofNat other
  · exact List.append_ne_nil_of_right_ne_nil _ (Text.ofNat_ne_nil _)

end

theorem spellsFloat_layout {d : Binary64.Decimal} (positive : 0 < d.digits) :
    SpellsFloat d.layout := by
  have decimal : ∀ c ∈ ofNat d.digits, isDigit c = true := fun _ => isDigit_of_mem_ofNat
  have leads : Leads (ofNat d.digits) := Text.ofNat_eq_cons positive
  rw [Binary64.Decimal.layout]
  dsimp only
  split
  · split
    · exact spellsFloat_below_one decimal leads _
    · split
      · exact spellsFloat_pointed decimal leads (by omega) (by omega)
      · exact spellsFloat_above decimal leads _
  · exact spellsFloat_scaled decimal leads _

theorem spellsFloat_magnitude (significand : Nat) (exponent : Int) :
    SpellsFloat (Binary64.magnitude significand exponent) := by
  rw [Binary64.magnitude]
  split
  · exact spellsFloat_of_fraction isDigit_of_mem_zero (Or.inl rfl) isDigit_of_mem_zero (by decide)
  · rename_i some
    exact spellsFloat_layout (Binary64.digits_shortest_pos (Nat.pos_of_ne_zero some) exponent)

theorem SpellsFloat.number? {written : Text} (spelt : SpellsFloat written) (negative : Bool) :
    ∃ y, Spells ((if negative then Text.ofString "-" else []) ++ written) [.float y] ∧
      number? ((if negative then Text.ofString "-" else []) ++ written) =
        some (.float y, ((if negative then Text.ofString "-" else []) ++ written).length) := by
  obtain ⟨numeral, wellFormed, spelling, inexact⟩ := spelt negative
  have found := Numeral.number?_spelling wellFormed endsNumber_nil
  have spells := spells_numeral wellFormed
  rw [Numeral.token, if_neg inexact, spelling] at found spells
  rw [List.append_nil] at found
  exact ⟨_, spells, found⟩

end SelectorProse.Json

namespace SelectorProse

/-- The number that is read where this one was written. -/
def Binary64.reread (x : Binary64) : Binary64 :=
  match Json.number? (Json.floatWritten x) with
  | some (.float y, _) => y
  | _ => x

theorem Json.spells_float (x : Binary64) : Spells (floatWritten x) [.float x.reread] := by
  cases x with
  | nan => exact spells_of_scan (by decide) fun _ _ => rfl
  | infinite negative =>
    cases negative with
    | false => exact spells_of_scan (by decide) fun _ _ => rfl
    | true => exact spells_of_scan (by decide) fun _ _ => rfl
  | finite negative significand exponent =>
    obtain ⟨y, spells, found⟩ := (spellsFloat_magnitude significand exponent).number? negative
    rw [Binary64.reread]
    rw [floatWritten, Binary64.written, found]
    exact spells

end SelectorProse
