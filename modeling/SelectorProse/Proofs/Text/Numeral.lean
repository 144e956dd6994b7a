import SelectorProse.Text.Numeral

/-!
What the digits of a number are: as many as the number needs, none of them a leading zero.
-/

set_option autoImplicit false

namespace SelectorProse

theorem CodePoint.val_ofNat {n : Nat} (inRange : n < 0x110000) : (CodePoint.ofNat n).val = n :=
  Nat.mod_eq_of_lt inRange

@[simp] theorem CodePoint.ofNat_val (c : CodePoint) : CodePoint.ofNat c.val = c :=
  Fin.ext (CodePoint.val_ofNat c.isLt)

namespace Text

theorem val_digit_of_lt {d : Nat} (decimal : d < 10) : (digit d).val = 0x30 + d := by
  rw [digit, if_pos decimal, CodePoint.val_ofNat (by omega)]

theorem val_digit_of_le {d : Nat} (lower : 10 ≤ d) (upper : d < 16) :
    (digit d).val = 0x57 + d := by
  rw [digit, if_neg (by omega), CodePoint.val_ofNat (by omega)]

/-- Digits lie between `0` and `f`. -/
theorem val_digit_bounds {d : Nat} (hexadecimal : d < 16) :
    0x30 ≤ (digit d).val ∧ (digit d).val ≤ 0x66 := by
  by_cases decimal : d < 10
  · have value := val_digit_of_lt decimal
    omega
  · have value := val_digit_of_le (by omega) hexadecimal
    omega

/-- What holds of every digit holds of all that is written at a fixed width. -/
theorem forall_mem_hex {holds : CodePoint → Prop} (each : ∀ d < 16, holds (digit d))
    (width n : Nat) : ∀ c ∈ hex width n, holds c := by
  induction width generalizing n with
  | zero => exact List.forall_mem_nil _
  | succ width ih =>
    have last : ∀ c ∈ [digit (n % 16)], holds c :=
      List.forall_mem_singleton.mpr (each (n % 16) (by omega))
    exact List.forall_mem_append.mpr ⟨ih (n / 16), last⟩

/-- A number above zero does not begin with the digit zero. -/
theorem ofNat_eq_cons {n : Nat} (positive : 0 < n) :
    ∃ first rest, ofNat n = first :: rest ∧ 0x30 < first.val := by
  induction n using Nat.strongRecOn with
  | ind n ih =>
    by_cases small : n < 10
    · refine ⟨digit n, [], ofNat_of_lt small, ?_⟩
      rw [val_digit_of_lt small]
      omega
    · obtain ⟨first, rest, spelling, large⟩ := ih (n / 10) (by omega) (by omega)
      refine ⟨first, rest ++ [digit (n % 10)], ?_, large⟩
      rw [ofNat_of_le (by omega), spelling, List.cons_append]

theorem ofNat_ne_nil (n : Nat) : ofNat n ≠ [] := by
  rw [ofNat]
  split
  · exact List.cons_ne_nil _ _
  · exact List.append_ne_nil_of_right_ne_nil _ (List.cons_ne_nil _ _)

/-- A number below a power of ten has at most as many digits as the exponent says. -/
theorem length_ofNat_le {n width : Nat} (positive : 0 < width)
    (below : n < Nat.pow 10 width) : (ofNat n).length ≤ width := by
  induction width generalizing n with
  | zero => omega
  | succ width ih =>
    by_cases small : n < 10
    · rw [ofNat_of_lt small, List.length_singleton]
      omega
    · have longer : 0 < width := by
        cases width with
        | zero => exact absurd below small
        | succ width => exact Nat.succ_pos width
      have quotient : n / 10 < Nat.pow 10 width := by
        have shifted : Nat.pow 10 (width + 1) = Nat.pow 10 width * 10 := rfl
        omega
      rw [ofNat_of_le (by omega), List.length_append, List.length_singleton]
      exact Nat.succ_le_succ (ih longer quotient)

-- The limit is a variable here, so that no power of it is ever computed.
private theorem length_le_of_decide {n limit : Nat} (positive : 0 < limit)
    (below : decide (n < Nat.pow 10 limit) = true) : (ofNat n).length ≤ limit :=
  length_ofNat_le positive (of_decide_eq_true below)

theorem length_ofNat_le_digitLimit {i : Int} (writable : isWritable i = true) :
    (ofNat i.natAbs).length ≤ digitLimit :=
  length_le_of_decide (by decide) writable

end Text

end SelectorProse
