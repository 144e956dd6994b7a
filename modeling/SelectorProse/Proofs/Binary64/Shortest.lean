import SelectorProse.Binary64.Shortest

/-!
The shortest digits of a number above zero are not zero.
-/

set_option autoImplicit false

namespace SelectorProse.Binary64

theorem power_pos {base : Nat} (positive : 0 < base) (exponent : Int) : 0 < power base exponent :=
  Nat.pow_pos positive

/-- Zero lies below every number above zero. -/
theorem compareBinary_zero {significand : Nat} (positive : 0 < significand)
    (grid exponent : Int) :
    (⟨0, grid⟩ : Decimal).compareBinary significand exponent = .lt := by
  have twos := power_pos (Nat.zero_lt_succ 1) exponent
  have tens := power_pos (Nat.zero_lt_succ 9) (-grid)
  rw [Decimal.compareBinary, Nat.zero_mul, Nat.zero_mul, Nat.compare_eq_lt]
  exact Nat.mul_pos (Nat.mul_pos positive twos) tens

theorem digits_pos_of_readsBack {significand : Nat} (positive : 0 < significand) {exponent : Int}
    {d : Decimal} (back : readsBack significand exponent d = true) : 0 < d.digits := by
  rcases Nat.eq_zero_or_pos d.digits with zero | some
  · obtain ⟨digits, grid⟩ := d
    simp only at zero
    subst zero
    have below (gap : Nat) (small : gap ≤ 2) :
        (⟨0, grid⟩ : Decimal).compareBinary (4 * significand - gap) (exponent - 2) = .lt :=
      compareBinary_zero (by omega) _ _
    simp only [readsBack, Bool.and_eq_true] at back
    split at back
    · rw [below 1 (by decide)] at back
      simp at back
    · rw [below 2 (by decide)] at back
      simp at back
  · exact some

theorem digits_pos_of_nearest? {significand : Nat} (positive : 0 < significand)
    {exponent grid : Int} {found : Decimal}
    (nearest : nearest? significand exponent grid = some found) : 0 < found.digits := by
  have low (back : readsBack significand exponent
      (floorDecimal significand exponent grid) = true) :=
    digits_pos_of_readsBack positive back
  rw [nearest?] at nearest
  dsimp only at nearest
  split at nearest
  · cases nearest
  · rename_i back _
    cases nearest
    exact low back
  · cases nearest
    exact Nat.succ_pos _
  · rename_i back _
    split at nearest
    · cases nearest
      exact low back
    · cases nearest
      exact Nat.succ_pos _
    · split at nearest
      · cases nearest
        exact low back
      · cases nearest
        exact Nat.succ_pos _

theorem digits_shortestFrom_pos {significand : Nat} (positive : 0 < significand)
    (exponent top : Int) (used left : Nat) :
    0 < (shortestFrom significand exponent top used left).digits := by
  induction left generalizing used with
  | zero =>
    exact Nat.mul_pos (Nat.mul_pos positive (power_pos (by decide) exponent))
      (power_pos (by decide) (-exponent))
  | succ left ih =>
    rw [shortestFrom]
    split
    · rename_i found nearest
      exact digits_pos_of_nearest? positive nearest
    · exact ih (used + 1)

theorem digits_reduced_pos {d : Decimal} (positive : 0 < d.digits) : 0 < d.reduced.digits := by
  induction d using Decimal.reduced.induct with
  | case1 d even ih =>
    rw [Decimal.reduced, if_pos even]
    apply ih
    show 0 < d.digits / 10
    omega
  | case2 d odd =>
    rwa [Decimal.reduced, if_neg odd]

theorem digits_shortest_pos {significand : Nat} (positive : 0 < significand) (exponent : Int) :
    0 < (shortest significand exponent).digits :=
  digits_reduced_pos (digits_shortestFrom_pos positive exponent _ _ _)

end SelectorProse.Binary64
