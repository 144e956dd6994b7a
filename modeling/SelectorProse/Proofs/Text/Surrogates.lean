import SelectorProse.Proofs.Text.Numeral
import SelectorProse.Text.Surrogates

/-!
Surrogate pairs: a code point above `0xFFFF` is what its pair encodes, and joining changes a text
exactly if the text holds a pair.
-/

set_option autoImplicit false

namespace SelectorProse

namespace CodePoint

theorem isHighSurrogate_iff {c : CodePoint} :
    c.isHighSurrogate = true ↔ 0xD800 ≤ c.val ∧ c.val ≤ 0xDBFF := by
  simp only [isHighSurrogate, Bool.and_eq_true, decide_eq_true_eq]

theorem isLowSurrogate_iff {c : CodePoint} :
    c.isLowSurrogate = true ↔ 0xDC00 ≤ c.val ∧ c.val ≤ 0xDFFF := by
  simp only [isLowSurrogate, Bool.and_eq_true, decide_eq_true_eq]

theorem val_lowSurrogate (c : CodePoint) :
    c.lowSurrogate.val = 0xDC00 + (c.val - 0x10000) % 0x400 :=
  val_ofNat (by omega)

theorem isLowSurrogate_lowSurrogate (c : CodePoint) : c.lowSurrogate.isLowSurrogate = true := by
  rw [isLowSurrogate_iff, val_lowSurrogate]
  omega

section

variable {c : CodePoint} (large : 0xFFFF < c.val)
include large

theorem val_highSurrogate : c.highSurrogate.val = 0xD800 + (c.val - 0x10000) / 0x400 := by
  have bound := c.isLt
  exact val_ofNat (by omega)

theorem isHighSurrogate_highSurrogate : c.highSurrogate.isHighSurrogate = true := by
  have bound := c.isLt
  rw [isHighSurrogate_iff, val_highSurrogate large]
  omega

theorem ofSurrogates_highSurrogate_lowSurrogate :
    ofSurrogates c.highSurrogate c.lowSurrogate = c := by
  have bound := c.isLt
  apply Fin.ext
  rw [ofSurrogates, val_highSurrogate large, val_lowSurrogate, val_ofNat (by omega)]
  omega

end

theorem isSurrogate_of_isHighSurrogate {c : CodePoint} (high : c.isHighSurrogate = true) :
    c.isSurrogate = true := by
  rw [isHighSurrogate_iff] at high
  rw [isSurrogate, Bool.and_eq_true, decide_eq_true_eq, decide_eq_true_eq]
  omega

theorem isSurrogate_of_isLowSurrogate {c : CodePoint} (low : c.isLowSurrogate = true) :
    c.isSurrogate = true := by
  rw [isLowSurrogate_iff] at low
  rw [isSurrogate, Bool.and_eq_true, decide_eq_true_eq, decide_eq_true_eq]
  omega

/-- What a pair encodes lies above `0xFFFF`. -/
theorem not_isSurrogate_ofSurrogates {high low : CodePoint}
    (pair : (high.isHighSurrogate && low.isLowSurrogate) = true) :
    (ofSurrogates high low).isSurrogate = false := by
  rw [Bool.and_eq_true, isHighSurrogate_iff, isLowSurrogate_iff] at pair
  have value : (ofSurrogates high low).val =
      0x10000 + (high.val - 0xD800) * 0x400 + (low.val - 0xDC00) := val_ofNat (by omega)
  rw [← Bool.not_eq_true, isSurrogate, Bool.and_eq_true, decide_eq_true_eq, decide_eq_true_eq,
    value]
  omega

theorem not_isLowSurrogate_of_isHighSurrogate {c : CodePoint}
    (high : c.isHighSurrogate = true) : c.isLowSurrogate = false := by
  rw [isHighSurrogate_iff] at high
  rw [← Bool.not_eq_true, isLowSurrogate_iff]
  omega

end CodePoint

namespace Text

theorem unpaired_cons {c : CodePoint} {rest : Text} : Unpaired (c :: rest) ↔
    (∀ d others, rest = d :: others → ¬ (c.isHighSurrogate && d.isLowSurrogate) = true) ∧
      Unpaired rest := by
  cases rest with
  | nil => simp [Unpaired]
  | cons d others => simp [Unpaired]

/-- A code point that is no surrogate stands in no pair. -/
theorem unpaired_cons_of_not_isSurrogate {c : CodePoint} {rest : Text}
    (single : c.isSurrogate = false) : Unpaired (c :: rest) ↔ Unpaired rest := by
  rw [unpaired_cons]
  refine and_iff_right fun d others _ pair => ?_
  rw [Bool.and_eq_true] at pair
  rw [CodePoint.isSurrogate_of_isHighSurrogate pair.1] at single
  exact nomatch single

theorem joinSurrogates_of_pair {high low : CodePoint} (rest : Text)
    (pair : (high.isHighSurrogate && low.isLowSurrogate) = true) :
    joinSurrogates (high :: low :: rest) =
      CodePoint.ofSurrogates high low :: joinSurrogates rest := by
  rw [joinSurrogates, if_pos pair]

theorem length_joinSurrogates_le (t : Text) : t.joinSurrogates.length ≤ t.length := by
  induction t using joinSurrogates.induct with
  | case1 => exact Nat.le_refl _
  | case2 c => exact Nat.le_refl _
  | case3 c d rest pair ih =>
    rw [joinSurrogates_of_pair rest pair]
    simp only [List.length_cons]
    omega
  | case4 c d rest alone ih =>
    rw [joinSurrogates, if_neg alone]
    simp only [List.length_cons] at ih ⊢
    omega

/-- Joining changes a text exactly if some pair stands in it. -/
theorem joinSurrogates_eq_self_iff {t : Text} : t.joinSurrogates = t ↔ t.Unpaired := by
  refine ⟨?_, joinSurrogates_of_unpaired⟩
  induction t using joinSurrogates.induct with
  | case1 => exact fun _ => trivial
  | case2 c => exact fun _ => trivial
  | case3 c d rest pair ih =>
    intro same
    have shorter := length_joinSurrogates_le rest
    have equal := congrArg List.length same
    rw [joinSurrogates_of_pair rest pair] at equal
    simp only [List.length_cons] at equal
    omega
  | case4 c d rest alone ih =>
    intro same
    rw [joinSurrogates, if_neg alone, List.cons.injEq] at same
    exact ⟨alone, ih same.2⟩

instance (t : Text) : Decidable t.Unpaired := decidable_of_iff _ joinSurrogates_eq_self_iff

end Text

end SelectorProse
