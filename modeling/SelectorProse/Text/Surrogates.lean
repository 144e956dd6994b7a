import SelectorProse.Text.Basic

/-!
Surrogate pairs: writing a code point above `0xFFFF` as two surrogates, and reading two surrogates
that stand side by side as the code point they encode.
-/

set_option autoImplicit false

namespace SelectorProse

/-- The surrogate pair of a code point above `0xFFFF`; any other code point alone. -/
def CodePoint.units (c : CodePoint) : Text :=
  if c.val ≤ 0xFFFF then [c] else [c.highSurrogate, c.lowSurrogate]

/-- Reads left to right each high surrogate directly before a low one as one code point. -/
def Text.joinSurrogates : Text → Text
  | [] => []
  | [c] => [c]
  | c :: d :: rest =>
    if c.isHighSurrogate && d.isLowSurrogate then
      CodePoint.ofSurrogates c d :: joinSurrogates rest
    else
      c :: joinSurrogates (d :: rest)

/-- No high surrogate stands directly before a low one. -/
def Text.Unpaired : Text → Prop
  | [] => True
  | [_] => True
  | c :: d :: rest => ¬ (c.isHighSurrogate && d.isLowSurrogate) ∧ Unpaired (d :: rest)

theorem Text.joinSurrogates_of_unpaired {t : Text} (unpaired : t.Unpaired) :
    t.joinSurrogates = t := by
  induction t with
  | nil => rfl
  | cons c rest ih =>
    cases rest with
    | nil => rfl
    | cons d rest =>
      rw [joinSurrogates, if_neg unpaired.1, ih unpaired.2]

end SelectorProse
