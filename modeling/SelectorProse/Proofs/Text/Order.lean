import Mathlib.Data.List.Lex
import Mathlib.Data.List.Sort
import SelectorProse.Text.Basic

/-!
The order of texts by code points. Main statement: sorting texts that are all different gives the
one ascending list of them.
-/

set_option autoImplicit false

namespace SelectorProse

/-- The order of code points by their numbers. -/
def CodePoint.Below (c d : CodePoint) : Prop := c.val < d.val

instance : DecidableRel CodePoint.Below :=
  fun c d => inferInstanceAs (Decidable (c.val < d.val))

instance : Std.Asymm CodePoint.Below where
  asymm _ _ := Nat.lt_asymm

instance : Std.Trichotomous CodePoint.Below where
  trichotomous _ _ above below :=
    Fin.ext (Nat.le_antisymm (Nat.not_lt.mp below) (Nat.not_lt.mp above))

namespace Text

/-- The first code point in which the texts differ decides; what another text begins with comes
before that text. -/
def Before : Text → Text → Prop := List.Lex CodePoint.Below

instance : DecidableRel Before := inferInstanceAs (DecidableRel (List.Lex CodePoint.Below))

instance : Std.Asymm Before := List.Lex.asymm CodePoint.Below

instance : Std.Trichotomous Before := List.Lex.trichotomous CodePoint.Below

theorem Before.trans {s t u : Text} (first : Before s t) (second : Before t u) : Before s u :=
  List.lex_trans Nat.lt_trans first second

theorem precedes_iff {s t : Text} : s.precedes t = true ↔ s = t ∨ Before s t := by
  induction s generalizing t with
  | nil =>
    cases t with
    | nil => exact iff_of_true rfl (.inl rfl)
    | cons d t => exact iff_of_true rfl (.inr .nil)
  | cons c s ih =>
    cases t with
    | nil => exact iff_of_false Bool.false_ne_true nofun
    | cons d t =>
      rw [precedes, Bool.or_eq_true, Bool.and_eq_true, decide_eq_true_eq, beq_iff_eq, ih]
      constructor
      · rintro (below | ⟨same, rfl | before⟩)
        · exact .inr (.rel below)
        · exact .inl (congrArg (· :: s) (Fin.ext same))
        · exact .inr (Fin.ext same ▸ .cons before)
      · rintro (same | below | before)
        · obtain ⟨rfl, rfl⟩ := List.cons.inj same
          exact .inr ⟨rfl, .inl rfl⟩
        · exact .inl (by assumption)
        · exact .inr ⟨rfl, .inr (by assumption)⟩

theorem precedes_total (s t : Text) : (s.precedes t || t.precedes s) = true := by
  rw [Bool.or_eq_true, precedes_iff, precedes_iff]
  by_contra neither
  simp only [not_or] at neither
  obtain ⟨⟨different, first⟩, -, second⟩ := neither
  exact different (Std.Trichotomous.trichotomous s t first second)

theorem precedes_trans (s t u : Text) (first : s.precedes t = true)
    (second : t.precedes u = true) : s.precedes u = true := by
  rw [precedes_iff] at *
  rcases first with rfl | first
  · exact second
  · rcases second with rfl | second
    · exact .inr first
    · exact .inr (first.trans second)

/-- Each text comes before all behind it, so that none stands there twice. -/
def Ascending (texts : List Text) : Prop := texts.Pairwise Before

instance (texts : List Text) : Decidable (Ascending texts) :=
  inferInstanceAs (Decidable (texts.Pairwise Before))

theorem ascending_sort {texts : List Text} (distinct : texts.Nodup) : Ascending (sort texts) := by
  have ordered : (sort texts).Pairwise fun s t => s.precedes t = true :=
    List.pairwise_mergeSort precedes_trans precedes_total texts
  have different : (sort texts).Pairwise (· ≠ ·) :=
    (List.mergeSort_perm texts precedes).nodup_iff.mpr distinct
  refine (ordered.and different).imp fun found => ?_
  exact (precedes_iff.mp found.1).resolve_left found.2

/-- What an ascending list holds determines it. -/
theorem Ascending.eq_of_mem_iff {first second : List Text} (ascending : Ascending first)
    (other : Ascending second) (same : ∀ text, text ∈ first ↔ text ∈ second) : first = second :=
  List.Pairwise.eq_of_mem_iff ascending other same

end Text

end SelectorProse
