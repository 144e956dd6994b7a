import Mathlib.Data.List.DropRight
import SelectorProse.Text.Blank

/-!
Texts without blanks at their ends: what trimming leaves as it is, and what it leaves of a text that
was put behind another.
-/

set_option autoImplicit false

namespace SelectorProse.Text

/-- The text does not start with a blank. -/
def FrontClear (t : Text) : Prop := ∀ c ∈ t.head?, c.isBlank = false

/-- The text does not end with a blank. -/
def BackClear (t : Text) : Prop := ∀ c ∈ t.getLast?, c.isBlank = false

theorem frontClear_nil : FrontClear [] := nofun

theorem frontClear_cons {c : CodePoint} {t : Text} : FrontClear (c :: t) ↔ c.isBlank = false := by
  simp only [FrontClear, List.head?_cons, Option.mem_some_iff, forall_eq']

theorem frontClear_reverse {t : Text} : FrontClear t.reverse ↔ t.BackClear := by
  rw [FrontClear, BackClear, List.head?_reverse]

theorem FrontClear.of_start {t u : Text} (clear : u.FrontClear) (start : t <+: u) :
    t.FrontClear := by
  obtain ⟨rest, rfl⟩ := start
  cases t with
  | nil => exact frontClear_nil
  | cons c t => exact frontClear_cons.mpr (frontClear_cons.mp clear)

theorem FrontClear.append {t u : Text} (clear : t.FrontClear) (present : t ≠ []) :
    (t ++ u).FrontClear := by
  obtain ⟨c, rest, rfl⟩ := List.exists_cons_of_ne_nil present
  exact frontClear_cons.mpr (frontClear_cons.mp clear)

theorem frontClear_trimLeft (t : Text) : t.trimLeft.FrontClear := by
  intro c first
  have stopped := List.head?_dropWhile_not CodePoint.isBlank t
  rw [trimLeft, Option.mem_def] at first
  rw [first] at stopped
  exact stopped

theorem trimLeft_eq_self {t : Text} (clear : t.FrontClear) : t.trimLeft = t := by
  cases t with
  | nil => rfl
  | cons c t =>
    rw [frontClear_cons] at clear
    exact List.dropWhile_cons_of_neg (Bool.eq_false_iff.mp clear)

theorem trimRight_eq (t : Text) : t.trimRight = (trimLeft t.reverse).reverse := rfl

theorem backClear_trimRight (t : Text) : t.trimRight.BackClear := by
  rw [trimRight_eq, ← frontClear_reverse, List.reverse_reverse]
  exact frontClear_trimLeft t.reverse

theorem trimRight_start (t : Text) : t.trimRight <+: t := by
  rw [trimRight_eq, ← List.reverse_suffix, List.reverse_reverse]
  exact List.dropWhile_suffix _

/-- What stands behind something that is no blank stays. -/
theorem trimLeft_append {t : Text} (present : t.trimLeft ≠ []) (u : Text) :
    (t ++ u).trimLeft = t.trimLeft ++ u := by
  rw [trimLeft, List.dropWhile_append, if_neg]
  · rfl
  · rw [List.isEmpty_iff]
    exact present

/-- Only what was put behind a clear end can be trimmed there. -/
theorem trimRight_append {t : Text} (clear : t.BackClear) (u : Text) :
    (t ++ u).trimRight = t ++ u.trimRight := by
  rw [trimRight_eq, List.reverse_append, trimLeft, List.dropWhile_append]
  split
  · rename_i blank
    have whole : trimLeft t.reverse = t.reverse := trimLeft_eq_self (frontClear_reverse.mpr clear)
    rw [List.isEmpty_iff] at blank
    rw [trimLeft] at whole
    rw [whole, List.reverse_reverse, trimRight_eq, trimLeft, blank, List.reverse_nil,
      List.append_nil]
  · rw [List.reverse_append, List.reverse_reverse]
    rfl

/-- A start whose end is clear survives trimming at the back. -/
theorem start_trimRight {t u : Text} (clear : t.BackClear) (start : t <+: u) :
    t <+: u.trimRight := by
  obtain ⟨rest, rfl⟩ := start
  rw [trimRight_append clear]
  exact List.prefix_append t (trimRight rest)

theorem trimLeft_of_blank {t : Text} (blank : ∀ c ∈ t, c.isBlank = true) : t.trimLeft = [] :=
  List.dropWhile_eq_nil_iff.mpr blank

theorem trimRight_of_blank {t : Text} (blank : ∀ c ∈ t, c.isBlank = true) : t.trimRight = [] := by
  have reversed : ∀ c ∈ t.reverse, c.isBlank = true := by
    intro c member
    exact blank c (List.mem_reverse.mp member)
  rw [trimRight_eq, trimLeft_of_blank reversed, List.reverse_nil]

/-- Blanks around a text whose ends are clear are all that is trimmed. -/
theorem trim_between {lead t trail : Text} (leading : ∀ c ∈ lead, c.isBlank = true)
    (trailing : ∀ c ∈ trail, c.isBlank = true) (front : t.FrontClear) (back : t.BackClear) :
    (lead ++ t ++ trail).trim = t := by
  have started : (lead ++ (t ++ trail)).trimLeft = (t ++ trail).trimLeft :=
    List.dropWhile_append_of_pos leading
  rw [List.append_assoc, trim, started]
  by_cases empty : t = []
  · rw [empty, List.nil_append, trimLeft_of_blank trailing, trimRight_nil]
  · rw [trimLeft_eq_self (front.append empty), trimRight_append back, trimRight_of_blank trailing,
      List.append_nil]

theorem trim_eq_self {t : Text} (front : t.FrontClear) (back : t.BackClear) : t.trim = t := by
  have none : ∀ c ∈ ([] : Text), c.isBlank = true := List.forall_mem_nil _
  have between := trim_between none none front back
  rwa [List.nil_append, List.append_nil] at between

/-- A text that can be read as blanks before a clear front and as a clear end before something else
has a middle with both. -/
theorem exists_between {lead rest front trail : Text} (leading : ∀ c ∈ lead, c.isBlank = true)
    (clear : rest.FrontClear) (present : front ≠ []) (ended : front.BackClear)
    (same : lead ++ rest = front ++ trail) :
    ∃ t, front = lead ++ t ∧ t ≠ [] ∧ t.FrontClear := by
  -- The last of the front is no blank, so that it lies behind all that leads.
  have outside : ¬ front <+: lead := by
    intro within
    have blank := leading _ (within.mem (List.getLast_mem present))
    rw [ended _ (List.getLast?_eq_some_getLast present)] at blank
    exact nomatch blank
  rcases List.append_eq_append_iff.mp same with ⟨t, longer, split⟩ | ⟨t, shorter, -⟩
  · refine ⟨t, longer, ?_, clear.of_start ⟨trail, split.symm⟩⟩
    rintro rfl
    rw [List.append_nil] at longer
    exact outside (longer ▸ List.prefix_rfl)
  · exact absurd ⟨t, shorter.symm⟩ outside

theorem frontClear_trim (t : Text) : t.trim.FrontClear :=
  (frontClear_trimLeft t).of_start (trimRight_start t.trimLeft)

theorem backClear_trim (t : Text) : t.trim.BackClear := backClear_trimRight t.trimLeft

theorem trim_start_trimLeft (t : Text) : t.trim <+: t.trimLeft := trimRight_start t.trimLeft

end SelectorProse.Text
