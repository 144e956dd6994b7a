import SelectorProse.Text.ControlSequence

/-!
What is seen of a text where control sequences are hidden in it. Main statement: only sequences of
ASCII that start with the escape character are removed.
-/

set_option autoImplicit false

namespace SelectorProse.Text

/-- What may be seen of a text where control sequences are hidden. A hidden one is the escape
character, an opening bracket and characters of ASCII from the space to the tilde. -/
inductive SeenAs : Text → Text → Prop
  | nil : SeenAs [] []
  | kept {t seen : Text} (c : CodePoint) : SeenAs t seen → SeenAs (c :: t) (c :: seen)
  | hidden {body t seen : Text} : (∀ c ∈ body, 0x20 ≤ c.val ∧ c.val ≤ 0x7E) → SeenAs t seen →
      SeenAs (CodePoint.ofChar '\x1b' :: CodePoint.ofChar '[' :: (body ++ t)) seen

namespace SeenAs

variable {t seen : Text}

/-- A text without the escape character is seen as it is. -/
theorem eq_self (shown : SeenAs t seen) (plain : CodePoint.ofChar '\x1b' ∉ t) : seen = t := by
  induction shown with
  | nil => rfl
  | kept c shown ih => rw [ih fun member => plain (List.mem_cons_of_mem c member)]
  | hidden sequence shown ih => exact absurd (List.mem_cons_self ..) plain

/-- Nothing but ASCII is hidden. -/
theorem mem_iff {c : CodePoint} (beyond : 0x80 ≤ c.val) (shown : SeenAs t seen) :
    c ∈ seen ↔ c ∈ t := by
  induction shown with
  | nil => rfl
  | kept d shown ih => rw [List.mem_cons, List.mem_cons, ih]
  | hidden sequence shown ih =>
    have opening (d : CodePoint) (low : d.val < 0x80) : c ≠ d := by
      rintro rfl
      exact Nat.not_lt.mpr beyond low
    have outside : c ∉ _ := fun member => by
      have visible := (sequence c member).2
      omega
    rw [ih, List.mem_cons, List.mem_cons, List.mem_append, or_iff_right (opening _ (by decide)),
      or_iff_right (opening _ (by decide)), or_iff_right outside]

/-- What has no escape character is seen in front of what is seen of the rest. -/
theorem exists_of_plain_append {lead : Text} (plain : CodePoint.ofChar '\x1b' ∉ lead)
    (shown : SeenAs (lead ++ t) seen) : ∃ rest, SeenAs t rest ∧ seen = lead ++ rest := by
  induction lead generalizing seen with
  | nil => exact ⟨seen, shown, rfl⟩
  | cons c lead ih =>
    rw [List.mem_cons, not_or] at plain
    rw [List.cons_append] at shown
    generalize whole : c :: (lead ++ t) = text at shown
    cases shown with
    | nil => cases whole
    | kept d shown =>
      cases whole
      obtain ⟨rest, behind, rfl⟩ := ih plain.2 shown
      exact ⟨rest, behind, rfl⟩
    | hidden => exact absurd (List.cons.inj whole).1.symm plain.1

/-- What can stand in no control sequence is seen at the end of a text. -/
theorem exists_of_append_singleton {c : CodePoint} (outside : c.val < 0x1B)
    (shown : SeenAs (t ++ [c]) seen) : ∃ front, SeenAs t front ∧ seen = front ++ [c] := by
  generalize whole : t ++ [c] = text at shown
  induction shown generalizing t with
  | nil => cases List.append_ne_nil_of_right_ne_nil t (List.cons_ne_nil c []) whole
  | kept d shown ih =>
    cases t with
    | nil =>
      cases whole
      cases shown
      exact ⟨[], .nil, rfl⟩
    | cons d t =>
      cases whole
      obtain ⟨front, before, rfl⟩ := ih rfl
      exact ⟨d :: front, .kept d before, rfl⟩
  | @hidden body rest seen sequence shown ih =>
    rcases rest.eq_nil_or_concat with rfl | ⟨middle, d, rfl⟩
    · -- The sequence would end with the last character, which stands in none.
      have member : c ∈ CodePoint.ofChar '\x1b' :: CodePoint.ofChar '[' :: body := by
        rw [List.append_nil] at whole
        exact whole ▸ List.mem_append_right t (List.mem_singleton_self c)
      rcases List.mem_cons.mp member with rfl | member
      · exact absurd outside (by decide)
      rcases List.mem_cons.mp member with rfl | member
      · exact absurd outside (by decide)
      · have visible := (sequence c member).1
        omega
    · rw [List.concat_eq_append, ← List.append_assoc, ← List.cons_append,
        ← List.cons_append] at whole
      obtain ⟨rfl, last⟩ := List.append_inj' whole rfl
      cases last
      rw [List.concat_eq_append] at ih
      obtain ⟨front, before, rfl⟩ := ih rfl
      exact ⟨front, .hidden sequence before, rfl⟩

end SeenAs

/-- What stands behind the opening of a control sequence decides where it ends. -/
theorem afterControlSequence?_opened (body : Text) :
    afterControlSequence? (Text.ofString "\x1b[" ++ body) =
      match (body.dropWhile isParameter).dropWhile isIntermediate with
      | last :: rest => if isFinal last then some rest else none
      | [] => none :=
  if_pos (List.isPrefixOf_iff_prefix.mpr (List.prefix_append _ body))

theorem afterControlSequence?_unopened {t : Text} (unopened : ¬ Text.ofString "\x1b[" <+: t) :
    afterControlSequence? t = none :=
  if_neg fun opened => unopened (List.isPrefixOf_iff_prefix.mp opened)

/-- A control sequence goes on in ASCII, from the space to the tilde. -/
theorem exists_of_afterControlSequence? {t rest : Text}
    (found : afterControlSequence? t = some rest) :
    ∃ body, t = CodePoint.ofChar '\x1b' :: CodePoint.ofChar '[' :: (body ++ rest) ∧
      ∀ c ∈ body, 0x20 ≤ c.val ∧ c.val ≤ 0x7E := by
  by_cases opened : Text.ofString "\x1b[" <+: t
  · obtain ⟨body, rfl⟩ := opened
    rw [afterControlSequence?_opened] at found
    split at found
    · rename_i last tail shape
      split at found
      · rename_i final
        cases found
        refine ⟨body.takeWhile isParameter ++
          (body.dropWhile isParameter).takeWhile isIntermediate ++ [last], ?_, ?_⟩
        · rw [List.append_assoc, List.append_assoc, List.singleton_append, ← shape,
            List.takeWhile_append_dropWhile, List.takeWhile_append_dropWhile]
          rfl
        · simp only [List.forall_mem_append, List.forall_mem_singleton]
          refine ⟨⟨fun c member => ?_, fun c member => ?_⟩, ?_⟩
          · have parameter := List.all_eq_true.mp List.all_takeWhile c member
            simp only [isParameter, Bool.and_eq_true, decide_eq_true_eq] at parameter
            omega
          · have intermediate := List.all_eq_true.mp List.all_takeWhile c member
            simp only [isIntermediate, Bool.and_eq_true, decide_eq_true_eq] at intermediate
            omega
          · simp only [isFinal, Bool.and_eq_true, decide_eq_true_eq] at final
            omega
      · cases found
    · cases found
  · rw [afterControlSequence?_unopened opened] at found
    cases found

theorem removeControlSequences_nil : removeControlSequences [] = [] := by
  rw [removeControlSequences]

theorem removeControlSequences_of_some {t rest : Text}
    (found : afterControlSequence? t = some rest) :
    t.removeControlSequences = rest.removeControlSequences := by
  cases t with
  | nil => cases found
  | cons c tail =>
    rw [removeControlSequences]
    split
    · rename_i other same
      rw [found, Option.some.injEq] at same
      rw [same]
    · rename_i none
      rw [found] at none
      cases none

theorem removeControlSequences_of_none {c : CodePoint} {t : Text}
    (none : afterControlSequence? (c :: t) = none) :
    removeControlSequences (c :: t) = c :: t.removeControlSequences := by
  rw [removeControlSequences]
  split
  · rename_i rest found
    rw [none] at found
    cases found
  · rfl

/-- Nothing but control sequences is removed. -/
theorem seenAs_removeControlSequences (t : Text) : SeenAs t t.removeControlSequences := by
  induction t using removeControlSequences.induct with
  | case1 =>
    rw [removeControlSequences_nil]
    exact .nil
  | case2 c tail rest found ih =>
    obtain ⟨body, whole, sequence⟩ := exists_of_afterControlSequence? found
    rw [removeControlSequences_of_some found, whole]
    exact .hidden sequence ih
  | case3 c tail none ih =>
    rw [removeControlSequences_of_none none]
    exact .kept c ih

theorem afterControlSequence?_of_ne {c : CodePoint} (plain : c ≠ CodePoint.ofChar '\x1b')
    (t : Text) : afterControlSequence? (c :: t) = none := by
  refine afterControlSequence?_unopened fun opened => ?_
  exact plain (List.cons_prefix_cons.mp opened).1.symm

/-- What has no escape character is seen as it is. -/
theorem removeControlSequences_plain_append {lead : Text}
    (plain : CodePoint.ofChar '\x1b' ∉ lead) (t : Text) :
    (lead ++ t).removeControlSequences = lead ++ t.removeControlSequences := by
  induction lead with
  | nil => rfl
  | cons c lead ih =>
    rw [List.mem_cons, not_or] at plain
    rw [List.cons_append, removeControlSequences_of_none
      (afterControlSequence?_of_ne (Ne.symm plain.1) _), ih plain.2, List.cons_append]

end SelectorProse.Text
