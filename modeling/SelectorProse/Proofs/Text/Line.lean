import SelectorProse.Text.Line

/-!
Line ends made uniform. Main statements: the start of a text up to its first carriage return stays
as it is, and line feeds that were written as any one line end are restored.
-/

set_option autoImplicit false

namespace SelectorProse.Text

open CodePoint (ofChar)

section

variable {c : CodePoint} {rest : Text}

theorem unifyLineEnds_cons (other : c ≠ '\r') :
    unifyLineEnds (c :: rest) = c :: unifyLineEnds rest := by
  cases rest with
  | nil => exact if_neg other
  | cons d rest => exact if_neg other

theorem unifyLineEnds_lineFeed :
    unifyLineEnds (ofChar '\r' :: ofChar '\n' :: rest) = ofChar '\n' :: unifyLineEnds rest := rfl

theorem unifyLineEnds_return (alone : ∀ others, rest ≠ ofChar '\n' :: others) :
    unifyLineEnds (ofChar '\r' :: rest) = ofChar '\n' :: unifyLineEnds rest := by
  cases rest with
  | nil => rfl
  | cons d rest =>
    have other : d ≠ '\n' := by
      rintro rfl
      exact alone rest rfl
    exact (if_pos rfl).trans (if_neg other)

/-- A carriage return becomes a line feed, and a line feed behind it is left out. -/
theorem exists_unifyLineEnds_return (rest : Text) :
    ∃ behind, (rest = behind ∨ rest = ofChar '\n' :: behind) ∧
      unifyLineEnds (ofChar '\r' :: rest) = ofChar '\n' :: unifyLineEnds behind := by
  by_cases feed : ∃ others, rest = ofChar '\n' :: others
  · obtain ⟨others, rfl⟩ := feed
    exact ⟨others, Or.inr rfl, unifyLineEnds_lineFeed⟩
  · have alone : ∀ others, rest ≠ ofChar '\n' :: others := by
      intro others same
      exact feed ⟨others, same⟩
    exact ⟨rest, Or.inl rfl, unifyLineEnds_return alone⟩

/-- Every text is a start without carriage returns, or such a start, a carriage return and more. -/
theorem exists_line (t : Text) : ∃ line, (∀ c ∈ line, c ≠ ofChar '\r') ∧
    (t = line ∨ ∃ behind, t = line ++ ofChar '\r' :: behind) := by
  induction t with
  | nil => exact ⟨[], List.forall_mem_nil _, Or.inl rfl⟩
  | cons c t ih =>
    by_cases carriage : c = '\r'
    · exact ⟨[], List.forall_mem_nil _, Or.inr ⟨t, by rw [carriage]; rfl⟩⟩
    · obtain ⟨line, clean, same⟩ := ih
      refine ⟨c :: line, List.forall_mem_cons.mpr ⟨carriage, clean⟩, ?_⟩
      rcases same with rfl | ⟨behind, rfl⟩
      · exact Or.inl rfl
      · exact Or.inr ⟨behind, rfl⟩

theorem unifyLineEnds_append {line : Text} (clean : ∀ c ∈ line, c ≠ ofChar '\r')
    (behind : Text) : unifyLineEnds (line ++ behind) = line ++ unifyLineEnds behind := by
  induction line with
  | nil => rfl
  | cons c line ih =>
    rw [List.forall_mem_cons] at clean
    rw [List.cons_append, unifyLineEnds_cons clean.1, ih clean.2, List.cons_append]

end

/-- The line ends that are known. -/
def lineEnds : List Text := [['\n'], ['\r', '\n'], ['\r']]

/-- The text with this line end for each line feed. -/
def withLineEnds (t ending : Text) : Text :=
  t.flatMap fun c : CodePoint => if c = '\n' then ending else [c]

section

variable {ending t : Text} {c : CodePoint}

theorem withLineEnds_cons_of_ne (other : c ≠ '\n') (t : Text) :
    withLineEnds (c :: t) ending = c :: withLineEnds t ending := by
  rw [withLineEnds, List.flatMap_cons, if_neg other]
  rfl

theorem withLineEnds_lineFeed (t ending : Text) :
    withLineEnds (ofChar '\n' :: t) ending = ending ++ withLineEnds t ending := rfl

/-- Where each line feed was written as a carriage return, no line feed is left. -/
theorem withLineEnds_return_ne (t others : Text) :
    withLineEnds t ['\r'] ≠ ofChar '\n' :: others := by
  cases t with
  | nil => exact (List.cons_ne_nil _ _).symm
  | cons c t =>
    by_cases feed : c = '\n'
    · subst feed
      rw [withLineEnds_lineFeed]
      intro same
      exact absurd (List.cons.inj same).1 (by decide)
    · rw [withLineEnds_cons_of_ne feed]
      intro same
      exact feed (List.cons.inj same).1

/-- Line feeds that were written as any one line end are restored. -/
theorem unifyLineEnds_withLineEnds (known : ending ∈ lineEnds)
    (clean : ∀ c ∈ t, c ≠ ofChar '\r') : unifyLineEnds (withLineEnds t ending) = t := by
  induction t with
  | nil => rfl
  | cons c t ih =>
    rw [List.forall_mem_cons] at clean
    by_cases feed : c = '\n'
    · subst feed
      rw [withLineEnds_lineFeed]
      simp only [lineEnds, List.mem_cons, List.not_mem_nil, or_false] at known
      rcases known with rfl | rfl | rfl
      · rw [List.singleton_append, unifyLineEnds_cons (by decide), ih clean.2]
      · rw [List.cons_append, List.singleton_append, unifyLineEnds_lineFeed, ih clean.2]
      · rw [List.singleton_append, unifyLineEnds_return (withLineEnds_return_ne t), ih clean.2]
    · rw [withLineEnds_cons_of_ne feed, unifyLineEnds_cons clean.1, ih clean.2]

end

end SelectorProse.Text
