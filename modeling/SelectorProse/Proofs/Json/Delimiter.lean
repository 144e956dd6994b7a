import Mathlib.Data.List.Find
import Mathlib.Data.List.TakeWhile
import SelectorProse.Proofs.Json.Scan

/-!
Delimiters: the blanks and marks that end a number or a word. Main statements: numbers and words
are the same before any tail that begins with a delimiter, and they lie inside the source.
-/

set_option autoImplicit false

namespace SelectorProse.Json

/-- Blanks and marks are part of no number and of no word. -/
def isDelimiter (c : CodePoint) : Bool := isBlank c || (punctuation? c).isSome

/-- The text is empty or begins with a delimiter. -/
def Delimited (tail : Text) : Prop := ∀ c rest, tail = c :: rest → isDelimiter c = true

theorem delimited_cons {c : CodePoint} (rest : Text) (delimiter : isDelimiter c = true) :
    Delimited (c :: rest) := by
  intro d others same
  cases same
  exact delimiter

theorem isDelimiter_cases {c : CodePoint} (delimiter : isDelimiter c = true) :
    c ∈ ([' ', '\t', '\n', '\r', '[', ']', '\x7b', '\x7d', ',', ':'] : Text) := by
  rw [isDelimiter, Bool.or_eq_true] at delimiter
  rcases delimiter with blank | mark
  · simp only [isBlank, Bool.or_eq_true, beq_iff_eq] at blank
    rcases blank with ((rfl | rfl) | rfl) | rfl <;> decide
  · by_contra absent
    simp only [List.mem_cons, List.not_mem_nil, or_false, not_or] at absent
    simp [punctuation?, absent] at mark

theorem not_isDigit_of_isDelimiter {c : CodePoint} (delimiter : isDelimiter c = true) :
    isDigit c = false := by
  have member := isDelimiter_cases delimiter
  simp only [List.mem_cons, List.not_mem_nil, or_false] at member
  rcases member with rfl | rfl | rfl | rfl | rfl | rfl | rfl | rfl | rfl | rfl <;> rfl

theorem ne_of_isDelimiter {c d : CodePoint} (delimiter : isDelimiter c = true)
    (other : isDelimiter d = false) : c ≠ d := by
  rintro rfl
  rw [other] at delimiter
  cases delimiter

section

variable {tail : Text} (delimited : Delimited tail)
include delimited

/-- A word without delimiters stands in front of a delimited tail or nowhere. -/
theorem isPrefixOf_append {word : Text} (inside : word.any isDelimiter = false)
    (source : Text) : word.isPrefixOf (source ++ tail) = word.isPrefixOf source := by
  induction word generalizing source with
  | nil => rfl
  | cons letter word ih =>
    rw [List.any_cons, Bool.or_eq_false_iff] at inside
    cases source with
    | nil =>
      cases tail with
      | nil => rfl
      | cons c rest =>
        have other := ne_of_isDelimiter (delimited c rest rfl) inside.1
        change (letter == c && word.isPrefixOf rest) = false
        rw [beq_eq_false_iff_ne.mpr other.symm, Bool.false_and]
    | cons c source =>
      change (letter == c && word.isPrefixOf (source ++ tail)) =
        (letter == c && word.isPrefixOf source)
      rw [ih inside.2]

theorem takeWhile_isDigit_append_of_delimited (source : Text) :
    (source ++ tail).takeWhile isDigit = source.takeWhile isDigit := by
  induction source with
  | nil =>
    cases tail with
    | nil => rfl
    | cons c rest =>
      have other := not_isDigit_of_isDelimiter (delimited c rest rfl)
      rw [List.nil_append, List.takeWhile_cons, other]
      rfl
  | cons c source ih => rw [List.cons_append, List.takeWhile_cons, List.takeWhile_cons, ih]

theorem wholeDigits_append_of_delimited (source : Text) :
    wholeDigits (source ++ tail) = wholeDigits source := by
  rw [wholeDigits, wholeDigits, isPrefixOf_append delimited (by decide),
    takeWhile_isDigit_append_of_delimited delimited]

theorem fractionDigits_append_of_delimited (source : Text) :
    fractionDigits (source ++ tail) = fractionDigits source := by
  have other (c : CodePoint) (rest : Text) (point : c ≠ '.') : fractionDigits (c :: rest) = [] := by
    rw [fractionDigits]
    intro _ _ same
    cases same
    exact point rfl
  cases source with
  | nil =>
    cases tail with
    | nil => rfl
    | cons c rest => exact other c rest (ne_of_isDelimiter (delimited c rest rfl) (by decide))
  | cons c source =>
    by_cases point : c = '.'
    · subst point
      exact takeWhile_isDigit_append_of_delimited delimited source
    · rw [List.cons_append, other c _ point, other c _ point]

theorem exponentParts_append_of_delimited (source : Text) :
    exponentParts (source ++ tail) = exponentParts source := by
  have digits := takeWhile_isDigit_append_of_delimited delimited
  rw [exponentParts.eq_def, exponentParts.eq_def]
  rcases source with _ | ⟨letter, _ | ⟨sign, source⟩⟩
  · cases tail with
    | nil => rfl
    | cons c rest =>
      have delimiter := delimited c rest rfl
      have lower : c ≠ 'e' := ne_of_isDelimiter delimiter (by decide)
      have upper : c ≠ 'E' := ne_of_isDelimiter delimiter (by decide)
      simp [lower, upper]
  · cases tail with
    | nil => rfl
    | cons c rest =>
      have delimiter := delimited c rest rfl
      have plus : c ≠ '+' := ne_of_isDelimiter delimiter (by decide)
      have minus : c ≠ '-' := ne_of_isDelimiter delimiter (by decide)
      have none := digits []
      rw [List.nil_append] at none
      simp [plus, minus, none]
  · simp only [List.cons_append, digits]
    rw [← List.cons_append, digits]

end

theorem length_wholeDigits_le (source : Text) : (wholeDigits source).length ≤ source.length := by
  rw [wholeDigits]
  split
  · rename_i zero
    exact (List.isPrefixOf_iff_prefix.mp zero).length_le
  · exact (List.takeWhile_sublist _).length_le

/-- A fraction takes its point and its digits. -/
theorem length_fractionDigits_lt {source : Text} (some : fractionDigits source ≠ []) :
    (fractionDigits source).length + 1 ≤ source.length := by
  rw [fractionDigits.eq_def] at some ⊢
  split
  · exact Nat.succ_le_succ (List.takeWhile_sublist _).length_le
  · rename_i other
    split at some
    · exact absurd rfl (other _ _)
    · exact absurd rfl some

/-- An exponent takes its letter, its sign and its digits. -/
theorem length_exponentParts_le {source : Text} (some : (exponentParts source).2 ≠ []) :
    1 + (exponentParts source).1.length + (exponentParts source).2.length ≤ source.length := by
  have digits (t : Text) : (t.takeWhile isDigit).length ≤ t.length :=
    (List.takeWhile_sublist _).length_le
  rw [exponentParts.eq_def] at some ⊢
  rcases source with _ | ⟨letter, _ | ⟨sign, source⟩⟩
  · exact absurd rfl some
  · dsimp only at some
    split at some
    · exact absurd rfl some
    · exact absurd rfl some
  · have signed := digits source
    have plain := digits (sign :: source)
    dsimp only at some ⊢
    split at some
    · rename_i letter
      rw [if_pos letter]
      split
      · simp only [List.length_cons, List.length_nil]
        omega
      · simp only [List.length_cons, List.length_nil] at plain ⊢
        omega
    · exact absurd rfl some

theorem length_drop_minus_le (source : Text) :
    (if (Text.ofString "-").isPrefixOf source = true then source.drop 1 else source).length +
      (if (Text.ofString "-").isPrefixOf source = true then 1 else 0) ≤ source.length := by
  split
  · rename_i negative
    have long := (List.isPrefixOf_iff_prefix.mp negative).length_le
    have one : (Text.ofString "-").length = 1 := rfl
    rw [List.length_drop]
    omega
  · exact Nat.le_refl _

/-- A number is a whole or a floating point one, and no longer than the text that it stands in. -/
theorem number?_cases {source : Text} {token : Token} {width : Nat}
    (found : number? source = some (token, width)) :
    (1 ≤ width ∧ width ≤ source.length) ∧
      ((∃ negative rest, token = .int negative (wholeDigits rest)) ∨ ∃ x, token = .float x) := by
  have signed := length_drop_minus_le source
  simp only [number?] at found
  generalize (if (Text.ofString "-").isPrefixOf source = true then source.drop 1 else source) =
    body at found signed
  generalize (if (Text.ofString "-").isPrefixOf source = true then 1 else 0) =
    minus at found signed
  split at found
  · cases found
  · rename_i some
    have whole := length_wholeDigits_le body
    have first := List.length_pos_iff.mpr some
    have behind := List.length_drop (l := body) (i := (wholeDigits body).length)
    generalize body.drop (wholeDigits body).length = rest at found behind
    have pointed : (if fractionDigits rest = [] then 0 else (fractionDigits rest).length + 1) ≤
        rest.length := by
      split
      · exact Nat.zero_le _
      · exact length_fractionDigits_lt ‹_›
    generalize (if fractionDigits rest = [] then 0 else (fractionDigits rest).length + 1) =
      point at found pointed
    have scaled : (if (exponentParts (rest.drop point)).2 = [] then 0
        else 1 + (exponentParts (rest.drop point)).1.length +
          (exponentParts (rest.drop point)).2.length) ≤ rest.length - point := by
      rw [← List.length_drop]
      split
      · exact Nat.zero_le _
      · exact length_exponentParts_le ‹_›
    split at found
    · cases found
      exact ⟨by omega, Or.inl ⟨_, _, rfl⟩⟩
    · cases found
      exact ⟨by omega, Or.inr ⟨_, rfl⟩⟩

theorem drop_minus_append (source tail : Text) :
    (if (Text.ofString "-").isPrefixOf source = true then (source ++ tail).drop 1
      else source ++ tail) =
      (if (Text.ofString "-").isPrefixOf source = true then source.drop 1 else source) ++ tail := by
  split
  · rename_i negative
    exact List.drop_append_of_le_length (List.isPrefixOf_iff_prefix.mp negative).length_le
  · rfl

section

variable {tail : Text} (delimited : Delimited tail)
include delimited

theorem number?_append (source : Text) : number? (source ++ tail) = number? source := by
  have negative : (Text.ofString "-").isPrefixOf (source ++ tail) =
      (Text.ofString "-").isPrefixOf source := isPrefixOf_append delimited (by decide) source
  simp only [number?, negative, drop_minus_append]
  generalize (if (Text.ofString "-").isPrefixOf source = true then source.drop 1 else source) =
    body
  rw [wholeDigits_append_of_delimited delimited,
    List.drop_append_of_le_length (length_wholeDigits_le body)]
  generalize body.drop (wholeDigits body).length = rest
  have pointed : (if fractionDigits rest = [] then 0 else (fractionDigits rest).length + 1) ≤
      rest.length := by
    split
    · exact Nat.zero_le _
    · exact length_fractionDigits_lt ‹_›
  rw [fractionDigits_append_of_delimited delimited, List.drop_append_of_le_length pointed,
    exponentParts_append_of_delimited delimited]

theorem word?_append (source : Text) : word? (source ++ tail) = word? source := by
  rw [word?, word?]
  congr 1
  have letters : (words.all fun entry => !entry.1.any isDelimiter) = true := by decide
  rw [List.all_eq_true] at letters
  refine List.find?_congr fun entry member => ?_
  exact isPrefixOf_append delimited (by simpa using letters entry member) source

end

theorem word?_width_le {source : Text} {token : Token} {width : Nat}
    (found : word? source = some (token, width)) : 1 ≤ width ∧ width ≤ source.length := by
  have spelt : (words.all fun entry => decide (1 ≤ entry.1.length)) = true := by decide
  rw [List.all_eq_true] at spelt
  obtain ⟨entry, chosen, same⟩ := Option.map_eq_some_iff.mp found
  cases same
  have stands := List.find?_some chosen
  have member := List.mem_of_find?_eq_some chosen
  exact ⟨of_decide_eq_true (spelt entry member),
    (List.isPrefixOf_iff_prefix.mp stands).length_le⟩

end SelectorProse.Json
