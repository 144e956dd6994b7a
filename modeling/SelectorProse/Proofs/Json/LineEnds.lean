import SelectorProse.Proofs.Json.Steps
import SelectorProse.Proofs.Text.Line

/-!
Line ends in a document. They stand between tokens only, where all of them are blanks; no text
between quotation marks holds one. Main statement: a source is read alike with uniform line ends.
-/

set_option autoImplicit false

namespace SelectorProse.Json

open CodePoint (ofChar)

/-- The tokens of a source as far as they decide what is read. -/
def blurredTokens (source : Text) : List Token := (tokens source).map Token.blurred

theorem blurredTokens_eq (source : Text) :
    blurredTokens source = (lex 0 source).map fun lexeme => lexeme.token.blurred := by
  rw [blurredTokens, tokens, List.map_map]
  rfl

theorem blurredTokens_of_isBlank {c : CodePoint} (blank : isBlank c = true) (rest : Text) :
    blurredTokens (c :: rest) = blurredTokens rest := by
  rw [blurredTokens, tokens_of_isBlank blank, blurredTokens]

theorem blurredTokens_of_scan {c : CodePoint} {rest : Text} {token : Token} {width : Nat}
    (visible : ¬ isBlank c = true) (read : scan c rest = (token, width)) :
    blurredTokens (c :: rest) = token.blurred :: blurredTokens (rest.drop (width - 1)) := by
  rw [blurredTokens, tokens_of_scan visible read, List.map_cons, blurredTokens]

theorem Token.blurred_of_not_isSound {token : Token} (broken : token.isSound = false) :
    token.blurred = .unknown := by
  rw [blurred, broken, if_neg Bool.false_ne_true]

/-- A broken token is the last. -/
theorem blurredTokens_of_not_isSound {c : CodePoint} {rest : Text} (visible : ¬ isBlank c = true)
    (broken : (scan c rest).1.isSound = false) : blurredTokens (c :: rest) = [.unknown] := by
  rcases found : scan c rest with ⟨token, width⟩
  rw [found] at broken
  have whole : width - 1 = rest.length := by
    rw [(scanned_of_scan found).width_of_not_isSound broken, Nat.add_sub_cancel]
  rw [blurredTokens_of_scan visible found, whole, List.drop_length,
    Token.blurred_of_not_isSound broken, blurredTokens, tokens_nil, List.map_nil]

/-- Behind a broken token and a line end nothing counts. -/
theorem blurredTokens_append_of_broken {source behind : Text} {d : CodePoint}
    (delimiter : isDelimiter d = true) (control : d.val < 0x20)
    (broken : ¬ ∀ token ∈ tokens source, token.isSound = true) :
    blurredTokens (source ++ d :: behind) = blurredTokens source := by
  induction source using inductionOnTokens with
  | nil =>
    rw [tokens_nil] at broken
    exact absurd (List.forall_mem_nil _) broken
  | blank c rest blank ih =>
    rw [tokens_of_isBlank blank] at broken
    rw [List.cons_append, blurredTokens_of_isBlank blank, blurredTokens_of_isBlank blank, ih broken]
  | visible c rest token width visible read ih =>
    have standing := scanned_of_scan read
    cases sound : token.isSound with
    | false =>
      -- The line end may break a text between quotation marks in another way, but not mend it.
      have whole := standing.append_control sound delimiter control behind
      have alone : (scan c rest).1.isSound = false := by
        rw [read]
        exact sound
      rw [List.cons_append, blurredTokens_of_not_isSound visible whole,
        blurredTokens_of_not_isSound visible alone]
    | true =>
      have inside := standing.width_le
      have before := (standing.append sound (delimited_cons behind delimiter)).scan_eq
      have further : ¬ ∀ token ∈ tokens (rest.drop (width - 1)), token.isSound = true := by
        intro others
        rw [tokens_of_scan visible read, List.forall_mem_cons] at broken
        exact broken ⟨sound, others⟩
      rw [List.cons_append, blurredTokens_of_scan visible read,
        blurredTokens_of_scan visible before, List.drop_append_of_le_length (by omega), ih further]

/-- Either line end only keeps apart what stands before it and behind it. -/
theorem blurredTokens_append_congr (source : Text) {first second : Text}
    (same : blurredTokens first = blurredTokens second) :
    blurredTokens (source ++ ofChar '\r' :: first) =
      blurredTokens (source ++ ofChar '\n' :: second) := by
  by_cases sound : ∀ token ∈ tokens source, token.isSound = true
  · have kept {c : CodePoint} (blank : isBlank c = true) (behind : Text) :
        blurredTokens (source ++ c :: behind) = blurredTokens source ++ blurredTokens behind := by
      have delimiter : isDelimiter c = true := by
        rw [isDelimiter, blank, Bool.true_or]
      rw [blurredTokens, tokens_append (delimited_cons behind delimiter) sound,
        tokens_of_isBlank blank, List.map_append]
      rfl
    rw [kept (by decide), kept (by decide), same]
  · rw [blurredTokens_append_of_broken (by decide) (by decide) sound,
      blurredTokens_append_of_broken (by decide) (by decide) sound]

/-- A source keeps its tokens when its line ends are made uniform. Only the first that is broken can
be broken in another way. -/
theorem blurredTokens_unifyLineEnds (source : Text) :
    blurredTokens source = blurredTokens source.unifyLineEnds := by
  -- One line at a time: what stands behind a carriage return is shorter than the source, also
  -- without the line feed that may belong to the return.
  induction remaining : source.length using Nat.strongRecOn generalizing source with
  | ind length ih =>
    obtain ⟨line, clean, rfl | ⟨behind, rfl⟩⟩ := Text.exists_line source
    · have unchanged := Text.unifyLineEnds_append clean []
      rw [List.append_nil] at unchanged
      rw [unchanged, Text.unifyLineEnds, List.append_nil]
    · rw [List.length_append, List.length_cons] at remaining
      obtain ⟨others, rfl | rfl, unified⟩ := Text.exists_unifyLineEnds_return behind
      · have later := ih behind.length (by omega) behind rfl
        rw [Text.unifyLineEnds_append clean, unified]
        exact blurredTokens_append_congr line later
      · rw [List.length_cons] at remaining
        have later := ih others.length (by omega) others rfl
        rw [Text.unifyLineEnds_append clean, unified]
        refine blurredTokens_append_congr line ?_
        rw [blurredTokens_of_isBlank (by decide), later]

theorem isPrefixOf_byteOrderMark_unifyLineEnds (source : Text) :
    byteOrderMark.isPrefixOf source.unifyLineEnds = byteOrderMark.isPrefixOf source := by
  cases source with
  | nil => rfl
  | cons c rest =>
    by_cases carriage : c = '\r'
    · subst carriage
      obtain ⟨behind, -, unified⟩ := Text.exists_unifyLineEnds_return rest
      rw [unified]
      rfl
    · rw [Text.unifyLineEnds_cons carriage]
      rfl

/-- With uniform line ends a source is read alike. -/
theorem read_unifyLineEnds (source : Text) : Alike (read source.unifyLineEnds) (read source) := by
  rw [read, read, isPrefixOf_byteOrderMark_unifyLineEnds]
  split
  · exact .refl _
  · refine run_alike _ _ ?_
    rw [← blurredTokens_eq, ← blurredTokens_eq, ← blurredTokens_unifyLineEnds]

end SelectorProse.Json
