import SelectorProse.Proofs.Json.Piece

/-!
The tokens of a document without their offsets, and what single tokens are spelt like.
-/

set_option autoImplicit false

namespace SelectorProse.Json

def tokens (source : Text) : List Token := (lex 0 source).map Lexeme.token

theorem lex_of_scan {c : CodePoint} {rest : Text} {token : Token} {width : Nat}
    (visible : ¬ isBlank c = true) (scanned : scan c rest = (token, width)) (offset : Nat) :
    lex offset (c :: rest) = ⟨token, offset⟩ :: lex (offset + width) (rest.drop (width - 1)) := by
  rw [lex, if_neg visible, scanned]

theorem lex_of_isBlank {c : CodePoint} (blank : isBlank c = true) (rest : Text) (offset : Nat) :
    lex offset (c :: rest) = lex (offset + 1) rest := by
  rw [lex, if_pos blank]

/-- Where a text begins makes no difference to its tokens. -/
theorem lex_map_token (offset other : Nat) (source : Text) :
    (lex offset source).map Lexeme.token = (lex other source).map Lexeme.token := by
  induction offset, source using lex.induct generalizing other with
  | case1 offset => rw [lex, lex]
  | case2 offset c rest blank ih =>
    rw [lex_of_isBlank blank, lex_of_isBlank blank]
    exact ih (other + 1)
  | case3 offset c rest visible token width scanned ih =>
    rw [lex_of_scan visible scanned, lex_of_scan visible scanned, List.map_cons, List.map_cons,
      ih (other + width)]

@[simp] theorem tokens_nil : tokens [] = [] := by
  rw [tokens, lex]
  rfl

theorem tokens_of_isBlank {c : CodePoint} (blank : isBlank c = true) (rest : Text) :
    tokens (c :: rest) = tokens rest := by
  rw [tokens, lex_of_isBlank blank]
  exact lex_map_token _ _ _

theorem tokens_of_scan {c : CodePoint} {rest : Text} {token : Token} {width : Nat}
    (visible : ¬ isBlank c = true) (scanned : scan c rest = (token, width)) :
    tokens (c :: rest) = token :: tokens (rest.drop (width - 1)) := by
  rw [tokens, lex_of_scan visible scanned, List.map_cons]
  exact congrArg (token :: ·) (lex_map_token _ _ _)

/-- Induction on a source token by token, as it is scanned, whatever the offsets. -/
theorem inductionOnTokens {motive : Text → Prop} (source : Text) (nil : motive [])
    (blank : ∀ c rest, isBlank c = true → motive rest → motive (c :: rest))
    (visible : ∀ c rest token width, ¬ isBlank c = true → scan c rest = (token, width) →
      motive (rest.drop (width - 1)) → motive (c :: rest)) : motive source := by
  have everywhere (offset : Nat) : motive source := by
    induction offset, source using lex.induct with
    | case1 offset => exact nil
    | case2 offset c rest space ih => exact blank c rest space ih
    | case3 offset c rest other token width scanned ih =>
      exact visible c rest token width other scanned ih
  exact everywhere 0

/-- The text is read as these tokens, whatever comes behind it, if that cannot lengthen a number. -/
def Spells (written : Text) (found : List Token) : Prop :=
  ∀ tail, EndsNumber tail → tokens (written ++ tail) = found ++ tokens tail

theorem spells_of_scan {c : CodePoint} {more : Text} {token : Token}
    (visible : ¬ isBlank c = true)
    (scanned : ∀ tail, EndsNumber tail → scan c (more ++ tail) = (token, more.length + 1)) :
    Spells (c :: more) [token] := by
  intro tail ended
  rw [List.cons_append, tokens_of_scan visible (scanned tail ended), Nat.add_sub_cancel,
    List.drop_left]
  rfl

theorem spells_null : Spells (Text.ofString "null") [.null] :=
  spells_of_scan (by decide) fun _ _ => rfl

theorem spells_true : Spells (Text.ofString "true") [.bool true] :=
  spells_of_scan (by decide) fun _ _ => rfl

theorem spells_false : Spells (Text.ofString "false") [.bool false] :=
  spells_of_scan (by decide) fun _ _ => rfl

theorem tokens_punctuation {c : CodePoint} {token : Token} (mark : punctuation? c = some token)
    (visible : ¬ isBlank c = true) (rest : Text) : tokens (c :: rest) = token :: tokens rest := by
  have scanned : scan c rest = (token, 1) := by rw [scan, mark]
  exact tokens_of_scan visible scanned

theorem length_textWritten (t : Text) :
    (textWritten t).length = (t.flatMap escaped).length + 2 := by
  rw [textWritten, List.length_append, List.length_append]
  change 1 + _ + 1 = _
  omega

/-- A text ends with its closing mark, whatever comes behind it. -/
theorem tokens_textWritten (t tail : Text) :
    tokens (textWritten t ++ tail) = .text t.joinSurrogates :: tokens tail := by
  obtain ⟨found, read, spelt⟩ := pieces_textWritten t tail
  have shape : textWritten t ++ tail = CodePoint.ofChar '"' ::
      ((t.flatMap escaped ++ [CodePoint.ofChar '"']) ++ tail) := by
    rw [textWritten, List.append_assoc (Text.ofString "\"")]
    rfl
  have scanned : scan '"' ((t.flatMap escaped ++ [CodePoint.ofChar '"']) ++ tail) =
      (.text t.joinSurrogates, (textWritten t).length) := by
    have mark : punctuation? '"' = none := by decide
    rw [scan, mark, List.append_assoc, List.singleton_append, read, ← spelt]
    rfl
  have width : (textWritten t).length - 1 =
      (t.flatMap escaped ++ [CodePoint.ofChar '"']).length := by
    rw [length_textWritten, List.length_append, List.length_singleton]
    rfl
  rw [shape, tokens_of_scan (by decide) scanned, width, List.drop_left]

/-- No word begins as a number does. -/
theorem beginning_of_mem_words {word : Text} {token : Token} (member : (word, token) ∈ words) :
    (∃ letter more, word = letter :: more ∧ isDigit letter = false ∧ letter ≠ '-') ∨
      ∃ letter more, word = CodePoint.ofChar '-' :: letter :: more ∧ isDigit letter = false := by
  simp only [words, List.mem_cons, Prod.mk.injEq, List.not_mem_nil, or_false] at member
  rcases member with ⟨rfl, -⟩ | ⟨rfl, -⟩ | ⟨rfl, -⟩ | ⟨rfl, -⟩ | ⟨rfl, -⟩ | ⟨rfl, -⟩
  case inr.inr.inr.inr.inr => exact Or.inr ⟨_, _, rfl, by decide⟩
  all_goals exact Or.inl ⟨_, _, rfl, by decide, by decide⟩

theorem beq_eq_false_of_isDigit {letter c : CodePoint} (other : isDigit letter = false)
    (decimal : isDigit c = true) : (letter == c) = false := by
  rw [beq_eq_false_iff_ne]
  rintro rfl
  rw [other] at decimal
  cases decimal

theorem word?_spelling {numeral : Numeral} (wellFormed : numeral.WellFormed) (tail : Text) :
    word? (numeral.spelling ++ tail) = none := by
  obtain ⟨first, others, spelling, decimal⟩ := wellFormed.exists_digit
  rw [word?, Option.map_eq_none_iff, List.find?_eq_none]
  rintro ⟨word, token⟩ member
  rw [Bool.not_eq_true, Numeral.spelling, Numeral.minus, spelling]
  cases numeral.negative with
  | true =>
    rcases beginning_of_mem_words member with ⟨letter, more, rfl, -, other⟩ |
      ⟨letter, more, rfl, other⟩
    · change (letter == CodePoint.ofChar '-' && _) = false
      rw [beq_eq_false_iff_ne.mpr other, Bool.false_and]
    · change (CodePoint.ofChar '-' == CodePoint.ofChar '-' && (letter == first && _)) = false
      rw [beq_eq_false_of_isDigit other decimal, Bool.false_and, Bool.and_false]
  | false =>
    rcases beginning_of_mem_words member with ⟨letter, more, rfl, other, -⟩ |
      ⟨letter, more, rfl, -⟩
    · change (letter == first && _) = false
      rw [beq_eq_false_of_isDigit other decimal, Bool.false_and]
    · change (CodePoint.ofChar '-' == first && _) = false
      rw [beq_eq_false_of_isDigit (by decide) decimal, Bool.false_and]

theorem Numeral.spelling_eq_cons {numeral : Numeral} (wellFormed : numeral.WellFormed) :
    ∃ first more, numeral.spelling = first :: more ∧ (first = '-' ∨ isDigit first = true) := by
  obtain ⟨first, others, spelling, decimal⟩ := wellFormed.exists_digit
  rw [Numeral.spelling, Numeral.minus, spelling]
  cases numeral.negative with
  | true => exact ⟨'-', _, rfl, Or.inl rfl⟩
  | false => exact ⟨first, _, rfl, Or.inr decimal⟩

/-- Neither a blank nor a mark of any kind begins a number. -/
theorem scan_of_isDigit {first : CodePoint} (begins : first = '-' ∨ isDigit first = true)
    (rest : Text) (noWord : word? (first :: rest) = none) :
    isBlank first = false ∧
      scan first rest = (number? (first :: rest)).getD (.unknown, rest.length + 1) := by
  have other (d : CodePoint) (minus : d ≠ '-') (letter : isDigit d = false) : first ≠ d := by
    rintro rfl
    rcases begins with same | decimal
    · exact minus same
    · rw [letter] at decimal
      cases decimal
  have mark : punctuation? first = none := by
    simp only [punctuation?, other '[' (by decide) (by decide), other ']' (by decide) (by decide),
      other '\x7b' (by decide) (by decide), other '\x7d' (by decide) (by decide),
      other ',' (by decide) (by decide), other ':' (by decide) (by decide), ↓reduceIte]
  refine ⟨?_, ?_⟩
  · simp only [isBlank, beq_eq_false_iff_ne.mpr (other ' ' (by decide) (by decide)),
      beq_eq_false_iff_ne.mpr (other '\t' (by decide) (by decide)),
      beq_eq_false_iff_ne.mpr (other '\n' (by decide) (by decide)),
      beq_eq_false_iff_ne.mpr (other '\r' (by decide) (by decide)), Bool.or_self]
  · rw [scan, mark]
    simp only [other '"' (by decide) (by decide), ↓reduceIte, noWord]

theorem spells_numeral {numeral : Numeral} (wellFormed : numeral.WellFormed) :
    Spells numeral.spelling [numeral.token] := by
  obtain ⟨first, more, spelling, begins⟩ := Numeral.spelling_eq_cons wellFormed
  have noWord := word?_spelling wellFormed
  have found (tail : Text) (ended : EndsNumber tail) := Numeral.number?_spelling wellFormed ended
  simp only [spelling, List.cons_append] at noWord found ⊢
  refine spells_of_scan ?_ fun tail ended => ?_
  · rw [(scan_of_isDigit begins _ (noWord [])).1]
    exact Bool.false_ne_true
  · rw [(scan_of_isDigit begins _ (noWord tail)).2, found tail ended]
    rfl

end SelectorProse.Json
