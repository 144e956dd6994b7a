import SelectorProse.Proofs.Json.Piece

/-!
What a text between quotation marks is spelt like. Main statement: the reader finds pieces exactly
where their spellings stand with a closing mark behind them, whatever follows the mark.
-/

set_option autoImplicit false

namespace SelectorProse.Json

/-- The three spellings of a piece: a character as it stands, a short escape, a number. -/
inductive Piece.SpeltBy : Piece → Text → Prop
  | plain {c : CodePoint} (quote : c ≠ '"') (backslash : c ≠ '\\') (lower : 0x20 ≤ c.val) :
    SpeltBy (.plain c) [c]
  | short {e c : CodePoint} (escape : shortEscape? e = some c) : SpeltBy (.plain c) ['\\', e]
  | number {a b c d point : CodePoint} (digits : codePoint? a b c d = some point) :
    SpeltBy (.spelt point) ['\\', 'u', a, b, c, d]

/-- Pieces and the characters that spell them, one piece after another. -/
inductive SpeltBy : List Piece → Text → Prop
  | nil : SpeltBy [] []
  | cons {piece : Piece} {others : List Piece} {first rest : Text}
    (head : piece.SpeltBy first) (tail : SpeltBy others rest) :
    SpeltBy (piece :: others) (first ++ rest)

theorem prepend_map_eq_ok {piece : Piece} {found : List Piece} {stop : Nat}
    {behind : Except (Problem × Nat) (List Piece × Nat)}
    (success : prepend [piece] <$> behind = .ok (found, stop)) :
    ∃ others, found = piece :: others ∧ behind = .ok (others, stop) := by
  cases behind with
  | error fault => cases success
  | ok read =>
    obtain ⟨others, last⟩ := read
    cases Except.ok.inj success
    exact ⟨others, rfl, rfl⟩

section

variable (distance : Nat) {first behind : Text}

theorem pieces_number {a b c d point : CodePoint} (digits : codePoint? a b c d = some point)
    (some : behind ≠ []) :
    pieces distance ('\\' :: 'u' :: a :: b :: c :: d :: behind) =
      prepend [.spelt point] <$> pieces (distance + 6) behind := by
  obtain ⟨next, rest, rfl⟩ := List.exists_cons_of_ne_nil some
  refine (pieces.eq_3 distance (by decide) (by decide) a b c d next rest).trans ?_
  rw [digits]
  rfl

/-- A piece is read by its spelling. Something has to stand behind it: a number is not read
without. -/
theorem pieces_of_speltBy {piece : Piece} (spelt : piece.SpeltBy first) (some : behind ≠ []) :
    pieces distance (first ++ behind) =
      prepend [piece] <$> pieces (distance + first.length) behind := by
  cases spelt with
  | plain quote backslash lower => exact pieces_plain distance behind quote backslash lower
  | short escape => exact pieces_short distance behind escape
  | number digits => exact pieces_number distance digits some

end

/-- What is read is a closing mark, or a piece by one of its spellings. -/
theorem pieces_ok_cases {distance stop : Nat} {source : Text} {found : List Piece}
    (success : pieces distance source = .ok (found, stop)) :
    (∃ rest, source = CodePoint.ofChar '"' :: rest ∧ found = [] ∧ stop = distance + 1) ∨
      ∃ piece others first rest, source = first ++ rest ∧ found = piece :: others ∧
        piece.SpeltBy first ∧ pieces (distance + first.length) rest = .ok (others, stop) := by
  cases source with
  | nil => cases success
  | cons c rest =>
    by_cases backslash : c = '\\'
    · subst backslash
      right
      cases rest with
      | nil => cases success
      | cons e rest =>
        by_cases numbered : e = 'u'
        · subst numbered
          rcases rest with _ | ⟨a, _ | ⟨b, _ | ⟨c, _ | ⟨d, _ | ⟨next, rest⟩⟩⟩⟩⟩
          case cons.cons.cons.cons.cons =>
            cases digits : codePoint? a b c d with
            | none =>
              have broken := pieces.eq_3 distance (by decide) (by decide) a b c d next rest
              rw [digits] at broken
              cases broken.symm.trans success
            | some point =>
              rw [pieces_number distance digits (List.cons_ne_nil next rest)] at success
              obtain ⟨others, rfl, read⟩ := prepend_map_eq_ok success
              exact ⟨_, others, _, _, rfl, rfl, .number digits, read⟩
          -- Fewer than four digits, or nothing behind them.
          all_goals
            refine absurd
              ((pieces.eq_4 distance (by decide) (by decide) _ ?_).symm.trans success) ?_
            · intro _ _ _ _ _ _ long
              cases long
            · intro same
              cases same
        · cases escape : shortEscape? e with
          | none =>
            have broken := pieces.eq_5 distance (by decide) e rest
              (fun _ _ _ _ _ _ _ same => absurd same numbered) (fun _ same => numbered same)
            rw [escape] at broken
            cases broken.symm.trans success
          | some point =>
            rw [pieces_short distance rest escape] at success
            obtain ⟨others, rfl, read⟩ := prepend_map_eq_ok success
            exact ⟨_, others, _, _, rfl, rfl, .short escape, read⟩
    · rw [pieces_cons distance rest backslash] at success
      split at success
      · rename_i quote
        cases Except.ok.inj success
        exact Or.inl ⟨rest, congrArg (· :: rest) quote, rfl, rfl⟩
      · rename_i quote
        split at success
        · cases success
        · rename_i lower
          obtain ⟨others, rfl, read⟩ := prepend_map_eq_ok success
          exact Or.inr ⟨_, others, [c], rest, rfl, rfl,
            .plain quote backslash (Nat.le_of_not_lt lower), read⟩

/-- Pieces are read exactly where their spellings stand before a closing mark. -/
theorem pieces_eq_ok_iff {distance stop : Nat} {source : Text} {found : List Piece} :
    pieces distance source = .ok (found, stop) ↔
      ∃ body rest, source = body ++ CodePoint.ofChar '"' :: rest ∧ SpeltBy found body ∧
        stop = distance + body.length + 1 := by
  constructor
  · intro success
    induction found generalizing distance source with
    | nil =>
      rcases pieces_ok_cases success with ⟨rest, rfl, -, rfl⟩ | ⟨_, _, _, _, -, impossible, -, -⟩
      · exact ⟨[], rest, rfl, .nil, rfl⟩
      · cases impossible
    | cons piece others ih =>
      rcases pieces_ok_cases success with ⟨_, -, impossible, -⟩ |
        ⟨_, _, first, behind, rfl, same, spelt, read⟩
      · cases impossible
      · cases same
        obtain ⟨body, rest, rfl, tail, rfl⟩ := ih read
        refine ⟨first ++ body, rest, (List.append_assoc ..).symm, .cons spelt tail, ?_⟩
        rw [List.length_append]
        omega
  · rintro ⟨body, rest, rfl, spelt, rfl⟩
    induction spelt generalizing distance with
    | nil => exact pieces_quote distance rest
    | cons head tail ih =>
      rename_i piece others first body
      have some : body ++ CodePoint.ofChar '"' :: rest ≠ [] :=
        List.append_ne_nil_of_right_ne_nil _ (List.cons_ne_nil _ _)
      rw [List.append_assoc, pieces_of_speltBy distance head some, ih, List.length_append,
        ← Nat.add_assoc]
      rfl

theorem hexDigit?_eq_some {c : CodePoint} {d : Nat} (digit : hexDigit? c = some d) :
    0x20 ≤ c.val := by
  rw [hexDigit?] at digit
  repeat' split at digit
  case isFalse.isFalse.isFalse => cases digit
  all_goals omega

theorem codePoint?_eq_some {a b c d point : CodePoint} (digits : codePoint? a b c d = some point) :
    0x20 ≤ a.val ∧ 0x20 ≤ b.val ∧ 0x20 ≤ c.val ∧ 0x20 ≤ d.val := by
  rw [codePoint?] at digits
  split at digits
  · rename_i first second third fourth
    exact ⟨hexDigit?_eq_some first, hexDigit?_eq_some second, hexDigit?_eq_some third,
      hexDigit?_eq_some fourth⟩
  · cases digits

/-- Short escapes are spelt with printable characters of ASCII and stand for characters of ASCII. -/
theorem shortEscape?_eq_some {e c : CodePoint} (escape : shortEscape? e = some c) :
    (0x20 ≤ e.val ∧ e.val ≤ 0x7E) ∧ c.val < 0x80 := by
  rw [shortEscape?] at escape
  split at escape
  · rename_i same
    cases escape
    simp only [Bool.or_eq_true, decide_eq_true_eq] at same
    rcases same with (rfl | rfl) | rfl <;> decide
  · repeat' split at escape
    case isFalse.isFalse.isFalse.isFalse.isFalse => cases escape
    all_goals
      rename_i same
      cases escape
      subst same
      decide

/-- No spelling holds a control character. -/
theorem SpeltBy.not_control {found : List Piece} {body : Text} (spelt : SpeltBy found body) :
    ∀ c ∈ body, 0x20 ≤ c.val := by
  induction spelt with
  | nil => exact List.forall_mem_nil _
  | cons head _ ih =>
    rw [List.forall_mem_append]
    refine ⟨?_, ih⟩
    cases head with
    | plain quote backslash lower => simpa using lower
    | short escape => simpa using ⟨by decide, (shortEscape?_eq_some escape).1.1⟩
    | number digits => simpa using ⟨by decide, by decide, codePoint?_eq_some digits⟩

section

variable {distance : Nat} {source : Text}

/-- Nothing behind the closing mark is looked at. -/
theorem pieces_append {found : List Piece} {stop : Nat}
    (success : pieces distance source = .ok (found, stop)) (tail : Text) :
    pieces distance (source ++ tail) = .ok (found, stop) := by
  obtain ⟨body, rest, rfl, spelt, rfl⟩ := pieces_eq_ok_iff.mp success
  refine pieces_eq_ok_iff.mpr ⟨body, rest ++ tail, ?_, spelt, rfl⟩
  rw [List.append_assoc, List.cons_append]

/-- A text that has no end before a control character has none behind it. -/
theorem pieces_append_control {fault : Problem × Nat}
    (failed : pieces distance source = .error fault) {c : CodePoint} (control : c.val < 0x20)
    (rest : Text) : ∃ fault, pieces distance (source ++ c :: rest) = .error fault := by
  cases outcome : pieces distance (source ++ c :: rest) with
  | error fault => exact ⟨fault, rfl⟩
  | ok read =>
    obtain ⟨found, stop⟩ := read
    obtain ⟨body, behind, same, spelt, last⟩ := pieces_eq_ok_iff.mp outcome
    rcases List.append_eq_append_iff.mp same with ⟨middle, front, shape⟩ | ⟨middle, front, shape⟩
    -- The control character would stand inside the spelling.
    · cases middle with
      | nil =>
        cases shape
        exact absurd control (by decide)
      | cons first middle =>
        cases shape
        have lower := spelt.not_control c (by simp [front])
        omega
    · cases middle with
      | nil =>
        cases shape
        exact absurd control (by decide)
      | cons first middle =>
        cases shape
        have closed : pieces distance source = .ok (found, stop) :=
          pieces_eq_ok_iff.mpr ⟨body, middle, front, spelt, last⟩
        cases failed.symm.trans closed

end

end SelectorProse.Json
