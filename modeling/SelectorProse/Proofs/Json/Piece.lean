import SelectorProse.Json.Token
import SelectorProse.Json.Writer
import SelectorProse.Proofs.Json.Numeral
import SelectorProse.Proofs.Text.Surrogates

/-!
Texts between quotation marks. Main statement: a text that has been written is read as the text
with its surrogate pairs joined, since a pair is written like the code point that it encodes.
-/

set_option autoImplicit false

namespace SelectorProse.Json

open Text (digit)

/-- The code points that are written without their number, as they are or by a short escape. -/
def isPlain (c : CodePoint) : Bool :=
  c == '\n' || c == '\r' || c == '\t' || c == '\x0c' || c == '\x08' ||
    (0x20 ≤ c.val && c.val ≤ 0x7E)

/-- The pieces that a code point is written as. -/
def piecesOf (c : CodePoint) : List Piece :=
  if isPlain c then [.plain c] else c.units.map .spelt

/-- Pieces that stand before those found. -/
def prepend (pieces : List Piece) (found : List Piece × Nat) : List Piece × Nat :=
  (pieces ++ found.1, found.2)

theorem prepend_prepend (first second : List Piece)
    (found : Except (Problem × Nat) (List Piece × Nat)) :
    prepend first <$> prepend second <$> found = prepend (first ++ second) <$> found := by
  cases found with
  | error fault => rfl
  | ok found => exact congrArg Except.ok (Prod.ext (List.append_assoc ..).symm rfl)

section

variable (distance : Nat) (rest : Text)

/-- Only a backslash makes the reader look further ahead. -/
theorem pieces_cons {c : CodePoint} (other : c ≠ '\\') :
    pieces distance (c :: rest) =
      if c = '"' then .ok ([], distance + 1)
      else if c.val < 0x20 then .error (.controlCharacter, distance)
      else prepend [.plain c] <$> pieces (distance + 1) rest := by
  rw [pieces.eq_6]
  · rfl
  all_goals
    intro _
    intros
    exact other (by assumption)

theorem pieces_quote : pieces distance ('"' :: rest) = .ok ([], distance + 1) := by
  rw [pieces_cons distance rest (by decide), if_pos rfl]

theorem pieces_plain {c : CodePoint} (quote : c ≠ '"') (backslash : c ≠ '\\')
    (lower : 0x20 ≤ c.val) :
    pieces distance (c :: rest) = prepend [.plain c] <$> pieces (distance + 1) rest := by
  rw [pieces_cons distance rest backslash, if_neg quote, if_neg (Nat.not_lt.mpr lower)]

theorem pieces_short {c point : CodePoint} (short : shortEscape? c = some point) :
    pieces distance ('\\' :: c :: rest) =
      prepend [.plain point] <$> pieces (distance + 2) rest := by
  have other : c ≠ 'u' := by
    rintro rfl
    cases short
  refine (pieces.eq_5 distance (by decide) c rest ?_ ?_).trans ?_
  · intro _ _ _ _ _ _ _ same
    exact absurd same other
  · intro _ same
    exact absurd same other
  · rw [short]
    rfl

theorem hex_four (n : Nat) : Text.hex 4 n =
    [digit (n / 16 / 16 / 16 % 16), digit (n / 16 / 16 % 16), digit (n / 16 % 16),
      digit (n % 16)] := rfl

@[simp] theorem hexDigit?_digit {d : Nat} (hexadecimal : d < 16) :
    hexDigit? (digit d) = some d := by
  by_cases decimal : d < 10
  · have value := Text.val_digit_of_lt decimal
    rw [hexDigit?, if_pos (by omega), value]
    congr 1
    omega
  · have value := Text.val_digit_of_le (Nat.le_of_not_lt decimal) hexadecimal
    rw [hexDigit?, if_neg (by omega), if_pos (by omega), value]
    congr 1
    omega

/-- Four hexadecimal digits spell a number up to `0xFFFF`. -/
theorem codePoint?_hex {n : Nat} (small : n ≤ 0xFFFF) :
    codePoint? (digit (n / 16 / 16 / 16 % 16)) (digit (n / 16 / 16 % 16)) (digit (n / 16 % 16))
      (digit (n % 16)) = some (CodePoint.ofNat n) := by
  have digits (k : Nat) : hexDigit? (digit (k % 16)) = some (k % 16) :=
    hexDigit?_digit (by omega)
  simp only [codePoint?, digits]
  congr 2
  omega

theorem pieces_spelt {c : CodePoint} (small : c.val ≤ 0xFFFF) (next : CodePoint) :
    pieces distance (spelt c ++ next :: rest) =
      prepend [.spelt c] <$> pieces (distance + 6) (next :: rest) := by
  rw [spelt, hex_four]
  refine (pieces.eq_3 distance (by decide) (by decide) _ _ _ _ next rest).trans ?_
  rw [codePoint?_hex small, CodePoint.ofNat_val]
  rfl

end

/-- The three ways in which a code point is written. -/
theorem escaped_cases (c : CodePoint) :
    (∃ e : CodePoint,
      escaped c = (['\\', e] : Text) ∧ shortEscape? e = some c ∧ isPlain c = true) ∨
      (escaped c = [c] ∧ c ≠ '"' ∧ c ≠ '\\' ∧ 0x20 ≤ c.val ∧ isPlain c = true) ∨
      (escaped c = c.units.flatMap spelt ∧ isPlain c = false) := by
  by_cases quote : c = '"'
  · subst quote
    exact Or.inl ⟨'"', by decide⟩
  by_cases backslash : c = '\\'
  · subst backslash
    exact Or.inl ⟨'\\', by decide⟩
  by_cases lineFeed : c = '\n'
  · subst lineFeed
    exact Or.inl ⟨'n', by decide⟩
  by_cases carriageReturn : c = '\r'
  · subst carriageReturn
    exact Or.inl ⟨'r', by decide⟩
  by_cases tabulator : c = '\t'
  · subst tabulator
    exact Or.inl ⟨'t', by decide⟩
  by_cases formFeed : c = '\x0c'
  · subst formFeed
    exact Or.inl ⟨'f', by decide⟩
  by_cases backspace : c = '\x08'
  · subst backspace
    exact Or.inl ⟨'b', by decide⟩
  right
  rw [escaped, if_neg quote, if_neg backslash, if_neg lineFeed, if_neg carriageReturn,
    if_neg tabulator, if_neg formFeed, if_neg backspace]
  by_cases ascii : 0x20 ≤ c.val ∧ c.val ≤ 0x7E
  · exact Or.inl ⟨if_pos ascii, quote, backslash, ascii.1, by simp [isPlain, ascii]⟩
  · refine Or.inr ⟨if_neg ascii, ?_⟩
    simpa [isPlain, lineFeed, carriageReturn, tabulator, formFeed, backspace] using ascii

theorem piecesOf_of_isPlain {c : CodePoint} (plain : isPlain c = true) :
    piecesOf c = [.plain c] := by
  rw [piecesOf, if_pos plain]

theorem piecesOf_of_not_isPlain {c : CodePoint} (special : isPlain c = false) :
    piecesOf c = c.units.map .spelt := by
  rw [piecesOf, special, if_neg Bool.false_ne_true]

@[simp] theorem length_spelt (c : CodePoint) : (spelt c).length = 6 := rfl

theorem pieces_units (distance : Nat) (c next : CodePoint) (rest : Text) :
    pieces distance (c.units.flatMap spelt ++ next :: rest) =
      prepend (c.units.map .spelt) <$>
        pieces (distance + (c.units.flatMap spelt).length) (next :: rest) := by
  by_cases small : c.val ≤ 0xFFFF
  · have alone : c.units = [c] := if_pos small
    rw [alone, List.flatMap_singleton, length_spelt]
    exact pieces_spelt distance rest small next
  · have large : 0xFFFF < c.val := Nat.lt_of_not_le small
    have pair : c.units = [c.highSurrogate, c.lowSurrogate] := if_neg small
    have high := CodePoint.isHighSurrogate_iff.mp (CodePoint.isHighSurrogate_highSurrogate large)
    have low := CodePoint.isLowSurrogate_iff.mp (CodePoint.isLowSurrogate_lowSurrogate c)
    rw [pair, List.flatMap_cons, List.flatMap_singleton, List.append_assoc]
    calc
      _ = prepend [.spelt c.highSurrogate] <$>
          pieces (distance + 6) (spelt c.lowSurrogate ++ next :: rest) :=
        pieces_spelt distance _ (by omega) '\\'
      _ = prepend [.spelt c.highSurrogate] <$> prepend [.spelt c.lowSurrogate] <$>
          pieces (distance + 6 + 6) (next :: rest) := by
        rw [pieces_spelt (distance + 6) rest (by omega) next]
      _ = _ := by
        rw [prepend_prepend]
        rfl

/-- A code point that has been written is read as its pieces. -/
theorem pieces_escaped (distance : Nat) (c next : CodePoint) (rest : Text) :
    pieces distance (escaped c ++ next :: rest) =
      prepend (piecesOf c) <$> pieces (distance + (escaped c).length) (next :: rest) := by
  rcases escaped_cases c with ⟨e, written, short, plain⟩ |
    ⟨written, quote, backslash, lower, plain⟩ | ⟨written, special⟩
  · rw [written, piecesOf_of_isPlain plain]
    exact pieces_short distance (next :: rest) short
  · rw [written, piecesOf_of_isPlain plain]
    exact pieces_plain distance (next :: rest) quote backslash lower
  · rw [written, piecesOf_of_not_isPlain special]
    exact pieces_units distance c next rest

/-- A text that has been written is read as the pieces of its code points. -/
theorem pieces_flatMap_escaped (distance : Nat) (t rest : Text) :
    pieces distance (t.flatMap escaped ++ CodePoint.ofChar '"' :: rest) =
      .ok (t.flatMap piecesOf, distance + (t.flatMap escaped).length + 1) := by
  induction t generalizing distance with
  | nil => exact pieces_quote distance rest
  | cons c t ih =>
    obtain ⟨next, others, behind⟩ := List.exists_cons_of_ne_nil
      (List.append_ne_nil_of_right_ne_nil (t.flatMap escaped)
        (List.cons_ne_nil (CodePoint.ofChar '"') rest))
    rw [List.flatMap_cons, List.append_assoc, behind, pieces_escaped, ← behind, ih,
      List.length_append, ← Nat.add_assoc]
    rfl

section

variable (c : CodePoint) (rest : List Piece)

theorem ofPieces_plain : ofPieces (.plain c :: rest) = c :: ofPieces rest := rfl

theorem ofPieces_spelt_pair (d : CodePoint)
    (pair : (c.isHighSurrogate && d.isLowSurrogate) = true) :
    ofPieces (.spelt c :: .spelt d :: rest) = CodePoint.ofSurrogates c d :: ofPieces rest := by
  rw [ofPieces, if_pos pair]

theorem ofPieces_spelt (alone : ∀ d others, rest = .spelt d :: others →
      ¬ (c.isHighSurrogate && d.isLowSurrogate) = true) :
    ofPieces (.spelt c :: rest) = c :: ofPieces rest := by
  cases rest with
  | nil => rfl
  | cons piece others =>
    cases piece with
    | plain d => rfl
    | spelt d => rw [ofPieces, if_neg (alone d others rfl)]

end

/-- A code point stands for itself where no pair begins with it. -/
theorem ofPieces_piecesOf_append (c : CodePoint) (rest : List Piece)
    (alone : ∀ d others, rest = .spelt d :: others →
      ¬ (c.isHighSurrogate && d.isLowSurrogate) = true) :
    ofPieces (piecesOf c ++ rest) = c :: ofPieces rest := by
  by_cases plain : isPlain c = true
  · rw [piecesOf_of_isPlain plain]
    exact ofPieces_plain c rest
  rw [piecesOf_of_not_isPlain (Bool.not_eq_true _ ▸ plain)]
  by_cases small : c.val ≤ 0xFFFF
  · have single : c.units = [c] := if_pos small
    rw [single]
    exact ofPieces_spelt c rest alone
  · have large : 0xFFFF < c.val := Nat.lt_of_not_le small
    have pair : c.units = [c.highSurrogate, c.lowSurrogate] := if_neg small
    rw [pair]
    refine (ofPieces_spelt_pair _ rest _ ?_).trans ?_
    · rw [CodePoint.isHighSurrogate_highSurrogate large, CodePoint.isLowSurrogate_lowSurrogate]
      rfl
    · rw [CodePoint.ofSurrogates_highSurrogate_lowSurrogate large]

theorem piecesOf_of_surrogate {c : CodePoint} (lower : 0xD800 ≤ c.val) (upper : c.val ≤ 0xDFFF) :
    piecesOf c = [.spelt c] := by
  have special : isPlain c = false := by
    simp only [isPlain, Bool.or_eq_false_iff, Bool.and_eq_false_iff, decide_eq_false_iff_not,
      beq_eq_false_iff_ne]
    refine ⟨⟨⟨⟨⟨?_, ?_⟩, ?_⟩, ?_⟩, ?_⟩, Or.inr (by omega)⟩ <;>
      exact fun same => absurd (same ▸ lower) (by decide)
  have single : c.units = [c] := if_pos (by omega)
  rw [piecesOf_of_not_isPlain special, single]
  rfl

/-- Where the pieces of a code point begin with a number, it is its own or that of the first half
of its pair. -/
theorem eq_or_isHighSurrogate_of_piecesOf {c d : CodePoint} {rest others : List Piece}
    (first : piecesOf c ++ rest = .spelt d :: others) : d = c ∨ d.isHighSurrogate = true := by
  by_cases plain : isPlain c = true
  · rw [piecesOf_of_isPlain plain] at first
    cases first
  rw [piecesOf_of_not_isPlain (Bool.not_eq_true _ ▸ plain), CodePoint.units] at first
  split at first
  · cases first
    exact Or.inl rfl
  · rename_i large
    cases first
    exact Or.inr (CodePoint.isHighSurrogate_highSurrogate (Nat.lt_of_not_le large))

/-- The pieces of a text spell it with its pairs joined. -/
theorem ofPieces_flatMap_piecesOf (t : Text) :
    ofPieces (t.flatMap piecesOf) = t.joinSurrogates := by
  induction t using Text.joinSurrogates.induct with
  | case1 => rfl
  | case2 c =>
    refine ofPieces_piecesOf_append c [] ?_
    intro _ _ impossible
    cases impossible
  | case3 c d rest pair ih =>
    have halves := Bool.and_eq_true_iff.mp pair
    have high := CodePoint.isHighSurrogate_iff.mp halves.1
    have low := CodePoint.isLowSurrogate_iff.mp halves.2
    rw [List.flatMap_cons, List.flatMap_cons, piecesOf_of_surrogate (by omega) (by omega),
      piecesOf_of_surrogate (by omega) (by omega), Text.joinSurrogates_of_pair rest pair, ← ih]
    exact ofPieces_spelt_pair c _ d pair
  | case4 c d rest alone ih =>
    rw [List.flatMap_cons, Text.joinSurrogates, if_neg alone, ← ih]
    apply ofPieces_piecesOf_append
    intro e others first
    rw [List.flatMap_cons] at first
    -- What is spelt behind `c` is `d`, or a high surrogate, which ends no pair.
    rcases eq_or_isHighSurrogate_of_piecesOf first with rfl | high
    · exact alone
    · rw [CodePoint.not_isLowSurrogate_of_isHighSurrogate high, Bool.and_false]
      exact Bool.false_ne_true

/-- Reading a text that has been written, with whatever comes behind its closing mark. -/
theorem pieces_textWritten (t rest : Text) :
    ∃ found, pieces 1 (t.flatMap escaped ++ CodePoint.ofChar '"' :: rest) =
      .ok (found, (textWritten t).length) ∧ ofPieces found = t.joinSurrogates := by
  refine ⟨t.flatMap piecesOf, ?_, ofPieces_flatMap_piecesOf t⟩
  rw [pieces_flatMap_escaped, textWritten, List.length_append, List.length_append]
  rfl

end SelectorProse.Json
