import Mathlib.Data.List.Forall2
import SelectorProse.Proofs.Binary64.Layout

/-!
The tokens of a value. Main statement: a value that has been written is read as its tokens, at
any depth and whatever comes behind it.
-/

set_option autoImplicit false

namespace SelectorProse

open Json (Token)

namespace Json

/-- Sequences of tokens with a comma between neighbours. -/
def separated : List (List Token) → List Token
  | [] => []
  | [piece] => piece
  | piece :: next :: rest => piece ++ .comma :: separated (next :: rest)

theorem separated_cons_cons (piece next : List Token) (rest : List (List Token)) :
    separated (piece :: next :: rest) = piece ++ .comma :: separated (next :: rest) := rfl

end Json

namespace Value

mutual

def tokens : Value → List Token
  | .null => [.null]
  | .bool b => [.bool b]
  | .int i => [.int (decide (i < 0)) (Text.ofNat i.natAbs)]
  | .float x => [.float x.reread]
  | .text t => [.text t.joinSurrogates]
  | .list items => .openList :: Json.separated (itemsTokens items) ++ [.closeList]
  | .record members => .openRecord :: Json.separated (membersTokens members) ++ [.closeRecord]

def itemsTokens : List Value → List (List Token)
  | [] => []
  | item :: rest => item.tokens :: itemsTokens rest

def membersTokens : List (Text × Value) → List (List Token)
  | [] => []
  | (key, value) :: rest =>
    (.text key.joinSurrogates :: .colon :: value.tokens) :: membersTokens rest

end

end Value

namespace Json

open Text (ofNat)

/-- The parts of a whole number. -/
def Numeral.ofInt (i : Int) : Numeral where
  negative := decide (i < 0)
  whole := ofNat i.natAbs
  fraction := []
  sign := '+'
  power := []

theorem Numeral.spelling_ofInt (i : Int) : (Numeral.ofInt i).spelling = Text.ofInt i := by
  rw [spelling, minus, pointed, scaled, ofInt]
  simp only [↓reduceIte, List.append_nil, decide_eq_true_eq]
  cases i with
  | ofNat n =>
    have natural : ¬ Int.ofNat n < 0 := Int.not_lt.mpr (Int.natCast_nonneg n)
    rw [if_neg natural]
    rfl
  | negSucc n =>
    rw [if_pos (Int.negSucc_lt_zero n)]
    rfl

theorem Numeral.wellFormed_ofInt (i : Int) : (Numeral.ofInt i).WellFormed := by
  refine ⟨fun c => isDigit_of_mem_ofNat, ?_, ?_, Or.inl rfl, ?_⟩
  · rcases Nat.eq_zero_or_pos i.natAbs with zero | positive
    · left
      rw [ofInt, zero]
      exact Text.ofNat_of_lt (by decide)
    · exact Or.inr (Text.ofNat_eq_cons positive)
  · intro c impossible
    cases impossible
  · intro c impossible
    cases impossible

theorem spells_int (i : Int) :
    Spells (Text.ofInt i) [.int (decide (i < 0)) (ofNat i.natAbs)] := by
  rw [← Numeral.spelling_ofInt]
  exact spells_numeral (Numeral.wellFormed_ofInt i)

theorem spells_text (t : Text) : Spells (textWritten t) [.text t.joinSurrogates] :=
  fun tail _ => tokens_textWritten t tail

theorem tokens_newLine (depth : Nat) (rest : Text) :
    tokens (newLine depth ++ rest) = tokens rest := by
  have spaces (count : Nat) :
      tokens (List.replicate count (CodePoint.ofChar ' ') ++ rest) = tokens rest := by
    induction count with
    | zero => rfl
    | succ count ih =>
      rw [List.replicate_succ, List.cons_append, tokens_of_isBlank (by decide), ih]
  rw [newLine, List.cons_append, tokens_of_isBlank (by decide), spaces]

theorem endsNumber_newLine (depth : Nat) (rest : Text) : EndsNumber (newLine depth ++ rest) :=
  endsNumber_cons _ (by decide)

theorem tokens_comma (rest : Text) :
    tokens (CodePoint.ofChar ',' :: rest) = .comma :: tokens rest :=
  tokens_punctuation rfl (by decide) rest

theorem tokens_colon (rest : Text) :
    tokens (CodePoint.ofChar ':' :: rest) = .colon :: tokens rest :=
  tokens_punctuation rfl (by decide) rest

/-- Pieces on lines of their own, a comma behind each but the last. -/
theorem spells_join {written : List Text} {found : List (List Token)}
    (spelt : List.Forall₂ Spells written found) (depth : Nat) :
    Spells (Text.join (',' :: newLine depth) written) (separated found) := by
  induction spelt with
  | nil => exact fun tail _ => rfl
  | cons first others ih =>
    cases others with
    | nil => exact first
    | cons second others =>
      intro tail ended
      rw [Text.join_cons_cons, separated_cons_cons, List.append_assoc, List.append_assoc,
        List.cons_append, first _ (endsNumber_cons _ (by decide)),
        tokens_comma, tokens_newLine, ih tail ended,
        List.append_assoc, List.cons_append]

/-- Entries between brackets or braces. -/
theorem spells_block {written : List Text} {found : List (List Token)}
    (spelt : List.Forall₂ Spells written found) (depth : Nat)
    {opening closing : CodePoint} {first last : Token}
    (opens : punctuation? opening = some first) (closes : punctuation? closing = some last)
    (visible : ¬ isBlank opening = true ∧ ¬ isBlank closing = true) :
    Spells (block opening closing depth written) (first :: separated found ++ [last]) := by
  intro tail ended
  rw [block]
  split
  · rename_i none
    subst none
    cases spelt
    rw [List.cons_append, tokens_punctuation opens visible.1, List.cons_append,
      tokens_punctuation closes visible.2]
    rfl
  · rw [List.append_assoc, List.append_assoc, List.append_assoc, List.cons_append,
      tokens_punctuation opens visible.1, tokens_newLine,
      spells_join spelt _ _ (endsNumber_newLine _ _), tokens_newLine, List.cons_append,
      tokens_punctuation closes visible.2]
    simp only [List.cons_append, List.append_assoc, List.nil_append]

theorem spells_member {key : Text} {written : Text} {found : List Token}
    (spelt : Spells written found) :
    Spells (textWritten key ++ Text.ofString ": " ++ written)
      (.text key.joinSurrogates :: .colon :: found) := by
  intro tail ended
  have separator (rest : Text) :
      tokens (Text.ofString ": " ++ rest) = .colon :: tokens rest := by
    refine (tokens_colon (CodePoint.ofChar ' ' :: rest)).trans ?_
    rw [tokens_of_isBlank (by decide)]
  rw [List.append_assoc, List.append_assoc, tokens_textWritten, separator, spelt tail ended]
  rfl

mutual

/-- A value is written as its tokens. -/
theorem spells_written (depth : Nat) : ∀ value : Value, Spells (written depth value) value.tokens
  | .null => spells_null
  | .bool true => spells_true
  | .bool false => spells_false
  | .int i => spells_int i
  | .float x => spells_float x
  | .text t => spells_text t
  | .list items => spells_block (spells_itemsWritten (depth + 1) items) depth rfl rfl (by decide)
  | .record members =>
    spells_block (spells_membersWritten (depth + 1) members) depth rfl rfl (by decide)

theorem spells_itemsWritten (depth : Nat) : ∀ items : List Value,
    List.Forall₂ Spells (itemsWritten depth items) (Value.itemsTokens items)
  | [] => .nil
  | item :: rest => .cons (spells_written depth item) (spells_itemsWritten depth rest)

theorem spells_membersWritten (depth : Nat) : ∀ members : List (Text × Value),
    List.Forall₂ Spells (membersWritten depth members) (Value.membersTokens members)
  | [] => .nil
  | (_, value) :: rest =>
    .cons (spells_member (spells_written depth value)) (spells_membersWritten depth rest)

end

/-- The tokens of a document are those of its value. -/
theorem tokens_written (value : Value) : tokens (written 0 value) = value.tokens := by
  have whole := spells_written 0 value [] endsNumber_nil
  rwa [List.append_nil, tokens_nil, List.append_nil] at whole

end Json

end SelectorProse
