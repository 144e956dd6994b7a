import Mathlib.Tactic.SplitIfs
import SelectorProse.Proofs.Json.Piece
import SelectorProse.Proofs.Text.Printable
import SelectorProse.Text.Quoted

/-!
Quoted texts. Main statements: a quoted text consists of printable characters, and whatever comes
behind it, both the text and what comes behind can be told from the whole.
-/

set_option autoImplicit false

namespace SelectorProse

open CodePoint (ofChar)

namespace Text

/-- The number that hexadecimal digits spell. -/
def ofHex (digits : Text) : Nat :=
  digits.foldl (fun value c => value * 16 + (Json.hexDigit? c).getD 0) 0

/-- At a sufficient width the digits of a number spell it. -/
theorem ofHex_hex {width n : Nat} (fits : n < Nat.pow 16 width) : ofHex (hex width n) = n := by
  induction width generalizing n with
  | zero => exact (Nat.lt_one_iff.mp fits).symm
  | succ width ih =>
    have shifted : Nat.pow 16 (width + 1) = Nat.pow 16 width * 16 := rfl
    have upper := ih (n := n / 16) (by omega)
    have last := Json.hexDigit?_digit (d := n % 16) (by omega)
    rw [ofHex] at upper ⊢
    rw [hex, List.foldl_append, upper, List.foldl_cons, List.foldl_nil, last, Option.getD_some]
    omega

theorem printable_hex (width n : Nat) : Printable (hex width n) := by
  refine forall_mem_hex (fun d hexadecimal => ?_) width n
  have bounds := val_digit_bounds hexadecimal
  exact CodePoint.isPrintable_of_ascii (by omega) (by omega)

end Text

namespace CodePoint

/-- What stands behind a backslash for a code point of its own. -/
def letterEscapes : List (CodePoint × CodePoint) :=
  [(ofChar 't', ofChar '\t'), (ofChar 'n', ofChar '\n'), (ofChar 'r', ofChar '\r')]

/-- What stands behind a backslash in front of hexadecimal digits, and how many they are. -/
def hexEscapes : List (CodePoint × Nat) := [(ofChar 'x', 2), (ofChar 'u', 4), (ofChar 'U', 8)]

/-- The ways to write a code point between quotation marks. -/
inductive Quotes (mark : CodePoint) : CodePoint → Text → Prop where
  | marked {c : CodePoint} (special : c = mark ∨ c = '\\') : Quotes mark c ['\\', c]
  | letter {c letter : CodePoint} (listed : (letter, c) ∈ letterEscapes) :
    Quotes mark c ['\\', letter]
  | plain {c : CodePoint} (notMark : c ≠ mark) (notBackslash : c ≠ '\\')
    (printable : c.isPrintable = true) : Quotes mark c [c]
  | hex {c letter : CodePoint} {width : Nat} (listed : (letter, width) ∈ hexEscapes)
    (fits : c.val < Nat.pow 16 width) : Quotes mark c ('\\' :: letter :: Text.hex width c.val)

theorem quotes_quoted (mark c : CodePoint) : Quotes mark c (quoted mark c) := by
  rw [quoted]
  split_ifs with special tab lineFeed carriageReturn printable short middle
  · rw [Bool.or_eq_true, decide_eq_true_eq, decide_eq_true_eq] at special
    exact .marked special
  · rw [tab]
    exact .letter (by decide)
  · rw [lineFeed]
    exact .letter (by decide)
  · rw [carriageReturn]
    exact .letter (by decide)
  · rw [Bool.or_eq_true, decide_eq_true_eq, decide_eq_true_eq, not_or] at special
    exact .plain special.1 special.2 printable
  · have listed : (ofChar 'x', 2) ∈ hexEscapes := by decide
    exact .hex listed (Nat.lt_succ_of_le short)
  · have listed : (ofChar 'u', 4) ∈ hexEscapes := by decide
    exact .hex listed (Nat.lt_succ_of_le middle)
  · have listed : (ofChar 'U', 8) ∈ hexEscapes := by decide
    exact .hex listed (Nat.lt_of_lt_of_le c.isLt (by decide))

/-- The code point that is written behind a backslash, and what follows it. -/
def readEscape? : Text → Option (CodePoint × Text)
  | [] => none
  | letter :: rest =>
    match letterEscapes.lookup letter, hexEscapes.lookup letter with
    | some c, _ => some (c, rest)
    | none, some width => some (ofNat (Text.ofHex (rest.take width)), rest.drop width)
    | none, none => some (letter, rest)

/-- The code point that a quoted text begins with, and what follows it. -/
def readQuoted? : Text → Option (CodePoint × Text)
  | [] => none
  | c :: rest => if c = '\\' then readEscape? rest else some (c, rest)

def IsQuotationMark (mark : CodePoint) : Prop := mark = '\'' ∨ mark = '"'

theorem IsQuotationMark.isPrintable {mark : CodePoint} (known : IsQuotationMark mark) :
    mark.isPrintable = true := by
  rcases known with rfl | rfl <;> decide

theorem IsQuotationMark.ne_backslash {mark : CodePoint} (known : IsQuotationMark mark) :
    ofChar '\\' ≠ mark := by
  rcases known with rfl | rfl <;> decide

variable {mark c : CodePoint} {spelling : Text}

theorem Quotes.printable (quotes : Quotes mark c spelling) (known : IsQuotationMark mark) :
    spelling.Printable := by
  have backslash : (ofChar '\\').isPrintable = true := by decide
  cases quotes with
  | marked special =>
    have printable : c.isPrintable = true := by
      rcases special with rfl | rfl
      · exact known.isPrintable
      · exact backslash
    exact .cons backslash (.singleton printable)
  | letter listed =>
    have letters : letterEscapes.all (fun pair => pair.1.isPrintable) = true := by decide
    exact .cons backslash (.singleton (List.all_eq_true.mp letters _ listed))
  | plain _ _ printable => exact .singleton printable
  | hex listed =>
    have letters : ∀ pair ∈ hexEscapes, pair.1.isPrintable = true := by decide
    exact .cons backslash (.cons (letters _ listed) (Text.printable_hex _ _))

/-- However a code point is written, it is read back, whatever follows it. -/
theorem Quotes.readQuoted?_append (quotes : Quotes mark c spelling) (known : IsQuotationMark mark)
    (rest : Text) : readQuoted? (spelling ++ rest) = some (c, rest) := by
  cases quotes with
  | marked special =>
    rcases special with rfl | rfl
    · rcases known with rfl | rfl <;> rfl
    · rfl
  | @letter letter listed =>
    -- A Boolean test of the table: to decide it for all pairs would go through every code point.
    have table : letterEscapes.all
        (fun pair => letterEscapes.lookup pair.1 == some pair.2) = true := by decide
    have found : letterEscapes.lookup letter = some c :=
      eq_of_beq (List.all_eq_true.mp table _ listed)
    change readEscape? (letter :: rest) = _
    rw [readEscape?, found]
  | plain _ notBackslash => exact if_neg notBackslash
  | @hex letter width listed fits =>
    have found : ∀ pair ∈ hexEscapes,
        letterEscapes.lookup pair.1 = none ∧ hexEscapes.lookup pair.1 = some pair.2 := by decide
    have digits : (Text.hex width c.val).length = width := Text.length_hex width c.val
    change readEscape? (letter :: (Text.hex width c.val ++ rest)) = _
    rw [readEscape?, (found _ listed).1, (found _ listed).2]
    dsimp only
    rw [List.take_left' digits, List.drop_left' digits, Text.ofHex_hex fits, ofNat_val]

/-- Nothing that is written for a code point begins like the end of the quotation. -/
theorem Quotes.append_ne (quotes : Quotes mark c spelling) (known : IsQuotationMark mark)
    (rest tail : Text) : spelling ++ rest ≠ mark :: tail := by
  cases quotes with
  | plain notMark => exact fun same => notMark (List.cons.inj same).1
  | marked | letter | hex => exact fun same => known.ne_backslash (List.cons.inj same).1

end CodePoint

namespace Text

open CodePoint (IsQuotationMark quotes_quoted)

theorem isQuotationMark_quotationMark (t : Text) : IsQuotationMark t.quotationMark := by
  rw [quotationMark]
  split
  · exact Or.inr rfl
  · exact Or.inl rfl

theorem printable_quoted (t : Text) : t.quoted.Printable := by
  have known := isQuotationMark_quotationMark t
  have between : Printable (t.flatMap (CodePoint.quoted t.quotationMark)) := by
    intro c member
    obtain ⟨item, -, inside⟩ := List.mem_flatMap.mp member
    exact (quotes_quoted _ item).printable known c inside
  exact .cons known.isPrintable (between.append (.singleton known.isPrintable))

/-- Texts between the same marks are told apart whatever comes behind the second mark. -/
theorem flatMap_quoted_append_injective {mark : CodePoint} (known : IsQuotationMark mark)
    {t u rest more : Text}
    (same : t.flatMap (CodePoint.quoted mark) ++ mark :: rest =
      u.flatMap (CodePoint.quoted mark) ++ mark :: more) : t = u ∧ rest = more := by
  induction t generalizing u with
  | nil =>
    cases u with
    | nil => exact ⟨rfl, (List.cons.inj same).2⟩
    | cons d u =>
      rw [List.flatMap_cons, List.append_assoc] at same
      exact absurd same.symm ((quotes_quoted mark d).append_ne known _ _)
  | cons c t ih =>
    rw [List.flatMap_cons, List.append_assoc] at same
    cases u with
    | nil => exact absurd same ((quotes_quoted mark c).append_ne known _ _)
    | cons d u =>
      rw [List.flatMap_cons, List.append_assoc] at same
      have read := congrArg CodePoint.readQuoted? same
      rw [(quotes_quoted mark c).readQuoted?_append known,
        (quotes_quoted mark d).readQuoted?_append known, Option.some.injEq, Prod.mk.injEq] at read
      obtain ⟨rfl, later⟩ := read
      obtain ⟨rfl, equal⟩ := ih later
      exact ⟨rfl, equal⟩

/-- Quoted texts are told apart whatever comes behind them. -/
theorem quoted_append_injective {t u rest more : Text}
    (same : t.quoted ++ rest = u.quoted ++ more) : t = u ∧ rest = more := by
  rw [quoted, quoted, List.cons_append, List.cons_append, List.cons_append, List.cons_append,
    List.cons.injEq] at same
  obtain ⟨marks, between⟩ := same
  rw [← marks, List.append_assoc, List.append_assoc] at between
  exact flatMap_quoted_append_injective (isQuotationMark_quotationMark t) between

end Text

end SelectorProse
