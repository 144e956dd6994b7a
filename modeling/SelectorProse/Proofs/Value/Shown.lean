import Mathlib.Data.List.Forall2
import SelectorProse.Event.Kind
import SelectorProse.Proofs.Json.Tokens
import SelectorProse.Proofs.Text.Quoted
import SelectorProse.Proofs.Value.Basic
import SelectorProse.Value.Shown

/-!
Texts and whole numbers in messages. Main statements: they are shown in printable characters, and
several of them in parentheses can be told from what is shown.
-/

set_option autoImplicit false

namespace SelectorProse

open Json (EndsNumber endsNumber_cons)

namespace Text

theorem printable_ofNat (n : Nat) : (ofNat n).Printable := by
  intro c member
  have decimal := Json.isDigit_iff.mp (Json.isDigit_of_mem_ofNat member)
  exact CodePoint.isPrintable_of_ascii (by omega) (by omega)

theorem printable_ofInt (i : Int) : (ofInt i).Printable := by
  cases i with
  | ofNat n => exact printable_ofNat n
  | negSucc n => exact .cons (by decide) (printable_ofNat (n + 1))

/-- Whole numbers are told apart if nothing behind them can be read as more of them. -/
theorem ofInt_append_injective {i j : Int} {rest more : Text} (ended : EndsNumber rest)
    (otherEnded : EndsNumber more) (same : ofInt i ++ rest = ofInt j ++ more) :
    i = j ∧ rest = more := by
  have scanned (k : Int) {tail : Text} (ended : EndsNumber tail) :
      Json.number? (ofInt k ++ tail) =
        some (.int (decide (k < 0)) (ofNat k.natAbs), (ofInt k).length) := by
    have found := Json.Numeral.number?_spelling (Json.Numeral.wellFormed_ofInt k) ended
    rwa [Json.Numeral.spelling_ofInt] at found
  have read := congrArg Json.number? same
  rw [scanned i ended, scanned j otherEnded, Option.some.injEq, Prod.mk.injEq,
    Json.Token.int.injEq, decide_eq_decide] at read
  obtain ⟨⟨signs, digits⟩, -⟩ := read
  have magnitudes : i.natAbs = j.natAbs := by
    rw [← Json.ofDigits_ofNat i.natAbs, digits, Json.ofDigits_ofNat]
  obtain rfl : i = j := by omega
  exact ⟨rfl, List.append_cancel_left same⟩

end Text

namespace Value

/-- Both are texts, or both are whole numbers. -/
inductive Alike : Value → Value → Prop where
  | texts (t u : Text) : Alike (.text t) (.text u)
  | ints (i j : Int) : Alike (.int i) (.int j)

theorem Alike.of_expected {field : Field} {value other : Value}
    (expected : value.kind = field.expected) (otherExpected : other.kind = field.expected) :
    Alike value other := by
  cases field with
  | name | value =>
    obtain ⟨t, rfl⟩ := exists_text_of_kind expected
    obtain ⟨u, rfl⟩ := exists_text_of_kind otherExpected
    exact .texts t u
  | position =>
    obtain ⟨i, rfl⟩ := exists_int_of_kind expected
    obtain ⟨j, rfl⟩ := exists_int_of_kind otherExpected
    exact .ints i j

/-- Two alike values are told apart if what comes behind them cannot be read as more of a number. -/
theorem Alike.shown_append_injective {value other : Value} (alike : Alike value other)
    {rest more : Text} (ended : EndsNumber rest) (otherEnded : EndsNumber more)
    (same : value.shown ++ rest = other.shown ++ more) : value = other ∧ rest = more := by
  cases alike with
  | texts t u =>
    rw [shown, shown] at same
    exact (Text.quoted_append_injective same).imp_left (congrArg Value.text)
  | ints i j =>
    rw [shown, shown] at same
    exact (Text.ofInt_append_injective ended otherEnded same).imp_left (congrArg Value.int)

/-- Alike values with commas between them are told apart, as many as there may be. -/
theorem join_shown_append_injective {values others : List Value}
    (alike : List.Forall₂ Alike values others) {rest more : Text} (ended : EndsNumber rest)
    (otherEnded : EndsNumber more)
    (same : Text.join (Text.ofString ", ") (values.map shown) ++ rest =
      Text.join (Text.ofString ", ") (others.map shown) ++ more) :
    values = others ∧ rest = more := by
  induction alike with
  | nil => exact ⟨rfl, same⟩
  | cons first later ih =>
    cases later with
    | nil =>
      exact (first.shown_append_injective ended otherEnded same).imp_left (congrArg ([·]))
    | cons second later =>
      have comma (tail : Text) : EndsNumber (Text.ofString ", " ++ tail) :=
        endsNumber_cons _ (by decide)
      rw [List.map_cons, List.map_cons, List.map_cons, List.map_cons, Text.join_cons_cons,
        Text.join_cons_cons, List.append_assoc, List.append_assoc, List.append_assoc,
        List.append_assoc] at same
      obtain ⟨rfl, remaining⟩ := first.shown_append_injective (comma _) (comma _) same
      obtain ⟨values, rest⟩ := ih (List.append_cancel_left remaining)
      exact ⟨congrArg (_ :: ·) values, rest⟩

/-- What closes the parentheses around some items. -/
def closing (count : Nat) : Text := Text.ofString (if count = 1 then ",)" else ")")

theorem inParentheses_eq (items : List Text) : inParentheses items =
    Text.ofString "(" ++ (Text.join (Text.ofString ", ") items ++ closing items.length) := by
  rw [← List.append_assoc]
  match items with
  | [] => rfl
  | [_] => rfl
  | _ :: _ :: _ => rfl

theorem endsNumber_closing (count : Nat) : EndsNumber (closing count) := by
  rw [closing]
  split <;> exact endsNumber_cons _ (by decide)

/-- Alike values in parentheses are told apart. -/
theorem inParentheses_shown_injective {values others : List Value}
    (alike : List.Forall₂ Alike values others)
    (same : inParentheses (values.map shown) = inParentheses (others.map shown)) :
    values = others := by
  rw [inParentheses_eq, inParentheses_eq] at same
  exact (join_shown_append_injective alike (endsNumber_closing _) (endsNumber_closing _)
    (List.append_cancel_left same)).1

theorem printable_inParentheses {items : List Text} (each : ∀ item ∈ items, item.Printable) :
    (inParentheses items).Printable := by
  have closes : (closing items.length).Printable := by
    rw [closing]
    split <;> exact Text.printable_of_all (by decide)
  rw [inParentheses_eq]
  exact (Text.printable_of_all (by decide)).append
    (((Text.printable_of_all (by decide)).join each).append closes)

end Value

end SelectorProse
