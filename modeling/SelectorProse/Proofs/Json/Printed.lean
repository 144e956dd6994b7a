import SelectorProse.Proofs.Json.Spelling
import SelectorProse.Proofs.Json.Tokens

/-!
The characters of a document. Main statement: whatever the value, it is written in ASCII, and of the
characters that cannot be seen only spaces and line feeds are used.
-/

set_option autoImplicit false

namespace SelectorProse.Json

/-- A line feed, or a character of ASCII from the space to the tilde. -/
def isPrinted (c : CodePoint) : Bool := c == '\n' || (0x20 ≤ c.val && c.val ≤ 0x7E)

/-- Everything in the text can be printed. -/
def Printed (t : Text) : Prop := ∀ c ∈ t, isPrinted c = true

theorem isPrinted_iff {c : CodePoint} :
    isPrinted c = true ↔ c = '\n' ∨ 0x20 ≤ c.val ∧ c.val ≤ 0x7E := by
  simp only [isPrinted, Bool.or_eq_true, beq_iff_eq, Bool.and_eq_true, decide_eq_true_eq]

theorem printed_nil : Printed [] := List.forall_mem_nil _

theorem printed_of_all {t : Text} (all : t.all isPrinted = true) : Printed t :=
  List.all_eq_true.mp all

theorem Printed.append {first second : Text} (front : Printed first) (back : Printed second) :
    Printed (first ++ second) := List.forall_mem_append.mpr ⟨front, back⟩

theorem Printed.cons {c : CodePoint} {rest : Text} (head : isPrinted c = true)
    (tail : Printed rest) : Printed (c :: rest) := List.forall_mem_cons.mpr ⟨head, tail⟩

theorem Printed.ascii {t : Text} (printed : Printed t) : ∀ c ∈ t, c.val < 0x80 := by
  intro c member
  rcases isPrinted_iff.mp (printed c member) with rfl | visible
  · decide
  · omega

theorem isPrinted_of_isDigit {c : CodePoint} (digit : isDigit c = true) : isPrinted c = true := by
  rw [isDigit_iff] at digit
  rw [isPrinted_iff]
  omega

theorem printed_of_isDigit {digits : Text} (decimal : ∀ c ∈ digits, isDigit c = true) :
    Printed digits := fun c member => isPrinted_of_isDigit (decimal c member)

theorem Numeral.WellFormed.printed {numeral : Numeral} (wellFormed : numeral.WellFormed) :
    Printed numeral.spelling := by
  have minus : Printed numeral.minus := by
    rw [Numeral.minus]
    split
    · exact printed_of_all (by decide)
    · exact printed_nil
  have pointed : Printed numeral.pointed := by
    rw [Numeral.pointed]
    split
    · exact printed_nil
    · exact .cons (by decide) (printed_of_isDigit wellFormed.fraction)
  have scaled : Printed numeral.scaled := by
    have signed : isPrinted numeral.sign = true := by
      rcases wellFormed.sign with plus | minus
      · rw [plus]
        rfl
      · rw [minus]
        rfl
    rw [Numeral.scaled]
    split
    · exact printed_nil
    · exact .cons (by decide) (.cons signed (printed_of_isDigit wellFormed.power))
  exact ((minus.append (printed_of_isDigit wellFormed.whole)).append pointed).append scaled

theorem printed_ofInt (i : Int) : Printed (Text.ofInt i) := by
  rw [← Numeral.spelling_ofInt]
  exact (Numeral.wellFormed_ofInt i).printed

theorem printed_floatWritten (x : Binary64) : Printed (floatWritten x) := by
  cases x with
  | nan => exact printed_of_all (by decide)
  | infinite negative => cases negative <;> exact printed_of_all (by decide)
  | finite negative significand exponent =>
    obtain ⟨numeral, wellFormed, spelling, -⟩ := spellsFloat_magnitude significand exponent negative
    rw [floatWritten, Binary64.written, ← spelling]
    exact wellFormed.printed

theorem isPrinted_digit {d : Nat} (hexadecimal : d < 16) : isPrinted (Text.digit d) = true := by
  have bounds := Text.val_digit_bounds hexadecimal
  rw [isPrinted_iff]
  omega

theorem printed_hex (width n : Nat) : Printed (Text.hex width n) :=
  Text.forall_mem_hex (fun _ hexadecimal => isPrinted_digit hexadecimal) width n

theorem printed_spelt (c : CodePoint) : Printed (spelt c) :=
  (printed_of_all (by decide)).append (printed_hex 4 c.val)

theorem printed_flatMap {items : Text} {write : CodePoint → Text}
    (each : ∀ c, Printed (write c)) : Printed (items.flatMap write) := by
  intro c member
  obtain ⟨item, -, inside⟩ := List.mem_flatMap.mp member
  exact each item c inside

theorem isPrinted_of_isPlain {c : CodePoint} (plain : isPlain c = true) (lower : 0x20 ≤ c.val) :
    isPrinted c = true := by
  simp only [isPlain, Bool.or_eq_true, beq_iff_eq, Bool.and_eq_true, decide_eq_true_eq] at plain
  rw [isPrinted_iff]
  rcases plain with ((((rfl | rfl) | rfl) | rfl) | rfl) | visible
  case inr => exact Or.inr visible
  all_goals exact absurd lower (by decide)

theorem printed_escaped (c : CodePoint) : Printed (escaped c) := by
  rcases escaped_cases c with ⟨e, written, short, -⟩ | ⟨written, -, -, lower, plain⟩ | ⟨written, -⟩
  · have letter : isPrinted e = true := isPrinted_iff.mpr (Or.inr (shortEscape?_eq_some short).1)
    rw [written]
    exact .cons (by decide) (.cons letter printed_nil)
  · rw [written]
    exact .cons (isPrinted_of_isPlain plain lower) printed_nil
  · rw [written]
    exact printed_flatMap printed_spelt

theorem printed_textWritten (t : Text) : Printed (textWritten t) :=
  ((printed_of_all (by decide)).append (printed_flatMap printed_escaped)).append
    (printed_of_all (by decide))

theorem printed_newLine (depth : Nat) : Printed (newLine depth) := by
  refine .cons (by decide) fun c member => ?_
  rw [List.eq_of_mem_replicate member]
  rfl

theorem printed_join {separator : Text} (between : Printed separator) {pieces : List Text}
    (each : ∀ piece ∈ pieces, Printed piece) : Printed (Text.join separator pieces) :=
  Text.forall_mem_join between each

theorem printed_block {opening closing : CodePoint} (opens : isPrinted opening = true)
    (closes : isPrinted closing = true) (depth : Nat) {entries : List Text}
    (each : ∀ entry ∈ entries, Printed entry) : Printed (block opening closing depth entries) := by
  have last : Printed [closing] := .cons closes printed_nil
  have comma : Printed (',' :: newLine (depth + 1)) := .cons (by decide) (printed_newLine _)
  rw [block]
  split
  · exact .cons opens last
  · have first : Printed (opening :: newLine (depth + 1)) := .cons opens (printed_newLine _)
    exact ((first.append (printed_join comma each)).append (printed_newLine depth)).append last

mutual

/-- A value is written in characters that can be printed. -/
theorem printed_written (depth : Nat) : ∀ value : Value, Printed (written depth value)
  | .null => printed_of_all rfl
  | .bool true => printed_of_all rfl
  | .bool false => printed_of_all rfl
  | .int i => printed_ofInt i
  | .float x => printed_floatWritten x
  | .text t => printed_textWritten t
  | .list items => printed_block (by decide) (by decide) depth (printed_itemsWritten _ items)
  | .record members =>
    printed_block (by decide) (by decide) depth (printed_membersWritten _ members)

theorem printed_itemsWritten (depth : Nat) : ∀ items : List Value,
    ∀ entry ∈ itemsWritten depth items, Printed entry
  | [] => List.forall_mem_nil _
  | item :: rest =>
    List.forall_mem_cons.mpr ⟨printed_written depth item, printed_itemsWritten depth rest⟩

theorem printed_membersWritten (depth : Nat) : ∀ members : List (Text × Value),
    ∀ entry ∈ membersWritten depth members, Printed entry
  | [] => List.forall_mem_nil _
  | (key, value) :: rest =>
    have member : Printed (textWritten key ++ Text.ofString ": " ++ written depth value) :=
      ((printed_textWritten key).append (printed_of_all (by decide))).append
        (printed_written depth value)
    List.forall_mem_cons.mpr ⟨member, printed_membersWritten depth rest⟩

end

end SelectorProse.Json
