import SelectorProse.Proofs.Text.Numeral
import SelectorProse.Text.Printable

/-!
Printable code points. Main statements: no control character, no line break and no surrogate is
printable, and the characters of ASCII from the space to the tilde are.
-/

set_option autoImplicit false

namespace SelectorProse

namespace CodePoint

def isControl (c : CodePoint) : Bool := c.val < 0x20 || (0x7F ≤ c.val && c.val ≤ 0x9F)

/-- Line feed, vertical tabulator, form feed and carriage return, the separators of files, groups
and records, the next line, and the separators of lines and paragraphs. -/
def isLineBreak (c : CodePoint) : Bool :=
  (0x0A ≤ c.val && c.val ≤ 0x0D) || (0x1C ≤ c.val && c.val ≤ 0x1E) || c.val == 0x85 ||
    c.val == 0x2028 || c.val == 0x2029

/-- Are the numbers from the first to the last in one run? It is the first that ends at or behind
the first number. -/
def areInOneRun (first last : Nat) : List (Nat × Nat) → Bool
  | [] => false
  | (lower, upper) :: rest =>
    if first ≤ upper then lower ≤ first && last ≤ upper else areInOneRun first last rest

theorem inRuns_of_areInOneRun {first last n : Nat} {runs : List (Nat × Nat)}
    (together : areInOneRun first last runs = true) (least : first ≤ n) (greatest : n ≤ last) :
    inRuns n runs = true := by
  induction runs with
  | nil => exact nomatch together
  | cons run rest ih =>
    obtain ⟨lower, upper⟩ := run
    rw [areInOneRun] at together
    rw [inRuns]
    split at together
    · simp only [Bool.and_eq_true, decide_eq_true_eq] at together
      rw [if_pos (by omega), decide_eq_true_eq]
      omega
    · rw [if_neg (by omega)]
      exact ih together

variable {c : CodePoint}

theorem isPrintable_of_low (low : c.val < 0x1000) :
    c.isPrintable = !inRuns c.val unprintableLow := by
  rw [isPrintable, if_pos low]

theorem isPrintable_of_middle (middle : 0x1000 ≤ c.val) (upper : c.val < 0x10000) :
    c.isPrintable = !inRuns c.val unprintableMiddle := by
  rw [isPrintable, if_neg (by omega), if_pos upper]

theorem isPrintable_eq_false_of_low {first last : Nat}
    (together : areInOneRun first last unprintableLow = true) (below : last < 0x1000)
    (least : first ≤ c.val) (greatest : c.val ≤ last) : c.isPrintable = false := by
  rw [isPrintable_of_low (by omega), inRuns_of_areInOneRun together least greatest]
  rfl

theorem isPrintable_eq_false_of_middle {first last : Nat}
    (together : areInOneRun first last unprintableMiddle = true) (above : 0x1000 ≤ first)
    (below : last < 0x10000) (least : first ≤ c.val) (greatest : c.val ≤ last) :
    c.isPrintable = false := by
  rw [isPrintable_of_middle (by omega) (by omega), inRuns_of_areInOneRun together least greatest]
  rfl

theorem isPrintable_eq_false_of_isControl (control : c.isControl = true) :
    c.isPrintable = false := by
  simp only [isControl, Bool.or_eq_true, Bool.and_eq_true, decide_eq_true_eq] at control
  rcases control with lower | ⟨least, greatest⟩
  · exact isPrintable_eq_false_of_low (by decide : areInOneRun 0 0x1F unprintableLow = true)
      (by decide) (Nat.zero_le _) (Nat.le_of_lt_succ lower)
  · exact isPrintable_eq_false_of_low (by decide : areInOneRun 0x7F 0x9F unprintableLow = true)
      (by decide) least greatest

theorem isPrintable_eq_false_of_isSurrogate (surrogate : c.isSurrogate = true) :
    c.isPrintable = false := by
  simp only [isSurrogate, Bool.and_eq_true, decide_eq_true_eq] at surrogate
  exact isPrintable_eq_false_of_middle
    (by decide +kernel : areInOneRun 0xD800 0xDFFF unprintableMiddle = true) (by decide)
    (by decide) surrogate.1 surrogate.2

/-- The only line breaks that are no control characters are the separators of lines and of
paragraphs. -/
theorem isControl_of_isLineBreak (lineBreak : c.isLineBreak = true) :
    c.isControl = true ∨ 0x2028 ≤ c.val ∧ c.val ≤ 0x2029 := by
  simp only [isLineBreak, Bool.or_eq_true, Bool.and_eq_true, decide_eq_true_eq,
    beq_iff_eq] at lineBreak
  simp only [isControl, Bool.or_eq_true, Bool.and_eq_true, decide_eq_true_eq]
  omega

theorem isPrintable_eq_false_of_isLineBreak (lineBreak : c.isLineBreak = true) :
    c.isPrintable = false := by
  rcases isControl_of_isLineBreak lineBreak with control | ⟨least, greatest⟩
  · exact isPrintable_eq_false_of_isControl control
  · exact isPrintable_eq_false_of_middle
      (by decide +kernel : areInOneRun 0x2028 0x2029 unprintableMiddle = true) (by decide)
      (by decide) least greatest

theorem isPrintable_of_ascii (lower : 0x20 ≤ c.val) (upper : c.val ≤ 0x7E) :
    c.isPrintable = true := by
  have clear : ∀ n < 0x7F, 0x20 ≤ n → inRuns n unprintableLow = false := by decide
  rw [isPrintable_of_low (by omega), clear c.val (Nat.lt_succ_of_le upper) lower]
  rfl

end CodePoint

namespace Text

/-- Every code point of the text is printable. -/
def Printable (t : Text) : Prop := ∀ c ∈ t, c.isPrintable = true

theorem printable_of_all {t : Text} (all : t.all CodePoint.isPrintable = true) : t.Printable :=
  List.all_eq_true.mp all

theorem Printable.singleton {c : CodePoint} (only : c.isPrintable = true) : Printable [c] :=
  List.forall_mem_singleton.mpr only

theorem Printable.cons {c : CodePoint} {rest : Text} (head : c.isPrintable = true)
    (tail : rest.Printable) : Printable (c :: rest) := List.forall_mem_cons.mpr ⟨head, tail⟩

theorem Printable.append {first second : Text} (front : first.Printable)
    (back : second.Printable) : (first ++ second).Printable :=
  List.forall_mem_append.mpr ⟨front, back⟩

theorem Printable.join {separator : Text} (between : separator.Printable) {pieces : List Text}
    (each : ∀ piece ∈ pieces, piece.Printable) : (join separator pieces).Printable :=
  forall_mem_join between each

end Text

end SelectorProse
