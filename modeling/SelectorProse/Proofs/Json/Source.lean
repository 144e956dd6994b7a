import Mathlib.Data.List.Induction
import SelectorProse.Proofs.Json.Extent
import SelectorProse.Proofs.Json.Leaves

/-!
What a source gives to the values that are read from it. Main statements: no number in a document
is too long to be written, and where a source holds no surrogates, the texts in its document hold no
surrogate pairs.
-/

set_option autoImplicit false

namespace SelectorProse.Json

/-- Each token stands somewhere in the source. -/
theorem exists_scanned_of_mem_tokens {source : Text} {token : Token}
    (member : token ∈ tokens source) :
    ∃ c rest width, c :: rest <:+ source ∧ Scanned c rest (token, width) := by
  induction source using inductionOnTokens with
  | nil =>
    rw [tokens_nil] at member
    cases member
  | blank c rest blank ih =>
    rw [tokens_of_isBlank blank] at member
    obtain ⟨d, behind, width, suffix, scanned⟩ := ih member
    exact ⟨d, behind, width, suffix.trans (List.suffix_cons c rest), scanned⟩
  | visible c rest first width visible read ih =>
    rw [tokens_of_scan visible read, List.mem_cons] at member
    rcases member with rfl | later
    · exact ⟨c, rest, width, List.suffix_refl _, scanned_of_scan read⟩
    · obtain ⟨d, behind, other, suffix, scanned⟩ := ih later
      have dropped := suffix.trans (List.drop_suffix _ rest)
      exact ⟨d, behind, other, dropped.trans (List.suffix_cons c rest), scanned⟩

theorem isDigit_of_mem_wholeDigits {source : Text} {c : CodePoint}
    (member : c ∈ wholeDigits source) : isDigit c = true := by
  rw [wholeDigits] at member
  split at member
  · rw [List.mem_singleton.mp member]
    rfl
  · exact List.mem_takeWhile_imp member

/-- The token is neither a text nor a whole number. -/
def Token.isSimple : Token → Bool
  | .text _ => false
  | .int _ _ => false
  | _ => true

theorem word?_isSimple {source : Text} {found : Token × Nat} (read : word? source = some found) :
    found.1.isSimple = true := by
  have known : (words.all fun entry => entry.2.isSimple) = true := by decide
  rw [List.all_eq_true] at known
  obtain ⟨entry, chosen, rfl⟩ := Option.map_eq_some_iff.mp read
  exact known entry (List.mem_of_find?_eq_some chosen)

theorem punctuation?_isSimple {c : CodePoint} {token : Token}
    (found : punctuation? c = some token) : token.isSimple = true := by
  rw [punctuation?] at found
  repeat' split at found
  case isFalse.isFalse.isFalse.isFalse.isFalse.isFalse => cases found
  all_goals
    cases found
    rfl

/-- A whole number is read from its digits. -/
theorem isDigit_of_mem_tokens {source digits : Text} {negative : Bool}
    (member : Token.int negative digits ∈ tokens source) : ∀ c ∈ digits, isDigit c = true := by
  obtain ⟨c, rest, width, -, scanned⟩ := exists_scanned_of_mem_tokens member
  generalize shape : (Token.int negative digits, width) = found at scanned
  cases scanned with
  | mark found =>
    cases shape
    cases punctuation?_isSimple found
  | word noMark noQuote read =>
    cases shape
    cases word?_isSimple read
  | number noMark noQuote noWord read =>
    cases shape
    rcases (number?_cases read).2 with ⟨_, body, same⟩ | ⟨_, impossible⟩
    · cases same
      exact fun c => isDigit_of_mem_wholeDigits
    · cases impossible
  | _ => cases shape

/-- A number is below the power of ten that its digits count. -/
theorem ofDigits_lt (digits : Text) (decimal : ∀ c ∈ digits, isDigit c = true) :
    ofDigits digits < Nat.pow 10 digits.length := by
  induction digits using List.reverseRecOn with
  | nil => exact Nat.zero_lt_one
  | append_singleton digits c ih =>
    rw [List.forall_mem_append] at decimal
    have upper := ih decimal.1
    have last := isDigit_iff.mp (decimal.2 c (List.mem_singleton_self c))
    have shifted : Nat.pow 10 (digits.length + 1) = Nat.pow 10 digits.length * 10 := rfl
    rw [ofDigits_append_singleton, List.length_append, List.length_singleton, shifted]
    omega

theorem natAbs_ofSignedDigits (negative : Bool) (digits : Text) :
    (ofSignedDigits negative digits).natAbs = ofDigits digits := by
  rw [ofSignedDigits]
  cases negative with
  | true => exact (Int.natAbs_neg _).trans (Int.natAbs_natCast _)
  | false => exact Int.natAbs_natCast _

-- The limit is a variable here, so that no power of it is ever computed.
private theorem decide_ofDigits_lt {digits : Text} {limit : Nat} (short : digits.length ≤ limit)
    (decimal : ∀ c ∈ digits, isDigit c = true) :
    decide (ofDigits digits < Nat.pow 10 limit) = true :=
  decide_eq_true (Nat.lt_of_lt_of_le (ofDigits_lt digits decimal)
    (Nat.pow_le_pow_right (by decide) short))

/-- No number that is read is too long to be written. -/
theorem isWritable_of_read {source : Text} {value leaf : Value} (success : read source = .ok value)
    (present : leaf ∈ value.leaves) : leaf.isWritable = true := by
  obtain ⟨token, member, gives⟩ := mem_leaves_of_read success present
  cases gives with
  | int negative short =>
    rw [Value.isWritable, Text.isWritable, natAbs_ofSignedDigits]
    exact decide_ofDigits_lt short (isDigit_of_mem_tokens member)
  | _ => rfl

/-- What is spelt at first stands first, unless it is joined. -/
theorem eq_or_not_isSurrogate_of_ofPieces {d e : CodePoint} {rest : List Piece} {others : Text}
    (first : ofPieces (.spelt d :: rest) = e :: others) : e = d ∨ e.isSurrogate = false := by
  rcases rest with _ | ⟨_ | f, rest⟩
  · exact Or.inl (List.cons.inj first).1.symm
  · exact Or.inl (List.cons.inj first).1.symm
  · rw [ofPieces] at first
    split at first
    · rename_i pair
      rw [← (List.cons.inj first).1]
      exact Or.inr (CodePoint.not_isSurrogate_ofSurrogates pair)
    · exact Or.inl (List.cons.inj first).1.symm

/-- Pieces spell no surrogate pair where only numbers give surrogates: a number that begins a pair
is joined with the one behind it. -/
theorem unpaired_ofPieces {found : List Piece}
    (plain : ∀ c, Piece.plain c ∈ found → c.isSurrogate = false) : (ofPieces found).Unpaired := by
  have behind {first : Piece} {rest : List Piece} (held : ∀ c, Piece.plain c ∈ first :: rest →
      c.isSurrogate = false) (c : CodePoint) (member : Piece.plain c ∈ rest) :
      c.isSurrogate = false := held c (List.mem_cons_of_mem _ member)
  induction found using ofPieces.induct with
  | case1 => trivial
  | case2 c rest ih =>
    have single := plain c (List.mem_cons_self ..)
    rw [ofPieces_plain, Text.unpaired_cons_of_not_isSurrogate single]
    exact ih (behind plain)
  | case3 c => trivial
  | case4 c d rest ih =>
    have single := behind plain d (List.mem_cons_self ..)
    rw [ofPieces, Text.unpaired_cons, Text.unpaired_cons_of_not_isSurrogate single]
    refine ⟨?_, ih (behind (behind plain))⟩
    intro e others first pair
    rw [← (List.cons.inj first).1, Bool.and_eq_true] at pair
    rw [CodePoint.isSurrogate_of_isLowSurrogate pair.2] at single
    cases single
  | case5 c d rest pair ih =>
    rw [ofPieces_spelt_pair c rest d pair,
      Text.unpaired_cons_of_not_isSurrogate (CodePoint.not_isSurrogate_ofSurrogates pair)]
    exact ih (behind (behind plain))
  | case6 c d rest alone ih =>
    rw [ofPieces, if_neg alone, Text.unpaired_cons]
    refine ⟨fun e others first pair => ?_, ih (behind plain)⟩
    rcases eq_or_not_isSurrogate_of_ofPieces first with rfl | single
    · exact alone pair
    · rw [Bool.and_eq_true] at pair
      rw [CodePoint.isSurrogate_of_isLowSurrogate pair.2] at single
      cases single

/-- A character that is spelt without its number stands in the source, or is an escape for a
character of ASCII. -/
theorem SpeltBy.not_isSurrogate_of_plain {found : List Piece} {body : Text}
    (spelt : SpeltBy found body) (whole : ∀ c ∈ body, c.isSurrogate = false) (c : CodePoint)
    (member : Piece.plain c ∈ found) : c.isSurrogate = false := by
  induction spelt with
  | nil => cases member
  | cons head tail ih =>
    rw [List.forall_mem_append] at whole
    rcases List.mem_cons.mp member with rfl | later
    · cases head with
      | plain => exact whole.1 c (List.mem_singleton_self c)
      | short escape =>
        have ascii := (shortEscape?_eq_some escape).2
        rw [← Bool.not_eq_true, CodePoint.isSurrogate, Bool.and_eq_true, decide_eq_true_eq]
        omega
    · exact ih whole.2 later

theorem unpaired_of_mem_tokens {source t : Text} (whole : ∀ c ∈ source, c.isSurrogate = false)
    (member : Token.text t ∈ tokens source) : t.Unpaired := by
  obtain ⟨c, rest, width, suffix, scanned⟩ := exists_scanned_of_mem_tokens member
  generalize shape : (Token.text t, width) = found at scanned
  cases scanned with
  | mark found =>
    cases shape
    cases punctuation?_isSimple found
  | text quote read =>
    cases shape
    obtain ⟨body, behind, rfl, spelt, -⟩ := pieces_eq_ok_iff.mp read
    refine unpaired_ofPieces (spelt.not_isSurrogate_of_plain fun d inside => ?_)
    exact whole d (suffix.subset (List.mem_cons_of_mem _ (List.mem_append_left _ inside)))
  | broken quote failed => cases shape
  | word noMark noQuote read =>
    cases shape
    cases word?_isSimple read
  | number noMark noQuote noWord read =>
    cases shape
    rcases (number?_cases read).2 with ⟨_, _, impossible⟩ | ⟨_, impossible⟩
    · cases impossible
    · cases impossible
  | unknown => cases shape

/-- The texts of a source without surrogates hold no pair, whatever its escapes spell. -/
theorem unpaired_of_read {source t : Text} {value : Value}
    (whole : ∀ c ∈ source, c.isSurrogate = false) (success : read source = .ok value)
    (present : Value.text t ∈ value.leaves) : t.Unpaired := by
  obtain ⟨token, member, gives⟩ := mem_leaves_of_read success present
  cases gives
  exact unpaired_of_mem_tokens whole member

end SelectorProse.Json
