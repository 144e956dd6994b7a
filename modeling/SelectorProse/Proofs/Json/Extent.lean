import SelectorProse.Proofs.Json.Delimiter
import SelectorProse.Proofs.Json.Spelling

/-!
How far a token reaches. A blank or a mark behind a token ends it, so that no token depends on what
comes behind such a delimiter. Main statement: a source that is scanned without a broken token has
the same tokens before any delimited tail.
-/

set_option autoImplicit false

namespace SelectorProse.Json

/-- Whether the token is one that a document can hold. -/
def Token.isSound : Token → Bool
  | .brokenText _ _ => false
  | .unknown => false
  | _ => true

/-- What stands at the start of a text that begins with this character: a token and its length. -/
inductive Scanned (c : CodePoint) (rest : Text) : Token × Nat → Prop
  | mark {token : Token} (found : punctuation? c = some token) : Scanned c rest (token, 1)
  | text {found : List Piece} {stop : Nat} (quote : c = '"')
    (read : pieces 1 rest = .ok (found, stop)) : Scanned c rest (.text (ofPieces found), stop)
  | broken {problem : Problem} {distance : Nat} (quote : c = '"')
    (failed : pieces 1 rest = .error (problem, distance)) :
    Scanned c rest (.brokenText problem distance, rest.length + 1)
  | word {found : Token × Nat} (noMark : punctuation? c = none) (noQuote : c ≠ '"')
    (read : word? (c :: rest) = some found) : Scanned c rest found
  | number {found : Token × Nat} (noMark : punctuation? c = none) (noQuote : c ≠ '"')
    (noWord : word? (c :: rest) = none) (read : number? (c :: rest) = some found) :
    Scanned c rest found
  | unknown (noMark : punctuation? c = none) (noQuote : c ≠ '"')
    (noWord : word? (c :: rest) = none) (noNumber : number? (c :: rest) = none) :
    Scanned c rest (.unknown, rest.length + 1)

theorem scanned_scan (c : CodePoint) (rest : Text) : Scanned c rest (scan c rest) := by
  rw [scan]
  cases noMark : punctuation? c with
  | some token => exact .mark noMark
  | none =>
    by_cases quote : c = '"'
    · rw [if_pos quote]
      cases read : pieces 1 rest with
      | ok found => exact .text quote read
      | error fault => exact .broken quote read
    · rw [if_neg quote]
      cases read : word? (c :: rest) with
      | some found => exact .word noMark quote read
      | none =>
        cases number : number? (c :: rest) with
        | some found => exact .number noMark quote read number
        | none => exact .unknown noMark quote read number

theorem scanned_of_scan {c : CodePoint} {rest : Text} {found : Token × Nat}
    (read : scan c rest = found) : Scanned c rest found := read ▸ scanned_scan c rest

theorem Scanned.scan_eq {c : CodePoint} {rest : Text} {found : Token × Nat}
    (scanned : Scanned c rest found) : scan c rest = found := by
  rw [scan]
  cases scanned with
  | mark found => rw [found]
  | text quote read =>
    subst quote
    have noMark : punctuation? '"' = none := rfl
    rw [noMark, if_pos rfl, read]
  | broken quote failed =>
    subst quote
    have noMark : punctuation? '"' = none := rfl
    rw [noMark, if_pos rfl, failed]
  | word noMark noQuote read => rw [noMark, if_neg noQuote, read]
  | number noMark noQuote noWord read =>
    rw [noMark, if_neg noQuote, noWord, read]
    rfl
  | unknown noMark noQuote noWord noNumber =>
    rw [noMark, if_neg noQuote, noWord, noNumber]
    rfl

theorem punctuation?_isSound {c : CodePoint} {token : Token} (found : punctuation? c = some token) :
    token.isSound = true := by
  rw [punctuation?] at found
  repeat' split at found
  case isFalse.isFalse.isFalse.isFalse.isFalse.isFalse => cases found
  all_goals
    cases found
    rfl

theorem word?_isSound {source : Text} {found : Token × Nat} (read : word? source = some found) :
    found.1.isSound = true := by
  have known : (words.all fun entry => entry.2.isSound) = true := by decide
  rw [List.all_eq_true] at known
  obtain ⟨entry, chosen, rfl⟩ := Option.map_eq_some_iff.mp read
  exact known entry (List.mem_of_find?_eq_some chosen)

theorem number?_isSound {source : Text} {found : Token × Nat} (read : number? source = some found) :
    found.1.isSound = true := by
  obtain ⟨token, width⟩ := found
  rcases number?_cases read with ⟨-, ⟨_, _, rfl⟩ | ⟨_, rfl⟩⟩
  · rfl
  · rfl

namespace Scanned

variable {c : CodePoint} {rest tail : Text} {token : Token} {width : Nat}

theorem width_le (scanned : Scanned c rest (token, width)) :
    1 ≤ width ∧ width ≤ rest.length + 1 := by
  cases scanned with
  | mark found => omega
  | text quote read =>
    obtain ⟨body, behind, rfl, -, rfl⟩ := pieces_eq_ok_iff.mp read
    rw [List.length_append, List.length_cons]
    omega
  | broken quote failed => omega
  | word noMark noQuote read => exact word?_width_le read
  | number noMark noQuote noWord read => exact (number?_cases read).1
  | unknown noMark noQuote noWord noNumber => omega

/-- Behind a token that is no token of a document nothing is read. -/
theorem width_of_not_isSound (scanned : Scanned c rest (token, width))
    (broken : token.isSound = false) : width = rest.length + 1 := by
  cases scanned with
  | mark found => exact absurd (punctuation?_isSound found) (Bool.eq_false_iff.mp broken)
  | text quote read => cases broken
  | broken quote failed => rfl
  | word noMark noQuote read => exact absurd (word?_isSound read) (Bool.eq_false_iff.mp broken)
  | number noMark noQuote noWord read =>
    exact absurd (number?_isSound read) (Bool.eq_false_iff.mp broken)
  | unknown noMark noQuote noWord noNumber => rfl

/-- A token of a document stands there before any delimited tail as well. -/
theorem append (scanned : Scanned c rest (token, width)) (sound : token.isSound = true)
    (delimited : Delimited tail) : Scanned c (rest ++ tail) (token, width) := by
  have words := word?_append delimited (c :: rest)
  have numbers := number?_append delimited (c :: rest)
  cases scanned with
  | mark found => exact .mark found
  | text quote read => exact .text quote (pieces_append read tail)
  | broken quote failed => cases sound
  | word noMark noQuote read => exact .word noMark noQuote (words.trans read)
  | number noMark noQuote noWord read =>
    exact .number noMark noQuote (words.trans noWord) (numbers.trans read)
  | unknown noMark noQuote noWord noNumber => cases sound

/-- What is broken stays broken before a delimiter that no text between quotation marks holds. -/
theorem append_control {d : CodePoint} (scanned : Scanned c rest (token, width))
    (broken : token.isSound = false) (delimiter : isDelimiter d = true) (control : d.val < 0x20)
    (behind : Text) : (scan c (rest ++ d :: behind)).1.isSound = false := by
  have delimited : Delimited (d :: behind) := delimited_cons behind delimiter
  have words := word?_append delimited (c :: rest)
  have numbers := number?_append delimited (c :: rest)
  cases scanned with
  | mark found => exact absurd (punctuation?_isSound found) (Bool.eq_false_iff.mp broken)
  | text quote read => cases broken
  | broken quote failed =>
    obtain ⟨fault, unread⟩ := pieces_append_control failed control behind
    rw [(Scanned.broken quote unread).scan_eq]
    rfl
  | word noMark noQuote read => exact absurd (word?_isSound read) (Bool.eq_false_iff.mp broken)
  | number noMark noQuote noWord read =>
    exact absurd (number?_isSound read) (Bool.eq_false_iff.mp broken)
  | unknown noMark noQuote noWord noNumber =>
    have unread : Scanned c (rest ++ d :: behind) (.unknown, _) :=
      .unknown noMark noQuote (words.trans noWord) (numbers.trans noNumber)
    rw [unread.scan_eq]
    rfl

end Scanned

/-- A source without broken tokens has the same tokens before any delimited tail. -/
theorem tokens_append {source tail : Text} (delimited : Delimited tail)
    (sound : ∀ token ∈ tokens source, token.isSound = true) :
    tokens (source ++ tail) = tokens source ++ tokens tail := by
  induction source using inductionOnTokens with
  | nil =>
    rw [tokens_nil]
    rfl
  | blank c rest blank ih =>
    rw [tokens_of_isBlank blank] at sound
    rw [List.cons_append, tokens_of_isBlank blank, tokens_of_isBlank blank]
    exact ih sound
  | visible c rest token width visible read ih =>
    have standing := scanned_of_scan read
    have inside := standing.width_le
    rw [tokens_of_scan visible read, List.forall_mem_cons] at sound
    have before := (standing.append sound.1 delimited).scan_eq
    rw [List.cons_append, tokens_of_scan visible read, tokens_of_scan visible before,
      List.drop_append_of_le_length (by omega), ih sound.2, List.cons_append]

end SelectorProse.Json
