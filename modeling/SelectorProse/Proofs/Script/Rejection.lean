import SelectorProse.Proofs.Event.Flaw
import SelectorProse.Script.Basic

/-!
Values that are rejected under an index. Main statement: which flaw is reported and in which words,
and that the message begins with an index exactly if there is one.
-/

set_option autoImplicit false

namespace SelectorProse.Script

open Event (Flaw Kind)

/-- The words about a flaw stand alone where there is no index, and behind the index where there is
one. -/
structure Places (index : Value) (words message : Text) : Prop where
  alone : index = .null → message = words
  behind : index ≠ .null →
    message = Text.ofString "event " ++ index.plain ++ Text.ofString ": " ++ words
  marked : Text.ofString "event " <+: message ↔ index ≠ .null

theorem indexed_of_ne {index : Value} (present : index ≠ .null) (words : Text) :
    indexed index words =
      Text.ofString "event " ++ index.plain ++ Text.ofString ": " ++ words := by
  cases index with
  | null => exact absurd rfl present
  | _ => rfl

theorem places_indexed {value : Value} {defect : Event.Defect} {words : Text}
    (flaw : Flaw value defect words) (index : Value) :
    Places index words (indexed index words) := by
  refine ⟨?_, fun present => indexed_of_ne present words, ?_⟩
  · rintro rfl
    rfl
  · constructor
    · rintro marked rfl
      exact flaw.not_marked marked
    · intro present
      rw [indexed_of_ne present, List.append_assoc, List.append_assoc]
      exact List.prefix_append _ _

/-- A flaw is told in its words under the index, unless they would name a kind that cannot be
written out. -/
theorem eq_report_iff {index value : Value} {defect : Event.Defect} {words : Text} {fault : Fault}
    (flaw : Flaw value defect words) : fault = report index defect ↔
      (defect.obstacle? = none ∧ fault = .rejected index (.event defect) ∧
        Places index words fault.message) ∨
      ∃ obstacle, defect.obstacle? = some obstacle ∧ fault = .unwritable obstacle := by
  cases met : defect.obstacle? with
  | none =>
    have message : (Fault.rejected index (.event defect)).message = indexed index words :=
      congrArg (indexed index) flaw.message_eq
    rw [report_of_none met]
    constructor
    · rintro rfl
      exact .inl ⟨rfl, rfl, message ▸ places_indexed flaw index⟩
    · rintro (⟨-, rfl, -⟩ | ⟨obstacle, impossible, -⟩)
      · rfl
      · cases impossible
  | some obstacle =>
    rw [report_of_some met]
    constructor
    · rintro rfl
      exact .inr ⟨obstacle, rfl, rfl⟩
    · rintro (⟨impossible, -⟩ | ⟨other, same, rfl⟩)
      · cases impossible
      · rw [Option.some.inj same]

/-- An ill-typed position between members that no event has. -/
def crowdedMembers : List (Text × Value) := [
  (Text.ofString "zeta", .null), (Text.ofString "position", .bool true),
  (Text.ofString "kind", .text (Text.ofString "nth_child")), (Text.ofString "Zeta", .int 1)]

end SelectorProse.Script
