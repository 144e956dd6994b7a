import SelectorProse.Proofs.Describer.Operation
import SelectorProse.Proofs.Describer.Replay
import SelectorProse.Proofs.Script.RoundTrip

/-!
Events that cannot be described, from their arguments alone. A replay into a describer ends before
the first of them.
-/

set_option autoImplicit false

namespace SelectorProse

namespace Phrase

theorem requireName_of_truthy (part : Part) {name : Value} (present : name.isTruthy = true) :
    requireName part name = .ok name := if_pos present

theorem requireName_of_empty (part : Part) {name : Value} (empty : name.isTruthy = false) :
    requireName part name = .error (.emptyName part) := if_neg (Bool.eq_false_iff.mp empty)

theorem requirePresent_of_ne {part : Part} {value : Value} (present : value ≠ .null) :
    requirePresent part value = .ok value := by
  cases value with
  | null => exact absurd rfl present
  | _ => rfl

theorem appended_of_ne {value : Value} (other : value.kind ≠ .text) :
    appended value = .error (.notText value.kind) := by
  cases value with
  | text t => exact absurd rfl other
  | _ => rfl

end Phrase

/-- What the first argument of a kind is called where it must not be empty. -/
def Event.Kind.namePart? : Event.Kind → Option Part
  | .type => some .name
  | .id => some .id
  | .className => some .className
  | .attributeExists => some .name
  | .attributeMatch _ => some .name
  | _ => none

namespace Event

/-- The event cannot be described, whatever came before it and however the describer was made: its
name does not count, or it compares an attribute with null, or its class name is no text. -/
inductive Refused : Event → Fault → Prop
  | emptyName {event : Event} {part : Part} {name : Value} {others : List Value}
    (named : event.kind.namePart? = some part) (first : event.arguments = name :: others)
    (empty : name.isTruthy = false) : Refused event (.emptyName part)
  | absent (comparison : Comparison) {name : Value} (present : name.isTruthy = true) :
    Refused (.attributeMatch comparison name .null) (.absent .value)
  | notText {value : Value} (present : value.isTruthy = true) (other : value.kind ≠ .text) :
    Refused (.className value) (.notText value.kind)

def Accepted (event : Event) : Prop := ∀ fault, ¬ event.Refused fault

theorem Refused.fault?_eq {event : Event} {fault : Fault} (refused : event.Refused fault)
    (legacy : Bool) : event.fault? legacy = some fault := by
  cases refused with
  | emptyName named first empty =>
    cases event with
    | type name | id name | className name | attributeExists name
      | attributeMatch comparison name value =>
      obtain rfl := Option.some.inj named
      obtain ⟨rfl, -⟩ := List.cons.inj first
      simp only [fault?, phrase, Phrase.ofAttribute, Phrase.requireName_of_empty _ empty]
      rfl
    | _ => cases named
  | absent comparison present =>
    simp only [fault?, phrase, Phrase.ofAttribute, Phrase.requireName_of_truthy _ present]
    rfl
  | notText present other =>
    simp only [fault?, phrase, Phrase.requireName_of_truthy _ present]
    simp only [bind, Except.bind, Phrase.appended_of_ne other]

/-- The values that stand in the event's phrase. Where the template is left unfilled, a dash match
has none; a class name is put behind a text as it is. -/
def insertedValues (legacy : Bool) : Event → List Value
  | .className _ => []
  | .attributeMatch comparison name value =>
    if legacy && comparison = .dashMatch then [] else [name, value]
  | event => event.arguments

/-- No value of the event is nested too deeply to be written out. -/
def Shallow (event : Event) : Prop :=
  ∀ value ∈ event.arguments, value.nesting ≤ Value.nestingLimit

instance (event : Event) : Decidable event.Shallow :=
  inferInstanceAs (Decidable (∀ value ∈ event.arguments, value.nesting ≤ Value.nestingLimit))

theorem WellTyped.shallow {event : Event} (wellTyped : event.WellTyped) : event.Shallow := by
  intro value carried
  rw [wellTyped.nesting_eq_zero carried]
  exact Nat.zero_le _

theorem mem_arguments_of_mem_insertedValues {event : Event} {legacy : Bool} {value : Value}
    (member : value ∈ event.insertedValues legacy) : value ∈ event.arguments := by
  cases event with
  | className name => cases member
  | attributeMatch comparison name compared =>
    rw [insertedValues] at member
    split at member
    · cases member
    · exact member
  | _ => exact member

/-- The fault of the first of these values that cannot be written out. -/
def insertionFault? (values : List Value) : Option Fault :=
  (values.findSome? Value.obstacle?).map .unwritable

theorem fault_of_inserted (value : Value) (wording : Text → Text) :
    (match (do return wording (← Phrase.inserted value) : Except Fault Text) with
      | .ok _ => none
      | .error fault => some fault) = insertionFault? [value] := by
  rw [insertionFault?, List.findSome?_cons]
  cases met : value.obstacle? with
  | none =>
    rw [Phrase.inserted_of_none met]
    rfl
  | some obstacle =>
    rw [Phrase.inserted_of_some met]
    rfl

theorem fault?_attributeMatch (legacy : Bool) (comparison : Comparison) {name value : Value}
    (named : name.isTruthy = true) (present : value ≠ .null) :
    (attributeMatch comparison name value).fault? legacy =
      insertionFault? ((attributeMatch comparison name value).insertedValues legacy) := by
  rw [fault?, phrase, Phrase.ofAttribute_of_checked _ _ (Phrase.requireName_of_truthy _ named)
    (Phrase.requirePresent_of_ne present), insertedValues]
  by_cases unfilled : (legacy && comparison = .dashMatch) = true
  · rw [if_pos unfilled, if_pos unfilled]
    rfl
  · rw [if_neg unfilled, if_neg unfilled, insertionFault?, List.findSome?_cons]
    cases met : name.obstacle? with
    | some obstacle =>
      rw [Phrase.inserted_of_some met]
      rfl
    | none =>
      rw [Phrase.inserted_of_none met]
      exact fault_of_inserted value _

/-- An event that is not refused can only have values that cannot be written out. -/
theorem refused_or_fault?_eq (legacy : Bool) (event : Event) :
    (∃ fault, event.Refused fault) ∨
      event.fault? legacy = insertionFault? (event.insertedValues legacy) := by
  cases event with
  | type value | id value | attributeExists value =>
    cases present : value.isTruthy with
    | false => exact .inl ⟨_, .emptyName rfl rfl present⟩
    | true =>
      refine .inr ?_
      rw [fault?, phrase, Phrase.requireName_of_truthy _ present]
      exact fault_of_inserted value _
  | className value =>
    cases present : value.isTruthy with
    | false => exact .inl ⟨_, .emptyName rfl rfl present⟩
    | true =>
      by_cases textual : value.kind = .text
      · obtain ⟨t, rfl⟩ := Value.exists_text_of_kind textual
        refine .inr ?_
        rw [fault?, phrase, Phrase.requireName_of_truthy _ present]
        rfl
      · exact .inl ⟨_, .notText present textual⟩
  | attributeMatch comparison name value =>
    cases present : name.isTruthy with
    | false => exact .inl ⟨_, .emptyName rfl rfl present⟩
    | true =>
      by_cases null : value = .null
      · subst null
        exact .inl ⟨_, .absent comparison present⟩
      · exact .inr (fault?_attributeMatch legacy comparison present null)
  | nthChild position => exact .inr (fault_of_inserted position _)
  | _ => exact .inr rfl

theorem Refused.not_accepted {event : Event} {fault : Fault} (refused : event.Refused fault) :
    ¬ event.Accepted := fun accepted => accepted fault refused

theorem fault?_of_accepted {event : Event} (accepted : event.Accepted) (legacy : Bool) :
    event.fault? legacy = insertionFault? (event.insertedValues legacy) :=
  (refused_or_fault?_eq legacy event).resolve_left fun ⟨_, refused⟩ =>
    refused.not_accepted accepted

theorem insertionFault?_eq_none_iff {values : List Value}
    (writable : ∀ value ∈ values, value.isWritable = true) :
    insertionFault? values = none ↔ ∀ value ∈ values, value.nesting ≤ Value.nestingLimit := by
  rw [insertionFault?, Option.map_eq_none_iff, List.findSome?_eq_none_iff]
  refine forall₂_congr fun value member => ?_
  rw [Value.obstacle?_eq_none_iff, writable value member, eq_self, true_and]

/-- With numbers that can be written, an event is described exactly if it is not refused and the
values in its phrase are not nested too deeply. -/
theorem fault?_eq_none_iff {event : Event} (legacy : Bool) (writable : event.Writable) :
    event.fault? legacy = none ↔ event.Accepted ∧
      ∀ value ∈ event.insertedValues legacy, value.nesting ≤ Value.nestingLimit := by
  have short : ∀ value ∈ event.insertedValues legacy, value.isWritable = true :=
    fun value member => writable value (mem_arguments_of_mem_insertedValues member)
  constructor
  · intro described
    have accepted : event.Accepted := by
      intro fault refused
      rw [refused.fault?_eq legacy] at described
      cases described
    rw [fault?_of_accepted accepted, insertionFault?_eq_none_iff short] at described
    exact ⟨accepted, described⟩
  · rintro ⟨accepted, shallow⟩
    rw [fault?_of_accepted accepted, insertionFault?_eq_none_iff short]
    exact shallow

section

variable {event : Event} (writable : event.Writable) (shallow : event.Shallow)

include writable shallow

theorem fault?_eq_none_iff_accepted (legacy : Bool) :
    event.fault? legacy = none ↔ event.Accepted := by
  rw [fault?_eq_none_iff legacy writable]
  exact and_iff_left fun value member => shallow value (mem_arguments_of_mem_insertedValues member)

theorem accepted_or_refused (legacy : Bool) :
    event.fault? legacy = none ∨ ∃ fault, event.Refused fault := by
  rw [fault?_eq_none_iff_accepted writable shallow, Accepted, ← not_exists]
  exact em' _

/-- With values that can be written out, there is no other fault. -/
theorem fault?_eq_some_iff_refused {fault : Fault} (legacy : Bool) :
    event.fault? legacy = some fault ↔ event.Refused fault := by
  constructor
  · intro failed
    rcases accepted_or_refused writable shallow legacy with accepted | ⟨found, refused⟩
    · rw [accepted] at failed
      exact nomatch failed
    · rw [refused.fault?_eq legacy] at failed
      exact Option.some.inj failed ▸ refused
  · intro refused
    exact refused.fault?_eq legacy

/-- With values that can be written out, the unfilled template spares no event a fault. -/
theorem fault?_congr (legacy other : Bool) : event.fault? legacy = event.fault? other := by
  apply Option.ext
  intro fault
  rw [fault?_eq_some_iff_refused writable shallow, fault?_eq_some_iff_refused writable shallow]

end

end Event

/-- The entry on an event in the log of a replay. -/
def Event.logged (logger : Text) (event : Event) : LogEntry := ⟨logger, event.announcement⟩

namespace Describer

variable {describer : Describer} {logger : Text} {events before : List Event}

/-- A replay that no event stops goes through all events one by one. -/
theorem replay_of_accepted
    (accepted : ∀ event ∈ events, event.fault? describer.config.isLegacy = none) :
    replay call logger describer events =
      ⟨describer.performAll (events.map .call), events.map (Event.logged logger), none⟩ := by
  induction events generalizing describer with
  | nil => rfl
  | cons event rest ih =>
    rw [List.forall_mem_cons] at accepted
    rcases call_cases describer event with ⟨phrase, -, -, called⟩ | ⟨fault, failed, -⟩
    · have remaining : ∀ later ∈ rest,
          later.fault? (describer.after phrase event).config.isLegacy = none := by
        rw [config_after]
        exact accepted.2
      rw [replay_cons_of_none call logger rest called, ih remaining]
      simp only [List.map_cons, performAll, perform, called, Event.logged]
    · rw [accepted.1] at failed
      cases failed

/-- A replay ends with the first event that is refused: that event is logged and does nothing. -/
theorem replay_of_refused {event : Event} {fault : Fault} (after : List Event)
    (accepted : ∀ event ∈ before, event.fault? describer.config.isLegacy = none)
    (failed : event.fault? describer.config.isLegacy = some fault) :
    replay call logger describer (before ++ event :: after) =
      ⟨describer.performAll (before.map .call), (before ++ [event]).map (Event.logged logger),
        some fault⟩ := by
  have first : replay call logger describer before =
      ⟨describer.performAll (before.map .call), before.map (Event.logged logger), none⟩ :=
    replay_of_accepted accepted
  have kept : (describer.performAll (before.map .call)).config = describer.config := by
    have same := config_replay logger describer before
    rwa [first] at same
  rw [← kept] at failed
  have stopped := replay_cons_of_some call logger after (call_of_fault failed)
  rw [replay_append_of_none _ (by rw [first]), first]
  simp only [stopped, List.map_append, List.map_cons, List.map_nil, Event.logged]

end Describer

end SelectorProse
