import SelectorProse.Event.OfValue
import SelectorProse.Proofs.Value.Basic

/-!
Events and the records that stand for them.
-/

set_option autoImplicit false

namespace SelectorProse.Event

/-- The record of an event holds its kind and the fields of its kind, in this order. -/
theorem keys_toMembers (event : Event) : event.toMembers.map Prod.fst =
    Text.ofString "kind" :: event.kind.fields.map Field.label := by
  cases event <;> rfl

theorem nodup_keys_toMembers (event : Event) : (event.toMembers.map Prod.fst).Nodup := by
  rw [keys_toMembers]
  cases event.kind with
  | attributeMatch comparison => cases comparison <;> decide
  | _ => decide

/-- The record of an event holds what the event carries. -/
theorem ofFields_member_toMembers (event : Event) :
    ofFields (fun field => member event.toMembers field.label) event.kind = event := by
  cases event <;> rfl

theorem entries_eq (event : Event) : event.entries =
    event.kind.fields.map fun field => (field, member event.toMembers field.label) := by
  cases event <;> rfl

theorem wellTyped_iff {event : Event} : event.WellTyped ↔
    ∀ field ∈ event.kind.fields, (member event.toMembers field.label).kind = field.expected := by
  simp only [WellTyped, entries_eq, List.forall_mem_map]

theorem arguments_eq (event : Event) : event.arguments = event.entries.map Prod.snd := by
  cases event <;> rfl

/-- A well-typed event carries texts and whole numbers only. -/
theorem WellTyped.text_or_int {event : Event} (wellTyped : event.WellTyped) {value : Value}
    (carried : value ∈ event.arguments) :
    (∃ t, value = .text t) ∨ ∃ i, value = .int i := by
  rw [arguments_eq] at carried
  obtain ⟨⟨field, value⟩, present, rfl⟩ := List.mem_map.mp carried
  have expected : value.kind = field.expected := wellTyped _ present
  cases field with
  | name => exact Or.inl (Value.exists_text_of_kind expected)
  | value => exact Or.inl (Value.exists_text_of_kind expected)
  | position => exact Or.inr (Value.exists_int_of_kind expected)

theorem entries_ofFields (argument : Field → Value) (kind : Kind) :
    (ofFields argument kind).entries = kind.fields.map fun field => (field, argument field) := by
  cases kind <;> rfl

theorem lookup_eq_some_member {members : List (Text × Value)} {field : Field}
    (typed : (member members field.label).kind = field.expected) :
    members.lookup field.label = some (member members field.label) := by
  cases found : members.lookup field.label with
  | some value =>
    rw [member, found]
    rfl
  | none =>
    rw [member, found] at typed
    cases field <;> exact nomatch typed

end SelectorProse.Event
