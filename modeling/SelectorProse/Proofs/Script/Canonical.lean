import SelectorProse.Proofs.Json.Source
import SelectorProse.Proofs.Script.Outcome
import SelectorProse.Proofs.Script.RoundTrip

/-!
What a script that is accepted can hold. Main statement: a source without surrogates gives events
that are stored and loaded again as they are.
-/

set_option autoImplicit false

namespace SelectorProse

/-- The text that a value is, if it is one. -/
def Value.text? : Value → Option Text
  | .text t => some t
  | _ => none

theorem Value.eq_text_of_text? {value : Value} {t : Text} (found : t ∈ value.text?) :
    value = .text t := by
  cases value <;> cases found
  rfl

/-- An event that comes back as it was when it is stored. -/
structure Event.Storable (event : Event) : Prop where
  wellTyped : event.WellTyped
  writable : event.Writable
  unpaired : ∀ t, Value.text t ∈ event.arguments → t.Unpaired

namespace Event

theorem storable_iff {event : Event} : event.Storable ↔ event.WellTyped ∧ event.Writable ∧
    ∀ value ∈ event.arguments, ∀ t ∈ value.text?, t.Unpaired := by
  constructor
  · intro storable
    refine ⟨storable.wellTyped, storable.writable, fun value carried t found => ?_⟩
    exact storable.unpaired t (Value.eq_text_of_text? found ▸ carried)
  · rintro ⟨wellTyped, writable, unpaired⟩
    exact ⟨wellTyped, writable, fun t carried => unpaired _ carried t rfl⟩

instance (event : Event) : Decidable event.Storable := decidable_of_iff _ storable_iff.symm

/-- Joining leaves a storable event alone. -/
theorem Storable.joinSurrogates_eq {event : Event} (storable : event.Storable) :
    event.joinSurrogates = event := by
  have unchanged : event.mapArguments Value.joinSurrogates =
      event.mapArguments fun value => value := by
    refine mapArguments_congr fun value carried => ?_
    rcases storable.wellTyped.text_or_int carried with ⟨t, rfl⟩ | ⟨i, rfl⟩
    · rw [Value.joinSurrogates, Text.joinSurrogates_of_unpaired (storable.unpaired t carried)]
    · rfl
  rw [joinSurrogates, unchanged]
  cases event <;> rfl

end Event

namespace Script

theorem exists_item_of_mem {items : List Value} {events : List Event} {event : Event}
    (accepted : Accepted items events) (member : event ∈ events) :
    ∃ item ∈ items, Event.ofValue item = .ok event := by
  induction accepted with
  | nil => cases member
  | cons first others ih =>
    rename_i item _ items _
    rcases List.mem_cons.mp member with rfl | later
    · exact ⟨item, List.mem_cons_self .., first⟩
    · obtain ⟨other, present, read⟩ := ih later
      exact ⟨other, List.mem_cons_of_mem _ present, read⟩

/-- What holds the list of events holds its leaves. -/
theorem mem_leaves_of_held {value held leaf : Value} (holds : held? value = some held)
    (present : leaf ∈ held.leaves) : leaf ∈ value.leaves := by
  cases value with
  | record members =>
    rw [Value.leaves]
    exact Value.mem_leaves_of_lookup holds present
  | _ =>
    cases Option.some.inj holds
    exact present

/-- An event from a script is well-typed, and its values are leaves of the document. -/
theorem event_of_parse {source : Text} {events : List Event} (success : parse source = .ok events) :
    ∃ value, Json.read source = .ok value ∧ ∀ event ∈ events, event.WellTyped ∧
      ∀ argument ∈ event.arguments, argument ∈ value.leaves := by
  obtain ⟨value, items, read, holds, accepted⟩ := parse_eq_ok_iff.mp success
  refine ⟨value, read, fun event member => ?_⟩
  obtain ⟨item, present, given⟩ := exists_item_of_mem accepted member
  obtain ⟨wellTyped, members, rfl, found⟩ := Event.ofValue_eq_ok given
  refine ⟨wellTyped, fun argument carried => mem_leaves_of_held holds ?_⟩
  obtain ⟨key, stored⟩ := found argument carried
  have alone : argument ∈ argument.leaves := by
    rcases wellTyped.text_or_int carried with ⟨t, rfl⟩ | ⟨i, rfl⟩
    · exact List.mem_singleton_self _
    · exact List.mem_singleton_self _
  rw [Value.leaves, Value.mem_itemsLeaves]
  exact ⟨_, present, Value.mem_leaves_of_lookup stored alone⟩

theorem wellTyped_of_parse {source : Text} {events : List Event}
    (success : parse source = .ok events) : ∀ event ∈ events, event.WellTyped := by
  obtain ⟨value, -, given⟩ := event_of_parse success
  exact fun event member => (given event member).1

theorem writable_of_parse {source : Text} {events : List Event}
    (success : parse source = .ok events) : ∀ event ∈ events, event.Writable := by
  obtain ⟨value, read, given⟩ := event_of_parse success
  intro event member argument carried
  exact Json.isWritable_of_read read ((given event member).2 argument carried)

theorem storable_of_parse {source : Text} {events : List Event}
    (whole : ∀ c ∈ source, c.isSurrogate = false) (success : parse source = .ok events) :
    ∀ event ∈ events, event.Storable := by
  obtain ⟨value, read, given⟩ := event_of_parse success
  intro event member
  refine ⟨(given event member).1, writable_of_parse success event member, fun t carried => ?_⟩
  exact Json.unpaired_of_read whole read ((given event member).2 _ carried)

/-- Storable events are stored as this document, and loaded from it as they were. -/
theorem parse_written_of_storable {events : List Event}
    (storable : ∀ event ∈ events, event.Storable) :
    parse (Json.written 0 (.list (events.map Event.toValue))) = .ok events := by
  have shallow : ∀ event ∈ events, ∀ value ∈ event.arguments, value.nesting ≤ 0 := by
    intro event member value carried
    exact Nat.le_of_eq ((storable event member).wellTyped.nesting_eq_zero carried)
  have unchanged : events.map (Event.mapArguments Value.reread) = events := by
    refine (List.map_congr_left fun event member => ?_).trans (List.map_id events)
    rw [(storable event member).wellTyped.mapArguments_reread, id]
    exact (storable event member).joinSurrogates_eq
  rw [parse_written (fun event member => (storable event member).writable) shallow (by decide),
    unchanged]
  exact ofItems_toValue 0 fun event member => (storable event member).wellTyped

/-- The events of a source without surrogates are storable, so that storing them gives a document
for the same events, however the source spells them. -/
theorem parse_dump_parse {source : Text} {events : List Event}
    (whole : ∀ c ∈ source, c.isSurrogate = false) (success : parse source = .ok events) :
    (∀ event ∈ events, event.Storable) ∧
      ∃ document, dump? events = some document ∧ parse document = .ok events := by
  have storable := storable_of_parse whole success
  have stored := dump?_eq fun event member => (storable event member).writable
  exact ⟨storable, _, stored, parse_written_of_storable storable⟩

/-- A name with half a pair before a whole one, and a position below zero. -/
def halvesItems : List Event := [
  .type (.text [.ofNat 0xD83D, .ofNat 0x1F600]), .nthChild (.int (.negSucc 6))]

/-- The items as the second member `events` of a record; the name is spelt by three escapes. -/
def halvesMembers : List (Text × Text) := [
  (Text.ofString "\"events\"", Json.written 0 .null),
  (Text.ofString " \"events\"", Json.written 0 (.list (halvesItems.map Event.toValue)))]

theorem parse_dump_parse_halvesItems :
    ∃ document, dump? halvesItems = some document ∧ parse document = .ok halvesItems := by
  have whole : ∀ c ∈ Json.recordSpelling halvesMembers, c.isSurrogate = false := by
    have none : (Json.recordSpelling halvesMembers).any CodePoint.isSurrogate = false := by
      decide +kernel
    intro c member
    exact Bool.eq_false_iff.mpr (List.any_eq_false.mp none c member)
  have list : Json.read (Json.written 0 (.list (halvesItems.map Event.toValue))) =
      .ok (.list (halvesItems.map Event.toValue)) :=
    Json.read_written (by decide +kernel) (by decide)
  have first : Json.SpellsMember (Text.ofString "\"events\"", Json.written 0 .null)
      (Text.ofString "events", .null) := ⟨by decide +kernel, Json.read_written rfl (by decide)⟩
  have room : ¬ Json.TooDeep (Json.read (Json.recordSpelling halvesMembers)) :=
    Json.not_tooDeep_of_isOk (by decide +kernel)
  have success : parse (Json.recordSpelling halvesMembers) = .ok halvesItems := by
    have same := parse_recordSpelling list (by decide +kernel) (.cons first .nil) .nil
      (List.forall_mem_nil _) room
    rw [parse_of_read list] at same
    exact same.trans (ofItems_toValue 0 (by decide))
  exact (parse_dump_parse whole success).2

end Script

end SelectorProse
