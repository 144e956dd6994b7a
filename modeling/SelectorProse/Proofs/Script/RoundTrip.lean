import SelectorProse.Proofs.Event.Record
import SelectorProse.Proofs.Json.Reread
import SelectorProse.Script.Basic

/-!
Storing a walk and loading it again. Main statement: the walk comes back with the surrogate pairs of
its texts joined, and so as it was exactly if it holds no such pair.
-/

set_option autoImplicit false

namespace SelectorProse

/-- A text with its surrogate pairs joined; any other value as it is. -/
def Value.joinSurrogates : Value → Value
  | .text t => .text t.joinSurrogates
  | value => value

namespace Event

/-- The event with each value that it carries changed alike. -/
def mapArguments (change : Value → Value) : Event → Event
  | .type name => .type (change name)
  | .id value => .id (change value)
  | .className value => .className (change value)
  | .attributeExists name => .attributeExists (change name)
  | .attributeMatch comparison name value =>
    .attributeMatch comparison (change name) (change value)
  | .nthChild position => .nthChild (change position)
  | event => event

@[simp] theorem kind_mapArguments (change : Value → Value) (event : Event) :
    (event.mapArguments change).kind = event.kind := by
  cases event <;> rfl

@[simp] theorem arguments_mapArguments (change : Value → Value) (event : Event) :
    (event.mapArguments change).arguments = event.arguments.map change := by
  cases event <;> rfl

theorem entries_mapArguments (change : Value → Value) (event : Event) :
    (event.mapArguments change).entries =
      event.entries.map fun entry => (entry.1, change entry.2) := by
  cases event <;> rfl

theorem mapArguments_congr {first second : Value → Value} {event : Event}
    (same : ∀ value ∈ event.arguments, first value = second value) :
    event.mapArguments first = event.mapArguments second := by
  cases event <;> simp_all [mapArguments, arguments]

/-- The event with the surrogate pairs of its texts joined. -/
def joinSurrogates (event : Event) : Event := event.mapArguments Value.joinSurrogates

theorem WellTyped.joinSurrogates {event : Event} (wellTyped : event.WellTyped) :
    event.joinSurrogates.WellTyped := by
  intro entry present
  rw [Event.joinSurrogates, entries_mapArguments] at present
  obtain ⟨⟨field, value⟩, before, rfl⟩ := List.mem_map.mp present
  have expected := wellTyped _ before
  cases value <;> exact expected

/-- No number of the event is too long to be written. -/
def Writable (event : Event) : Prop := ∀ value ∈ event.arguments, value.isWritable = true

instance (event : Event) : Decidable event.Writable :=
  inferInstanceAs (Decidable (∀ value ∈ event.arguments, value.isWritable = true))

theorem forall_mem_toMembers (held : Value → Prop) {event : Event}
    (name : held (.text event.kind.name)) (carried : ∀ value ∈ event.arguments, held value) :
    ∀ member ∈ event.toMembers, held member.2 := by
  rw [arguments_eq, List.forall_mem_map] at carried
  rw [toMembers, List.forall_mem_cons, List.forall_mem_map]
  exact ⟨name, carried⟩

theorem isWritable_toValue {event : Event} (writable : event.Writable) :
    event.toValue.isWritable = true := by
  rw [toValue, Value.isWritable, Value.areMembersWritable_iff]
  exact forall_mem_toMembers (fun value => value.isWritable = true) rfl writable

theorem nesting_toValue_le {event : Event} {depth : Nat}
    (shallow : ∀ value ∈ event.arguments, value.nesting ≤ depth) :
    event.toValue.nesting ≤ depth + 1 := by
  rw [toValue, Value.nesting]
  refine Nat.succ_le_succ (Value.membersNesting_le_iff.mpr ?_)
  exact forall_mem_toMembers (fun value => value.nesting ≤ depth) (Nat.zero_le _) shallow

/-- Names of kinds hold no surrogates. -/
theorem Kind.joinSurrogates_name (kind : Kind) : kind.name.joinSurrogates = kind.name := by
  cases kind with
  | attributeMatch comparison => cases comparison <;> decide
  | _ => decide

theorem joinSurrogates_label (field : Field) : field.label.joinSurrogates = field.label := by
  cases field <;> decide

theorem rereadMembers_toMembers (event : Event) :
    Value.rereadMembers event.toMembers = (event.mapArguments Value.reread).toMembers := by
  have kindKey : (Text.ofString "kind").joinSurrogates = Text.ofString "kind" := by decide
  rw [Value.rereadMembers_eq_map, toMembers, toMembers, List.map_cons, List.map_map,
    entries_mapArguments, List.map_map, kind_mapArguments, kindKey, Value.reread,
    Kind.joinSurrogates_name]
  congr 1
  refine List.map_congr_left fun entry _ => ?_
  exact Prod.ext (joinSurrogates_label entry.1) rfl

/-- The record of an event is read as that of the event whose values are read. -/
theorem reread_toValue (event : Event) :
    event.toValue.reread = (event.mapArguments Value.reread).toValue := by
  have distinct := nodup_keys_toMembers (event.mapArguments Value.reread)
  rw [toValue, Value.reread, rereadMembers_toMembers, Value.putAll_of_nodup distinct]
  rfl

/-- What a well-typed event is read as. -/
theorem WellTyped.mapArguments_reread {event : Event} (wellTyped : event.WellTyped) :
    event.mapArguments Value.reread = event.joinSurrogates := by
  refine mapArguments_congr fun value carried => ?_
  rcases wellTyped.text_or_int carried with ⟨t, rfl⟩ | ⟨i, rfl⟩
  · rfl
  · rfl

theorem WellTyped.nesting_eq_zero {event : Event} (wellTyped : event.WellTyped) {value : Value}
    (carried : value ∈ event.arguments) : value.nesting = 0 := by
  rcases wellTyped.text_or_int carried with ⟨t, rfl⟩ | ⟨i, rfl⟩
  · rfl
  · rfl

end Event

namespace Script

open Event

theorem ofItems_toValue {events : List Event} (index : Nat)
    (wellTyped : ∀ event ∈ events, event.WellTyped) :
    ofItems index (events.map toValue) = .ok events := by
  induction events generalizing index with
  | nil => rfl
  | cons event rest ih =>
    rw [List.forall_mem_cons] at wellTyped
    rw [List.map_cons, ofItems, readEvent_eq_ok.mpr (ofValue_toValue wellTyped.1)]
    dsimp only
    rw [ih (index + 1) wellTyped.2]
    rfl

theorem dump?_eq {events : List Event} (writable : ∀ event ∈ events, event.Writable) :
    dump? events = some (Json.written 0 (.list (events.map toValue))) := by
  have document : (Value.list (events.map toValue)).isWritable = true := by
    rw [Value.isWritable, Value.areWritable_iff, List.forall_mem_map]
    exact fun event member => isWritable_toValue (writable event member)
  rw [dump?]
  exact if_pos document

/-- A stored walk is loaded as the events whose values are read. -/
theorem parse_written {events : List Event} (writable : ∀ event ∈ events, event.Writable)
    {depth : Nat} (shallow : ∀ event ∈ events, ∀ value ∈ event.arguments, value.nesting ≤ depth)
    (room : depth + 2 ≤ Value.nestingLimit) :
    parse (Json.written 0 (.list (events.map toValue))) =
      ofItems 0 ((events.map (mapArguments Value.reread)).map toValue) := by
  have document : (Value.list (events.map toValue)).isWritable = true := by
    rw [Value.isWritable, Value.areWritable_iff, List.forall_mem_map]
    exact fun event member => isWritable_toValue (writable event member)
  have nested : (Value.list (events.map toValue)).nesting ≤ Value.nestingLimit := by
    rw [Value.nesting]
    refine Nat.le_trans (Nat.succ_le_succ (Value.itemsNesting_le_iff.mpr ?_)) room
    rw [List.forall_mem_map]
    exact fun event member => nesting_toValue_le (shallow event member)
  have items : Value.rereadItems (events.map toValue) =
      (events.map (mapArguments Value.reread)).map toValue := by
    rw [Value.rereadItems_eq_map, List.map_map, List.map_map]
    exact List.map_congr_left fun event _ => reread_toValue event
  rw [parse, Json.read_written document nested]
  dsimp only
  rw [Value.reread, items]
  rfl

end Script

namespace Event

theorem sameAll_map_iff (change : Event → Event) (events : List Event) :
    sameAll (events.map change) events = true ↔
      ∀ event ∈ events, (change event).same event = true := by
  induction events with
  | nil => simp [sameAll]
  | cons event rest ih =>
    rw [List.map_cons, sameAll, Bool.and_eq_true, ih, List.forall_mem_cons]

theorem sameItems_map_iff (change : Value → Value) (values : List Value) :
    Value.sameItems (values.map change) values = true ↔
      ∀ value ∈ values, (change value).same value = true := by
  induction values with
  | nil => simp [Value.sameItems]
  | cons value rest ih =>
    rw [List.map_cons, Value.sameItems, Bool.and_eq_true, ih, List.forall_mem_cons]

theorem WellTyped.same_joinSurrogates_iff {event : Event} (wellTyped : event.WellTyped) :
    event.joinSurrogates.same event = true ↔
      ∀ t, Value.text t ∈ event.arguments → t.Unpaired := by
  rw [same, Event.joinSurrogates, kind_mapArguments, arguments_mapArguments, decide_eq_true rfl,
    Bool.true_and, sameItems_map_iff]
  constructor
  · intro equal t carried
    have unchanged := equal _ carried
    rw [Value.joinSurrogates, Value.same, beq_iff_eq] at unchanged
    exact Text.joinSurrogates_eq_self_iff.mp unchanged
  · intro unpaired value carried
    rcases wellTyped.text_or_int carried with ⟨t, rfl⟩ | ⟨i, rfl⟩
    · rw [Value.joinSurrogates, Value.same, Text.joinSurrogates_of_unpaired (unpaired t carried)]
      exact beq_self_eq_true t
    · rw [Value.joinSurrogates, Value.same]
      · exact beq_self_eq_true i
      · exact nofun

end Event

namespace Script

/-- A walk of well-typed events is stored and loaded again with its surrogate pairs joined, and it
is equal to what it was exactly if none of its texts holds a pair. -/
theorem parse_dump (events : List Event) (wellTyped : ∀ event ∈ events, event.WellTyped)
    (writable : ∀ event ∈ events, event.Writable) :
    ∃ document loaded, dump? events = some document ∧ parse document = .ok loaded ∧
      loaded = events.map Event.joinSurrogates ∧
      (Event.sameAll loaded events = true ↔
        ∀ event ∈ events, ∀ t, Value.text t ∈ event.arguments → t.Unpaired) := by
  have shallow : ∀ event ∈ events, ∀ value ∈ event.arguments, value.nesting ≤ 0 :=
    fun event member value carried =>
      Nat.le_of_eq ((wellTyped event member).nesting_eq_zero carried)
  have joined : events.map (Event.mapArguments Value.reread) = events.map Event.joinSurrogates :=
    List.map_congr_left fun event member => (wellTyped event member).mapArguments_reread
  refine ⟨_, _, dump?_eq writable, ?_, rfl, ?_⟩
  · rw [parse_written writable shallow (by decide), joined]
    refine ofItems_toValue 0 ?_
    rw [List.forall_mem_map]
    exact fun event member => (wellTyped event member).joinSurrogates
  · rw [Event.sameAll_map_iff]
    exact forall₂_congr fun event member => (wellTyped event member).same_joinSurrogates_iff

/-- A walk in which a high surrogate stands before a pair, beside a negative position. -/
def halvesWalk : List Event := [
  .init, .className (.text [.ofNat 0xD83D, .ofNat 0xD83D, .ofNat 0xDE00, .ofChar '"']),
  .nthChild (.int (.negSucc 6))]

theorem parse_dump_halvesWalk :
    ∃ document, dump? halvesWalk = some document ∧ parse document = .ok [
      .init, .className (.text [.ofNat 0xD83D, .ofNat 0x1F600, .ofChar '"']),
      .nthChild (.int (.negSucc 6))] := by
  have wellTyped : ∀ event ∈ halvesWalk, event.WellTyped := by decide
  have writable : ∀ event ∈ halvesWalk, event.Writable := by decide +kernel
  obtain ⟨document, loaded, dumped, parsed, joined, -⟩ := parse_dump halvesWalk wellTyped writable
  exact ⟨document, dumped, parsed.trans (congrArg Except.ok (joined.trans rfl))⟩

end Script

end SelectorProse
