import SelectorProse.Proofs.Script.Outcome
import SelectorProse.Proofs.Script.Rejection
import SelectorProse.Proofs.Script.RoundTrip

/-!
Walks that were made by hand and stored as they are. Main statement: storing always succeeds, and
loading finds the first value that is not of the kind expected of it, and where it stood.
-/

set_option autoImplicit false

namespace SelectorProse

/-- Of the items without a property the first has only items with it before itself. -/
theorem exists_first {α : Type} {property : α → Prop} [DecidablePred property] {items : List α}
    (violated : ¬ ∀ item ∈ items, property item) :
    ∃ before item after, items = before ++ item :: after ∧
      (∀ earlier ∈ before, property earlier) ∧ ¬ property item := by
  cases found : items.find? fun item => !decide (property item) with
  | none =>
    rw [List.find?_eq_none] at found
    exact absurd (fun item member => by simpa using found item member) violated
  | some item =>
    obtain ⟨fails, before, after, split, earlier⟩ := List.find?_eq_some_iff_append.mp found
    refine ⟨before, item, after, split, fun other member => ?_, by simpa using fails⟩
    simpa using earlier other member

/-- Storing and loading changes no value into one of another kind. -/
@[simp] theorem Value.kind_reread (value : Value) : value.reread.kind = value.kind := by
  cases value <;> rfl

namespace Event

theorem wellTyped_mapArguments_reread {event : Event} :
    (event.mapArguments Value.reread).WellTyped ↔ event.WellTyped := by
  simp only [WellTyped, entries_mapArguments, List.forall_mem_map, Value.kind_reread]

/-- The first value of the event that is not of the kind expected of it. -/
structure FirstIllTyped (event : Event) (field : Field) (value : Value) : Prop where
  split : ∃ passed rest, event.entries = passed ++ (field, value) :: rest ∧
    ∀ entry ∈ passed, entry.2.kind = entry.1.expected
  other : value.kind ≠ field.expected

section

variable {event : Event} {field : Field} {value : Value}

theorem exists_firstIllTyped (illTyped : ¬ event.WellTyped) :
    ∃ field value, event.FirstIllTyped field value := by
  obtain ⟨passed, ⟨field, value⟩, rest, split, typed, other⟩ := exists_first illTyped
  exact ⟨field, value, ⟨passed, rest, split, typed⟩, other⟩

theorem FirstIllTyped.reread (first : event.FirstIllTyped field value) :
    (event.mapArguments Value.reread).FirstIllTyped field value.reread := by
  obtain ⟨passed, rest, split, typed⟩ := first.split
  have mapped := entries_mapArguments Value.reread event
  rw [split, List.map_append, List.map_cons] at mapped
  refine ⟨⟨_, _, mapped, ?_⟩, ?_⟩
  · simpa only [List.forall_mem_map, Value.kind_reread] using typed
  · rw [Value.kind_reread]
    exact first.other

/-- The record of an event that is ill-typed has the flaw of its first ill-typed value. -/
theorem FirstIllTyped.flaw (first : event.FirstIllTyped field value) :
    Flaw event.toValue (.illTyped event.kind field value.kind)
      (event.kind.name ++ Text.ofString "." ++ field.label ++ Text.ofString " must be " ++
        field.expected.name ++ Text.ofString ", got " ++ value.kind.name) := by
  obtain ⟨passed, rest, split, typed⟩ := first.split
  rw [entries_eq, List.map_eq_append_iff] at split
  obtain ⟨front, back, order, rfl, behind⟩ := split
  obtain ⟨field, others, rfl, found, -⟩ := List.map_eq_cons_iff.mp behind
  obtain ⟨rfl, rfl⟩ := Prod.mk.inj found
  rw [List.forall_mem_map] at typed
  refine .illTyped List.lookup_cons_self ?_ ?_ order typed first.other
  · intro field present
    rw [keys_toMembers]
    exact List.mem_cons_of_mem _ (List.mem_map_of_mem present)
  · intro key present
    rwa [keys_toMembers, List.mem_cons] at present

theorem hasDistinctKeys_toValue (event : Event) : event.toValue.HasDistinctKeys :=
  nodup_keys_toMembers event

end

end Event

namespace Script

open Event

/-- The first event of the walk that is ill-typed, with those before it, and the first value of this
event that is not of the kind expected of it. -/
structure FirstIllTyped (events before : List Event) (event : Event) (field : Field)
    (value : Value) : Prop where
  split : ∃ after, events = before ++ event :: after
  wellTyped : ∀ earlier ∈ before, earlier.WellTyped
  first : event.FirstIllTyped field value

section

variable {events before : List Event} {event : Event} {field : Field} {value : Value}

theorem exists_firstIllTyped (illTyped : ¬ ∀ event ∈ events, event.WellTyped) :
    ∃ before event field value, FirstIllTyped events before event field value := by
  obtain ⟨before, event, after, split, wellTyped, other⟩ := exists_first illTyped
  obtain ⟨field, value, first⟩ := Event.exists_firstIllTyped other
  exact ⟨before, event, field, value, ⟨after, split⟩, wellTyped, first⟩

theorem ofItems_of_firstIllTyped (first : FirstIllTyped events before event field value) :
    ofItems 0 (events.map toValue) =
      .error (.rejected (.int before.length) (.event (.illTyped event.kind field value.kind))) := by
  obtain ⟨after, split⟩ := first.split
  have accepted : Accepted (before.map toValue) before :=
    accepted_of_ofItems (ofItems_toValue 0 first.wellTyped)
  have failed : readEvent (.int ↑(0 + (before.map toValue).length)) event.toValue =
      .error (.rejected (.int before.length) (.event (.illTyped event.kind field value.kind))) := by
    rw [readEvent_eq_error_iff, Nat.zero_add, List.length_map]
    exact ⟨_, first.first.flaw.ofValue_eq (hasDistinctKeys_toValue event), rfl⟩
  rw [split, List.map_append, List.map_cons]
  exact ofItems_of_rejected accepted failed

theorem FirstIllTyped.reread (first : FirstIllTyped events before event field value) :
    FirstIllTyped (events.map (mapArguments Value.reread)) (before.map (mapArguments Value.reread))
      (event.mapArguments Value.reread) field value.reread := by
  obtain ⟨after, split⟩ := first.split
  refine ⟨⟨after.map (mapArguments Value.reread), ?_⟩, ?_, first.first.reread⟩
  · rw [split, List.map_append, List.map_cons]
  · simpa only [List.forall_mem_map, wellTyped_mapArguments_reread] using first.wellTyped

end

/-- Any walk is stored, whatever its events carry: values of any kind, with at most 290 lists and
records inside one another and no number too long to be written. It is loaded again exactly if all
its events are well-typed. Otherwise the first that is not is rejected, with its place in the walk
and with the kind of the first value that is not as expected. -/
theorem parse_dump_illTyped (events : List Event) (writable : ∀ event ∈ events, event.Writable)
    (shallow : ∀ event ∈ events, ∀ value ∈ event.arguments, value.nesting ≤ 290) :
    ∃ document, dump? events = some document ∧
      ((∃ loaded, parse document = .ok loaded) ↔ ∀ event ∈ events, event.WellTyped) ∧
      ((∀ event ∈ events, event.WellTyped) ∨
        ∃ before event field value, FirstIllTyped events before event field value) ∧
      ∀ before event field value, FirstIllTyped events before event field value →
        ∃ fault, parse document = .error fault ∧
          fault = .rejected (.int before.length)
            (.event (.illTyped event.kind field value.kind)) ∧
          fault.message = Text.ofString "event " ++ Text.ofNat before.length ++
            Text.ofString ": " ++ (event.kind.name ++ Text.ofString "." ++ field.label ++
              Text.ofString " must be " ++ field.expected.name ++ Text.ofString ", got " ++
              value.kind.name) := by
  have parsed := parse_written writable shallow (by decide)
  have rejected (before : List Event) (event : Event) (field : Field) (value : Value)
      (first : FirstIllTyped events before event field value) :
      parse (Json.written 0 (.list (events.map toValue))) = .error (.rejected (.int before.length)
        (.event (.illTyped event.kind field value.kind))) := by
    rw [parsed, ofItems_of_firstIllTyped first.reread, List.length_map, kind_mapArguments,
      Value.kind_reread]
  have typedOrNot : (∀ event ∈ events, event.WellTyped) ∨
      ∃ before event field value, FirstIllTyped events before event field value :=
    (em _).imp_right exists_firstIllTyped
  refine ⟨_, dump?_eq writable, ⟨?_, ?_⟩, typedOrNot, ?_⟩
  · rintro ⟨loaded, success⟩
    rcases typedOrNot with wellTyped | ⟨before, event, field, value, first⟩
    · exact wellTyped
    · rw [rejected before event field value first] at success
      exact nomatch success
  · intro wellTyped
    refine ⟨_, parsed.trans (ofItems_toValue 0 ?_)⟩
    simpa only [List.forall_mem_map, wellTyped_mapArguments_reread] using wellTyped
  · intro before event field value first
    refine ⟨_, rejected before event field value first, rfl, ?_⟩
    exact (places_indexed first.first.flaw (.int before.length)).behind nofun

/-- A record for a text, and behind it a Boolean for a position. -/
def unfitWalk : List Event := [
  .className (.text []),
  .attributeMatch .exact (.text [.ofNat 0xD83D])
    (.record [(Text.ofString "kind", .list [.float .nan, .null])]),
  .nthChild (.bool true)]

theorem parse_dump_illTyped_unfitWalk :
    (∀ event ∈ unfitWalk, event.Writable) ∧
      (∀ event ∈ unfitWalk, ∀ value ∈ event.arguments, value.nesting ≤ 290) ∧
      ∃ document fault, dump? unfitWalk = some document ∧ parse document = .error fault ∧
        fault.message =
          Text.ofString "event 1: attribute_exact.value must be str, got dict" := by
  have writable : ∀ event ∈ unfitWalk, event.Writable := by decide +kernel
  have shallow : ∀ event ∈ unfitWalk, ∀ value ∈ event.arguments, value.nesting ≤ 290 := by
    decide +kernel
  have first : FirstIllTyped unfitWalk [.className (.text [])]
      (.attributeMatch .exact (.text [.ofNat 0xD83D])
        (.record [(Text.ofString "kind", .list [.float .nan, .null])]))
      .value (.record [(Text.ofString "kind", .list [.float .nan, .null])]) := by
    have fits : ∀ entry ∈ [(Field.name, Value.text [.ofNat 0xD83D])],
        entry.2.kind = entry.1.expected := List.forall_mem_singleton.mpr rfl
    exact ⟨⟨[.nthChild (.bool true)], rfl⟩, by decide, ⟨_, [], rfl, fits⟩, by decide⟩
  obtain ⟨document, dumped, -, -, rejected⟩ := parse_dump_illTyped unfitWalk writable shallow
  obtain ⟨fault, failed, -, message⟩ := rejected _ _ _ _ first
  exact ⟨writable, shallow, document, fault, dumped, failed, message.trans (by decide +kernel)⟩

end Script

end SelectorProse
