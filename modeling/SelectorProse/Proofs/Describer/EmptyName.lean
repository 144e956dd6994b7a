import SelectorProse.Proofs.Describer.Describe
import SelectorProse.Proofs.Describer.Refusal
import SelectorProse.Proofs.Script.Canonical

/-!
Describing what was loaded from a script. Main statement: nothing but an empty name keeps the events
of a script from being described, and the first one decides.
-/

set_option autoImplicit false

namespace SelectorProse

namespace Event

/-- The name in the event that is empty, if one is. What an attribute is compared with may be
empty. -/
def emptyName? (event : Event) : Option Part :=
  match event.arguments with
  | .text [] :: _ => event.kind.namePart?
  | _ => none

theorem WellTyped.exists_text {event : Event} (wellTyped : event.WellTyped) {field : Field}
    {value : Value} (present : (field, value) ∈ event.entries) (textual : field.expected = .text) :
    ∃ t, value = .text t :=
  Value.exists_text_of_kind ((wellTyped (field, value) present).trans textual)

theorem refused_emptyName {event : Event} {part : Part} (found : event.emptyName? = some part) :
    event.Refused (.emptyName part) := by
  rw [emptyName?] at found
  split at found
  · rename_i first
    exact .emptyName found first rfl
  · exact nomatch found

/-- Of what a script can hold, only empty names are refused. -/
theorem Refused.emptyName?_eq {event : Event} {fault : Fault} (refused : event.Refused fault)
    (wellTyped : event.WellTyped) : event.emptyName?.map Fault.emptyName = some fault := by
  cases refused with
  | emptyName named first empty =>
    cases event with
    | type name | id name | className name | attributeExists name
      | attributeMatch comparison name value =>
      obtain ⟨t, rfl⟩ := wellTyped.exists_text (List.mem_cons_self ..) rfl
      obtain rfl := Option.some.inj named
      obtain ⟨rfl, -⟩ := List.cons.inj first
      cases t with
      | nil => rfl
      | cons c t => exact nomatch empty
    | _ => exact nomatch named
  | absent comparison present =>
    obtain ⟨t, impossible⟩ := wellTyped.exists_text
      (List.mem_cons_of_mem _ (List.mem_singleton_self _)) rfl
    exact nomatch impossible
  | notText present other =>
    obtain ⟨t, rfl⟩ := wellTyped.exists_text (List.mem_singleton_self _) rfl
    exact absurd rfl other

theorem fault?_eq_emptyName? {event : Event} (legacy : Bool) (wellTyped : event.WellTyped)
    (writable : event.Writable) : event.fault? legacy = event.emptyName?.map Fault.emptyName := by
  rcases accepted_or_refused writable wellTyped.shallow legacy with accepted | ⟨fault, refused⟩
  · have unnamed : event.emptyName? = none := by
      rw [Option.eq_none_iff_forall_ne_some]
      intro part found
      rw [(refused_emptyName found).fault?_eq legacy] at accepted
      exact nomatch accepted
    rw [accepted, unnamed, Option.map_none]
  · rw [refused.fault?_eq legacy, refused.emptyName?_eq wellTyped]

end Event

namespace Script

/-- The first event of a script that is refused is the first with an empty name. -/
theorem findSome?_fault?_of_parse {source : Text} {events : List Event}
    (success : parse source = .ok events) (legacy : Bool) :
    events.findSome? (Event.fault? legacy) =
      (events.findSome? Event.emptyName?).map Fault.emptyName := by
  have same : ∀ event ∈ events,
      event.fault? legacy = (Option.map Fault.emptyName ∘ Event.emptyName?) event := by
    intro event member
    exact Event.fault?_eq_emptyName? legacy (wellTyped_of_parse success event member)
      (writable_of_parse success event member)
  rw [List.map_findSome?, ← List.head?_filterMap, ← List.head?_filterMap,
    List.filterMap_congr same]

/-- Events of a script are described unless a name in them is empty. The first event with an empty
name decides what is reported, whatever comes before and after it. -/
theorem describe_of_parse {source : Text} {events : List Event} {config : Config}
    (success : parse source = .ok events)
    (named : (∃ name, config.loggerName = .text name) ∨ config.loggerName = .null) :
    ((∃ fault, (describe config events).result = .error fault) ↔
        ∃ event ∈ events, event.emptyName?.isSome = true) ∧
      ∀ fault, (describe config events).result = .error fault ↔
        ∃ before event after part, events = before ++ event :: after ∧
          (∀ earlier ∈ before, earlier.emptyName? = none) ∧ event.emptyName? = some part ∧
          fault = .event (.emptyName part) := by
  have failed (fault : DescribeFault) : (describe config events).result = .error fault ↔
      ∃ part, events.findSome? Event.emptyName? = some part ∧
        fault = .event (.emptyName part) := by
    rw [result_describe_eq_error_iff (Config.isSome_logger? named),
      findSome?_fault?_of_parse success]
    simp only [Option.map_eq_some_iff]
    constructor
    · rintro ⟨_, ⟨part, first, rfl⟩, rfl⟩
      exact ⟨part, first, rfl⟩
    · rintro ⟨part, first, rfl⟩
      exact ⟨_, ⟨part, first, rfl⟩, rfl⟩
  constructor
  · rw [← List.findSome?_isSome_iff, Option.isSome_iff_exists]
    constructor
    · rintro ⟨fault, stopped⟩
      obtain ⟨part, first, -⟩ := (failed fault).mp stopped
      exact ⟨part, first⟩
    · rintro ⟨part, first⟩
      exact ⟨_, (failed _).mpr ⟨part, first, rfl⟩⟩
  · intro fault
    rw [failed]
    constructor
    · rintro ⟨part, first, rfl⟩
      obtain ⟨before, event, after, split, empty, others⟩ := List.findSome?_eq_some_iff.mp first
      exact ⟨before, event, after, part, split, others, empty, rfl⟩
    · rintro ⟨before, event, after, part, split, others, empty, rfl⟩
      have first := List.findSome?_eq_some_iff.mpr ⟨before, event, after, split, empty, others⟩
      exact ⟨part, first, rfl⟩

/-- An empty value of an attribute, then two empty names. -/
def emptyNamesWalk : List Event := [
  .attributeMatch .exact (.text [.ofChar 'a']) (.text []), .className (.text []), .id (.text [])]

theorem describe_of_parse_emptyNamesWalk :
    ∃ source, parse source = .ok emptyNamesWalk ∧
      (describe { loggerName := .null } emptyNamesWalk).result =
        .error (.event (.emptyName .className)) := by
  have list : Json.read (Json.written 0 (.list (emptyNamesWalk.map Event.toValue))) =
      .ok (.list (emptyNamesWalk.map Event.toValue)) := Json.read_written rfl (by decide)
  have success : parse (Json.written 0 (.list (emptyNamesWalk.map Event.toValue))) =
      .ok emptyNamesWalk := (parse_of_read list).trans (ofItems_toValue 0 (by decide))
  refine ⟨_, success, ((describe_of_parse success (Or.inr rfl)).2 _).mpr ?_⟩
  exact ⟨[_], _, [_], .className, rfl, List.forall_mem_singleton.mpr rfl, rfl, rfl⟩

end Script

end SelectorProse
