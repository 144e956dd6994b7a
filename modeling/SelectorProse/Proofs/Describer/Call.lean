import SelectorProse.Describer.Basic
import SelectorProse.Proofs.Describer.Phrase

/-!
What one event does to a describer. Whether it is accepted depends on the event and the
configuration alone; an event that is not accepted leaves the describer as it was.
-/

set_option autoImplicit false

namespace SelectorProse

attribute [ext] Describer

namespace Describer

/-- The describer after an event that was found to have this phrase. -/
def after (describer : Describer) (phrase : Text) : Event → Describer
  | .init => describer.cleared
  | .close => describer.closed
  | .descendant => { describer.append phrase with chained := true }
  | _ => describer.append phrase

theorem apply_eq (describer : Describer) (event : Event) :
    describer.apply event = (describer.after · event) <$> event.phrase describer.context := by
  cases event <;> rfl

theorem call_init (describer : Describer) : describer.call .init = (describer.cleared, none) := rfl

theorem call_close (describer : Describer) : describer.call .close = (describer.closed, none) := rfl

@[simp] theorem config_after (describer : Describer) (phrase : Text) (event : Event) :
    (describer.after phrase event).config = describer.config := by
  cases event <;> rfl

@[simp] theorem legacy_context (describer : Describer) :
    describer.context.legacy = describer.config.isLegacy := rfl

theorem call_of_phrase {describer : Describer} {event : Event} {phrase : Text}
    (described : event.phrase describer.context = .ok phrase) :
    describer.call event = (describer.after phrase event, none) := by
  refine call_of_ok ?_
  rw [apply_eq, described]
  rfl

theorem call_of_fault {describer : Describer} {event : Event} {fault : Fault}
    (failed : event.fault? describer.config.isLegacy = some fault) :
    describer.call event = (describer, some fault) := by
  refine call_of_error ?_
  rw [← legacy_context, ← Event.phrase_eq_error_iff] at failed
  rw [apply_eq, failed]
  rfl

/-- An event is either accepted, with a phrase, or it changes nothing. -/
theorem call_cases (describer : Describer) (event : Event) :
    (∃ phrase, event.fault? describer.config.isLegacy = none ∧
      event.phrase describer.context = .ok phrase ∧
      describer.call event = (describer.after phrase event, none)) ∨
    ∃ fault, event.fault? describer.config.isLegacy = some fault ∧
      describer.call event = (describer, some fault) := by
  cases checked : event.fault? describer.config.isLegacy with
  | none =>
    rw [← legacy_context, ← Event.exists_phrase_iff] at checked
    obtain ⟨phrase, described⟩ := checked
    exact .inl ⟨phrase, rfl, described, call_of_phrase described⟩
  | some fault => exact .inr ⟨fault, rfl, call_of_fault checked⟩

theorem fault_call (describer : Describer) (event : Event) :
    (describer.call event).2 = event.fault? describer.config.isLegacy := by
  rcases call_cases describer event with ⟨_, accepted, _, called⟩ | ⟨_, failed, called⟩
  · rw [called, accepted]
  · rw [called, failed]

theorem config_call (describer : Describer) (event : Event) :
    (describer.call event).1.config = describer.config := by
  rcases call_cases describer event with ⟨_, -, _, called⟩ | ⟨_, -, called⟩
  · rw [called, config_after]
  · rw [called]

/-- Describers that agree in all that decides what a call makes of their texts. -/
structure Agrees (first second : Describer) : Prop where
  legacy : first.config.isLegacy = second.config.isLegacy
  text : first.text = second.text
  chained : first.chained = second.chained

namespace Agrees

variable {first second : Describer}

theorem context_eq (agrees : first.Agrees second) : first.context = second.context := by
  rw [context, context, agrees.legacy, agrees.text, agrees.chained]

theorem after (agrees : first.Agrees second) (phrase : Text) (event : Event) :
    (first.after phrase event).Agrees (second.after phrase event) := by
  constructor
  · rw [config_after, config_after, agrees.legacy]
  · cases event with
    | init => rfl
    | close => simp only [Describer.after, closed, agrees.text]
    | _ => simp only [Describer.after, append, agrees.text]
  · cases event with
    | init => rfl
    | descendant => rfl
    | _ => exact agrees.chained

theorem call (agrees : first.Agrees second) (event : Event) :
    (first.call event).1.Agrees (second.call event).1 := by
  rcases call_cases first event with ⟨phrase, -, described, called⟩ | ⟨fault, failed, called⟩
  · rw [agrees.context_eq] at described
    rw [called, call_of_phrase described]
    exact agrees.after phrase event
  · rw [agrees.legacy] at failed
    rw [called, call_of_fault failed]
    exact agrees

end Agrees

end Describer

end SelectorProse
