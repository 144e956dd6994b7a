import SelectorProse.Describer.Replay
import SelectorProse.Proofs.Describer.Call

/-!
Replays in parts, and the events that a describer replays to the end.
-/

set_option autoImplicit false

namespace SelectorProse

section

variable {σ ε : Type} {step : σ → Event → σ × Option ε} {logger : Text} {state : σ}
  {before : List Event}

theorem replay_append_of_none (after : List Event)
    (accepted : (replay step logger state before).fault = none) :
    replay step logger state (before ++ after) =
      { replay step logger (replay step logger state before).state after with
        log := (replay step logger state before).log ++
          (replay step logger (replay step logger state before).state after).log } := by
  induction before generalizing state with
  | nil => rfl
  | cons event rest ih =>
    rcases called : step state event with ⟨next, _ | fault⟩
    · rw [replay_cons_of_none step logger rest called] at accepted
      rw [List.cons_append, replay_cons_of_none step logger _ called,
        replay_cons_of_none step logger rest called, ih accepted]
      rfl
    · rw [replay_cons_of_some step logger rest called] at accepted
      exact nomatch accepted

/-- What comes after a fault is not looked at. -/
theorem replay_append_of_some {fault : ε} (after : List Event)
    (stopped : (replay step logger state before).fault = some fault) :
    replay step logger state (before ++ after) = replay step logger state before := by
  induction before generalizing state with
  | nil => exact nomatch stopped
  | cons event rest ih =>
    rcases called : step state event with ⟨next, _ | fault⟩
    · rw [replay_cons_of_none step logger rest called] at stopped
      rw [List.cons_append, replay_cons_of_none step logger _ called,
        replay_cons_of_none step logger rest called, ih stopped]
    · rw [List.cons_append, replay_cons_of_some step logger _ called,
        replay_cons_of_some step logger rest called]

theorem fault_replay_append_eq_none_iff {after : List Event} :
    (replay step logger state (before ++ after)).fault = none ↔
      (replay step logger state before).fault = none ∧
        (replay step logger (replay step logger state before).state after).fault = none := by
  cases first : (replay step logger state before).fault with
  | none =>
    rw [replay_append_of_none after first]
    simp only [true_and]
  | some fault =>
    rw [replay_append_of_some after first, first]
    simp only [reduceCtorEq, false_and]

/-- What each event preserves, a replay preserves. -/
theorem replay_preserves {holds : σ → Prop} (logger : Text) {state : σ} {events : List Event}
    (preserved : ∀ state event, holds state → holds (step state event).1) (start : holds state) :
    holds (replay step logger state events).state := by
  induction events generalizing state with
  | nil => exact start
  | cons event rest ih =>
    have next := preserved state event start
    rcases called : step state event with ⟨_, _ | fault⟩
    · rw [called] at next
      rw [replay_cons_of_none step logger rest called]
      exact ih next
    · rw [called] at next
      rw [replay_cons_of_some step logger rest called]
      exact next

end

namespace Describer

theorem config_replay (logger : Text) (describer : Describer) (events : List Event) :
    (replay call logger describer events).state.config = describer.config := by
  have kept (state : Describer) (event : Event) (same : state.config = describer.config) :
      (state.call event).1.config = describer.config := (config_call state event).trans same
  exact replay_preserves logger kept rfl

/-- A replay is stopped by the first event that cannot be described, whatever came before. -/
theorem fault_replay (logger : Text) (describer : Describer) (events : List Event) :
    (replay call logger describer events).fault =
      events.findSome? fun event => event.fault? describer.config.isLegacy := by
  induction events generalizing describer with
  | nil => rfl
  | cons event rest ih =>
    have kept := config_call describer event
    have checked := fault_call describer event
    rw [List.findSome?_cons, ← checked]
    rcases called : describer.call event with ⟨next, _ | fault⟩
    · rw [called] at kept
      rw [replay_cons_of_none call logger rest called, ← kept]
      exact ih next
    · rw [replay_cons_of_some call logger rest called]

/-- Nothing that came before decides whether an event is accepted. -/
theorem fault_replay_eq_none_iff {logger : Text} {describer : Describer} {events : List Event} :
    (replay call logger describer events).fault = none ↔
      ∀ event ∈ events, event.fault? describer.config.isLegacy = none := by
  rw [fault_replay, List.findSome?_eq_none_iff]

end Describer

end SelectorProse
