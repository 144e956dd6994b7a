import SelectorProse.Event.Basic

/-!
Replaying events: each is announced in a log and then applied, until one fails.
-/

set_option autoImplicit false

namespace SelectorProse

structure LogEntry where
  logger : Text
  message : Text
  deriving DecidableEq, Repr

/-- Where a replay ended: the state, what was logged on the way, and the fault that stopped it. -/
structure Replay (σ ε : Type) where
  state : σ
  log : List LogEntry
  fault : Option ε

/-- Applies events in order. The step gives the state after an event, also if the event failed. -/
def replay {σ ε : Type} (step : σ → Event → σ × Option ε) (logger : Text) :
    σ → List Event → Replay σ ε
  | state, [] => ⟨state, [], none⟩
  | state, event :: rest =>
    let entry : LogEntry := ⟨logger, event.announcement⟩
    match step state event with
    | (next, none) =>
      let later := replay step logger next rest
      { later with log := entry :: later.log }
    | (next, some fault) => ⟨next, [entry], some fault⟩

section

variable {σ ε : Type} (step : σ → Event → σ × Option ε) (logger : Text)

@[simp] theorem replay_nil (state : σ) :
    replay step logger state [] = ⟨state, [], none⟩ := rfl

theorem replay_cons_of_none {state next : σ} {event : Event} (rest : List Event)
    (success : step state event = (next, none)) :
    replay step logger state (event :: rest) =
      { replay step logger next rest with
        log := ⟨logger, event.announcement⟩ :: (replay step logger next rest).log } := by
  simp only [replay, success]

theorem replay_cons_of_some {state next : σ} {event : Event} {fault : ε} (rest : List Event)
    (failed : step state event = (next, some fault)) :
    replay step logger state (event :: rest) =
      ⟨next, [⟨logger, event.announcement⟩], some fault⟩ := by
  simp only [replay, failed]

end

end SelectorProse
