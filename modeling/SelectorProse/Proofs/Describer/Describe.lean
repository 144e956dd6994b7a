import SelectorProse.Describer.Describe
import SelectorProse.Proofs.Describer.Replay

/-!
Describing a walk as a replay of the walk by a fresh describer.
-/

set_option autoImplicit false

namespace SelectorProse

section

variable {config : Config} {logger : Text} {events : List Event}

/-- A start of the walk's own and a supplied one leave a fresh describer alike. -/
theorem describe_eq (chosen : config.logger? = some logger) :
    describe config events =
      let run := replay Describer.call logger { config } events
      match run.fault with
      | some fault => ⟨run.log, .error (.event fault)⟩
      | none =>
        ⟨run.log, .ok (if closesItself events then run.state else run.state.closed).text⟩ := by
  have ready : (if opensItself events then ({ config } : Describer)
      else ({ config } : Describer).cleared) = { config } := ite_self _
  rw [describe, chosen]
  dsimp only
  generalize (if opensItself events then ({ config } : Describer)
    else ({ config } : Describer).cleared) = start at ready ⊢
  subst ready
  rfl

/-- A walk that a fresh describer replays to its end is told by the text that this gives, closed
unless the walk closes itself. -/
theorem result_describe_of_accepted (chosen : config.logger? = some logger)
    (accepted : (replay Describer.call logger { config } events).fault = none) :
    (describe config events).result =
      let reached := (replay Describer.call logger { config } events).state
      .ok (if closesItself events then reached else reached.closed).text := by
  rw [describe_eq chosen]
  simp only [accepted]

/-- With a logger, nothing stops a description but the first event with a fault. -/
theorem result_describe_eq_error_iff {fault : DescribeFault}
    (named : config.logger?.isSome = true) :
    (describe config events).result = .error fault ↔
      ∃ found, events.findSome? (Event.fault? config.isLegacy) = some found ∧
        fault = .event found := by
  obtain ⟨logger, chosen⟩ := Option.isSome_iff_exists.mp named
  have stopped : (replay Describer.call logger { config } events).fault =
      events.findSome? (Event.fault? config.isLegacy) :=
    Describer.fault_replay logger { config } events
  rw [describe_eq chosen, ← stopped]
  cases failed : (replay Describer.call logger { config } events).fault with
  | none => simp only [failed, reduceCtorEq, false_and, exists_false]
  | some found =>
    simp only [failed, Except.error.injEq, Option.some.injEq, exists_eq_left', eq_comm]

end

theorem Config.isSome_logger? {config : Config}
    (named : (∃ name, config.loggerName = .text name) ∨ config.loggerName = .null) :
    config.logger?.isSome = true := by
  rcases named with ⟨name, text⟩ | null
  · rw [logger?, text]
    rfl
  · rw [logger?, null]
    rfl

end SelectorProse
