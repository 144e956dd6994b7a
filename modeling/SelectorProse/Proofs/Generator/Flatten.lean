import SelectorProse.Proofs.Generator.Memory

/-!
A call of a generator as actions in a row, and what each action does to the memory.
-/

set_option autoImplicit false

namespace SelectorProse.Generator

/-- The actions of a call, in their order: a recorder records behind its inner generator, and the
secondary of a tee follows the primary. -/
def flatten : Generator → List Action
  | .describer cell => [.describe cell]
  | .recorder cell => [.record cell]
  | .recorderOf cell inner => inner.flatten ++ [.record cell]
  | .tee primary secondary => primary.flatten ++ secondary.flatten
  | .forwarder => [.refuse]

/-- Performs actions in order, until one fails. -/
def performAll (event : Event) : List Action → Memory → Memory × Option Fault
  | [], memory => (memory, none)
  | action :: rest, memory =>
    match action.perform memory event with
    | (next, none) => performAll event rest next
    | (next, some fault) => (next, some fault)

section

variable {event : Event} {memory next : Memory}

theorem performAll_cons_of_none {action : Action} (rest : List Action)
    (success : action.perform memory event = (next, none)) :
    performAll event (action :: rest) memory = performAll event rest next := by
  simp only [performAll, success]

theorem performAll_cons_of_some {action : Action} {fault : Fault} (rest : List Action)
    (failed : action.perform memory event = (next, some fault)) :
    performAll event (action :: rest) memory = (next, some fault) := by
  simp only [performAll, failed]

theorem performAll_append_of_none {first : List Action} (rest : List Action)
    (success : performAll event first memory = (next, none)) :
    performAll event (first ++ rest) memory = performAll event rest next := by
  induction first generalizing memory with
  | nil =>
    obtain ⟨rfl, -⟩ := Prod.mk.inj success
    rfl
  | cons action others ih =>
    rcases performed : action.perform memory event with ⟨middle, _ | fault⟩
    · rw [performAll_cons_of_none others performed] at success
      rw [List.cons_append, performAll_cons_of_none _ performed, ih success]
    · rw [performAll_cons_of_some others performed] at success
      exact nomatch success

theorem performAll_append_of_some {first : List Action} {fault : Fault} (rest : List Action)
    (failed : performAll event first memory = (next, some fault)) :
    performAll event (first ++ rest) memory = (next, some fault) := by
  induction first generalizing memory with
  | nil => exact nomatch failed
  | cons action others ih =>
    rcases performed : action.perform memory event with ⟨middle, _ | found⟩
    · rw [performAll_cons_of_none others performed] at failed
      rw [List.cons_append, performAll_cons_of_none _ performed, ih failed]
    · rw [performAll_cons_of_some others performed] at failed
      rw [List.cons_append, performAll_cons_of_some _ performed, failed]

theorem performAll_singleton (action : Action) (memory : Memory) :
    performAll event [action] memory = action.perform memory event := by
  rcases performed : action.perform memory event with ⟨next, _ | fault⟩
  · exact performAll_cons_of_none [] performed
  · exact performAll_cons_of_some [] performed

end

/-- A call through any nesting of generators is its actions in a row. -/
theorem call_eq_performAll (event : Event) (generator : Generator) (memory : Memory) :
    generator.call event memory = performAll event generator.flatten memory := by
  induction generator generalizing memory with
  | describer cell => rw [call_describer, flatten, performAll_singleton]
  | recorder cell => rw [call_recorder, flatten, performAll_singleton]
  | recorderOf cell inner ih =>
    rw [call_recorderOf, flatten, ih]
    rcases performed : performAll event inner.flatten memory with ⟨next, _ | fault⟩
    · rw [performAll_append_of_none _ performed, performAll_singleton]
    · rw [performAll_append_of_some _ performed]
  | tee primary secondary ihPrimary ihSecondary =>
    rw [call_tee, flatten, ihPrimary]
    rcases performed : performAll event primary.flatten memory with ⟨next, _ | fault⟩
    · rw [performAll_append_of_none _ performed, ← ihSecondary]
    · rw [performAll_append_of_some _ performed]
  | forwarder => rw [call_forwarder, flatten, performAll_singleton]

/-- The cell of the action is there. -/
def Action.Within (memory : Memory) : Action → Prop
  | .describe cell => cell < memory.describers.length
  | .record cell => cell < memory.transcripts.length
  | .refuse => True

/-- What an action does to the memory when it succeeds. -/
inductive Effect (event : Event) : Action → Memory → Memory → Prop where
  | describe {memory : Memory} {cell : Nat} {describer next : Describer}
      (there : memory.describers[cell]? = some describer)
      (applied : describer.apply event = .ok next) :
      Effect event (.describe cell) memory
        { memory with describers := memory.describers.set cell next }
  | record {memory : Memory} {cell : Nat} {events : List Event}
      (there : memory.transcripts[cell]? = some events) :
      Effect event (.record cell) memory
        { memory with transcripts := memory.transcripts.set cell (events ++ [event]) }

/-- When an action fails, and how. -/
inductive Refusal (event : Event) (memory : Memory) : Action → Fault → Prop where
  | describe {cell : Nat} {describer : Describer} {fault : SelectorProse.Fault}
      (there : memory.describers[cell]? = some describer)
      (failed : describer.apply event = .error fault) :
      Refusal event memory (.describe cell) (.describer fault)
  | refuse : Refusal event memory .refuse .notImplemented

/-- What actions do to the memory one after another when all succeed. -/
inductive Effects (event : Event) : List Action → Memory → Memory → Prop where
  | nil {memory : Memory} : Effects event [] memory memory
  | cons {action : Action} {rest : List Action} {memory next last : Memory}
      (first : Effect event action memory next) (later : Effects event rest next last) :
      Effects event (action :: rest) memory last

section

variable {event : Event} {memory next : Memory}

/-- The step: an action has its effect or leaves the memory as it was. -/
theorem perform_cases (event : Event) {action : Action} (within : action.Within memory) :
    (∃ next, Effect event action memory next ∧ action.perform memory event = (next, none)) ∨
      ∃ fault, Refusal event memory action fault ∧
        action.perform memory event = (memory, some fault) := by
  cases action with
  | describe cell =>
    have there := Memory.getElem?_describers within
    cases applied : (memory.describer cell).apply event with
    | ok describer =>
      refine .inl ⟨_, .describe there applied, ?_⟩
      simp only [Action.perform, Describer.call_of_ok applied, Memory.setDescriber]
    | error fault =>
      refine .inr ⟨_, .describe there applied, ?_⟩
      simp only [Action.perform, Describer.call_of_error applied]
  | record cell => exact .inl ⟨_, .record (Memory.getElem?_transcripts within), rfl⟩
  | refuse => exact .inr ⟨_, .refuse, rfl⟩

theorem Effect.within_iff {action other : Action} (effect : Effect event action memory next) :
    other.Within next ↔ other.Within memory := by
  cases effect with
  | describe there applied => cases other <;> simp only [Action.Within, List.length_set]
  | record there => cases other <;> simp only [Action.Within, List.length_set]

/-- Describers that no action names are as they were. -/
theorem Effects.describers_outside {actions : List Action} {cell : Nat}
    (effects : Effects event actions memory next) (outside : .describe cell ∉ actions) :
    next.describers[cell]? = memory.describers[cell]? := by
  induction effects with
  | nil => rfl
  | cons first later ih =>
    rw [List.mem_cons, not_or] at outside
    rw [ih outside.2]
    cases first with
    | describe there applied =>
      have other : ¬ _ = cell := fun same => outside.1 (same ▸ rfl)
      exact List.getElem?_set_ne other
    | record there => rfl

/-- Recorders that no action names are as they were. -/
theorem Effects.transcripts_outside {actions : List Action} {cell : Nat}
    (effects : Effects event actions memory next) (outside : .record cell ∉ actions) :
    next.transcripts[cell]? = memory.transcripts[cell]? := by
  induction effects with
  | nil => rfl
  | cons first later ih =>
    rw [List.mem_cons, not_or] at outside
    rw [ih outside.2]
    cases first with
    | describe there applied => rfl
    | record there =>
      have other : ¬ _ = cell := fun same => outside.1 (same ▸ rfl)
      exact List.getElem?_set_ne other

/-- The run: actions have their effects in order, up to the first that fails. -/
theorem performAll_cases (event : Event) {actions : List Action}
    (within : ∀ action ∈ actions, action.Within memory) :
    ∃ finished next, Effects event finished memory next ∧
      ((actions = finished ∧ performAll event actions memory = (next, none)) ∨
        ∃ action later fault, actions = finished ++ action :: later ∧
          Refusal event next action fault ∧
          performAll event actions memory = (next, some fault)) := by
  induction actions generalizing memory with
  | nil => exact ⟨[], memory, .nil, .inl ⟨rfl, rfl⟩⟩
  | cons action rest ih =>
    rw [List.forall_mem_cons] at within
    rcases perform_cases event within.1 with
      ⟨middle, effect, performed⟩ | ⟨fault, refusal, performed⟩
    · have remaining : ∀ other ∈ rest, other.Within middle :=
        fun other member => effect.within_iff.mpr (within.2 other member)
      obtain ⟨finished, next, effects, outcome⟩ := ih remaining
      refine ⟨action :: finished, next, .cons effect effects, ?_⟩
      rw [performAll_cons_of_none rest performed]
      rcases outcome with ⟨rfl, success⟩ | ⟨failing, later, fault, rfl, refusal, failed⟩
      · exact .inl ⟨rfl, success⟩
      · exact .inr ⟨failing, later, fault, rfl, refusal, failed⟩
    · exact ⟨[], memory, .nil, .inr ⟨action, rest, fault, rfl, refusal,
        performAll_cons_of_some rest performed⟩⟩

end

end SelectorProse.Generator
