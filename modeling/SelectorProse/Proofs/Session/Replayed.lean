import SelectorProse.Proofs.Describer.Describe
import SelectorProse.Proofs.Describer.Refusal
import SelectorProse.Proofs.Session.Dispatch

/-!
Replays into describers. Main statement: a replay ends before the first event that is refused, in a
session and in a description alike, and its log is one event ahead of the describer.
-/

set_option autoImplicit false

namespace SelectorProse

namespace Generator

variable {memory : Memory} {cell : Nat}

/-- A replay into a describer of a memory is a replay into this describer. -/
theorem replay_describer (logger : Text) (events : List Event)
    (there : cell < memory.describers.length) :
    replay (fun memory event => (Generator.describer cell).call event memory) logger memory events =
      let run := replay Describer.call logger (memory.describer cell) events
      ⟨memory.setDescriber cell run.state, run.log, run.fault.map .describer⟩ := by
  induction events generalizing memory with
  | nil => simp only [replay_nil, Memory.setDescriber_self, Option.map_none]
  | cons event rest ih =>
    rcases called : (memory.describer cell).call event with ⟨next, _ | fault⟩
    · have performed : (Generator.describer cell).call event memory =
          (memory.setDescriber cell next, none) := by
        rw [call_describer, Action.perform_describe_of_none called]
      have remains : cell < (memory.setDescriber cell next).describers.length := by
        rw [Memory.length_setDescriber]
        exact there
      rw [replay_cons_of_none _ logger rest performed, replay_cons_of_none _ logger rest called,
        ih remains, Memory.describer_setDescriber next there]
      simp only [Memory.setDescriber_setDescriber]
    · have kept : next = memory.describer cell := by
        rcases Describer.call_cases (memory.describer cell) event with
          ⟨_, -, -, other⟩ | ⟨_, -, other⟩
        · rw [called] at other
          cases other
        · rw [called] at other
          exact (Prod.mk.inj other).1
      have performed : (Generator.describer cell).call event memory =
          (memory, some (.describer fault)) := by
        rw [call_describer, Action.perform_describe_of_some called]
      rw [replay_cons_of_some _ logger rest performed, replay_cons_of_some _ logger rest called,
        kept]
      simp only [Memory.setDescriber_self, Option.map_some]

end Generator

namespace Describer

/-- Wherever the events are replayed into a describer, it is left as after calls with the applied
ones, there is an entry on each of the announced ones, and the replay gives its target back unless
there is this fault. -/
structure Replays (events applied announced : List Event) (fault : Option Fault) : Prop where
  replayed : ∀ (describer : Describer) (logger : Text),
    replay call logger describer events =
      ⟨describer.performAll (applied.map .call), announced.map (Event.logged logger), fault⟩
  answered : ∀ (session : Session) (target : Text) (cell : Nat),
    session.find? target = some (.describer cell) → cell < session.memory.describers.length →
    let reached := (session.memory.describer cell).performAll (applied.map .call)
    session.step (.replay target events) =
      ({ session with memory := session.memory.setDescriber cell reached },
        { result := match fault with
            | none => .ok .target
            | some fault => .error (.generator (.describer fault))
          log := some (announced.map (Event.logged (Text.ofString "css_describe"))) })
  described : ∀ (config : Config) (logger : Text), config.logger? = some logger →
    (describe config events).log = announced.map (Event.logged logger) ∧
      ∀ found, (describe config events).result = .error found ↔
        fault.map DescribeFault.event = some found

variable {events applied announced : List Event} {fault : Option Fault}

theorem Replays.of_replayed
    (replayed : ∀ (describer : Describer) (logger : Text),
      replay call logger describer events =
        ⟨describer.performAll (applied.map .call), announced.map (Event.logged logger), fault⟩) :
    Replays events applied announced fault := by
  refine ⟨replayed, ?_, ?_⟩
  · intro session target cell found there reached
    have run := Generator.replay_describer (Text.ofString "css_describe") events there
    rw [replayed] at run
    have named : ({} : Config).logger?.getD [] = Text.ofString "css_describe" := rfl
    simp only [Session.step, found, Session.replay, named, run]
    cases fault with
    | none => rfl
    | some fault => rfl
  · intro config logger chosen
    rw [describe_eq chosen]
    simp only [replayed]
    cases fault with
    | none => simp
    | some fault => simp

/-- Two events that are described, then a class name that is no text and an empty name. -/
def listNameWalk : List Event := [
  .descendant, .attributeMatch .dashMatch (.int 7) (.list []), .className (.list [.null]),
  .type (.text [])]

theorem accepted_type {name : Value} (named : name.isTruthy = true) :
    (Event.type name).Accepted := by
  intro fault refused
  cases refused with
  | emptyName _ first empty =>
    rw [← (List.cons.inj first).1, named] at empty
    cases empty

/-- A name that cannot be written out ends a replay before anything is told. -/
theorem replay_type_of_obstacle? {name : Value} {obstacle : Value.Obstacle}
    (named : name.isTruthy = true) (blocked : name.obstacle? = some obstacle) (logger : Text)
    (describer : Describer) :
    replay call logger describer [.type name] =
      ⟨describer, [Event.logged logger (.type name)], some (.unwritable obstacle)⟩ := by
  have inserted : (Event.type name).insertedValues describer.config.isLegacy = [name] := rfl
  have failed : (Event.type name).fault? describer.config.isLegacy =
      some (.unwritable obstacle) := by
    rw [Event.fault?_of_accepted (accepted_type named), inserted, Event.insertionFault?,
      List.findSome?_cons, blocked]
    rfl
  exact replay_of_refused [] (List.forall_mem_nil _) failed

/-- Nothing is wrong with the name but that it is nested too deeply. -/
def deepNameWalk : List Event := [.type (Value.nestedList 4999)]

end Describer

end SelectorProse
