import SelectorProse.Describer.Basic
import SelectorProse.Describer.Replay

/-!
Generators: what events can be given to. Describers and recorders keep something in a memory; a
recorder may stand before another generator, and a tee before two. Generators that share a
describer or a recorder name the same cell of the memory.
-/

set_option autoImplicit false

namespace SelectorProse

inductive Generator where
  | describer (cell : Nat)
  | recorder (cell : Nat)
  /-- A recorder of what another generator has accepted. -/
  | recorderOf (cell : Nat) (inner : Generator)
  | tee (primary secondary : Generator)
  /-- Stands for whatever passes events on, and takes none itself. -/
  | forwarder
  deriving DecidableEq, Repr

namespace Generator

/-- The describers, and the events of each recorder. -/
structure Memory where
  describers : List Describer := []
  transcripts : List (List Event) := []
  deriving Repr

namespace Memory

def describer (memory : Memory) (cell : Nat) : Describer := memory.describers[cell]?.getD {}

def setDescriber (memory : Memory) (cell : Nat) (describer : Describer) : Memory :=
  { memory with describers := memory.describers.set cell describer }

def transcript (memory : Memory) (cell : Nat) : List Event := memory.transcripts[cell]?.getD []

def setTranscript (memory : Memory) (cell : Nat) (events : List Event) : Memory :=
  { memory with transcripts := memory.transcripts.set cell events }

def record (memory : Memory) (cell : Nat) (event : Event) : Memory :=
  memory.setTranscript cell (memory.transcript cell ++ [event])

end Memory

inductive Fault where
  | describer (fault : SelectorProse.Fault)
  | notImplemented
  deriving DecidableEq, Repr

def Fault.message : Fault → Text
  | .describer fault => fault.message
  | .notImplemented => []

/-- What a generator does with an event, in one place of the memory. -/
inductive Action where
  | describe (cell : Nat)
  | record (cell : Nat)
  | refuse
  deriving DecidableEq, Repr

def Action.perform (memory : Memory) (event : Event) : Action → Memory × Option Fault
  | .describe cell =>
    match (memory.describer cell).call event with
    | (next, none) => (memory.setDescriber cell next, none)
    | (_, some fault) => (memory, some (.describer fault))
  | .record cell => (memory.record cell event, none)
  | .refuse => (memory, some .notImplemented)

section

variable {memory : Memory} {cell : Nat} {event : Event}

theorem Action.perform_describe_of_none {next : Describer}
    (called : (memory.describer cell).call event = (next, none)) :
    Action.perform memory event (.describe cell) = (memory.setDescriber cell next, none) := by
  simp only [perform, called]

theorem Action.perform_describe_of_some {next : Describer} {fault : SelectorProse.Fault}
    (called : (memory.describer cell).call event = (next, some fault)) :
    Action.perform memory event (.describe cell) = (memory, some (.describer fault)) := by
  simp only [perform, called]

end

/-- A call: the kind by whose name a generator is called, and a value for each of its fields. -/
structure Call where
  kind : Event.Kind
  arguments : List Value
  complete : arguments.length = kind.fields.length
  deriving Repr

/-- The event that a call is turned into before it is passed on. -/
def Call.event (call : Call) : Event :=
  (Event.ofArguments? call.kind call.arguments).get (Event.isSome_ofArguments? call.complete)

/-- The call that applies an event. -/
def Call.ofEvent (event : Event) : Call := ⟨event.kind, event.arguments, event.length_arguments⟩

/-- A call that applies an event is turned into that event again. -/
@[simp] theorem Call.event_ofEvent (event : Event) : (Call.ofEvent event).event = event :=
  Option.get_of_eq_some _ event.ofArguments?_arguments

/-- Answers a call. Recorders and tees turn it into an event and apply this to the generators behind
them. A recorder records what its inner generator has accepted, a tee goes on to the secondary if
the primary has accepted the event. A fault ends the call, and what was done before it stays
done. -/
def answer : Generator → Call → Memory → Memory × Option Fault
  | .describer cell, call, memory => Action.perform memory call.event (.describe cell)
  | .recorder cell, call, memory => Action.perform memory call.event (.record cell)
  | .recorderOf cell inner, call, memory =>
    match inner.answer (.ofEvent call.event) memory with
    | (next, none) => Action.perform next call.event (.record cell)
    | failed => failed
  | .tee primary secondary, call, memory =>
    match primary.answer (.ofEvent call.event) memory with
    | (next, none) => secondary.answer (.ofEvent call.event) next
    | failed => failed
  | .forwarder, call, memory => Action.perform memory call.event .refuse

/-- Applies an event to a generator: calls it by the name of the event's kind. -/
def call (event : Event) (generator : Generator) (memory : Memory) : Memory × Option Fault :=
  generator.answer (.ofEvent event) memory

section

variable (event : Event) (memory : Memory) (cell : Nat)

theorem call_describer :
    (describer cell).call event memory = Action.perform memory event (.describe cell) := by
  simp only [call, answer, Call.event_ofEvent]

theorem call_recorder :
    (recorder cell).call event memory = Action.perform memory event (.record cell) := by
  simp only [call, answer, Call.event_ofEvent]

theorem call_recorderOf (inner : Generator) :
    (recorderOf cell inner).call event memory =
      match inner.call event memory with
      | (next, none) => Action.perform next event (.record cell)
      | failed => failed := by
  simp only [call, answer, Call.event_ofEvent]

theorem call_tee (primary secondary : Generator) :
    (tee primary secondary).call event memory =
      match primary.call event memory with
      | (next, none) => secondary.call event next
      | failed => failed := by
  simp only [call, answer, Call.event_ofEvent]

theorem call_forwarder :
    forwarder.call event memory = Action.perform memory event .refuse := by
  simp only [call, answer, Call.event_ofEvent]

end

end Generator

end SelectorProse
