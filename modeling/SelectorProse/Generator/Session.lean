import SelectorProse.Generator.Basic

/-!
Sessions: generators made one after another under names of their own, each over such as were made
before, and used in between.
-/

set_option autoImplicit false

namespace SelectorProse

open Generator (Memory)

/-- The latest generator of a name stands in front. -/
structure Session where
  memory : Memory := {}
  names : List (Text × Generator) := []
  deriving Repr

namespace Session

inductive Step where
  | newDescriber (name : Text) (config : Config)
  | newRecorder (name : Text) (inner : Option Text)
  | newTee (name : Text) (primary secondary : Option Text)
  | newForwarder (name : Text)
  | call (target : Text) (event : Event)
  | add (target : Text) (fragment : Value)
  | text (target : Text)
  | transcript (target : Text)
  | clear (target : Text)
  /-- Clears a copy of the transcript: the recorder keeps its events. -/
  | clearCopy (target : Text)
  | replay (target : Text) (events : List Event)
  /-- Replays a copy of what the source has recorded so far. -/
  | replayRecorded (target source : Text)
  deriving Repr

inductive Fault where
  | withoutPrimary
  | withoutSecondary
  | generator (fault : Generator.Fault)
  deriving DecidableEq, Repr

def Fault.message : Fault → Text
  | .withoutPrimary => Text.ofString "primary generator is required"
  | .withoutSecondary => Text.ofString "secondary generator is required"
  | .generator fault => fault.message

inductive Reply where
  | done
  | text (t : Text)
  | events (events : List Event)
  /-- The generator that the events were given to. -/
  | target
  deriving Repr

/-- What a step gives back; replays also say what was logged. -/
structure Answer where
  result : Except Fault Reply
  log : Option (List LogEntry) := none

def Answer.done : Answer := { result := .ok .done }

def find? (session : Session) (name : Text) : Option Generator := session.names.lookup name

/-- What can be seen of a generator. -/
inductive View where
  | text (t : Text)
  | events (events : List Event)
  | nothing
  deriving Repr

def view (memory : Memory) : Generator → View
  | .describer cell => .text (memory.describer cell).text
  | .recorder cell => .events (memory.transcript cell)
  | .recorderOf cell _ => .events (memory.transcript cell)
  | .tee _ _ => .nothing
  | .forwarder => .nothing

/-- What can be seen of each name. -/
def views (session : Session) : List (Text × View) :=
  session.names.map fun (name, generator) => (name, view session.memory generator)

/-- A name that is given again stands for the new generator. -/
def bind (session : Session) (name : Text) (generator : Generator) : Session :=
  { session with names := (name, generator) :: session.names.filter (·.1 != name) }

def newDescriber (session : Session) (name : Text) (config : Config) : Session :=
  let memory := { session.memory with
    describers := session.memory.describers ++ [{ config }] }
  bind { session with memory } name (.describer session.memory.describers.length)

def newRecorder (session : Session) (name : Text) (inner : Option Generator) : Session :=
  let cell := session.memory.transcripts.length
  let memory := { session.memory with transcripts := session.memory.transcripts ++ [[]] }
  bind { session with memory } name (match inner with
    | none => .recorder cell
    | some inner => .recorderOf cell inner)

/-- A tee needs both of its generators; the primary is asked for first. -/
def newTee (session : Session) (name : Text) :
    Option Generator → Option Generator → Session × Answer
  | none, _ => (session, { result := .error .withoutPrimary })
  | _, none => (session, { result := .error .withoutSecondary })
  | some primary, some secondary => (session.bind name (.tee primary secondary), .done)

def call (session : Session) (event : Event) (generator : Generator) : Session × Answer :=
  let (memory, fault) := generator.call event session.memory
  ({ session with memory }, { result := match fault with
    | none => .ok .done
    | some fault => .error (.generator fault) })

def add (session : Session) (fragment : Value) (cell : Nat) : Session × Answer :=
  match (session.memory.describer cell).add fragment with
  | .ok describer =>
    ({ session with memory := session.memory.setDescriber cell describer }, .done)
  | .error fault => (session, { result := .error (.generator (.describer fault)) })

/-- Events are announced by the logger that configurations name if nothing else is chosen. -/
def replay (session : Session) (events : List Event) (generator : Generator) :
    Session × Answer :=
  let run := SelectorProse.replay (fun memory event => generator.call event memory)
    (({} : Config).logger?.getD []) session.memory events
  ({ session with memory := run.state }, {
    result := match run.fault with
      | none => .ok .target
      | some fault => .error (.generator fault)
    log := some run.log })

/-- The cell of a recorder. -/
def transcriptCell? : Generator → Option Nat
  | .recorder cell => some cell
  | .recorderOf cell _ => some cell
  | _ => none

/-- The cell of a describer. -/
def describerCell? : Generator → Option Nat
  | .describer cell => some cell
  | _ => none

/-- What a generator has recorded. -/
def recorded (session : Session) (name : Text) : List Event :=
  match (session.find? name).bind transcriptCell? with
  | some cell => session.memory.transcript cell
  | none => []

/-- One step. A step that asks a generator for what its kind does not offer does nothing. -/
def step (session : Session) : Step → Session × Answer
  | .newDescriber name config => (session.newDescriber name config, .done)
  | .newRecorder name inner => (session.newRecorder name (inner.bind session.find?), .done)
  | .newTee name primary secondary =>
    session.newTee name (primary.bind session.find?) (secondary.bind session.find?)
  | .newForwarder name => (session.bind name .forwarder, .done)
  | .call target event =>
    match session.find? target with
    | some generator => session.call event generator
    | none => (session, .done)
  | .add target fragment =>
    match (session.find? target).bind describerCell? with
    | some cell => session.add fragment cell
    | none => (session, .done)
  | .text target =>
    match (session.find? target).bind describerCell? with
    | some cell => (session, { result := .ok (.text (session.memory.describer cell).text) })
    | none => (session, .done)
  | .transcript target => (session, { result := .ok (.events (session.recorded target)) })
  | .clear target =>
    match (session.find? target).bind transcriptCell? with
    | some cell => ({ session with memory := session.memory.setTranscript cell [] }, .done)
    | none => (session, .done)
  | .clearCopy _ => (session, .done)
  | .replay target events =>
    match session.find? target with
    | some generator => session.replay events generator
    | none => (session, .done)
  | .replayRecorded target source =>
    match session.find? target with
    | some generator => session.replay (session.recorded source) generator
    | none => (session, .done)

/-- The answers to steps, each with what can then be seen. -/
def run (session : Session) : List Step → List (Answer × List (Text × View))
  | [] => []
  | step :: rest =>
    let (next, answer) := session.step step
    (answer, next.views) :: run next rest

end Session

end SelectorProse
