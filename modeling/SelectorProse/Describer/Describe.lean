import SelectorProse.Describer.Basic
import SelectorProse.Describer.Replay

/-!
Describing a whole walk. A start and an end that the walk lacks are supplied, without being
logged.
-/

set_option autoImplicit false

namespace SelectorProse

/-- Why a walk is not described. -/
inductive DescribeFault where
  | loggerName
  | event (fault : Fault)
  deriving DecidableEq, Repr

def DescribeFault.message : DescribeFault → Text
  | .loggerName => Text.ofString "A logger name must be a string"
  | .event fault => fault.message

/-- The text or the fault, and what was logged until then. -/
structure Description where
  log : List LogEntry
  result : Except DescribeFault Text

def Event.isInit : Event → Bool
  | .init => true
  | _ => false

def Event.isClose : Event → Bool
  | .close => true
  | _ => false

/-- Does the walk begin with a start of its own? -/
def opensItself (events : List Event) : Bool := events.head?.any Event.isInit

/-- Does the walk end with an end of its own? -/
def closesItself (events : List Event) : Bool := events.getLast?.any Event.isClose

def describe (config : Config) (events : List Event) : Description :=
  match config.logger? with
  | none => ⟨[], .error .loggerName⟩
  | some logger =>
    let fresh : Describer := { config }
    let ready := if opensItself events then fresh else fresh.cleared
    let run := replay Describer.call logger ready events
    match run.fault with
    | some fault => ⟨run.log, .error (.event fault)⟩
    | none =>
      let finished := if closesItself events then run.state else run.state.closed
      ⟨run.log, .ok finished.text⟩

end SelectorProse
