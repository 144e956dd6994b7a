import SelectorProse.Describer.Config
import SelectorProse.Describer.Phrase
import SelectorProse.Text.Blank

/-!
A describer gathers the phrases of the events that it is given. An event that cannot be described
leaves it as it was.
-/

set_option autoImplicit false

namespace SelectorProse

structure Describer where
  config : Config := {}
  text : Text := []
  /-- Descendants have been mentioned since the text was last cleared. -/
  chained : Bool := false
  deriving Repr

namespace Describer

def context (describer : Describer) : Phrase.Context where
  legacy := describer.config.isLegacy
  started := !describer.text.isEmpty
  chained := describer.chained

def append (describer : Describer) (phrase : Text) : Describer :=
  { describer with text := describer.text ++ phrase }

def cleared (describer : Describer) : Describer := { describer with text := [], chained := false }

/-- The text without blanks at its ends, and a period. -/
def closed (describer : Describer) : Describer :=
  { describer with text := describer.text.trim ++ Text.ofString "." }

def apply (describer : Describer) : Event → Except Fault Describer
  | .init => .ok describer.cleared
  | .close => .ok describer.closed
  | .descendant =>
    (fun phrase => { describer.append phrase with chained := true }) <$>
      Event.descendant.phrase describer.context
  | event => describer.append <$> event.phrase describer.context

/-- Any text can be added as it is. -/
def add (describer : Describer) (fragment : Value) : Except Fault Describer := do
  let fragment ← Phrase.requirePresent .fragment fragment
  return describer.append (← Phrase.appended fragment)

/-- The describer after an event, and the fault that kept it as it was, if any. -/
def call (describer : Describer) (event : Event) : Describer × Option Fault :=
  match describer.apply event with
  | .ok next => (next, none)
  | .error fault => (describer, some fault)

theorem call_of_ok {describer next : Describer} {event : Event}
    (success : describer.apply event = .ok next) : describer.call event = (next, none) := by
  simp only [call, success]

theorem call_of_error {describer : Describer} {event : Event} {fault : Fault}
    (failed : describer.apply event = .error fault) :
    describer.call event = (describer, some fault) := by
  simp only [call, failed]

end Describer

end SelectorProse
