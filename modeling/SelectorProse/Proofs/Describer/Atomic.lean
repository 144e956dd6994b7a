import SelectorProse.Proofs.Describer.Operation

/-!
Operations on a describer as sequences of assignments to its fields. Main statement: an operation
that fails has assigned nothing by then, so that a run goes on as if it had not been tried.
-/

set_option autoImplicit false

namespace SelectorProse

namespace Describer

/-- Reads and assigns the fields of a describer. What was assigned before a fault stays so. -/
abbrev Method := EStateM Fault Describer

namespace Method

def setText (text : Text) : Method Unit := modify fun describer => { describer with text }

def setChained (chained : Bool) : Method Unit :=
  modify fun describer => { describer with chained }

def addFragment (fragment : Value) : Method Unit := do
  let fragment ← liftExcept (Phrase.requirePresent .fragment fragment)
  let text := (← get).text
  setText (text ++ (← liftExcept (Phrase.appended fragment)))

/-- What is done for an event. Most events have their phrase written first and then added. -/
def ofEvent : Event → Method Unit
  | .init => do
    setText []
    setChained false
  | .onSelector => do
    if (← get).text.isEmpty then
      setText (Text.ofString "Select all nodes")
    else
      addFragment (.text (Text.ofString ", then combined with previous, select all nodes"))
  | .close => do
    setText ((← get).text.trim ++ Text.ofString ".")
  | .descendant => do
    if (← get).chained then
      addFragment (.text (Text.ofString ", which in turn have descendants"))
    else
      addFragment (.text (Text.ofString " which have descendants"))
      setChained true
  | event => do
    let phrase ← liftExcept (event.phrase (← get).context)
    addFragment (.text phrase)

def ofOperation : Operation → Method Unit
  | .call event => ofEvent event
  | .add fragment => addFragment fragment

/-- The outcome of assignments that are all made or none of them. -/
def allOrNone (describer : Describer) : Except Fault Describer → EStateM.Result Fault Describer Unit
  | .ok next => .ok () next
  | .error fault => .error fault describer

section

variable {describer : Describer}

/-- A text that is added is assigned once. -/
theorem run_addFragment_text (t : Text) :
    (addFragment (.text t)).run describer = .ok () (describer.append t) := rfl

theorem run_addFragment (fragment : Value) :
    (addFragment fragment).run describer = allOrNone describer (describer.add fragment) := by
  cases fragment <;> rfl

/-- A phrase that cannot be written is not added. -/
theorem run_phrase (event : Event) :
    (do
      let phrase ← liftExcept (event.phrase (← get).context)
      addFragment (.text phrase) : Method Unit).run describer =
      allOrNone describer (describer.append <$> event.phrase describer.context) := by
  show (liftExcept (event.phrase describer.context) >>= fun phrase =>
    addFragment (.text phrase)).run describer = _
  cases event.phrase describer.context with
  | ok phrase => exact run_addFragment_text phrase
  | error fault => rfl

theorem run_onSelector :
    (ofEvent .onSelector).run describer = allOrNone describer (describer.apply .onSelector) := by
  rcases describer with ⟨config, text, chained⟩
  cases text with
  | nil =>
    have first : Event.onSelector.phrase (context ⟨config, [], chained⟩) =
        .ok (Text.ofString "Select all nodes") := rfl
    rw [apply_eq, first]
    rfl
  | cons c t => rfl

/-- Here the text is assigned before it is known that descendants have been mentioned. -/
theorem run_descendant :
    (ofEvent .descendant).run describer = allOrNone describer (describer.apply .descendant) := by
  rcases describer with ⟨config, text, chained⟩
  cases chained with
  | false => rfl
  | true => rfl

theorem run_ofEvent (event : Event) :
    (ofEvent event).run describer = allOrNone describer (describer.apply event) := by
  cases event with
  | init | close => rfl
  | onSelector => exact run_onSelector
  | descendant => exact run_descendant
  | _ => exact run_phrase _

end

end Method

/-- The describer as an operation leaves it, assignment by assignment, and the fault that it ends
with, if any. -/
def execute (describer : Describer) (operation : Operation) : Describer × Option Fault :=
  match (Method.ofOperation operation).run describer with
  | .ok () next => (next, none)
  | .error fault next => (next, some fault)

theorem execute_eq_perform (describer : Describer) (operation : Operation) :
    describer.execute operation = describer.perform operation := by
  cases operation with
  | call event =>
    rw [execute, Method.ofOperation, Method.run_ofEvent, perform, call]
    cases describer.apply event with
    | ok next => rfl
    | error fault => rfl
  | add fragment =>
    rw [execute, Method.ofOperation, Method.run_addFragment, perform]
    cases describer.add fragment with
    | ok next => rfl
    | error fault => rfl

/-- The step: an operation that fails changes nothing. -/
theorem perform_of_fault {describer : Describer} {operation : Operation} {fault : Fault}
    (failed : (describer.perform operation).2 = some fault) :
    (describer.perform operation).1 = describer := by
  cases operation with
  | call event =>
    rcases call_cases describer event with ⟨phrase, -, -, called⟩ | ⟨found, -, called⟩
    · rw [perform, called] at failed
      cases failed
    · rw [perform, called]
  | add fragment =>
    rw [perform] at failed ⊢
    split at failed
    · cases failed
    · rfl

/-- What is seen of an operation: what became of it, and the text that can be read after it. -/
structure Observation where
  operation : Operation
  fault : Option Fault
  text : Text

def Observation.isAccepted (observation : Observation) : Bool := observation.fault.isNone

/-- Operations one after another, whatever became of each. -/
def observe : Describer → List Operation → List Observation
  | _, [] => []
  | describer, operation :: rest =>
    let (next, fault) := describer.perform operation
    ⟨operation, fault, next.text⟩ :: next.observe rest

/-- The operations that are accepted where they stand. -/
def accepted (describer : Describer) (operations : List Operation) : List Operation :=
  ((describer.observe operations).filter Observation.isAccepted).map Observation.operation

section

variable {describer : Describer} {operation : Operation}

theorem observe_cons (rest : List Operation) :
    describer.observe (operation :: rest) =
      ⟨operation, (describer.perform operation).2, (describer.perform operation).1.text⟩ ::
        (describer.perform operation).1.observe rest := rfl

theorem filter_observe_of_none (rest : List Operation)
    (success : (describer.perform operation).2 = none) :
    (describer.observe (operation :: rest)).filter Observation.isAccepted =
      ⟨operation, none, (describer.perform operation).1.text⟩ ::
        ((describer.perform operation).1.observe rest).filter Observation.isAccepted := by
  rw [observe_cons, success]
  exact List.filter_cons_of_pos rfl

theorem filter_observe_of_some {fault : Fault} (rest : List Operation)
    (failed : (describer.perform operation).2 = some fault) :
    (describer.observe (operation :: rest)).filter Observation.isAccepted =
      (describer.observe rest).filter Observation.isAccepted := by
  rw [observe_cons, failed, perform_of_fault failed]
  exact List.filter_cons_of_neg Bool.false_ne_true

/-- The run: without the operations that fail, all others go as before. -/
theorem observe_accepted (describer : Describer) (operations : List Operation) :
    describer.observe (describer.accepted operations) =
      (describer.observe operations).filter Observation.isAccepted := by
  induction operations generalizing describer with
  | nil => rfl
  | cons operation rest ih =>
    cases outcome : (describer.perform operation).2 with
    | none =>
      have later := ih (describer.perform operation).1
      rw [accepted] at later ⊢
      rw [filter_observe_of_none rest outcome, List.map_cons, observe_cons, outcome, later]
    | some fault =>
      rw [accepted, filter_observe_of_some rest outcome]
      exact ih describer

theorem performAll_accepted (describer : Describer) (operations : List Operation) :
    describer.performAll (describer.accepted operations) = describer.performAll operations := by
  induction operations generalizing describer with
  | nil => rfl
  | cons operation rest ih =>
    rw [performAll]
    cases outcome : (describer.perform operation).2 with
    | none =>
      rw [accepted, filter_observe_of_none rest outcome, List.map_cons, performAll]
      exact ih (describer.perform operation).1
    | some fault =>
      rw [accepted, filter_observe_of_some rest outcome, perform_of_fault outcome]
      exact ih describer

end

/-- An operation that fails has assigned nothing that differs from what was there, however far it
got. Without the operations that fail, a run ends with the same text and the same mention of
descendants, and each operation that is left has the same outcome and the same text after it. -/
theorem observe_without_refused (describer : Describer) :
    (∀ operation, describer.execute operation = describer.perform operation) ∧
      (∀ operation fault, (describer.execute operation).2 = some fault →
        (describer.execute operation).1 = describer) ∧
      ∀ operations, let kept := describer.accepted operations
        describer.performAll kept = describer.performAll operations ∧
          describer.observe kept =
            (describer.observe operations).filter Observation.isAccepted := by
  refine ⟨execute_eq_perform describer, ?_, ?_⟩
  · intro operation fault failed
    rw [execute_eq_perform] at failed ⊢
    exact perform_of_fault failed
  · intro operations
    exact ⟨performAll_accepted describer operations, observe_accepted describer operations⟩

/-- What is left of the interruptions. -/
def uninterrupted : List Operation := [
  .call .close, .add (.text [.ofNat 0x2028, .ofNat 0x1680]), .call .close, .call .close,
  .call (.className (.text [.ofNat 0x205F])), .call .descendant, .add (.text [.ofNat 0x1C]),
  .call .close]

theorem observe_without_refused_interruptions :
    (spaced.execute (.call (.className (.int 5)))).2 = some (.notText .int) ∧
      (spaced.execute (.call (.className (.int 5)))).1 = spaced ∧
      spaced.performAll uninterrupted = spaced.performAll interruptions ∧
      spaced.observe uninterrupted =
        (spaced.observe interruptions).filter Observation.isAccepted := by
  obtain ⟨-, atomic, run⟩ := observe_without_refused spaced
  have failed : (spaced.execute (.call (.className (.int 5)))).2 = some (.notText .int) := rfl
  have kept : spaced.accepted interruptions = uninterrupted := rfl
  exact ⟨failed, atomic _ _ failed, kept ▸ run interruptions⟩

end Describer

end SelectorProse
