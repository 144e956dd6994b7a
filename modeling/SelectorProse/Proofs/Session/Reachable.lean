import SelectorProse.Generator.Session
import SelectorProse.Proofs.Describer.Replay
import SelectorProse.Proofs.Generator.Flatten

/-!
What holds in every session: generators lie over cells that are there, also after their names were
given to others.
-/

set_option autoImplicit false

namespace SelectorProse

namespace Generator

/-- No cell of a memory is lost in another. -/
structure Memory.Grows (memory next : Memory) : Prop where
  describers : memory.describers.length ≤ next.describers.length
  transcripts : memory.transcripts.length ≤ next.transcripts.length

namespace Memory.Grows

variable {memory next last : Memory}

theorem refl (memory : Memory) : memory.Grows memory := ⟨Nat.le_refl _, Nat.le_refl _⟩

theorem trans (first : memory.Grows next) (second : next.Grows last) : memory.Grows last :=
  ⟨Nat.le_trans first.describers second.describers,
    Nat.le_trans first.transcripts second.transcripts⟩

theorem within {action : Action} (grows : memory.Grows next) (there : action.Within memory) :
    action.Within next := by
  cases action with
  | describe cell => exact Nat.lt_of_lt_of_le there grows.describers
  | record cell => exact Nat.lt_of_lt_of_le there grows.transcripts
  | refuse => trivial

theorem setDescriber (memory : Memory) (cell : Nat) (describer : Describer) :
    memory.Grows (memory.setDescriber cell describer) :=
  ⟨Nat.le_of_eq (length_setDescriber memory cell describer).symm, Nat.le_refl _⟩

theorem setTranscript (memory : Memory) (cell : Nat) (events : List Event) :
    memory.Grows (memory.setTranscript cell events) :=
  ⟨Nat.le_refl _, Nat.le_of_eq (length_setTranscript memory cell events).symm⟩

theorem perform (memory : Memory) (event : Event) (action : Action) :
    memory.Grows (action.perform memory event).1 := by
  cases action with
  | describe cell =>
    rcases called : (memory.describer cell).call event with ⟨next, _ | fault⟩
    · simpa only [Action.perform, called] using setDescriber memory cell next
    · simpa only [Action.perform, called] using refl memory
  | record cell => exact setTranscript memory cell _
  | refuse => exact refl memory

theorem performAll (memory : Memory) (event : Event) (actions : List Action) :
    memory.Grows (performAll event actions memory).1 := by
  induction actions generalizing memory with
  | nil => exact refl memory
  | cons action rest ih =>
    have first := perform memory event action
    rcases performed : action.perform memory event with ⟨next, _ | fault⟩
    · rw [performed] at first
      rw [performAll_cons_of_none rest performed]
      exact first.trans (ih next)
    · rw [performed] at first
      rw [performAll_cons_of_some rest performed]
      exact first

theorem call (memory : Memory) (event : Event) (generator : Generator) :
    memory.Grows (generator.call event memory).1 := by
  rw [call_eq_performAll]
  exact performAll memory event generator.flatten

end Memory.Grows

/-- Every cell of the generator is there. -/
def Within (memory : Memory) (generator : Generator) : Prop :=
  ∀ action ∈ generator.flatten, action.Within memory

theorem Within.grows {memory next : Memory} {generator : Generator}
    (within : generator.Within memory) (grows : memory.Grows next) : generator.Within next :=
  fun action member => grows.within (within action member)

end Generator

namespace Session

open Generator (Memory)

/-- The session after steps, whatever their answers. -/
def after (session : Session) : List Step → Session
  | [] => session
  | step :: rest => (session.step step).1.after rest

theorem after_append (session : Session) (before later : List Step) :
    session.after (before ++ later) = (session.after before).after later := by
  induction before generalizing session with
  | nil => rfl
  | cons step rest ih => exact ih (session.step step).1

/-- The generators of a session lie over its memory. -/
def Sound (session : Session) : Prop :=
  ∀ entry ∈ session.names, entry.2.Within session.memory

/-- So does what a name stands for. -/
theorem Sound.within {session : Session} {name : Text} {generator : Generator}
    (sound : session.Sound) (found : session.find? name = some generator) :
    generator.Within session.memory := by
  obtain ⟨before, later, split, -⟩ := List.lookup_eq_some_iff.mp found
  refine sound (name, generator) ?_
  rw [split]
  exact List.mem_append_right before List.mem_cons_self

/-- What a step can do to a session: its memory grows, and at most one name is given. -/
structure Advances (session next : Session) : Prop where
  grows : session.memory.Grows next.memory
  names : next.names = session.names ∨ ∃ name generator, generator.Within next.memory ∧
    next.names = (name, generator) :: session.names.filter (·.1 != name)

namespace Advances

variable {session : Session}

theorem refl (session : Session) : Advances session session := ⟨.refl _, .inl rfl⟩

theorem memory {memory : Memory} (grows : session.memory.Grows memory) :
    Advances session { session with memory } := ⟨grows, .inl rfl⟩

theorem bind {memory : Memory} (name : Text) {generator : Generator}
    (grows : session.memory.Grows memory) (within : generator.Within memory) :
    Advances session (({ session with memory } : Session).bind name generator) :=
  ⟨grows, .inr ⟨name, generator, within, rfl⟩⟩

theorem sound {next : Session} (advances : Advances session next) (sound : session.Sound) :
    next.Sound := by
  intro entry member
  rcases advances.names with same | ⟨name, generator, within, given⟩
  · rw [same] at member
    exact (sound entry member).grows advances.grows
  · rw [given, List.mem_cons] at member
    rcases member with rfl | member
    · exact within
    · exact (sound entry (List.mem_filter.mp member).1).grows advances.grows

theorem newDescriber (name : Text) (config : Config) :
    Advances session (session.newDescriber name config) := by
  refine bind name ⟨?_, Nat.le_refl _⟩ ?_
  · simp only [List.length_append, Nat.le_add_right]
  · intro action member
    rw [List.mem_singleton.mp member, Generator.Action.Within, List.length_append]
    exact Nat.lt_succ_self _

theorem newRecorder (name : Text) {inner : Option Generator}
    (within : ∀ generator, inner = some generator → generator.Within session.memory) :
    Advances session (session.newRecorder name inner) := by
  have grows : session.memory.Grows
      { session.memory with transcripts := session.memory.transcripts ++ [[]] } :=
    ⟨Nat.le_refl _, by simp only [List.length_append, Nat.le_add_right]⟩
  have new : session.memory.transcripts.length < (session.memory.transcripts ++ [[]]).length := by
    rw [List.length_append]
    exact Nat.lt_succ_self _
  refine bind name grows ?_
  intro action member
  cases inner with
  | none =>
    rw [List.mem_singleton.mp member]
    exact new
  | some generator =>
    rcases List.mem_append.mp member with member | member
    · exact grows.within (within generator rfl action member)
    · rw [List.mem_singleton.mp member]
      exact new

theorem newTee (name : Text) {primary secondary : Option Generator}
    (withinPrimary : ∀ generator, primary = some generator → generator.Within session.memory)
    (withinSecondary : ∀ generator, secondary = some generator → generator.Within session.memory) :
    Advances session (session.newTee name primary secondary).1 := by
  cases primary with
  | none => exact refl session
  | some first =>
    cases secondary with
    | none => exact refl session
    | some second =>
      refine bind name (.refl _) fun action member => ?_
      rcases List.mem_append.mp member with member | member
      · exact withinPrimary first rfl action member
      · exact withinSecondary second rfl action member

theorem replay (events : List Event) (generator : Generator) :
    Advances session (session.replay events generator).1 :=
  memory (replay_preserves _ (fun _ event grows => grows.trans (.call _ event generator))
    (.refl _))

theorem add (fragment : Value) (cell : Nat) : Advances session (session.add fragment cell).1 := by
  rw [Session.add]
  split
  · exact memory (.setDescriber _ cell _)
  · exact refl session

theorem step (sound : session.Sound) (step : Step) : Advances session (session.step step).1 := by
  have within {name : Option Text} (generator : Generator)
      (found : name.bind session.find? = some generator) : generator.Within session.memory := by
    obtain ⟨given, -, found⟩ := Option.bind_eq_some_iff.mp found
    exact sound.within found
  cases step with
  | newDescriber name config => exact newDescriber name config
  | newRecorder name inner => exact newRecorder name within
  | newTee name primary secondary => exact newTee name within within
  | newForwarder name =>
    refine bind name (.refl _) fun action member => ?_
    rw [List.mem_singleton.mp member]
    trivial
  | call target event =>
    rw [Session.step]
    split
    · exact memory (.call _ event _)
    · exact refl session
  | add target fragment =>
    rw [Session.step]
    split
    · exact add fragment _
    · exact refl session
  | text target =>
    rw [Session.step]
    split
    · exact refl session
    · exact refl session
  | transcript target => exact refl session
  | clear target =>
    rw [Session.step]
    split
    · exact memory (.setTranscript _ _ [])
    · exact refl session
  | clearCopy target => exact refl session
  | replay target events =>
    rw [Session.step]
    split
    · exact replay events _
    · exact refl session
  | replayRecorded target source =>
    rw [Session.step]
    split
    · exact replay _ _
    · exact refl session

end Advances

theorem sound_empty : ({} : Session).Sound := fun _ member => nomatch member

theorem sound_after {session : Session} (sound : session.Sound) (steps : List Step) :
    (session.after steps).Sound := by
  induction steps generalizing session with
  | nil => exact sound
  | cons step rest ih => exact ih ((Advances.step sound step).sound sound)

theorem grows_after {session : Session} (sound : session.Sound) (steps : List Step) :
    session.memory.Grows (session.after steps).memory := by
  induction steps generalizing session with
  | nil => exact .refl _
  | cons step rest ih =>
    have advances := Advances.step sound step
    exact advances.grows.trans (ih (advances.sound sound))

/-- A generator that was made at some time lies over the memory of all later times. -/
theorem within_of_made {before : List Step} {name : Text} {generator : Generator}
    (made : (({} : Session).after before).find? name = some generator) (later : List Step) :
    generator.Within (({} : Session).after (before ++ later)).memory := by
  have sound : (({} : Session).after before).Sound := sound_after sound_empty before
  rw [after_append]
  exact (sound.within made).grows (grows_after sound later)

end Session

end SelectorProse
