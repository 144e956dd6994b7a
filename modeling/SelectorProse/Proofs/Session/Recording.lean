import SelectorProse.Proofs.Session.Dispatch

/-!
Recorders in front of describers. Main statement: what a recorder holds are the events that were
accepted since it was last cleared, and their replay leads to the describer as it is.
-/

set_option autoImplicit false

namespace SelectorProse

/-- What is done with a recorder. -/
inductive Use where
  | call (event : Event)
  | transcript
  | clear

def Use.step (recorder : Text) : Use → Session.Step
  | .call event => .call recorder event
  | .transcript => .transcript recorder
  | .clear => .clear recorder

/-- What is known of a recorder from its uses and their answers alone. -/
structure Ledger where
  /-- The describer behind the recorder when the recorder was made or last cleared. -/
  base : Describer
  /-- The events since then whose calls were answered without a fault. -/
  events : List Event

/-- The ledger after a use with this answer that left the describer like this. -/
def Ledger.note (ledger : Ledger) (answer : Session.Answer) (describer : Describer) :
    Use → Ledger
  | .call event =>
    match answer.result with
    | .ok _ => { ledger with events := ledger.events ++ [event] }
    | .error _ => ledger
  | .transcript => ledger
  | .clear => ⟨describer, []⟩

/-- The events of the ledger are all accepted by its base, one after another, and end here. -/
def Ledger.LeadsTo (ledger : Ledger) (describer : Describer) : Prop :=
  ∀ logger, (replay Describer.call logger ledger.base ledger.events).fault = none ∧
    (replay Describer.call logger ledger.base ledger.events).state = describer

namespace Ledger.LeadsTo

theorem self (describer : Describer) : LeadsTo ⟨describer, []⟩ describer :=
  fun _ => ⟨rfl, rfl⟩

theorem snoc {ledger : Ledger} {describer next : Describer} {event : Event}
    (leads : ledger.LeadsTo describer) (called : describer.call event = (next, none)) :
    LeadsTo { ledger with events := ledger.events ++ [event] } next := by
  intro logger
  obtain ⟨accepted, reached⟩ := leads logger
  have last := replay_cons_of_none Describer.call logger [] called
  rw [← reached] at last
  constructor
  · rw [fault_replay_append_eq_none_iff]
    exact ⟨accepted, by rw [last, replay_nil]⟩
  · rw [replay_append_of_none [event] accepted, last, replay_nil]

end Ledger.LeadsTo

namespace Session

open Generator (Memory)

/-- The ledger after uses of a recorder before the describer of a cell. -/
def ledger (recorder : Text) (cell : Nat) : Session → Ledger → List Use → Ledger
  | _, ledger, [] => ledger
  | session, ledger, use :: rest =>
    let (next, answer) := session.step (use.step recorder)
    next.ledger recorder cell (ledger.note answer (next.memory.describer cell) use) rest

/-- The ledger agrees with the session: the recorder holds its events, and they lead from its base
to the describer as it is. -/
structure Matches (session : Session) (recorder : Text) (cell slot : Nat) (ledger : Ledger) :
    Prop where
  found : session.find? recorder = some (.recorderOf slot (.describer cell))
  describers : cell < session.memory.describers.length
  transcripts : slot < session.memory.transcripts.length
  events : session.memory.transcript slot = ledger.events
  leads : ledger.LeadsTo (session.memory.describer cell)

theorem find?_bind_self (session : Session) (name : Text) (generator : Generator) :
    (session.bind name generator).find? name = some generator :=
  List.lookup_cons_self

namespace Matches

variable {session : Session} {recorder : Text} {cell slot : Nat} {ledger : Ledger}

theorem call_accepted {event : Event} {next : Describer}
    (matching : session.Matches recorder cell slot ledger)
    (called : (session.memory.describer cell).call event = (next, none)) :
    session.step (.call recorder event) =
      ({ session with memory := (session.memory.setDescriber cell next).record slot event },
        .done) := by
  rw [step_call matching.found]
  apply call_of_none
  rw [Generator.call_recorderOf, Generator.call_describer,
    Generator.Action.perform_describe_of_none called]
  rfl

theorem call_refused {event : Event} {fault : SelectorProse.Fault}
    (matching : session.Matches recorder cell slot ledger)
    (called : (session.memory.describer cell).call event =
      (session.memory.describer cell, some fault)) :
    session.step (.call recorder event) =
      (session, { result := .error (.generator (.describer fault)) }) := by
  rw [step_call matching.found]
  apply call_of_some
  rw [Generator.call_recorderOf, Generator.call_describer,
    Generator.Action.perform_describe_of_some called]

theorem step_clear (matching : session.Matches recorder cell slot ledger) :
    session.step (.clear recorder) =
      ({ session with memory := session.memory.setTranscript slot [] }, .done) := by
  simp only [step, matching.found, Option.bind_some, transcriptCell?]

theorem accept {event : Event} {next : Describer}
    (matching : session.Matches recorder cell slot ledger)
    (called : (session.memory.describer cell).call event = (next, none)) :
    Matches { session with memory := (session.memory.setDescriber cell next).record slot event }
      recorder cell slot { ledger with events := ledger.events ++ [event] } := by
  have room : slot < (session.memory.setDescriber cell next).transcripts.length :=
    matching.transcripts
  refine ⟨matching.found, ?_, ?_, ?_, ?_⟩
  · show cell < (session.memory.setDescriber cell next).describers.length
    rw [Memory.length_setDescriber]
    exact matching.describers
  · rw [Memory.record, Memory.length_setTranscript]
    exact room
  · rw [Memory.record, Memory.transcript_setTranscript _ room, Memory.transcript_setDescriber,
      matching.events]
  · rw [Memory.record, Memory.describer_setTranscript,
      Memory.describer_setDescriber _ matching.describers]
    exact matching.leads.snoc called

theorem clear (matching : session.Matches recorder cell slot ledger) :
    Matches { session with memory := session.memory.setTranscript slot [] } recorder cell slot
      ⟨session.memory.describer cell, []⟩ := by
  refine ⟨matching.found, matching.describers, ?_, ?_, .self _⟩
  · rw [Memory.length_setTranscript]
    exact matching.transcripts
  · exact Memory.transcript_setTranscript [] matching.transcripts

theorem recorded_eq (matching : session.Matches recorder cell slot ledger) :
    session.recorded recorder = ledger.events := by
  rw [Session.recorded, matching.found]
  exact matching.events

/-- The step: one use keeps the agreement. -/
theorem use (matching : session.Matches recorder cell slot ledger) (use : Use) :
    (session.step (use.step recorder)).1.Matches recorder cell slot
      (ledger.note (session.step (use.step recorder)).2
        ((session.step (use.step recorder)).1.memory.describer cell) use) := by
  cases use with
  | call event =>
    rcases Describer.call_cases (session.memory.describer cell) event with
      ⟨phrase, -, -, called⟩ | ⟨fault, -, called⟩
    · rw [Use.step, matching.call_accepted called]
      exact matching.accept called
    · rw [Use.step, matching.call_refused called]
      exact matching
  | transcript => exact matching
  | clear =>
    rw [Use.step, matching.step_clear]
    exact matching.clear

/-- The run: any uses keep the agreement. -/
theorem uses (matching : session.Matches recorder cell slot ledger) (uses : List Use) :
    (session.after (uses.map (Use.step recorder))).Matches recorder cell slot
      (session.ledger recorder cell ledger uses) := by
  induction uses generalizing session ledger with
  | nil => exact matching
  | cons use rest ih => exact ih (matching.use use)

/-- A recorder that was just made. -/
theorem made {describer : Text} (sound : session.Sound)
    (found : session.find? describer = some (.describer cell)) (recorder : Text) :
    (session.newRecorder recorder (some (.describer cell))).Matches recorder cell
      session.memory.transcripts.length ⟨session.memory.describer cell, []⟩ := by
  refine ⟨find?_bind_self _ recorder _, ?_, ?_, ?_, .self _⟩
  · exact sound.within found (.describe cell) (List.mem_singleton_self _)
  · show session.memory.transcripts.length < (session.memory.transcripts ++ [[]]).length
    rw [List.length_append]
    exact Nat.lt_succ_self _
  · show (session.memory.transcripts ++ [[]])[session.memory.transcripts.length]?.getD [] = []
    rw [List.getElem?_concat_length, Option.getD_some]

end Matches

/-- A recorder is made before a describer of a session and then used in any way. It holds the events
that were accepted since it was made or last cleared, and a describer with the text of then and the
configuration of the one behind the recorder accepts them all and becomes as that one is now. -/
theorem transcript_replays (before : List Step) (describer recorder : Text) (cell : Nat)
    (uses : List Use)
    (found : (({} : Session).after before).find? describer = some (.describer cell)) :
    let start := ({} : Session).after (before ++ [.newRecorder recorder (some describer)])
    let session := start.after (uses.map (Use.step recorder))
    let current := session.memory.describer cell
    let ledger := start.ledger recorder cell ⟨start.memory.describer cell, []⟩ uses
    let copy : Describer :=
      { config := current.config, text := ledger.base.text, chained := ledger.base.chained }
    (session.step (.transcript recorder)).2 = { result := .ok (.events ledger.events) } ∧
      ∀ logger, (SelectorProse.replay Describer.call logger copy ledger.events).fault = none ∧
        (SelectorProse.replay Describer.call logger copy ledger.events).state = current := by
  intro start session current ledger copy
  have sound : (({} : Session).after before).Sound := sound_after sound_empty before
  have same : start =
      (({} : Session).after before).newRecorder recorder (some (.describer cell)) := by
    show ({} : Session).after (before ++ [.newRecorder recorder (some describer)]) = _
    rw [after_append]
    show (({} : Session).after before).newRecorder recorder _ = _
    rw [Option.bind_some, found]
  have first : start.Matches recorder cell (({} : Session).after before).memory.transcripts.length
      ⟨start.memory.describer cell, []⟩ := by
    rw [same]
    exact .made sound found recorder
  have matching := first.uses uses
  have kept : current.config = ledger.base.config := by
    show (session.memory.describer cell).config = ledger.base.config
    rw [← (matching.leads []).2]
    exact Describer.config_replay [] ledger.base ledger.events
  have unchanged : copy = ledger.base := Describer.ext kept rfl rfl
  constructor
  · show ({ result := .ok (.events (session.recorded recorder)) } : Answer) = _
    rw [matching.recorded_eq]
  · rw [unchanged]
    exact matching.leads

/-- Two calls fail, and the recorder is cleared in between. -/
def interruptedUses : List Use := [
  .call .onSelector, .call (.type (.text [])), .transcript, .clear, .call (.id (.int 0)),
  .call .descendant, .call .close]

theorem transcript_replays_interruptedUses :
    let before : List Step := [.newDescriber [.ofChar 'd'] {}, .call [.ofChar 'd'] .descendant]
    let start :=
      ({} : Session).after (before ++ [.newRecorder [.ofChar 'r'] (some [.ofChar 'd'])])
    let session := start.after (interruptedUses.map (Use.step [.ofChar 'r']))
    let current := session.memory.describer 0
    let base := (start.ledger [.ofChar 'r'] 0 ⟨start.memory.describer 0, []⟩ interruptedUses).base
    let copy : Describer :=
      { config := current.config, text := base.text, chained := base.chained }
    (({} : Session).after before).find? [.ofChar 'd'] = some (.describer 0) ∧
      (session.step (.transcript [.ofChar 'r'])).2 =
        { result := .ok (.events [.descendant, .close]) } ∧
      (SelectorProse.replay Describer.call [] copy [.descendant, .close]).state = current := by
  intro before start session current base copy
  have found : (({} : Session).after before).find? [.ofChar 'd'] = some (.describer 0) := by decide
  have events : (start.ledger [.ofChar 'r'] 0 ⟨start.memory.describer 0, []⟩
      interruptedUses).events = [.descendant, .close] := by rfl
  obtain ⟨held, replays⟩ :=
    transcript_replays before [.ofChar 'd'] [.ofChar 'r'] 0 interruptedUses found
  rw [events] at held replays
  exact ⟨found, held, (replays []).2⟩

end Session

end SelectorProse
