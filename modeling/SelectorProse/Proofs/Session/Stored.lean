import SelectorProse.Proofs.Describer.Describe
import SelectorProse.Proofs.Script.Canonical
import SelectorProse.Proofs.Session.Recording

/-!
Walks that are recorded while they are described. Main statement: what was recorded can be stored,
loaded and described later, with the text of the describer that took part in the walk.
-/

set_option autoImplicit false

namespace SelectorProse.Session

section

variable {session : Session} {target : Text} {cell : Nat}

theorem step_text (found : session.find? target = some (.describer cell)) :
    session.step (.text target) =
      (session, { result := .ok (.text (session.memory.describer cell).text) }) := by
  simp only [step, found, Option.bind_some, describerCell?]

/-- A call gives no names. -/
theorem names_step_call (session : Session) (target : Text) (event : Event) :
    (session.step (.call target event)).1.names = session.names := by
  rw [step]
  split
  · rfl
  · rfl

theorem find?_after_calls (session : Session) (target name : Text) (calls : List Event) :
    (session.after (calls.map (.call target))).find? name = session.find? name := by
  induction calls generalizing session with
  | nil => rfl
  | cons event rest ih =>
    rw [List.map_cons, after, ih, find?, names_step_call, find?]

/-- Calls alone clear nothing, and record nothing but what was called. -/
theorem ledger_calls (session : Session) (recorder : Text) (cell : Nat) (ledger : Ledger)
    (calls : List Event) :
    (session.ledger recorder cell ledger (calls.map .call)).base = ledger.base ∧
      ∀ event ∈ (session.ledger recorder cell ledger (calls.map .call)).events,
        event ∈ ledger.events ∨ event ∈ calls := by
  induction calls generalizing session ledger with
  | nil => exact ⟨rfl, fun event member => .inl member⟩
  | cons called rest ih =>
    let next := (session.step (.call recorder called)).1
    let answer := (session.step (.call recorder called)).2
    let noted := ledger.note answer (next.memory.describer cell) (.call called)
    obtain ⟨base, events⟩ := ih next noted
    have step : (noted.base = ledger.base) ∧
        ∀ event ∈ noted.events, event ∈ ledger.events ∨ event = called := by
      dsimp only [noted, Ledger.note]
      cases answer.result with
      | error fault => exact ⟨rfl, fun event member => .inl member⟩
      | ok reply =>
        refine ⟨rfl, fun event member => ?_⟩
        simpa only [List.mem_append, List.mem_singleton] using member
    refine ⟨base.trans step.1, fun event member => ?_⟩
    rw [List.mem_cons]
    rcases events event member with earlier | later
    · exact (step.2 event earlier).imp_right .inl
    · exact .inr (.inr later)

/-- Another name keeps its generator when a name is given. -/
theorem find?_bind_of_ne {name other : Text} (session : Session) (generator : Generator)
    (different : name ≠ other) :
    (session.bind other generator).find? name = session.find? name := by
  have absent : (name == other) = false := beq_eq_false_iff_ne.mpr different
  rw [bind, find?, List.lookup_cons, absent, find?]
  induction session.names with
  | nil => rfl
  | cons entry rest ih =>
    obtain ⟨given, _⟩ := entry
    by_cases same : given = other
    · subst same
      simp only [List.filter_cons, bne_self_eq_false, Bool.false_eq_true, ↓reduceIte,
        List.lookup_cons, absent]
      exact ih
    · simp only [List.filter_cons, bne_iff_ne, ne_eq, same, not_false_eq_true, ↓reduceIte,
        List.lookup_cons]
      cases name == given with
      | true => rfl
      | false => exact ih

theorem describer_newDescriber (session : Session) (name : Text) (config : Config) :
    (session.newDescriber name config).memory.describer session.memory.describers.length =
      ({ config } : Describer) := by
  let describers := session.memory.describers
  show (describers ++ [({ config } : Describer)])[describers.length]?.getD ({} : Describer) = _
  rw [List.getElem?_concat_length, Option.getD_some]

/-- The text of a describer once it is closed under its name. -/
theorem text_closed (found : session.find? target = some (.describer cell))
    (there : cell < session.memory.describers.length) :
    ((session.step (.call target .close)).1.step (.text target)).2.result =
      .ok (.text (session.memory.describer cell).closed.text) := by
  let memory := session.memory.setDescriber cell (session.memory.describer cell).closed
  have called : session.step (.call target .close) = ({ session with memory }, .done) :=
    (step_call found).trans (call_of_none rfl)
  have kept : ({ session with memory } : Session).find? target = some (.describer cell) := found
  rw [called, step_text kept]
  simp only [memory, Generator.Memory.describer_setDescriber _ there]

end

/-- The session after a new describer was walked through a new recorder. -/
theorem exists_matches_walked (before : List Step) {live recorder : Text} (config : Config)
    (calls : List Event) (different : live ≠ recorder) :
    let start := ({} : Session).after
      (before ++ [.newDescriber live config, .newRecorder recorder (some live)])
    let session := start.after (calls.map (.call recorder))
    ∃ cell slot ledger, session.find? live = some (.describer cell) ∧
      session.Matches recorder cell slot ledger ∧ ledger.base = { config } ∧
      ∀ event ∈ ledger.events, event ∈ calls := by
  intro start session
  let prior := ({} : Session).after before
  let cell := prior.memory.describers.length
  let given := prior.newDescriber live config
  have found : given.find? live = some (.describer cell) := find?_bind_self _ live _
  have same : start = given.newRecorder recorder (some (.describer cell)) := by
    show ({} : Session).after (before ++ [.newDescriber live config, .newRecorder recorder _]) = _
    rw [after_append]
    show given.newRecorder recorder (given.find? live) = _
    rw [found]
  have sound : given.Sound :=
    (Advances.newDescriber live config).sound (sound_after sound_empty before)
  have first := Matches.made sound found recorder
  rw [← same, describer_newDescriber] at first
  have matching := first.uses (calls.map .call)
  rw [List.map_map] at matching
  obtain ⟨base, recorded⟩ := start.ledger_calls recorder cell ⟨{ config }, []⟩ calls
  refine ⟨cell, _, _, ?_, matching, base, ?_⟩
  · show (start.after (calls.map (.call recorder))).find? live = _
    rw [find?_after_calls, same]
    exact (find?_bind_of_ne _ _ different).trans found
  · intro event member
    exact (recorded event member).resolve_left List.not_mem_nil

/-- A new describer is walked through a new recorder, whatever becomes of each call. What was
recorded can be stored and loaded again, and is described with the text that the describer has, or,
if the walk was left open, with the text that it has once it is closed. -/
theorem describe_recorded (before : List Step) (live recorder : Text) (config : Config)
    (name : Text) (calls : List Event) (different : live ≠ recorder)
    (named : config.loggerName = .text name) (storable : ∀ event ∈ calls, event.Storable) :
    let start := ({} : Session).after
      (before ++ [.newDescriber live config, .newRecorder recorder (some live)])
    let session := start.after (calls.map (.call recorder))
    ∃ transcript document loaded text,
      (session.step (.transcript recorder)).2.result = .ok (.events transcript) ∧
      Script.dump? transcript = some document ∧ Script.parse document = .ok loaded ∧
      (describe config loaded).result = .ok text ∧
      if closesItself transcript then
        (session.step (.text live)).2.result = .ok (.text text)
      else
        ((session.step (.call live .close)).1.step (.text live)).2.result = .ok (.text text) := by
  intro start session
  obtain ⟨cell, slot, ledger, found, matching, base, called⟩ :=
    exists_matches_walked before config calls different
  have kept : ∀ event ∈ ledger.events, event.Storable :=
    fun event member => storable event (called event member)
  obtain ⟨logger, chosen⟩ := Option.isSome_iff_exists.mp
    (Config.isSome_logger? (.inl ⟨name, named⟩))
  obtain ⟨accepted, reached⟩ := matching.leads logger
  rw [base] at accepted reached
  have told := result_describe_of_accepted chosen accepted
  rw [reached] at told
  have writable : ∀ event ∈ ledger.events, event.Writable :=
    fun event member => (kept event member).writable
  refine ⟨ledger.events, _, _, _, ?_, Script.dump?_eq writable,
    Script.parse_written_of_storable kept, told, ?_⟩
  · show (Except.ok (.events (session.recorded recorder)) : Except Fault Reply) = _
    rw [matching.recorded_eq]
  · cases closesItself ledger.events with
    | true => exact congrArg (fun step => step.2.result) (step_text found)
    | false => exact text_closed found matching.describers

/-- A walk that is closed at its start and left open at its end. One call has an empty name. -/
def openWalk : List Event := [
  .close, .type (.text []), .descendant, .className (.text [.ofNat 0xD83D, .ofChar ' '])]

theorem describe_recorded_openWalk :
    let start := ({} : Session).after
      [.newDescriber [.ofChar 'd'] {}, .newRecorder [.ofChar 'r'] (some [.ofChar 'd'])]
    let session := start.after (openWalk.map (.call [.ofChar 'r']))
    ∃ document loaded text,
      Script.dump? [.close, .descendant, .className (.text [.ofNat 0xD83D, .ofChar ' '])] =
        some document ∧
      Script.parse document = .ok loaded ∧ (describe {} loaded).result = .ok text ∧
      ((session.step (.call [.ofChar 'd'] .close)).1.step (.text [.ofChar 'd'])).2.result =
        .ok (.text text) := by
  intro start session
  have storable : ∀ event ∈ openWalk, event.Storable := by decide +kernel
  have recorded : (session.step (.transcript [.ofChar 'r'])).2.result =
      .ok (.events [.close, .descendant, .className (.text [.ofNat 0xD83D, .ofChar ' '])]) := by
    rfl
  obtain ⟨transcript, document, loaded, text, held, stored, parsed, told, shown⟩ :=
    describe_recorded [] [.ofChar 'd'] [.ofChar 'r'] {} _ openWalk (by decide) rfl storable
  injection held.symm.trans recorded with held
  injection held with held
  subst held
  exact ⟨document, loaded, text, stored, parsed, told, shown⟩

end SelectorProse.Session
