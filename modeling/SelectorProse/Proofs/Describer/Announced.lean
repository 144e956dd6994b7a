import SelectorProse.Generator.Basic
import SelectorProse.Proofs.Describer.Refusal
import SelectorProse.Proofs.Event.Announcement

/-!
What a log tells of a replay. Main statement: of well-typed events each that is dispatched leaves
one line, and replays with the same lines have dispatched the same events.
-/

set_option autoImplicit false

namespace SelectorProse

section

variable {σ ε : Type} (step : σ → Event → σ × Option ε) (logger : Text)

/-- The step, with the events that it is given kept beside the state. -/
def observing (state : σ × List Event) (event : Event) : (σ × List Event) × Option ε :=
  (((step state.1 event).1, state.2 ++ [event]), (step state.1 event).2)

/-- The events that a replay gives to its step. -/
def dispatched (state : σ) (events : List Event) : List Event :=
  (replay (observing step) logger (state, []) events).state.2

section

variable {step}

theorem observing_of_step {state next : σ} {event : Event} {fault : Option ε}
    (called : step state event = (next, fault)) (given : List Event) :
    observing step (state, given) event = ((next, given ++ [event]), fault) := by
  rw [observing, called]

end

/-- To observe a replay changes nothing of it. There is an entry on each event that was given to the
step, and a replay without a fault has given all. -/
theorem replay_observing (state : σ) (given events : List Event) :
    let run := replay step logger state events
    ∃ passed, replay (observing step) logger (state, given) events =
        ⟨(run.state, given ++ passed), run.log, run.fault⟩ ∧
      run.log = passed.map (Event.logged logger) ∧ passed <+: events ∧
      (run.fault = none → passed = events) := by
  induction events generalizing state given with
  | nil => exact ⟨[], by rw [List.append_nil]; rfl, rfl, List.prefix_rfl, fun _ => rfl⟩
  | cons event rest ih =>
    rcases called : step state event with ⟨next, _ | fault⟩
    · obtain ⟨passed, observed, log, within, whole⟩ := ih next (given ++ [event])
      have kept : given ++ event :: passed = given ++ [event] ++ passed := List.append_cons ..
      rw [replay_cons_of_none step logger rest called,
        replay_cons_of_none _ logger rest (observing_of_step called given), observed]
      refine ⟨event :: passed, ?_, ?_, (List.prefix_cons_inj event).mpr within, ?_⟩
      · rw [kept]
      · exact congrArg (event.logged logger :: ·) log
      · exact fun none => congrArg (event :: ·) (whole none)
    · rw [replay_cons_of_some step logger rest called,
        replay_cons_of_some _ logger rest (observing_of_step called given)]
      exact ⟨[event], rfl, rfl, (List.prefix_cons_inj event).mpr List.nil_prefix, nofun⟩

/-- There is an entry on each event that is dispatched, and these are the first of the events. -/
theorem log_replay (state : σ) (events : List Event) :
    let run := replay step logger state events
    let given := dispatched step logger state events
    run.log = given.map (Event.logged logger) ∧ given <+: events ∧
      (run.fault = none → given = events) := by
  obtain ⟨passed, observed, entries⟩ := replay_observing step logger state [] events
  rw [dispatched, observed]
  exact entries

end

namespace Event

/-- Well-typed events are told apart by the lines on them. -/
theorem announcements_injective {events others : List Event}
    (wellTyped : ∀ event ∈ events, event.WellTyped)
    (othersTyped : ∀ event ∈ others, event.WellTyped)
    (same : events.map announcement = others.map announcement) : events = others := by
  induction events generalizing others with
  | nil => exact (List.map_eq_nil_iff.mp same.symm).symm
  | cons event rest ih =>
    cases others with
    | nil => exact nomatch same
    | cons other later =>
      rw [List.forall_mem_cons] at wellTyped othersTyped
      rw [List.map_cons, List.map_cons, List.cons.injEq] at same
      obtain rfl := wellTyped.1.announcement_injective othersTyped.1 same.1
      exact congrArg (event :: ·) (ih wellTyped.2 othersTyped.2 same.2)

end Event

/-- The log is a faithful record. Two well-typed events with the same announcement are the same
event; an announcement is one line that can be written; and wherever well-typed events are replayed,
there is an entry on each that is dispatched, so that replays with the same messages have dispatched
the same events. -/
theorem replay_log_faithful :
    (∀ first second : Event, first.WellTyped → second.WellTyped →
      first.announcement = second.announcement → first = second ∧ first.same second = true) ∧
    (∀ event : Event, event.WellTyped → event.announcement.IsLine) ∧
    ∀ (σ τ ε δ : Type) (step : σ → Event → σ × Option ε) (other : τ → Event → τ × Option δ)
      (logger otherLogger : Text) (state : σ) (start : τ) (events others : List Event),
      (∀ event ∈ events, event.WellTyped) → (∀ event ∈ others, event.WellTyped) →
      let run := replay step logger state events
      let second := replay other otherLogger start others
      let given := dispatched step logger state events
      run.log = given.map (Event.logged logger) ∧ given <+: events ∧
        (run.fault = none → given = events) ∧
        (run.log.map LogEntry.message = second.log.map LogEntry.message →
          given = dispatched other otherLogger start others) := by
  refine ⟨?_, fun event wellTyped => wellTyped.printable_announcement.isLine, ?_⟩
  · intro first second firstTyped secondTyped same
    obtain rfl := firstTyped.announcement_injective secondTyped same
    exact ⟨rfl, firstTyped.same_self⟩
  · intro σ τ ε δ step other logger otherLogger state start events others wellTyped othersTyped
    obtain ⟨log, within, whole⟩ := log_replay step logger state events
    obtain ⟨otherLog, otherWithin, -⟩ := log_replay other otherLogger start others
    refine ⟨log, within, whole, ?_⟩
    intro same
    rw [log, otherLog, List.map_map, List.map_map] at same
    exact Event.announcements_injective
      (fun event member => wellTyped event (within.subset member))
      (fun event member => othersTyped event (otherWithin.subset member)) same

/-- A name that is no name, beside texts that hold quotation marks, a comma, what looks like an
escape, a line feed, a paragraph separator and a surrogate. -/
def unrulyWalk : List Event := [
  .attributeMatch .exact (.text (Text.ofString "a', \"b")) (.text (Text.ofString "\\x41\n")),
  .id (.text [.ofNat 0x2029, .ofNat 0xD800, .ofNat 0xE9, .ofChar '\'']),
  .nthChild (.int (.negSucc 6)), .type (.text [])]

/-- A describer refuses the last of these events, and a recorder takes it. -/
theorem replay_log_faithful_unrulyWalk :
    let record (memory : Generator.Memory) (event : Event) :=
      (Generator.recorder 0).call event memory
    let described := replay Describer.call [] {} (unrulyWalk ++ [.close])
    let recorded := replay record (Text.ofString "x") { transcripts := [[]] } unrulyWalk
    described.fault = some (.emptyName .name) ∧ recorded.fault = none ∧
      recorded.log.map LogEntry.message = described.log.map LogEntry.message ∧
      described.log.map LogEntry.message = [
        Text.ofString "dispatch attribute_exact('a\\', \"b', '\\\\x41\\n')",
        Text.ofString "dispatch id(\"\\u2029\\ud800\u00E9'\",)",
        Text.ofString "dispatch nth_child(-7,)", Text.ofString "dispatch type('',)"] ∧
      (∀ event ∈ unrulyWalk, event.announcement.IsLine) ∧
      dispatched Describer.call [] {} (unrulyWalk ++ [.close]) = unrulyWalk ∧
      ∀ event ∈ unrulyWalk, event.same event = true := by
  intro record described recorded
  have wellTyped : ∀ event ∈ unrulyWalk ++ [.close], event.WellTyped := by decide
  have shorter : ∀ event ∈ unrulyWalk, event.WellTyped := by decide
  have messages : recorded.log.map LogEntry.message =
      described.log.map LogEntry.message := by decide +kernel
  have taken : recorded.fault = none := by decide +kernel
  obtain ⟨injective, line, replayed⟩ := replay_log_faithful
  obtain ⟨-, -, -, alike⟩ := replayed _ _ _ _ Describer.call record [] (Text.ofString "x") {}
    { transcripts := [[]] } (unrulyWalk ++ [.close]) unrulyWalk wellTyped shorter
  obtain ⟨-, -, whole, -⟩ := replayed _ _ _ _ record record (Text.ofString "x") []
    { transcripts := [[]] } {} unrulyWalk unrulyWalk shorter shorter
  refine ⟨by decide +kernel, taken, messages, by decide +kernel, ?_,
    (alike messages.symm).trans (whole taken), ?_⟩
  · exact fun event member => line event (shorter event member)
  · intro event member
    exact (injective event event (shorter event member) (shorter event member) rfl).2

end SelectorProse
