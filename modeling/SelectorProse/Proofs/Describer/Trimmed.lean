import SelectorProse.Proofs.Describer.EmptyName
import SelectorProse.Proofs.Describer.Fragment

/-!
What the end of a description takes away. Main statement: a walk is described by everything that was
said since its last start, without the blanks at the ends of that, and by a period.
-/

set_option autoImplicit false

namespace SelectorProse

/-- The walk without an end of its own. -/
def withoutEnd (events : List Event) : List Event :=
  if closesItself events then events.dropLast else events

/-- The events since the last start, or all if there is none. -/
def sinceStart (events : List Event) : List Event := events.rtakeWhile fun event => !event.isInit

/-- What a walk tells in the end: the events since its last start, without its own end. -/
def told (events : List Event) : List Event := sinceStart (withoutEnd events)

theorem Event.isInit_iff {event : Event} : event.isInit = true ↔ event = .init := by
  cases event <;> simp [isInit]

theorem Event.isClose_iff {event : Event} : event.isClose = true ↔ event = .close := by
  cases event <;> simp [isClose]

section

variable {config : Config} {logger : Text} {events : List Event}

theorem closesItself_concat (front : List Event) (last : Event) :
    closesItself (front ++ [last]) = last.isClose := by
  rw [closesItself, List.getLast?_concat, Option.any_some]

theorem withoutEnd_of_closes (closes : closesItself events = true) :
    withoutEnd events ++ [.close] = events := by
  rw [withoutEnd, if_pos closes]
  rcases List.eq_nil_or_concat' events with rfl | ⟨front, last, rfl⟩
  · cases closes
  · rw [closesItself_concat, Event.isClose_iff] at closes
    rw [closes, List.dropLast_concat]

/-- Everything up to the last start leaves a fresh describer as it was. -/
theorem state_replay_start {start : List Event} (opens : ∀ present, start.getLast present = .init)
    (accepted : (replay Describer.call logger { config } start).fault = none) :
    (replay Describer.call logger { config } start).state = { config } := by
  rcases List.eq_nil_or_concat' start with rfl | ⟨before, last, rfl⟩
  · rfl
  · have opening : last = .init := List.getLast_concat.symm.trans (opens (List.concat_ne_nil _ _))
    subst opening
    have kept := Describer.config_replay logger { config } before
    rw [replay_append_of_none _ (fault_replay_append_eq_none_iff.mp accepted).1,
      replay_cons_of_none Describer.call logger [] (Describer.call_init _)]
    exact Describer.ext kept rfl rfl

theorem ne_init_of_mem_sinceStart {event : Event} (member : event ∈ sinceStart events) :
    event ≠ .init := by
  rintro rfl
  exact nomatch List.mem_rtakeWhile_imp member

/-- What comes before the events since the last start ends with that start. -/
theorem getLast_rdropWhile_isInit (present : events.rdropWhile (fun event => !event.isInit) ≠ []) :
    (events.rdropWhile fun event => !event.isInit).getLast present = .init := by
  have stopped := List.rdropWhile_last_not _ _ present
  rw [Bool.not_eq_true', Bool.not_eq_false] at stopped
  exact Event.isInit_iff.mp stopped

/-- A fresh describer tells what came since the last start. -/
theorem text_replay_fresh
    (accepted : (replay Describer.call logger { config } events).fault = none) :
    (replay Describer.call logger { config } events).state.text =
      rendered config.isLegacy (sinceStart events) := by
  have split : events.rdropWhile (fun event => !event.isInit) ++ sinceStart events = events :=
    List.rdropWhile_append_rtakeWhile
  have fresh : ({ config } : Describer).Remembers [] := Describer.Remembers.cleared { config }
  rw [← split] at accepted
  obtain ⟨first, accepted⟩ := fault_replay_append_eq_none_iff.mp accepted
  have started := state_replay_start getLast_rdropWhile_isInit first
  have reached : (replay Describer.call logger { config } events).state =
      (replay Describer.call logger { config } (sinceStart events)).state := by
    conv_lhs => rw [← split]
    rw [replay_append_of_none _ first, started]
  rw [started] at accepted
  rw [reached]
  exact fresh.text_replay (fun _ => ne_init_of_mem_sinceStart) accepted

/-- A walk that ends itself leaves a describer that was closed at last. -/
theorem state_replay_of_closes (closes : closesItself events = true)
    (accepted : (replay Describer.call logger { config } events).fault = none) :
    (replay Describer.call logger { config } (withoutEnd events)).fault = none ∧
      (replay Describer.call logger { config } events).state =
        (replay Describer.call logger { config } (withoutEnd events)).state.closed := by
  rw [← withoutEnd_of_closes closes] at accepted
  have first := (fault_replay_append_eq_none_iff.mp accepted).1
  refine ⟨first, ?_⟩
  conv_lhs => rw [← withoutEnd_of_closes closes]
  rw [replay_append_of_none _ first,
    replay_cons_of_none Describer.call logger [] (Describer.call_close _)]
  rfl

/-- A description is the text of what came since the last start, trimmed, and a period. -/
theorem result_describe_rendered (chosen : config.logger? = some logger)
    (accepted : (replay Describer.call logger { config } events).fault = none) :
    (describe config events).result =
      .ok ((rendered config.isLegacy (told events)).trim ++ Text.ofString ".") := by
  rw [result_describe_of_accepted chosen accepted]
  cases closes : closesItself events with
  | false =>
    have whole : withoutEnd events = events := if_neg (Bool.eq_false_iff.mp closes)
    have text := text_replay_fresh accepted
    simp only [Bool.false_eq_true, if_false, Describer.closed, told, whole, text]
  | true =>
    obtain ⟨first, reached⟩ := state_replay_of_closes closes accepted
    have text := text_replay_fresh first
    simp only [if_true, reached, Describer.closed, told, text]

/-- What was said is the text that a describer has then, before it is closed. -/
theorem text_performAll_eq_said {body : List Event} (opening : ∀ event ∈ body, event ≠ .init)
    (closing : ∀ event ∈ body, event ≠ .close)
    (accepted : ∀ event ∈ body, event.fault? config.isLegacy = none) :
    (({ config } : Describer).performAll (body.map .call)).text = said config.isLegacy body := by
  have fresh : ({ config } : Describer).Remembers [] := Describer.Remembers.cleared { config }
  have whole : replay Describer.call [] { config } body =
      ⟨_, body.map (Event.logged []), none⟩ := Describer.replay_of_accepted accepted
  have text := fresh.text_replay opening (congrArg Replay.fault whole)
  rw [whole] at text
  exact text.trans (renderedAfter_eq_append [] closing)

theorem mem_of_mem_withoutEnd {event : Event} (member : event ∈ withoutEnd events) :
    event ∈ events := by
  rw [withoutEnd] at member
  split at member
  · exact (List.dropLast_sublist events).mem member
  · exact member

theorem ne_close_of_mem_withoutEnd {event : Event}
    (continues : ∀ event ∈ events.dropLast, event ≠ .close)
    (member : event ∈ withoutEnd events) : event ≠ .close := by
  rw [withoutEnd] at member
  split at member
  · exact continues event member
  · rename_i unended
    rintro rfl
    rcases List.eq_nil_or_concat' events with rfl | ⟨front, last, rfl⟩
    · exact absurd member List.not_mem_nil
    · rw [List.dropLast_concat] at continues
      rcases List.mem_append.mp member with earlier | final
      · exact continues .close earlier rfl
      · rw [closesItself_concat, Event.isClose_iff] at unended
        exact unended (List.mem_singleton.mp final).symm

theorem mem_withoutEnd_of_mem_told {event : Event} (member : event ∈ told events) :
    event ∈ withoutEnd events := (List.rtakeWhile_suffix _ _).mem member

/-- A walk of well-formed events without empty names, with no end but its last event, is described
by everything that was said since the last start, but for the blank before it and the blanks of a
class name that nothing follows, and by a period. It is the only one at the end unless such a class
name brings another. -/
theorem describe_trims {name : Text} (named : config.loggerName = .text name)
    (wellTyped : ∀ event ∈ events, event.WellTyped) (writable : ∀ event ∈ events, event.Writable)
    (nonempty : ∀ event ∈ events, event.emptyName? = none)
    (continues : ∀ event ∈ events.dropLast, event ≠ .close) :
    (({ config } : Describer).performAll ((told events).map .call)).text =
        said config.isLegacy (told events) ∧
      ∃ described : Text,
        (describe config events).result = .ok (described ++ Text.ofString ".") ∧
        described.FrontClear ∧ described.BackClear ∧
        (firstParticular (told events) = none → described = []) ∧
        ∀ first, firstParticular (told events) = some first →
          ∃ last, lastParticular (told events) = some last ∧
            said config.isLegacy (told events) =
              first.leadingBlanks ++ described ++ last.trailingBlanks ∧
            (described.getLast? = some (.ofChar '.') ↔ last.EndsInPeriod) := by
  obtain ⟨logger, chosen⟩ := Option.isSome_iff_exists.mp
    (Config.isSome_logger? (.inl ⟨name, named⟩))
  have accepted : ∀ event ∈ events, event.fault? config.isLegacy = none := by
    intro event member
    rw [Event.fault?_eq_emptyName? _ (wellTyped event member) (writable event member),
      nonempty event member]
    rfl
  have opening : ∀ event ∈ told events, event ≠ .init := fun _ => ne_init_of_mem_sinceStart
  have closing : ∀ event ∈ told events, event ≠ .close := by
    intro event member
    exact ne_close_of_mem_withoutEnd continues (mem_withoutEnd_of_mem_told member)
  have described : ∀ event ∈ told events, event.fault? config.isLegacy = none := by
    intro event member
    exact accepted event (mem_of_mem_withoutEnd (mem_withoutEnd_of_mem_told member))
  have concatenated : rendered config.isLegacy (told events) = said config.isLegacy (told events) :=
    renderedAfter_eq_append [] closing
  refine ⟨text_performAll_eq_said opening closing described,
    (said config.isLegacy (told events)).trim, ?_, Text.frontClear_trim _, Text.backClear_trim _,
    ?_, ?_⟩
  · rw [result_describe_rendered chosen (Describer.fault_replay_eq_none_iff.mpr accepted),
      concatenated]
  · intro silent
    have universal : (told events).all Event.isUniversal = true := by
      rw [firstParticular, List.find?_eq_none] at silent
      simpa using silent
    rw [said_of_universal universal, Text.trim_nil]
  · intro first foundFirst
    obtain ⟨last, foundLast⟩ := exists_lastParticular foundFirst
    exact ⟨last, foundLast, trim_said config.isLegacy opening closing foundFirst foundLast⟩

end

/-- A class name with a period and blanks, and nothing but a universal selector behind it. -/
def pausedName : Event :=
  .className (.text [.ofNat 0x85, .ofChar '.', .ofNat 0xA0, .ofNat 0x3000])

/-- A walk with a start inside it. -/
def pausedWalk : List Event := [
  .className (.text [.ofChar '.']), .init, .universal, .descendant, .nthChild (.int (.negSucc 2)),
  .attributeMatch .dashMatch (.text [.ofNat 0x2003]) (.text []), pausedName, .universal, .close]

theorem describe_trims_pausedWalk :
    (∀ event ∈ pausedWalk, event.WellTyped ∧ event.Writable ∧ event.emptyName? = none) ∧
      (∀ event ∈ pausedWalk.dropLast, event ≠ .close) ∧
      ∃ described : Text,
        (describe {} pausedWalk).result = .ok (described ++ Text.ofString ".") ∧
        said false (told pausedWalk) =
          Text.ofString " " ++ described ++ [.ofNat 0xA0, .ofNat 0x3000] ∧
        described.getLast? = some (.ofChar '.') := by
  have named : ({} : Config).loggerName = .text (Text.ofString "css_describe") := rfl
  have wellTyped : ∀ event ∈ pausedWalk, event.WellTyped := by decide
  have writable : ∀ event ∈ pausedWalk, event.Writable := by decide +kernel
  have nonempty : ∀ event ∈ pausedWalk, event.emptyName? = none := by decide
  have continues : ∀ event ∈ pausedWalk.dropLast, event ≠ .close := by simp [pausedWalk, pausedName]
  obtain ⟨-, described, ended, -, -, -, trimmed⟩ :=
    describe_trims named wellTyped writable nonempty continues
  obtain ⟨last, found, whole, period⟩ := trimmed .descendant rfl
  have final : last = pausedName := Option.some.inj (found.symm.trans rfl)
  subst final
  have ends : pausedName.EndsInPeriod := ⟨_, rfl, by decide +kernel⟩
  have blanks : pausedName.trailingBlanks = [.ofNat 0xA0, .ofNat 0x3000] := by decide +kernel
  rw [blanks] at whole
  exact ⟨fun event member =>
    ⟨wellTyped event member, writable event member, nonempty event member⟩, continues,
    described, ended, whole, period.mpr ends⟩

end SelectorProse
