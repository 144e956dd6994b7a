import SelectorProse.Proofs.Describer.Replay

/-!
A description from the events alone. Main statement: after a replay that no event has stopped, the
text of a describer is the rendering of the events since the last start, whatever the describer had
gathered before.
-/

set_option autoImplicit false

namespace SelectorProse

/-- The text after an event, given the events since the start and the text that they made. -/
def Event.extend (legacy : Bool) (earlier : List Event) (text : Text) : Event → Text
  | .close => text.trim ++ Text.ofString "."
  | event => text ++ event.words legacy earlier

/-- The text after further events, given the events since the start and the text that they made. -/
def renderedAfter (legacy : Bool) : List Event → Text → List Event → Text
  | _, text, [] => text
  | earlier, text, event :: rest =>
    renderedAfter legacy (earlier ++ [event]) (event.extend legacy earlier text) rest

/-- The description of the events since a start. -/
def rendered (legacy : Bool) (body : List Event) : Text := renderedAfter legacy [] [] body

namespace Describer

/-- What a describer remembers of the events since the start, besides its text. -/
structure Remembers (describer : Describer) (earlier : List Event) : Prop where
  /-- Only universal selectors leave the text empty. -/
  empty : describer.text.isEmpty = earlier.all Event.isUniversal
  chained : describer.chained = earlier.any Event.isDescendant

namespace Remembers

theorem cleared (describer : Describer) : describer.cleared.Remembers [] := ⟨rfl, rfl⟩

variable {describer : Describer} {earlier : List Event}

theorem phrase_eq_words {event : Event} {phrase : Text} (remembers : describer.Remembers earlier)
    (described : event.phrase describer.context = .ok phrase) :
    phrase = event.words describer.config.isLegacy earlier := by
  refine Event.phrase_eq_words ?_ remembers.chained described
  rw [← remembers.empty]
  rfl

theorem text_after_of_ne {event : Event} (phrase : Text) (continues : event ≠ .init)
    (open_ended : event ≠ .close) :
    (describer.after phrase event).text = describer.text ++ phrase := by
  cases event with
  | init => exact absurd rfl continues
  | close => exact absurd rfl open_ended
  | _ => rfl

/-- The end of a description and every word make the text nonempty. -/
theorem isEmpty_after {event : Event} (remembers : describer.Remembers earlier)
    (continues : event ≠ .init) :
    (describer.after (event.words describer.config.isLegacy earlier) event).text.isEmpty =
      (earlier ++ [event]).all Event.isUniversal := by
  rw [List.all_append, ← remembers.empty]
  by_cases closing : event = .close
  · subst closing
    show (describer.text.trim ++ Text.ofString ".").isEmpty = (describer.text.isEmpty && false)
    simp [Text.ofString]
  · rw [text_after_of_ne _ continues closing]
    cases universal : event.isUniversal with
    | true =>
      rw [Event.words_of_isUniversal universal, List.append_nil]
      simp [universal]
    | false =>
      have spoken : event.words describer.config.isLegacy earlier ≠ [] :=
        Event.words_ne_nil continues closing universal
      simp [universal, spoken]

theorem chained_after {event : Event} (phrase : Text) (remembers : describer.Remembers earlier)
    (continues : event ≠ .init) :
    (describer.after phrase event).chained = (earlier ++ [event]).any Event.isDescendant := by
  rw [List.any_append, ← remembers.chained]
  cases event with
  | init => exact absurd rfl continues
  | descendant => exact (Bool.or_true _).symm
  | _ => exact (Bool.or_false _).symm

/-- The step: an accepted event is remembered. -/
theorem after_words {event : Event} (remembers : describer.Remembers earlier)
    (continues : event ≠ .init) :
    (describer.after (event.words describer.config.isLegacy earlier) event).Remembers
      (earlier ++ [event]) :=
  ⟨remembers.isEmpty_after continues, remembers.chained_after _ continues⟩

theorem text_after {event : Event} (continues : event ≠ .init) :
    (describer.after (event.words describer.config.isLegacy earlier) event).text =
      event.extend describer.config.isLegacy earlier describer.text := by
  cases event with
  | init => exact absurd rfl continues
  | _ => rfl

/-- The run keeps what is remembered, and its text is the rendering of its events. -/
theorem text_replay {logger : Text} {body : List Event} (remembers : describer.Remembers earlier)
    (continues : ∀ event ∈ body, event ≠ .init)
    (accepted : (replay call logger describer body).fault = none) :
    (replay call logger describer body).state.text =
      renderedAfter describer.config.isLegacy earlier describer.text body := by
  -- Each event that is accepted moves from the body to the earlier ones.
  induction body generalizing describer earlier with
  | nil => rfl
  | cons event rest ih =>
    rw [List.forall_mem_cons] at continues
    rcases call_cases describer event with ⟨phrase, -, described, called⟩ | ⟨fault, -, called⟩
    · obtain rfl := remembers.phrase_eq_words described
      rw [replay_cons_of_none call logger rest called] at accepted ⊢
      have later := ih (remembers.after_words continues.1) continues.2 accepted
      rw [config_after, text_after continues.1] at later
      exact later
    · rw [replay_cons_of_some call logger rest called] at accepted
      exact nomatch accepted

end Remembers

/-- Whatever a describer had gathered, a replay goes to its end exactly if each event is accepted,
and then the text is the rendering of the events since the start. -/
theorem text_replay_init (describer : Describer) (logger : Text) (before body : List Event)
    (last : Event.init ∉ body) :
    let run := replay call logger describer (before ++ .init :: body)
    (run.fault = none ↔ ∀ event ∈ before ++ body, (describer.call event).2 = none) ∧
      (run.fault = none → run.state.text = rendered describer.config.isLegacy body) := by
  intro run
  have restarted (state : Describer) : state.call .init = (state.cleared, none) := rfl
  constructor
  · have start : Event.init.fault? describer.config.isLegacy = none := rfl
    rw [fault_replay_eq_none_iff]
    simp only [fault_call, List.forall_mem_append, List.forall_mem_cons, start, true_and]
  · intro accepted
    obtain ⟨first, accepted⟩ := fault_replay_append_eq_none_iff.mp accepted
    have kept := config_replay logger describer before
    rw [replay_cons_of_none call logger body (restarted _)] at accepted
    have text := (Remembers.cleared _).text_replay
      (fun event member => ne_of_mem_of_not_mem member last) accepted
    show (replay call logger describer (before ++ .init :: body)).state.text = _
    rw [replay_append_of_none _ first, replay_cons_of_none call logger body (restarted _), ← kept]
    exact text

/-- A describer that was left in the middle of another description. -/
def leftBehind : Describer where
  config := { legacyDashMatch := .bool true }
  text := Text.ofString "which have"
  chained := true

/-- Two selectors with an end between them. -/
def twoSelectors : List Event := [
  .universal, .onSelector, .descendant, .close, .onSelector, .className (.text [.ofNat 0xD83D]),
  .descendant, .attributeMatch .dashMatch (.bool true) (.text [])]

theorem text_replay_init_leftBehind :
    Event.init ∉ twoSelectors ∧
      (replay call [] leftBehind ([.close, .descendant] ++ .init :: twoSelectors)).state.text =
        Text.ofString "Select all nodes which have descendants" ++ Text.ofString "." ++
        Text.ofString ", then combined with previous, select all nodes with class name " ++
        [.ofNat 0xD83D] ++ Text.ofString ", which in turn have descendants which have a " ++
        Text.ofString "\x7b0\x7d attribute with a hyphen separated value matching '\x7b1\x7d'" := by
  have last : Event.init ∉ twoSelectors := by simp [twoSelectors]
  obtain ⟨ends, text⟩ := text_replay_init leftBehind [] [.close, .descendant] twoSelectors last
  have accepted := ends.mpr (by decide)
  exact ⟨last, (text accepted).trans (by decide +kernel)⟩

end Describer

end SelectorProse
