import SelectorProse.Proofs.Describer.Call
import SelectorProse.Proofs.Text.Blank

/-!
Everything that can be done to a describer, one after another. Main statement: until the next start
nothing that was said is lost, however often the description is closed.
-/

set_option autoImplicit false

namespace SelectorProse

/-- What changes a describer: an event, or a text that is added as it is. -/
inductive Operation where
  | call (event : Event)
  | add (fragment : Value)

namespace Describer

/-- The describer after an operation, and the fault that kept it as it was, if any. -/
def perform (describer : Describer) : Operation → Describer × Option Fault
  | .call event => describer.call event
  | .add fragment =>
    match describer.add fragment with
    | .ok next => (next, none)
    | .error fault => (describer, some fault)

/-- The describer after operations, whatever became of each. -/
def performAll : Describer → List Operation → Describer
  | describer, [] => describer
  | describer, operation :: rest => (describer.perform operation).1.performAll rest

section

variable {describer : Describer} {operation : Operation}

theorem add_ok {next : Describer} {fragment : Value} (success : describer.add fragment = .ok next) :
    ∃ phrase, next = describer.append phrase := by
  rw [add] at success
  obtain ⟨found, -, success⟩ := Phrase.bind_ok success
  obtain ⟨phrase, -, success⟩ := Phrase.bind_ok success
  exact ⟨phrase, (Except.ok.inj success).symm⟩

/-- What an operation other than the start makes of a text: it puts something behind, or closes. -/
theorem text_perform_cases (describer : Describer) (continues : operation ≠ .call .init) :
    (∃ phrase, (describer.perform operation).1.text = describer.text ++ phrase) ∨
      (describer.perform operation).1.text = describer.text.trim ++ Text.ofString "." := by
  cases operation with
  | call event =>
    rcases call_cases describer event with ⟨phrase, -, -, called⟩ | ⟨fault, -, called⟩
    · rw [perform, called]
      cases event with
      | init => exact absurd rfl continues
      | close => exact .inr rfl
      | _ => exact .inl ⟨phrase, rfl⟩
    · rw [perform, called]
      exact .inl ⟨[], (List.append_nil _).symm⟩
  | add fragment =>
    rw [perform]
    split
    · rename_i next success
      obtain ⟨phrase, rfl⟩ := add_ok success
      exact .inl ⟨phrase, rfl⟩
    · exact .inl ⟨[], (List.append_nil _).symm⟩

end

section

open Text

variable {describer : Describer} {operation : Operation} {start : Text}

theorem isBlank_period : (CodePoint.ofChar '.').isBlank = false := rfl

theorem frontClear_closed (describer : Describer) : describer.closed.text.FrontClear := by
  by_cases blank : describer.text.trim = []
  · rw [closed, blank]
    exact frontClear_cons.mpr isBlank_period
  · exact (frontClear_trim describer.text).append blank

theorem backClear_closed (describer : Describer) : describer.closed.text.BackClear := by
  intro c last
  have period : describer.closed.text.getLast? = some (CodePoint.ofChar '.') :=
    List.getLast?_concat
  rw [period, Option.mem_some_iff] at last
  exact last ▸ isBlank_period

theorem closed_ne_nil (describer : Describer) : describer.closed.text ≠ [] :=
  List.concat_ne_nil _ _

/-- What stands behind the blanks in front stays there, if it ends with no blank. -/
theorem start_perform (continues : operation ≠ .call .init) (clear : start.BackClear)
    (stands : start <+: describer.text.trimLeft) :
    start <+: (describer.perform operation).1.text.trimLeft := by
  rcases text_perform_cases describer continues with ⟨phrase, added⟩ | ended
  · rw [added]
    by_cases blank : describer.text.trimLeft = []
    · rw [blank, List.prefix_nil] at stands
      exact stands ▸ List.nil_prefix
    · rw [trimLeft_append blank]
      exact stands.trans (List.prefix_append _ phrase)
  · have kept : start <+: describer.text.trim := start_trimRight clear stands
    have settled := trimLeft_eq_self (frontClear_closed describer)
    rw [ended]
    exact settled.symm ▸ kept.trans (List.prefix_append _ _)

/-- A text that starts with no blank never will, and there is no way to clear it but to start. -/
theorem frontClear_perform (continues : operation ≠ .call .init)
    (clear : describer.text ≠ [] ∧ describer.text.FrontClear) :
    (describer.perform operation).1.text ≠ [] ∧
      (describer.perform operation).1.text.FrontClear := by
  rcases text_perform_cases describer continues with ⟨phrase, added⟩ | ended
  · rw [added]
    exact ⟨List.append_ne_nil_of_left_ne_nil clear.1 phrase, clear.2.append clear.1⟩
  · rw [ended]
    exact ⟨closed_ne_nil describer, frontClear_closed describer⟩

/-- What every operation but the start preserves holds until the next start. -/
theorem performAll_induct (property : Describer → Prop)
    (step : ∀ describer operation, operation ≠ .call .init → property describer →
      property (describer.perform operation).1)
    {operations : List Operation} (continues : .call .init ∉ operations) {describer : Describer}
    (initially : property describer) : property (describer.performAll operations) := by
  induction operations generalizing describer with
  | nil => exact initially
  | cons operation rest ih =>
    rw [List.mem_cons, not_or] at continues
    exact ih continues.2 (step describer operation (Ne.symm continues.1) initially)

variable {operations : List Operation}

theorem start_performAll (continues : .call .init ∉ operations) (clear : start.BackClear)
    (stands : start <+: describer.text.trimLeft) :
    start <+: (describer.performAll operations).text.trimLeft :=
  performAll_induct (fun describer => start <+: describer.text.trimLeft)
    (fun _ _ other => start_perform other clear) continues stands

theorem frontClear_performAll (continues : .call .init ∉ operations)
    (clear : describer.text ≠ [] ∧ describer.text.FrontClear) :
    (describer.performAll operations).text.FrontClear :=
  (performAll_induct (fun describer => describer.text ≠ [] ∧ describer.text.FrontClear)
    (fun _ _ => frontClear_perform) continues clear).2

/-- A closed description stays as it is at the start of whatever is said behind it. -/
theorem closed_start_performAll (describer : Describer)
    (continues : .call .init ∉ operations) :
    describer.closed.text <+: (describer.closed.performAll operations).text := by
  have clear := frontClear_closed describer
  have stands : describer.closed.text <+: describer.closed.text.trimLeft :=
    ⟨[], (List.append_nil _).trans (trimLeft_eq_self clear).symm⟩
  have kept := start_performAll continues (backClear_closed describer) stands
  rwa [trimLeft_eq_self (frontClear_performAll continues ⟨closed_ne_nil describer, clear⟩)] at kept

/-- Until the next start nothing that was said is lost but the blanks around it, and a description
that was closed loses nothing at all. -/
theorem text_kept (describer : Describer) (operations : List Operation)
    (continues : .call .init ∉ operations) :
    describer.text.trim <+: (describer.performAll operations).text.trimLeft ∧
      let closed := (describer.perform (.call .close)).1
      closed.text <+: (closed.performAll operations).text ∧
        closed.text.FrontClear ∧ closed.text.BackClear := by
  refine ⟨?_, closed_start_performAll describer continues, frontClear_closed describer,
    backClear_closed describer⟩
  exact start_performAll continues (backClear_trim describer.text)
    (trim_start_trimLeft describer.text)

end

/-- A describer whose text has blanks at both ends and inside. -/
def spaced : Describer where
  text := [.ofNat 0xA0, .ofNat 0x2003, .ofChar 'a', .ofNat 0x3000, .ofChar 'b', .ofNat 0x85]

/-- Ends and blanks in turn, with calls that are refused between them. -/
def interruptions : List Operation := [
  .call .close, .add (.text [.ofNat 0x2028, .ofNat 0x1680]), .call (.type (.text [])), .add .null,
  .call .close, .call .close, .call (.className (.text [.ofNat 0x205F])), .add (.bool true),
  .call .descendant, .add (.text [.ofNat 0x1C]), .call .close]

theorem text_kept_spaced :
    .call .init ∉ interruptions ∧
      [.ofChar 'a', .ofNat 0x3000, .ofChar 'b'] <+:
        (spaced.performAll interruptions).text.trimLeft ∧
      [.ofChar 'a', .ofNat 0x3000, .ofChar 'b', .ofChar '.'] <+:
        ((spaced.perform (.call .close)).1.performAll interruptions).text := by
  have continues : .call .init ∉ interruptions := by simp [interruptions]
  obtain ⟨said, whole, -, -⟩ := text_kept spaced interruptions continues
  exact ⟨continues, said, whole⟩

end Describer

end SelectorProse
