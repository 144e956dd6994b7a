import SelectorProse.Proofs.Event.OfValue
import SelectorProse.Proofs.Script.RoundTrip
import SelectorProse.Proofs.Text.Utf8
import SelectorProse.Proofs.Value.Shown

/-!
Announcements of well-typed events. Main statements: an announcement is one line that can be
written, and it tells the event.
-/

set_option autoImplicit false

namespace SelectorProse

open CodePoint (ofChar)

/-- A text on one line, without control characters, that has octets. -/
structure Text.IsLine (t : Text) : Prop where
  noLineBreak : ∀ c ∈ t, c.isLineBreak = false
  noControl : ∀ c ∈ t, c.isControl = false
  noSurrogate : ∀ c ∈ t, c.isSurrogate = false
  single : t.splitOnP CodePoint.isLineBreak = [t]
  encodable : Utf8.encodeFault? t = none

theorem Text.Printable.isLine {t : Text} (printable : t.Printable) : t.IsLine := by
  have without (property : CodePoint → Bool)
      (hidden : ∀ {c : CodePoint}, property c = true → c.isPrintable = false) :
      ∀ c ∈ t, property c = false := by
    intro c member
    by_contra present
    rw [Bool.not_eq_false] at present
    exact nomatch (printable c member).symm.trans (hidden present)
  have lineBreaks := without _ CodePoint.isPrintable_eq_false_of_isLineBreak
  have surrogates := without _ CodePoint.isPrintable_eq_false_of_isSurrogate
  exact {
    noLineBreak := lineBreaks
    noControl := without _ CodePoint.isPrintable_eq_false_of_isControl
    noSurrogate := surrogates
    single := List.splitOnP_eq_singleton lineBreaks
    encodable := (Utf8.encodeFault?_eq_none_iff t).mpr surrogates }

namespace Event

theorem Kind.printable_name (kind : Kind) : kind.name.Printable := by
  have each : ∀ kind ∈ Kind.all, kind.name.all CodePoint.isPrintable = true := by decide +kernel
  exact Text.printable_of_all (each kind kind.mem_all)

theorem Kind.name_injective {kind other : Kind} (same : kind.name = other.name) : kind = other := by
  have found := ofName?_name kind
  rw [same, ofName?_name] at found
  exact (Option.some.inj found).symm

/-- A name ends where the parenthesis opens. -/
theorem Kind.takeWhile_name (kind : Kind) (rest : Text) :
    (kind.name ++ ofChar '(' :: rest).takeWhile (· != ofChar '(') = kind.name := by
  have each : ∀ kind ∈ Kind.all, kind.name.all (· != ofChar '(') = true := by decide
  rw [List.takeWhile_append_of_pos (List.all_eq_true.mp (each kind kind.mem_all)),
    List.takeWhile_cons, bne_self_eq_false]
  exact List.append_nil _

variable {first second event : Event} {events : List Event}

/-- Well-typed events of one kind carry alike values. -/
theorem WellTyped.alike_arguments (firstTyped : first.WellTyped) (secondTyped : second.WellTyped)
    (kinds : first.kind = second.kind) :
    List.Forall₂ Value.Alike first.arguments second.arguments := by
  rw [wellTyped_iff] at firstTyped secondTyped
  rw [arguments_eq, arguments_eq, entries_eq, entries_eq, List.map_map, List.map_map, ← kinds,
    List.forall₂_map_left_iff, List.forall₂_map_right_iff, List.forall₂_same]
  rw [← kinds] at secondTyped
  intro field listed
  exact .of_expected (firstTyped field listed) (secondTyped field listed)

theorem eq_of_kind_of_arguments (kinds : first.kind = second.kind)
    (arguments : first.arguments = second.arguments) : first = second := by
  have rebuilt := ofArguments?_arguments first
  rw [kinds, arguments, ofArguments?_arguments] at rebuilt
  exact (Option.some.inj rebuilt).symm

/-- Well-typed events are told apart by their announcements. -/
theorem WellTyped.announcement_injective (firstTyped : first.WellTyped)
    (secondTyped : second.WellTyped) (same : first.announcement = second.announcement) :
    first = second := by
  rw [announcement, announcement, List.append_assoc, List.append_assoc] at same
  have called := List.append_cancel_left same
  have names := congrArg (List.takeWhile (· != ofChar '(')) called
  rw [Value.inParentheses_eq, Value.inParentheses_eq] at names
  have kinds : first.kind = second.kind :=
    Kind.name_injective (((Kind.takeWhile_name _ _).symm.trans names).trans
      (Kind.takeWhile_name _ _))
  rw [kinds] at called
  exact eq_of_kind_of_arguments kinds (Value.inParentheses_shown_injective
    (firstTyped.alike_arguments secondTyped kinds) (List.append_cancel_left called))

theorem WellTyped.printable_announcement (wellTyped : event.WellTyped) :
    event.announcement.Printable := by
  have arguments : ∀ item ∈ event.arguments.map Value.shown, item.Printable := by
    rw [List.forall_mem_map]
    intro value carried
    rcases wellTyped.text_or_int carried with ⟨t, rfl⟩ | ⟨i, rfl⟩
    · rw [Value.shown]
      exact Text.printable_quoted t
    · rw [Value.shown]
      exact Text.printable_ofInt i
  exact ((Text.printable_of_all (by decide)).append event.kind.printable_name).append
    (Value.printable_inParentheses arguments)

/-- A well-typed event is equal to itself. -/
theorem WellTyped.same_self (wellTyped : event.WellTyped) : event.same event = true := by
  have items := sameItems_map_iff (fun value => value) event.arguments
  rw [List.map_id'] at items
  rw [same, decide_eq_true rfl, Bool.true_and, items]
  intro value carried
  rcases wellTyped.text_or_int carried with ⟨t, rfl⟩ | ⟨i, rfl⟩
  · rw [Value.same]
    exact beq_self_eq_true t
  · rw [Value.same]
    exact beq_self_eq_true i

end Event

end SelectorProse
