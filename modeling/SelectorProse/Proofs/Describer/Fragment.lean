import SelectorProse.Proofs.Describer.Rendering
import SelectorProse.Proofs.Text.Blank

/-!
What the events of a description add to it, and where there are blanks at the ends of that. Main
statement: trimming takes away the blank before the first words and the blanks of a class name that
nothing follows, and nothing else.
-/

set_option autoImplicit false

namespace SelectorProse

namespace Text

theorem ofString_ofList (l : List Char) : ofString (String.ofList l) = l.map CodePoint.ofChar := by
  rw [ofString, String.toList_ofList]

/-- The text goes on without a blank behind its lead. -/
def StartsBehind (t lead : Text) : Prop := ∃ c rest, t = lead ++ c :: rest ∧ c.isBlank = false

theorem StartsBehind.append {lead t : Text} (starts : StartsBehind t lead) (u : Text) :
    StartsBehind (t ++ u) lead := by
  obtain ⟨c, rest, rfl, unblank⟩ := starts
  refine ⟨c, rest ++ u, ?_, unblank⟩
  rw [List.append_assoc, List.cons_append]

theorem startsBehind_nil {c : Char} (rest : List Char)
    (unblank : (CodePoint.ofChar c).isBlank = false) :
    StartsBehind (ofString (String.ofList (c :: rest))) [] :=
  ⟨.ofChar c, rest.map CodePoint.ofChar, ofString_ofList _, unblank⟩

theorem startsBehind_space {c : Char} (rest : List Char)
    (unblank : (CodePoint.ofChar c).isBlank = false) :
    StartsBehind (ofString (String.ofList (' ' :: c :: rest))) (ofString " ") :=
  ⟨.ofChar c, rest.map CodePoint.ofChar, ofString_ofList _, unblank⟩

/-- The text ends with something that is neither a blank nor a period. -/
def endsPlainly (t : Text) : Bool := t.getLast?.any fun c => !c.isBlank && c != .ofChar '.'

theorem endsPlainly_ofString {l : List Char}
    (plain : endsPlainly (l.map CodePoint.ofChar) = true) :
    (ofString (String.ofList l)).endsPlainly = true := by
  rw [ofString_ofList]
  exact plain

theorem endsPlainly_append (t : Text) {u : Text} (plain : u.endsPlainly = true) :
    (t ++ u).endsPlainly = true := by
  rw [endsPlainly] at plain ⊢
  rw [List.getLast?_append]
  cases last : u.getLast? with
  | none =>
    rw [last] at plain
    exact nomatch plain
  | some c =>
    rw [last] at plain
    exact plain

theorem getLast?_of_endsPlainly {t : Text} (plain : t.endsPlainly = true) :
    ∃ c, t.getLast? = some c ∧ c.isBlank = false ∧ c ≠ .ofChar '.' := by
  rw [endsPlainly] at plain
  cases last : t.getLast? with
  | none =>
    rw [last] at plain
    exact nomatch plain
  | some c =>
    rw [last, Option.any_some, Bool.and_eq_true, Bool.not_eq_true', bne_iff_ne] at plain
    exact ⟨c, rfl, plain⟩

end Text

/-- The fragments that events add, given the events before them since the start. -/
def fragments (legacy : Bool) : List Event → List Event → List Text
  | _, [] => []
  | earlier, event :: rest =>
    event.words legacy earlier :: fragments legacy (earlier ++ [event]) rest

/-- All that the events add, one after another. -/
def said (legacy : Bool) (body : List Event) : Text := (fragments legacy [] body).flatten

/-- The first event that adds words, if one does. -/
def firstParticular (body : List Event) : Option Event :=
  body.find? fun event => !event.isUniversal

/-- The last event that adds words, if one does. -/
def lastParticular (body : List Event) : Option Event :=
  body.reverse.find? fun event => !event.isUniversal

namespace Event

/-- The blank in front of what an event adds to a text without words. -/
def leadingBlanks : Event → Text
  | .onSelector => []
  | _ => Text.ofString " "

/-- The blanks behind what an event adds. A class name ends its fragment, so that a blank one leaves
the space before it as well. -/
def trailingBlanks : Event → Text
  | .className name =>
    (if name.plain.all CodePoint.isBlank then Text.ofString " " else []) ++
      name.plain.rtakeWhile CodePoint.isBlank
  | _ => []

section

variable {legacy : Bool} {earlier : List Event} {event : Event}

theorem isBlank_of_mem_leadingBlanks (event : Event) :
    ∀ c ∈ event.leadingBlanks, c.isBlank = true := by
  have space : ∀ c ∈ Text.ofString " ", c.isBlank = true := List.forall_mem_singleton.mpr rfl
  cases event with
  | onSelector => nofun
  | _ => exact space

theorem isBlank_of_mem_trailingBlanks (event : Event) :
    ∀ c ∈ event.trailingBlanks, c.isBlank = true := by
  cases event with
  | className name =>
    intro c member
    rw [trailingBlanks, List.mem_append] at member
    rcases member with space | behind
    · split at space
      · rw [List.mem_singleton.mp space]
        rfl
      · exact absurd space List.not_mem_nil
    · exact List.mem_rtakeWhile_imp behind
  | _ => nofun

theorem any_isDescendant_of_universal (universal : earlier.all isUniversal = true) :
    earlier.any isDescendant = false := by
  rw [List.any_eq_false]
  intro event member descends
  have found := List.all_eq_true.mp universal event member
  cases event with
  | descendant => exact nomatch found
  | _ => exact nomatch descends

/-- The first words of a description begin behind at most one blank. -/
theorem words_front (legacy : Bool) (opening : event ≠ .init) (closing : event ≠ .close)
    (particular : event.isUniversal = false) (first : earlier.all isUniversal = true) :
    (event.words legacy earlier).StartsBehind event.leadingBlanks := by
  cases event with
  | init => exact absurd rfl opening
  | close => exact absurd rfl closing
  | universal => exact nomatch particular
  | onSelector =>
    rw [words, if_pos first]
    exact Text.startsBehind_nil _ rfl
  | descendant =>
    rw [words, any_isDescendant_of_universal first, if_neg Bool.false_ne_true]
    exact Text.startsBehind_space _ rfl
  | attributeMatch comparison name value =>
    have compared (relation : String) :
        (attributeWords name relation value).StartsBehind (Text.ofString " ") := by
      simp only [attributeWords, List.append_assoc]
      exact (Text.startsBehind_space _ rfl).append _
    cases comparison with
    | dashMatch =>
      rw [words]
      split
      · exact Text.startsBehind_space _ rfl
      · exact compared _
    | _ => exact compared _
  | type name | id name | attributeExists name | nthChild position =>
    rw [words, List.append_assoc]
    exact (Text.startsBehind_space _ rfl).append _
  | className value => exact (Text.startsBehind_space _ rfl).append _
  | _ => exact Text.startsBehind_space _ rfl

/-- All words but those of a class name end with a letter or a quotation mark. -/
theorem endsPlainly_words (legacy : Bool) (earlier : List Event) (opening : event ≠ .init)
    (closing : event ≠ .close) (particular : event.isUniversal = false)
    (other : ∀ name, event ≠ .className name) :
    (event.words legacy earlier).endsPlainly = true := by
  cases event with
  | init => exact absurd rfl opening
  | close => exact absurd rfl closing
  | universal => exact nomatch particular
  | className name => exact absurd rfl (other name)
  | onSelector | descendant =>
    rw [words]
    split
    · exact Text.endsPlainly_ofString rfl
    · exact Text.endsPlainly_ofString rfl
  | type name | id name | attributeExists name | nthChild position =>
    exact Text.endsPlainly_append _ (Text.endsPlainly_ofString rfl)
  | attributeMatch comparison name value =>
    have compared (relation : String) : (attributeWords name relation value).endsPlainly = true :=
      Text.endsPlainly_append _ (Text.endsPlainly_ofString rfl)
    cases comparison with
    | dashMatch =>
      rw [words]
      split
      · exact Text.endsPlainly_ofString rfl
      · exact compared _
    | _ => exact compared _
  | _ => exact Text.endsPlainly_ofString rfl

/-- The words end, but for the blanks behind them, with the period of a class name. -/
def EndsInPeriod (event : Event) : Prop :=
  ∃ name, event = .className name ∧ name.plain.trimRight.getLast? = some (.ofChar '.')

theorem endsInPeriod_className {name : Value} : (className name).EndsInPeriod ↔
    name.plain.trimRight.getLast? = some (.ofChar '.') := by
  simp only [EndsInPeriod, className.injEq, exists_eq_left']

/-- The text is what the event, as the last that adds words, leaves without the blanks behind it. -/
structure Leaves (event : Event) (front : Text) : Prop where
  present : front ≠ []
  backClear : front.BackClear
  period : front.getLast? = some (.ofChar '.') ↔ event.EndsInPeriod

/-- What was said before does not count. -/
theorem Leaves.behind {front : Text} (leaves : event.Leaves front) (before : Text) :
    event.Leaves (before ++ front) := by
  have last : (before ++ front).getLast? = front.getLast? :=
    List.getLast?_append_of_ne_nil before leaves.present
  refine ⟨List.append_ne_nil_of_right_ne_nil before leaves.present, ?_, ?_⟩
  · rw [Text.BackClear, last]
    exact leaves.backClear
  · rw [last]
    exact leaves.period

theorem leaves_of_endsPlainly {front : Text} (plain : front.endsPlainly = true)
    (silent : ¬ event.EndsInPeriod) : event.Leaves front := by
  obtain ⟨c, last, unblank, different⟩ := Text.getLast?_of_endsPlainly plain
  constructor
  · rintro rfl
    exact nomatch last
  · intro found member
    rw [last, Option.mem_some_iff] at member
    exact member ▸ unblank
  · rw [last, Option.some.injEq]
    exact ⟨fun period => absurd period different, fun period => absurd period silent⟩

/-- A blank class name is trimmed with the space before it, any other up to its own blanks. -/
theorem words_back_className (legacy : Bool) (earlier : List Event) (name : Value) :
    ∃ front, (className name).words legacy earlier = front ++ (className name).trailingBlanks ∧
      (className name).Leaves front := by
  rw [words, trailingBlanks]
  by_cases blank : ∀ c ∈ name.plain, c.isBlank = true
  · refine ⟨Text.ofString " with class name", ?_, leaves_of_endsPlainly rfl ?_⟩
    · rw [if_pos (List.all_eq_true.mpr blank), List.rtakeWhile_eq_self_iff.mpr blank]
      rfl
    · simp [endsInPeriod_className, Text.trimRight_of_blank blank]
  · have present : name.plain.trimRight ≠ [] := mt List.rdropWhile_eq_nil_iff.mp blank
    have split : name.plain.trimRight ++ name.plain.rtakeWhile CodePoint.isBlank = name.plain :=
      List.rdropWhile_append_rtakeWhile
    have leaves : (className name).Leaves name.plain.trimRight :=
      ⟨present, Text.backClear_trimRight name.plain, endsInPeriod_className.symm⟩
    refine ⟨Text.ofString " with class name " ++ name.plain.trimRight, ?_, leaves.behind _⟩
    rw [if_neg (mt List.all_eq_true.mp blank), List.nil_append, List.append_assoc, split]

theorem words_back (legacy : Bool) (earlier : List Event) (opening : event ≠ .init)
    (closing : event ≠ .close) (particular : event.isUniversal = false) :
    ∃ front, event.words legacy earlier = front ++ event.trailingBlanks ∧ event.Leaves front := by
  by_cases named : ∃ name, event = .className name
  · obtain ⟨name, rfl⟩ := named
    exact words_back_className legacy earlier name
  · rw [not_exists] at named
    have plain := endsPlainly_words legacy earlier opening closing particular named
    have silent : ¬ event.EndsInPeriod := by
      rintro ⟨name, same, -⟩
      exact named name same
    refine ⟨event.words legacy earlier, ?_, leaves_of_endsPlainly plain silent⟩
    cases event with
    | className name => exact absurd rfl (named name)
    | _ => exact (List.append_nil _).symm

end

end Event

section

variable {legacy : Bool} {earlier body : List Event}

theorem fragments_append (first second : List Event) :
    fragments legacy earlier (first ++ second) =
      fragments legacy earlier first ++ fragments legacy (earlier ++ first) second := by
  induction first generalizing earlier with
  | nil => rw [List.nil_append, List.append_nil, fragments, List.nil_append]
  | cons event rest ih =>
    rw [List.cons_append, fragments, ih, fragments, List.append_assoc, List.cons_append]
    rfl

theorem flatten_fragments_of_universal (universal : body.all Event.isUniversal = true) :
    (fragments legacy earlier body).flatten = [] := by
  induction body generalizing earlier with
  | nil => rfl
  | cons event rest ih =>
    rw [List.all_cons, Bool.and_eq_true] at universal
    rw [fragments, Event.words_of_isUniversal universal.1, List.flatten_cons, ih universal.2]
    rfl

/-- Without an end, a rendering is nothing but the fragments. -/
theorem renderedAfter_eq_append (text : Text) (continues : ∀ event ∈ body, event ≠ .close) :
    renderedAfter legacy earlier text body = text ++ (fragments legacy earlier body).flatten := by
  induction body generalizing earlier text with
  | nil => exact (List.append_nil text).symm
  | cons event rest ih =>
    rw [List.forall_mem_cons] at continues
    have extended : event.extend legacy earlier text = text ++ event.words legacy earlier := by
      cases event with
      | close => exact absurd rfl continues.1
      | _ => rfl
    rw [renderedAfter, ih _ continues.2, extended, fragments, List.flatten_cons, List.append_assoc]

theorem said_split (before after : List Event) (event : Event) :
    said legacy (before ++ event :: after) =
      said legacy before ++ (event.words legacy before ++
        (fragments legacy (before ++ [event]) after).flatten) := by
  rw [said, said, fragments_append, List.flatten_append, fragments, List.flatten_cons,
    List.nil_append]

theorem said_of_universal (universal : body.all Event.isUniversal = true) :
    said legacy body = [] := flatten_fragments_of_universal universal

theorem exists_of_firstParticular {first : Event} (found : firstParticular body = some first) :
    ∃ before after, body = before ++ first :: after ∧ first.isUniversal = false ∧
      before.all Event.isUniversal = true := by
  obtain ⟨particular, before, after, split, others⟩ := List.find?_eq_some_iff_append.mp found
  simp only [Bool.not_eq_true', Bool.not_not] at particular others
  exact ⟨before, after, split, particular, List.all_eq_true.mpr others⟩

theorem exists_of_lastParticular {last : Event} (found : lastParticular body = some last) :
    ∃ before after, body = before ++ last :: after ∧ last.isUniversal = false ∧
      after.all Event.isUniversal = true := by
  have reversed : firstParticular body.reverse = some last := found
  obtain ⟨after, before, split, particular, others⟩ := exists_of_firstParticular reversed
  refine ⟨before.reverse, after.reverse, ?_, particular, List.all_reverse.trans others⟩
  rw [List.reverse_eq_iff] at split
  simpa using split

theorem exists_lastParticular {first : Event} (found : firstParticular body = some first) :
    ∃ last, lastParticular body = some last := by
  obtain ⟨before, after, rfl, particular, -⟩ := exists_of_firstParticular found
  have member : first ∈ (before ++ first :: after).reverse :=
    List.mem_reverse.mpr (List.mem_append_right _ (List.mem_cons_self ..))
  have present : (lastParticular (before ++ first :: after)).isSome = true := by
    rw [lastParticular, List.find?_isSome]
    exact ⟨first, member, by rw [particular, Bool.not_false]⟩
  exact Option.isSome_iff_exists.mp present

section

variable {first last : Event} (legacy : Bool) (opening : ∀ event ∈ body, event ≠ .init)
  (closing : ∀ event ∈ body, event ≠ .close)

include opening closing

/-- What is said begins behind the blank of the first event that adds words. -/
theorem said_front (found : firstParticular body = some first) :
    ∃ rest, said legacy body = first.leadingBlanks ++ rest ∧ Text.FrontClear rest := by
  obtain ⟨before, after, rfl, particular, others⟩ := exists_of_firstParticular found
  have member : first ∈ before ++ first :: after := List.mem_append_right _ (List.mem_cons_self ..)
  obtain ⟨c, rest, spoken, unblank⟩ := Event.words_front legacy (opening first member)
    (closing first member) particular others
  refine ⟨c :: rest ++ (fragments legacy (before ++ [first]) after).flatten, ?_,
    Text.frontClear_cons.mpr unblank⟩
  rw [said_split, said_of_universal others, spoken, List.nil_append, List.append_assoc]

/-- What is said ends before the blanks of the last event that adds words. -/
theorem said_back (found : lastParticular body = some last) :
    ∃ front, said legacy body = front ++ last.trailingBlanks ∧ last.Leaves front := by
  obtain ⟨before, after, rfl, particular, others⟩ := exists_of_lastParticular found
  have member : last ∈ before ++ last :: after := List.mem_append_right _ (List.mem_cons_self ..)
  obtain ⟨front, spoken, leaves⟩ := Event.words_back legacy before (opening last member)
    (closing last member) particular
  refine ⟨said legacy before ++ front, ?_, leaves.behind _⟩
  rw [said_split, flatten_fragments_of_universal others, spoken, List.append_nil,
    List.append_assoc]

/-- Trimming takes away the blank in front and the blanks of a class name at the end, and nothing
else. -/
theorem trim_said (foundFirst : firstParticular body = some first)
    (foundLast : lastParticular body = some last) :
    said legacy body = first.leadingBlanks ++ (said legacy body).trim ++ last.trailingBlanks ∧
      ((said legacy body).trim.getLast? = some (.ofChar '.') ↔ last.EndsInPeriod) := by
  obtain ⟨rest, behind, frontClear⟩ := said_front legacy opening closing foundFirst
  obtain ⟨front, before, leaves⟩ := said_back legacy opening closing foundLast
  have leading := first.isBlank_of_mem_leadingBlanks
  obtain ⟨t, split, present, clear⟩ := Text.exists_between leading frontClear leaves.present
    leaves.backClear (behind.symm.trans before)
  have ends : front.getLast? = t.getLast? := by
    rw [split, List.getLast?_append_of_ne_nil _ present]
  have backClear : Text.BackClear t := by
    rw [Text.BackClear, ← ends]
    exact leaves.backClear
  have whole : said legacy body = first.leadingBlanks ++ t ++ last.trailingBlanks := by
    rw [before, split]
  have trimmed : (said legacy body).trim = t := whole ▸ Text.trim_between leading
    last.isBlank_of_mem_trailingBlanks clear backClear
  rw [trimmed, ← ends]
  exact ⟨whole, leaves.period⟩

end

end

end SelectorProse
