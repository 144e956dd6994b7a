import SelectorProse.Describer.Phrase

/-!
Which events have a phrase, and the words of the phrase from the events alone.
-/

set_option autoImplicit false

namespace SelectorProse

namespace Event

/-- What comes before an event decides its phrase, but not whether there is one. -/
theorem phrase_eq_error_congr {first second : Phrase.Context} {event : Event} {fault : Fault}
    (legacy : first.legacy = second.legacy) :
    event.phrase first = .error fault ↔ event.phrase second = .error fault := by
  cases event with
  | onSelector => simp only [phrase, reduceCtorEq]
  | descendant => simp only [phrase, reduceCtorEq]
  | attributeMatch comparison name value => rw [phrase, phrase, legacy]
  | _ => exact Iff.rfl

/-- What keeps the event from being described, if anything does. -/
def fault? (legacy : Bool) (event : Event) : Option Fault :=
  match event.phrase { legacy, started := false, chained := false } with
  | .ok _ => none
  | .error fault => some fault

theorem phrase_eq_error_iff {context : Phrase.Context} {event : Event} {fault : Fault} :
    event.phrase context = .error fault ↔ event.fault? context.legacy = some fault := by
  let unstarted : Phrase.Context := { legacy := context.legacy, started := false, chained := false }
  have independent : event.phrase context = .error fault ↔ event.phrase unstarted = .error fault :=
    phrase_eq_error_congr rfl
  rw [independent, fault?]
  split
  · rename_i phrase success
    rw [success]
    simp only [reduceCtorEq]
  · rename_i found failed
    rw [failed, Except.error.injEq, Option.some.injEq]

theorem exists_phrase_iff {context : Phrase.Context} {event : Event} :
    (∃ phrase, event.phrase context = .ok phrase) ↔ event.fault? context.legacy = none := by
  cases described : event.phrase context with
  | ok phrase =>
    have accepted : event.fault? context.legacy = none := by
      rw [Option.eq_none_iff_forall_ne_some]
      intro fault failed
      rw [phrase_eq_error_iff.mpr failed] at described
      exact nomatch described
    simp [accepted]
  | error fault =>
    rw [phrase_eq_error_iff] at described
    simp [described]

end Event

namespace Text

theorem ofString_ne_nil (c : Char) (rest : List Char) :
    ofString (String.ofList (c :: rest)) ≠ [] := by
  simp [ofString]

theorem ofString_append_ne_nil (c : Char) (rest : List Char) (t : Text) :
    ofString (String.ofList (c :: rest)) ++ t ≠ [] :=
  List.append_ne_nil_of_left_ne_nil (ofString_ne_nil c rest) t

end Text

namespace Phrase

theorem requireName_ok {part : Part} {value found : Value}
    (success : requireName part value = .ok found) : found = value := by
  unfold requireName at success
  split at success
  · exact (Except.ok.inj success).symm
  · exact nomatch success

theorem requirePresent_ok {part : Part} {value found : Value}
    (success : requirePresent part value = .ok found) : found = value := by
  unfold requirePresent at success
  split at success
  · exact nomatch success
  · exact (Except.ok.inj success).symm

theorem inserted_ok {value : Value} {t : Text} (success : inserted value = .ok t) :
    t = value.plain := by
  unfold inserted at success
  split at success
  · exact (Except.ok.inj success).symm
  · exact nomatch success

theorem inserted_of_none {value : Value} (met : value.obstacle? = none) :
    inserted value = .ok value.plain := by
  rw [inserted, met]

theorem inserted_of_some {value : Value} {obstacle : Value.Obstacle}
    (met : value.obstacle? = some obstacle) : inserted value = .error (.unwritable obstacle) := by
  rw [inserted, met]

theorem appended_ok {value : Value} {t : Text} (success : appended value = .ok t) :
    t = value.plain := by
  unfold appended at success
  split at success
  · exact (Except.ok.inj success).symm
  · exact nomatch success

theorem bind_ok {α β : Type} {first : Except Fault α} {next : α → Except Fault β} {result : β}
    (success : (first >>= next) = .ok result) :
    ∃ found, first = .ok found ∧ next found = .ok result := by
  cases first with
  | ok found => exact ⟨found, rfl, success⟩
  | error fault => exact nomatch success

theorem ofAttribute_of_checked {name value : Value} (legacy : Bool) (comparison : Comparison)
    (named : requireName .name name = .ok name)
    (present : requirePresent .value value = .ok value) :
    ofAttribute legacy comparison name value =
      if legacy && comparison = .dashMatch then
        .ok ((template comparison).fill (placeholder 0) (placeholder 1))
      else do
        return (template comparison).fill (← inserted name) (← inserted value) := by
  rw [ofAttribute, named, present]
  rfl

end Phrase

namespace Event

def isUniversal : Event → Bool
  | .universal => true
  | _ => false

def isDescendant : Event → Bool
  | .descendant => true
  | _ => false

/-- The words about an attribute whose value is compared. -/
def attributeWords (name : Value) (relation : String) (value : Value) : Text :=
  Text.ofString " which have a " ++ name.plain ++ Text.ofString relation ++ value.plain ++
    Text.ofString "'"

/-- The words that an event adds, given the events since the start. -/
def words (legacy : Bool) (earlier : List Event) : Event → Text
  | .init => []
  | .onSelector => Text.ofString
      (if earlier.all isUniversal then "Select all nodes"
        else ", then combined with previous, select all nodes")
  | .close => []
  | .type name => Text.ofString " with the <" ++ name.plain ++ Text.ofString "> tag"
  | .universal => []
  | .id value => Text.ofString " with an id of '" ++ value.plain ++ Text.ofString "'"
  | .className value => Text.ofString " with class name " ++ value.plain
  | .attributeExists name =>
    Text.ofString " which have a " ++ name.plain ++ Text.ofString " attribute"
  | .attributeMatch .exact name value =>
    attributeWords name " attribute with a value of '" value
  | .attributeMatch .includes name value =>
    attributeWords name " attribute which includes the value '" value
  | .attributeMatch .dashMatch name value =>
    if legacy then
      Text.ofString
        " which have a \x7b0\x7d attribute with a hyphen separated value matching '\x7b1\x7d'"
    else
      attributeWords name " attribute with a hyphen separated value matching '" value
  | .attributeMatch .prefixMatch name value =>
    attributeWords name " attribute whose value begins with '" value
  | .attributeMatch .suffixMatch name value =>
    attributeWords name " attribute whose value ends with '" value
  | .attributeMatch .substring name value =>
    attributeWords name " attribute whose value contains '" value
  | .firstChild => Text.ofString " where the node is the first child"
  | .lastChild => Text.ofString " where the node is the last child"
  | .nthChild position =>
    Text.ofString " where the node is the " ++ position.plain ++ Text.ofString "th child"
  | .onlyChild => Text.ofString " where the node is the only child"
  | .empty => Text.ofString " where the node is empty"
  | .child => Text.ofString " child of"
  | .descendant => Text.ofString
      (if earlier.any isDescendant then ", which in turn have descendants"
        else " which have descendants")
  | .adjacent => Text.ofString " which is immediately preceeded by a sibling node"

theorem words_of_isUniversal {legacy : Bool} {earlier : List Event} {event : Event}
    (universal : event.isUniversal = true) : event.words legacy earlier = [] := by
  cases event with
  | universal => rfl
  | _ => exact absurd universal Bool.false_ne_true

/-- Only the start, the end and the universal selector have no words. -/
theorem words_ne_nil {legacy : Bool} {earlier : List Event} {event : Event}
    (opening : event ≠ .init) (closing : event ≠ .close) (particular : event.isUniversal = false) :
    event.words legacy earlier ≠ [] := by
  cases event with
  | init => exact absurd rfl opening
  | close => exact absurd rfl closing
  | universal => exact absurd particular.symm Bool.false_ne_true
  | onSelector =>
    rw [words]
    split
    · exact Text.ofString_ne_nil _ _
    · exact Text.ofString_ne_nil _ _
  | descendant =>
    rw [words]
    split
    · exact Text.ofString_ne_nil _ _
    · exact Text.ofString_ne_nil _ _
  | attributeMatch comparison name value =>
    have compared (relation : String) : attributeWords name relation value ≠ [] := by
      simp only [attributeWords, List.append_assoc]
      exact Text.ofString_append_ne_nil _ _ _
    cases comparison with
    | dashMatch =>
      rw [words]
      split
      · exact Text.ofString_ne_nil _ _
      · exact compared _
    | _ => exact compared _
  | type name | id name | attributeExists name | nthChild position =>
    rw [words, List.append_assoc]
    exact Text.ofString_append_ne_nil _ _ _
  | className value => exact Text.ofString_append_ne_nil _ _ _
  | _ => exact Text.ofString_ne_nil _ _

theorem ofAttribute_eq_words {legacy : Bool} {earlier : List Event} {comparison : Comparison}
    {name value : Value} {phrase : Text}
    (described : Phrase.ofAttribute legacy comparison name value = .ok phrase) :
    phrase = (attributeMatch comparison name value).words legacy earlier := by
  rw [Phrase.ofAttribute] at described
  obtain ⟨foundName, named, checked⟩ := Phrase.bind_ok described
  obtain ⟨foundValue, present, chosen⟩ := Phrase.bind_ok checked
  rw [Phrase.requireName_ok named, Phrase.requirePresent_ok present] at chosen
  split at chosen
  · rename_i unfilled
    rw [Bool.and_eq_true, decide_eq_true_iff] at unfilled
    obtain ⟨rfl, rfl⟩ := unfilled
    rw [← Except.ok.inj chosen, Phrase.placeholder, Phrase.placeholder,
      Text.ofNat_of_lt (by decide), Text.ofNat_of_lt (by decide)]
    rfl
  · rename_i filled
    obtain ⟨nameText, nameInserted, chosen⟩ := Phrase.bind_ok chosen
    obtain ⟨valueText, valueInserted, chosen⟩ := Phrase.bind_ok chosen
    rw [Phrase.inserted_ok nameInserted, Phrase.inserted_ok valueInserted] at chosen
    rw [← Except.ok.inj chosen]
    cases comparison with
    | dashMatch =>
      have unset : legacy = false := by simpa using filled
      rw [words, unset]
      rfl
    | _ => rfl

/-- The phrase of an event in a text that begins with these events. -/
theorem phrase_eq_words {context : Phrase.Context} {earlier : List Event} {event : Event}
    {phrase : Text} (started : context.started = !earlier.all isUniversal)
    (chained : context.chained = earlier.any isDescendant)
    (described : event.phrase context = .ok phrase) :
    phrase = event.words context.legacy earlier := by
  cases event with
  | onSelector =>
    rw [← Except.ok.inj described, words, started]
    cases earlier.all isUniversal <;> rfl
  | descendant => rw [← Except.ok.inj described, words, chained]
  | attributeMatch comparison name value => exact ofAttribute_eq_words described
  | type name | id name | attributeExists name =>
    obtain ⟨found, named, described⟩ := Phrase.bind_ok described
    obtain ⟨t, written, described⟩ := Phrase.bind_ok described
    rw [← Except.ok.inj described, words, Phrase.inserted_ok written, Phrase.requireName_ok named]
  | className value =>
    obtain ⟨found, named, described⟩ := Phrase.bind_ok described
    obtain ⟨t, written, described⟩ := Phrase.bind_ok described
    rw [← Except.ok.inj described, words, Phrase.appended_ok written, Phrase.requireName_ok named]
  | nthChild position =>
    obtain ⟨t, written, described⟩ := Phrase.bind_ok described
    rw [← Except.ok.inj described, words, Phrase.inserted_ok written]
  | _ => exact (Except.ok.inj described).symm

end Event

end SelectorProse
