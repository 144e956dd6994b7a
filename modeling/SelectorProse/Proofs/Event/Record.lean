import SelectorProse.Proofs.Event.OfValue
import SelectorProse.Proofs.Value.Mapping
import SelectorProse.Script.Basic

/-!
Which records stand for events. Main statement: an event is read from exactly those records that
hold what its own record holds, in whatever order.
-/

set_option autoImplicit false

namespace SelectorProse

open Value (SameMapping)

/-- The record has all fields of the kind, each with a value as expected, and nothing else but the
name of its kind. -/
structure Event.Kind.Fits (kind : Event.Kind) (members : List (Text × Value)) : Prop where
  held : ∀ field ∈ kind.fields, ∃ value,
    members.lookup field.label = some value ∧ value.kind = field.expected
  others : ∀ key ∈ members.map Prod.fst,
    key = Text.ofString "kind" ∨ key ∈ kind.fields.map Field.label

namespace Event

section

variable {kind : Kind} {members : List (Text × Value)}

/-- The label is that of a field which the record does not have. -/
def Kind.Lacks (kind : Kind) (members : List (Text × Value)) (label : Text) : Prop :=
  label ∈ kind.fields.map Field.label ∧ label ∉ members.map Prod.fst

/-- The label is that of a member which is neither the name of the kind nor a field. -/
def Kind.Exceeds (kind : Kind) (members : List (Text × Value)) (label : Text) : Prop :=
  label ∈ members.map Prod.fst ∧ label ≠ Text.ofString "kind" ∧
    label ∉ kind.fields.map Field.label

theorem mem_missingLabels {label : Text} :
    label ∈ missingLabels kind members ↔ kind.Lacks members label := by
  rw [missingLabels, Text.mem_sort, List.mem_filter, Bool.not_eq_true', List.contains_eq_mem,
    decide_eq_false_iff_not, Kind.Lacks]

theorem mem_extraLabels {label : Text} :
    label ∈ extraLabels kind members ↔ kind.Exceeds members label := by
  rw [extraLabels, Text.mem_sort, List.mem_filter, Bool.and_eq_true, bne_iff_ne, Bool.not_eq_true',
    List.contains_eq_mem, decide_eq_false_iff_not, Kind.Exceeds]

theorem missingLabels_eq_nil_iff :
    missingLabels kind members = [] ↔
      ∀ field ∈ kind.fields, field.label ∈ members.map Prod.fst := by
  simp only [List.eq_nil_iff_forall_not_mem, mem_missingLabels, Kind.Lacks, not_and_not_right,
    List.forall_mem_map]

theorem extraLabels_eq_nil_iff :
    extraLabels kind members = [] ↔ ∀ key ∈ members.map Prod.fst,
      key = Text.ofString "kind" ∨ key ∈ kind.fields.map Field.label := by
  simp only [List.eq_nil_iff_forall_not_mem, mem_extraLabels, Kind.Exceeds, not_and,
    not_not, or_iff_not_imp_left, ne_eq]

/-- What a fitting record holds under a field. -/
theorem Kind.Fits.member_of_mem (fits : kind.Fits members) {field : Field}
    (present : field ∈ kind.fields) :
    members.lookup field.label = some (member members field.label) ∧
      (member members field.label).kind = field.expected := by
  obtain ⟨value, found, expected⟩ := fits.held field present
  have held : member members field.label = value := by rw [member, found, Option.getD_some]
  exact ⟨by rw [held, found], by rw [held, expected]⟩

/-- A record of a kind is accepted exactly if it fits, and then its members are the values of the
fields. -/
theorem ofMembers_eq_ok_iff {event : Event} :
    ofMembers kind members = .ok event ↔
      kind.Fits members ∧ event = ofFields (fun field => member members field.label) kind := by
  constructor
  · intro accepted
    rw [ofMembers] at accepted
    split at accepted
    · exact nomatch accepted
    · split at accepted
      · exact nomatch accepted
      · rename_i noneExtra
        split at accepted
        · exact nomatch accepted
        · rename_i untyped
          refine ⟨⟨fun field present => ?_, ?_⟩, (Except.ok.inj accepted).symm⟩
          · have typed : (member members field.label).kind = field.expected := by
              simpa using List.find?_eq_none.mp untyped field present
            exact ⟨_, lookup_eq_some_member typed, typed⟩
          · exact extraLabels_eq_nil_iff.mp (not_not.mp noneExtra)
  · rintro ⟨fits, rfl⟩
    have complete : missingLabels kind members = [] := by
      rw [missingLabels_eq_nil_iff]
      intro field present
      exact Value.exists_lookup_iff.mp ⟨_, (fits.member_of_mem present).1⟩
    have noneExtra : extraLabels kind members = [] := extraLabels_eq_nil_iff.mpr fits.others
    have typed : (kind.fields.find? fun field =>
        (member members field.label).kind != field.expected) = none := by
      rw [List.find?_eq_none]
      intro field present
      simp only [(fits.member_of_mem present).2, bne_self_eq_false, Bool.false_eq_true,
        not_false_eq_true]
    simp only [ofMembers, complete, noneExtra, ne_eq, not_true_eq_false, ↓reduceIte, typed]

theorem ofValue?_member_eq_some_iff :
    Kind.ofValue? (member members (Text.ofString "kind")) = some kind ↔
      members.lookup (Text.ofString "kind") = some (.text kind.name) := by
  cases found : members.lookup (Text.ofString "kind") with
  | none => simp [member, found, Kind.ofValue?]
  | some value =>
    cases value with
    | text name =>
      simp only [member, found, Option.getD_some, Kind.ofValue?, Option.some.injEq,
        Value.text.injEq]
      constructor
      · intro named
        exact (Kind.name_of_ofName? named).symm
      · intro same
        rw [same]
        exact Kind.ofName?_name kind
    | _ => simp [member, found, Kind.ofValue?]

theorem ofValue_record_eq_ok_iff {event : Event} :
    ofValue (.record members) = .ok event ↔
      ∃ kind : Kind, members.lookup (Text.ofString "kind") = some (.text kind.name) ∧
        kind.Fits members ∧ event = ofFields (fun field => member members field.label) kind := by
  simp only [← ofValue?_member_eq_some_iff, ← ofMembers_eq_ok_iff, ofValue]
  split
  · rename_i unknown
    simp [unknown]
  · rename_i named
    simp [named]

/-- An event that is accepted is well-typed, and what it carries stands in a record. -/
theorem ofValue_eq_ok {value : Value} {event : Event} (accepted : ofValue value = .ok event) :
    event.WellTyped ∧ ∃ members, value = .record members ∧
      ∀ argument ∈ event.arguments, ∃ key, members.lookup key = some argument := by
  cases value with
  | record members =>
    obtain ⟨kind, -, fits, rfl⟩ := ofValue_record_eq_ok_iff.mp accepted
    refine ⟨?_, members, rfl, ?_⟩
    · rw [WellTyped, entries_ofFields, List.forall_mem_map]
      exact fun field present => (fits.member_of_mem present).2
    · rw [arguments_ofFields, List.forall_mem_map]
      exact fun field present => ⟨field.label, (fits.member_of_mem present).1⟩
  | _ => cases accepted

/-- Fitting depends on what stands under each key alone. -/
theorem Kind.Fits.congr {other : List (Text × Value)} (fits : kind.Fits members)
    (same : SameMapping members other) : kind.Fits other := by
  constructor
  · intro field present
    rw [← same]
    exact fits.held field present
  · intro key present
    rw [← Value.exists_lookup_iff, ← same, Value.exists_lookup_iff] at present
    exact fits.others key present

theorem fits_toMembers {event : Event} (wellTyped : event.WellTyped) :
    event.kind.Fits event.toMembers := by
  constructor
  · intro field present
    have expected := wellTyped_iff.mp wellTyped field present
    exact ⟨_, lookup_eq_some_member expected, expected⟩
  · intro key present
    rw [keys_toMembers, List.mem_cons] at present
    exact present

theorem member_toMembers_ofFields (argument : Field → Value) {field : Field}
    (present : field ∈ kind.fields) :
    member (ofFields argument kind).toMembers field.label = argument field := by
  have read := congrArg arguments (ofFields_member_toMembers (ofFields argument kind))
  rw [kind_ofFields, arguments_ofFields, arguments_ofFields, List.map_inj_left] at read
  exact read field present

/-- A record that fits its kind holds what the record of the event from its fields holds. -/
theorem Kind.Fits.sameMapping (fits : kind.Fits members)
    (named : members.lookup (Text.ofString "kind") = some (.text kind.name)) :
    SameMapping members
      (ofFields (fun field => member members field.label) kind).toMembers := by
  let event := ofFields (fun field => member members field.label) kind
  have keys : event.toMembers.map Prod.fst =
      Text.ofString "kind" :: kind.fields.map Field.label := by
    rw [keys_toMembers, kind_ofFields]
  show SameMapping members event.toMembers
  intro key
  by_cases first : key = Text.ofString "kind"
  · rw [first, named, toMembers, List.lookup_cons_self, kind_ofFields]
  · by_cases labelled : key ∈ kind.fields.map Field.label
    · obtain ⟨field, present, rfl⟩ := List.mem_map.mp labelled
      obtain ⟨found, expected⟩ := fits.member_of_mem present
      have stored : member event.toMembers field.label = member members field.label :=
        member_toMembers_ofFields _ present
      have typed : (member event.toMembers field.label).kind = field.expected := by
        rw [stored, expected]
      rw [lookup_eq_some_member typed, stored, found]
    · have absent : key ∉ members.map Prod.fst :=
        fun present => (fits.others key present).elim first labelled
      have alsoAbsent : key ∉ event.toMembers.map Prod.fst := by
        rw [keys, List.mem_cons, not_or]
        exact ⟨first, labelled⟩
      rw [Value.lookup_eq_none absent, Value.lookup_eq_none alsoAbsent]

/-- An event is read from exactly the records that hold what its own record holds. -/
theorem ofValue_record_iff_sameMapping {event : Event} :
    ofValue (.record members) = .ok event ↔
      event.WellTyped ∧ SameMapping members event.toMembers := by
  constructor
  · intro accepted
    refine ⟨(ofValue_eq_ok accepted).1, ?_⟩
    obtain ⟨kind, named, fits, rfl⟩ := ofValue_record_eq_ok_iff.mp accepted
    exact fits.sameMapping named
  · rintro ⟨wellTyped, same⟩
    have held (key : Text) : member members key = member event.toMembers key := by
      rw [member, member, same]
    refine ofValue_record_eq_ok_iff.mpr ⟨event.kind, ?_, ?_, ?_⟩
    · rw [same]
      exact List.lookup_cons_self
    · exact (fits_toMembers wellTyped).congr fun key => (same key).symm
    · simp only [held, ofFields_member_toMembers]

theorem obstacle?_member (free : (Value.record members).obstacle? = none) (key : Text) :
    (member members key).obstacle? = none := by
  rw [member]
  cases found : members.lookup key with
  | none => rfl
  | some value => exact Value.obstacle?_of_mem_members free (Value.mem_of_lookup found)

/-- Only a kind that is not known has to be written out. -/
theorem obstacle?_of_ofMembers {defect : Defect} (failed : ofMembers kind members = .error defect) :
    defect.obstacle? = none := by
  rw [ofMembers] at failed
  split at failed
  · cases failed
    rfl
  · split at failed
    · cases failed
      rfl
    · split at failed
      · cases failed
        rfl
      · cases failed

/-- What is wrong with a value can be told if the value can be written out. -/
theorem obstacle?_of_ofValue {value : Value} {defect : Defect} (free : value.obstacle? = none)
    (failed : ofValue value = .error defect) : defect.obstacle? = none := by
  cases value with
  | record members =>
    rw [ofValue] at failed
    split at failed
    · cases failed
      exact obstacle?_member free _
    · exact obstacle?_of_ofMembers failed
  | _ =>
    cases failed
    rfl

/-- Reading the record of a well-typed event gives the event back. -/
theorem ofValue_toValue {event : Event} (wellTyped : event.WellTyped) :
    ofValue event.toValue = .ok event :=
  ofValue_record_iff_sameMapping.mpr ⟨wellTyped, fun _ => rfl⟩

end

end Event

namespace Script

open Event

theorem readEvent_eq_ok {index value : Value} {event : Event} :
    readEvent index value = .ok event ↔ ofValue value = .ok event := by
  rw [readEvent]
  cases ofValue value with
  | ok found => simp
  | error defect => simp

theorem readEvent_eq_error_iff {index value : Value} {fault : Fault} :
    readEvent index value = .error fault ↔
      ∃ defect, ofValue value = .error defect ∧ fault = report index defect := by
  rw [readEvent]
  cases ofValue value with
  | ok event => simp
  | error defect => simp [eq_comm]

theorem report_of_none {index : Value} {defect : Event.Defect} (told : defect.obstacle? = none) :
    report index defect = .rejected index (.event defect) := by
  rw [report, told]

theorem report_of_some {index : Value} {defect : Event.Defect} {obstacle : Value.Obstacle}
    (met : defect.obstacle? = some obstacle) : report index defect = .unwritable obstacle := by
  rw [report, met]

/-- Under any index, an event is read from a value exactly if the event is well-typed and the value
is a record that holds what the record of the event holds, no member more and none less. Where keys
are distinct, that is the record of the event in some order. -/
theorem readEvent_eq_ok_iff (index : Value) :
    (∀ value event, readEvent index value = .ok event ↔ event.WellTyped ∧
      ∃ members, value = .record members ∧ SameMapping members event.toMembers) ∧
    (∀ members event, (members.map Prod.fst).Nodup →
      (readEvent index (.record members) = .ok event ↔
        event.WellTyped ∧ members.Perm event.toMembers)) ∧
    ∀ members, (∃ event, readEvent index (.record members) = .ok event) ↔
      ∃ kind : Kind, members.lookup (Text.ofString "kind") = some (.text kind.name) ∧
        kind.Fits members := by
  refine ⟨fun value event => ?_, fun members event distinct => ?_, fun members => ?_⟩
  · rw [readEvent_eq_ok]
    constructor
    · intro accepted
      obtain ⟨-, members, rfl, -⟩ := ofValue_eq_ok accepted
      obtain ⟨wellTyped, same⟩ := ofValue_record_iff_sameMapping.mp accepted
      exact ⟨wellTyped, members, rfl, same⟩
    · rintro ⟨wellTyped, members, rfl, same⟩
      exact ofValue_record_iff_sameMapping.mpr ⟨wellTyped, same⟩
  · rw [readEvent_eq_ok, ofValue_record_iff_sameMapping,
      Value.sameMapping_iff_perm distinct event.nodup_keys_toMembers]
  · simp only [readEvent_eq_ok, ofValue_record_eq_ok_iff]
    constructor
    · rintro ⟨event, kind, named, fits, -⟩
      exact ⟨kind, named, fits⟩
    · rintro ⟨kind, named, fits⟩
      exact ⟨_, kind, named, fits, rfl⟩

/-- A comparison with the empty text under an empty name. -/
def bareComparison : Event := .attributeMatch .dashMatch (.text []) (.text [])

theorem readEvent_eq_ok_iff_reversed :
    (bareComparison.toMembers.reverse.map Prod.fst).Nodup ∧
      readEvent (.int 0) (.record bareComparison.toMembers.reverse) = .ok bareComparison ∧
      ¬ ∃ event, readEvent (.int 0) (.record bareComparison.toMembers.tail) = .ok event := by
  have distinct : (bareComparison.toMembers.reverse.map Prod.fst).Nodup := by decide
  obtain ⟨-, reordered, accepted⟩ := readEvent_eq_ok_iff (.int 0)
  refine ⟨distinct, (reordered _ _ distinct).mpr ⟨by decide, List.reverse_perm _⟩, ?_⟩
  intro stands
  obtain ⟨kind, named, -⟩ := (accepted _).mp stands
  exact nomatch named

end Script

end SelectorProse
