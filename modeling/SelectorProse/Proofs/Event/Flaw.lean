import SelectorProse.Proofs.Event.Record
import SelectorProse.Proofs.Text.Order

/-!
What keeps a value from standing for an event. Main statement: a value is rejected for the first of
its flaws, and the order of a record's members does not matter.
-/

set_option autoImplicit false

namespace SelectorProse

open Value (SameMapping)

/-- No key comes up twice, if the value is a record. -/
def Value.HasDistinctKeys : Value → Prop
  | .record members => (members.map Prod.fst).Nodup
  | _ => True

namespace Event

section

variable {kind : Kind} {members others : List (Text × Value)} {labels : List Text}

/-- All labels of which something is true and no other, each once and in ascending order. -/
structure Enumerates (labels : List Text) (listed : Text → Prop) : Prop where
  some : labels ≠ []
  ascending : Text.Ascending labels
  mem_iff : ∀ label, label ∈ labels ↔ listed label

/-- What is wrong with a value, and the words for it. What is asked of a record depends on its kind,
and its members are not looked at before all of its fields are there and nothing else is. -/
inductive Flaw : Value → Defect → Text → Prop
  | notARecord {value : Value} (other : value.kind ≠ .record) :
    Flaw value (.notARecord value.kind)
      (Text.ofString "expected an object, got " ++ value.kind.name)
  | unknownKind {members : List (Text × Value)}
    (unnamed : ∀ kind : Kind, members.lookup (Text.ofString "kind") ≠ some (.text kind.name)) :
    Flaw (.record members) (.unknownKind (member members (Text.ofString "kind")))
      (Text.ofString "unknown event kind " ++ (member members (Text.ofString "kind")).shown)
  | missing {members : List (Text × Value)} {kind : Kind} {labels : List Text}
    (named : members.lookup (Text.ofString "kind") = some (.text kind.name))
    (lacking : Enumerates labels (kind.Lacks members)) :
    Flaw (.record members) (.missing kind labels)
      (kind.name ++ Text.ofString " is missing " ++ Text.join (Text.ofString ", ") labels)
  | extra {members : List (Text × Value)} {kind : Kind} {labels : List Text}
    (named : members.lookup (Text.ofString "kind") = some (.text kind.name))
    (complete : ∀ field ∈ kind.fields, field.label ∈ members.map Prod.fst)
    (exceeding : Enumerates labels (kind.Exceeds members)) :
    Flaw (.record members) (.extra kind labels)
      (kind.name ++ Text.ofString " does not take " ++ Text.join (Text.ofString ", ") labels)
  | illTyped {members : List (Text × Value)} {kind : Kind} {passed rest : List Field}
    {field : Field} (named : members.lookup (Text.ofString "kind") = some (.text kind.name))
    (complete : ∀ field ∈ kind.fields, field.label ∈ members.map Prod.fst)
    (alone : ∀ key ∈ members.map Prod.fst,
      key = Text.ofString "kind" ∨ key ∈ kind.fields.map Field.label)
    (order : kind.fields = passed ++ field :: rest)
    (typed : ∀ earlier ∈ passed, (member members earlier.label).kind = earlier.expected)
    (other : (member members field.label).kind ≠ field.expected) :
    Flaw (.record members) (.illTyped kind field (member members field.label).kind)
      (kind.name ++ Text.ofString "." ++ field.label ++ Text.ofString " must be " ++
        field.expected.name ++ Text.ofString ", got " ++ (member members field.label).kind.name)

/-- No kind has a field twice. -/
theorem nodup_labels (kind : Kind) : (kind.fields.map Field.label).Nodup := by
  have distinct := nodup_keys_toMembers (ofFields (fun _ => .null) kind)
  rw [keys_toMembers, kind_ofFields] at distinct
  exact distinct.of_cons

theorem ascending_missingLabels : Text.Ascending (missingLabels kind members) :=
  Text.ascending_sort ((nodup_labels kind).filter _)

theorem ascending_extraLabels (distinct : (members.map Prod.fst).Nodup) :
    Text.Ascending (extraLabels kind members) :=
  Text.ascending_sort (distinct.filter _)

theorem Enumerates.missingLabels_eq (lacking : Enumerates labels (kind.Lacks members)) :
    missingLabels kind members = labels := by
  refine ascending_missingLabels.eq_of_mem_iff lacking.ascending fun label => ?_
  rw [mem_missingLabels, lacking.mem_iff]

theorem Enumerates.extraLabels_eq (distinct : (members.map Prod.fst).Nodup)
    (exceeding : Enumerates labels (kind.Exceeds members)) :
    extraLabels kind members = labels := by
  refine (ascending_extraLabels distinct).eq_of_mem_iff exceeding.ascending fun label => ?_
  rw [mem_extraLabels, exceeding.mem_iff]

theorem flaw_of_ofMembers {defect : Defect} (distinct : (members.map Prod.fst).Nodup)
    (named : members.lookup (Text.ofString "kind") = some (.text kind.name))
    (failed : ofMembers kind members = .error defect) :
    Flaw (.record members) defect defect.message := by
  rw [ofMembers] at failed
  split at failed
  · rename_i some
    cases failed
    exact .missing named ⟨some, ascending_missingLabels, fun _ => mem_missingLabels⟩
  · rename_i none
    have complete := missingLabels_eq_nil_iff.mp (not_not.mp none)
    split at failed
    · rename_i some
      cases failed
      exact .extra named complete ⟨some, ascending_extraLabels distinct, fun _ => mem_extraLabels⟩
    · rename_i noneExtra
      split at failed
      · rename_i field found
        obtain ⟨other, passed, rest, order, typed⟩ := List.find?_eq_some_iff_append.mp found
        cases failed
        refine .illTyped named complete (extraLabels_eq_nil_iff.mp (not_not.mp noneExtra))
          order ?_ (bne_iff_ne.mp other)
        intro earlier member
        simpa using typed earlier member
      · cases failed

/-- Whatever is reported is a flaw. -/
theorem flaw_of_ofValue {value : Value} {defect : Defect} (distinct : value.HasDistinctKeys)
    (failed : ofValue value = .error defect) : Flaw value defect defect.message := by
  cases value with
  | record members =>
    rw [ofValue] at failed
    split at failed
    · rename_i unknown
      cases failed
      refine .unknownKind fun kind named => ?_
      rw [ofValue?_member_eq_some_iff.mpr named] at unknown
      cases unknown
    · rename_i kind found
      exact flaw_of_ofMembers distinct (ofValue?_member_eq_some_iff.mp found) failed
  | _ =>
    cases failed
    exact .notARecord Value.Kind.noConfusion

theorem ofValue_of_named (named : members.lookup (Text.ofString "kind") = some (.text kind.name)) :
    ofValue (.record members) = ofMembers kind members := by
  rw [ofValue, ofValue?_member_eq_some_iff.mpr named]

/-- A value has one flaw at most. -/
theorem Flaw.ofValue_eq {value : Value} {defect : Defect} {words : Text}
    (flaw : Flaw value defect words) (distinct : value.HasDistinctKeys) :
    ofValue value = .error defect := by
  cases flaw with
  | notARecord other =>
    cases value with
    | record members => exact absurd rfl other
    | _ => rfl
  | unknownKind unnamed =>
    rename_i members
    have unknown : Kind.ofValue? (member members (Text.ofString "kind")) = none := by
      rw [Option.eq_none_iff_forall_ne_some]
      exact fun kind found => unnamed kind (ofValue?_member_eq_some_iff.mp found)
    rw [ofValue, unknown]
  | missing named lacking =>
    have some := lacking.missingLabels_eq
    rw [ofValue_of_named named, ofMembers, some, if_pos lacking.some]
  | extra named complete exceeding =>
    have none := missingLabels_eq_nil_iff.mpr complete
    have some := exceeding.extraLabels_eq distinct
    rw [ofValue_of_named named, ofMembers, none, some, if_neg (not_not.mpr rfl),
      if_pos exceeding.some]
  | illTyped named complete alone order typed other =>
    rename_i members kind passed rest field
    have none := missingLabels_eq_nil_iff.mpr complete
    have noneExtra := extraLabels_eq_nil_iff.mpr alone
    have first : (kind.fields.find? fun field =>
        (member members field.label).kind != field.expected) = some field := by
      refine List.find?_eq_some_iff_append.mpr ⟨bne_iff_ne.mpr other, passed, rest, order, ?_⟩
      intro earlier member
      rw [typed earlier member, bne_self_eq_false, Bool.not_false]
    rw [ofValue_of_named named, ofMembers, none, noneExtra, if_neg (not_not.mpr rfl),
      if_neg (not_not.mpr rfl), first]

theorem Flaw.message_eq {value : Value} {defect : Defect} {words : Text}
    (flaw : Flaw value defect words) : defect.message = words := by
  cases flaw <;> rfl

theorem ofValue_eq_error_iff {value : Value} {defect : Defect} (distinct : value.HasDistinctKeys) :
    ofValue value = .error defect ↔ ∃ words, Flaw value defect words :=
  ⟨fun failed => ⟨_, flaw_of_ofValue distinct failed⟩, fun ⟨_, flaw⟩ => flaw.ofValue_eq distinct⟩

/-- The order of the members of a record does not matter. -/
theorem ofValue_perm (distinct : (members.map Prod.fst).Nodup) (order : members.Perm others) :
    ofValue (.record members) = ofValue (.record others) := by
  have keys : (members.map Prod.fst).Perm (others.map Prod.fst) := order.map Prod.fst
  have otherDistinct : (others.map Prod.fst).Nodup := keys.nodup_iff.mp distinct
  have same : SameMapping members others :=
    (Value.sameMapping_iff_perm distinct otherDistinct).mpr order
  have held (key : Text) : member members key = member others key := by
    rw [member, member, same key]
  have missing (kind : Kind) : missingLabels kind members = missingLabels kind others := by
    refine ascending_missingLabels.eq_of_mem_iff ascending_missingLabels fun label => ?_
    rw [mem_missingLabels, mem_missingLabels, Kind.Lacks, Kind.Lacks, keys.mem_iff]
  have extra (kind : Kind) : extraLabels kind members = extraLabels kind others := by
    refine (ascending_extraLabels distinct).eq_of_mem_iff (ascending_extraLabels otherDistinct)
      fun label => ?_
    rw [mem_extraLabels, mem_extraLabels, Kind.Exceeds, Kind.Exceeds, keys.mem_iff]
  simp only [ofValue, ofMembers, held, missing, extra]

/-- No name of a kind looks like the beginning of a message about an event. -/
theorem Kind.second_name_ne (kind : Kind) :
    1 < kind.name.length ∧ kind.name[1]? ≠ some (CodePoint.ofChar 'v') := by
  cases kind with
  | attributeMatch comparison => cases comparison <;> decide
  | _ => decide

theorem second_ne_of_name (kind : Kind) (rest : Text) :
    (kind.name ++ rest)[1]? ≠ some (CodePoint.ofChar 'v') := by
  rw [List.getElem?_append_left kind.second_name_ne.1]
  exact kind.second_name_ne.2

theorem Flaw.not_marked {value : Value} {defect : Defect} {words : Text}
    (flaw : Flaw value defect words) : ¬ Text.ofString "event " <+: words := by
  have second : words[1]? ≠ some (CodePoint.ofChar 'v') := by
    cases flaw with
    | notARecord other =>
      show some (CodePoint.ofChar 'x') ≠ _
      decide
    | unknownKind unnamed =>
      show some (CodePoint.ofChar 'n') ≠ _
      decide
    | missing named lacking =>
      rw [List.append_assoc]
      exact second_ne_of_name _ _
    | extra named complete exceeding =>
      rw [List.append_assoc]
      exact second_ne_of_name _ _
    | illTyped named complete alone order typed other =>
      simp only [List.append_assoc]
      exact second_ne_of_name _ _
  rintro ⟨rest, rfl⟩
  exact second rfl

end

end Event

end SelectorProse
