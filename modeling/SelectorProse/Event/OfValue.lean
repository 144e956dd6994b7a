import SelectorProse.Event.Basic

/-!
Events from the values of a script. Of several defects one is reported: first the shape, then the
kind, then fields that are missing, then members that are no fields, then the first field that is
ill-typed.
-/

set_option autoImplicit false

namespace SelectorProse.Event

inductive Defect where
  | notARecord (found : Value.Kind)
  | unknownKind (given : Value)
  | missing (kind : Kind) (labels : List Text)
  | extra (kind : Kind) (labels : List Text)
  | illTyped (kind : Kind) (field : Field) (found : Value.Kind)
  deriving Repr

def Defect.message : Defect → Text
  | .notARecord found => Text.ofString "expected an object, got " ++ found.name
  | .unknownKind given => Text.ofString "unknown event kind " ++ given.shown
  | .missing kind labels =>
    kind.name ++ Text.ofString " is missing " ++ Text.join (Text.ofString ", ") labels
  | .extra kind labels =>
    kind.name ++ Text.ofString " does not take " ++ Text.join (Text.ofString ", ") labels
  | .illTyped kind field found =>
    kind.name ++ Text.ofString "." ++ field.label ++ Text.ofString " must be " ++
      field.expected.name ++ Text.ofString ", got " ++ found.name

/-- What keeps a defect from being told: a kind that nobody knows has to be written out. -/
def Defect.obstacle? : Defect → Option Value.Obstacle
  | .unknownKind given => given.obstacle?
  | _ => none

/-- The kind that a value names. -/
def Kind.ofValue? : Value → Option Kind
  | .text name => Kind.ofName? name
  | _ => none

/-- The fields of a kind that a record lacks, in ascending order. -/
def missingLabels (kind : Kind) (members : List (Text × Value)) : List Text :=
  Text.sort ((kind.fields.map Field.label).filter fun label =>
    !(members.map Prod.fst).contains label)

/-- The keys of a record that are neither `kind` nor a field of the kind, in ascending order. -/
def extraLabels (kind : Kind) (members : List (Text × Value)) : List Text :=
  Text.sort ((members.map Prod.fst).filter fun key =>
    key != Text.ofString "kind" && !(kind.fields.map Field.label).contains key)

/-- What a record holds under a key; nothing there is the same as null. -/
def member (members : List (Text × Value)) (key : Text) : Value :=
  (members.lookup key).getD .null

/-- The event that a record of this kind stands for. -/
def ofMembers (kind : Kind) (members : List (Text × Value)) : Except Defect Event :=
  if missingLabels kind members ≠ [] then .error (.missing kind (missingLabels kind members))
  else if extraLabels kind members ≠ [] then .error (.extra kind (extraLabels kind members))
  else
    match kind.fields.find? fun field => (member members field.label).kind != field.expected with
    | some field => .error (.illTyped kind field (member members field.label).kind)
    | none => .ok (ofFields (fun field => member members field.label) kind)

def ofValue : Value → Except Defect Event
  | .record members =>
    let given := member members (Text.ofString "kind")
    match Kind.ofValue? given with
    | none => .error (.unknownKind given)
    | some kind => ofMembers kind members
  | value => .error (.notARecord value.kind)

end SelectorProse.Event
