import SelectorProse.Event.Kind
import SelectorProse.Value.Equality
import SelectorProse.Value.Shown

/-!
Events: the steps of a walk over a selector. An event made by hand may carry any values, an event
from a script carries values of the expected kinds only.
-/

set_option autoImplicit false

namespace SelectorProse

inductive Event where
  | init
  | onSelector
  | close
  | type (name : Value)
  | universal
  | id (value : Value)
  | className (value : Value)
  | attributeExists (name : Value)
  | attributeMatch (comparison : Comparison) (name value : Value)
  | firstChild
  | lastChild
  | nthChild (position : Value)
  | onlyChild
  | empty
  | child
  | descendant
  | adjacent
  deriving Repr, Inhabited

namespace Event

def kind : Event → Kind
  | .init => .init
  | .onSelector => .onSelector
  | .close => .close
  | .type _ => .type
  | .universal => .universal
  | .id _ => .id
  | .className _ => .className
  | .attributeExists _ => .attributeExists
  | .attributeMatch comparison _ _ => .attributeMatch comparison
  | .firstChild => .firstChild
  | .lastChild => .lastChild
  | .nthChild _ => .nthChild
  | .onlyChild => .onlyChild
  | .empty => .empty
  | .child => .child
  | .descendant => .descendant
  | .adjacent => .adjacent

/-- The values that an event carries, in the order of its kind's fields. -/
def arguments : Event → List Value
  | .type name => [name]
  | .id value => [value]
  | .className value => [value]
  | .attributeExists name => [name]
  | .attributeMatch _ name value => [name, value]
  | .nthChild position => [position]
  | _ => []

theorem length_arguments (event : Event) : event.arguments.length = event.kind.fields.length := by
  cases event <;> rfl

/-- The event of a kind, from the value of each field. -/
def ofFields (argument : Field → Value) : Kind → Event
  | .init => .init
  | .onSelector => .onSelector
  | .close => .close
  | .type => .type (argument .name)
  | .universal => .universal
  | .id => .id (argument .value)
  | .className => .className (argument .value)
  | .attributeExists => .attributeExists (argument .name)
  | .attributeMatch comparison => .attributeMatch comparison (argument .name) (argument .value)
  | .firstChild => .firstChild
  | .lastChild => .lastChild
  | .nthChild => .nthChild (argument .position)
  | .onlyChild => .onlyChild
  | .empty => .empty
  | .child => .child
  | .descendant => .descendant
  | .adjacent => .adjacent

@[simp] theorem kind_ofFields (argument : Field → Value) (kind : Kind) :
    (ofFields argument kind).kind = kind := by
  cases kind <;> rfl

theorem arguments_ofFields (argument : Field → Value) (kind : Kind) :
    (ofFields argument kind).arguments = kind.fields.map argument := by
  cases kind <;> rfl

/-- The event of a kind that carries these values, if they are as many as the kind has fields. -/
def ofArguments? (kind : Kind) (values : List Value) : Option Event :=
  if values.length = kind.fields.length then
    some (ofFields (fun field => ((kind.fields.zip values).lookup field).getD .null) kind)
  else
    none

theorem isSome_ofArguments? {kind : Kind} {values : List Value}
    (complete : values.length = kind.fields.length) : (ofArguments? kind values).isSome = true := by
  rw [ofArguments?, if_pos complete]
  rfl

theorem ofArguments?_arguments (event : Event) :
    ofArguments? event.kind event.arguments = some event := by
  cases event <;> rfl

/-- Each field of the kind with its value. -/
def entries (event : Event) : List (Field × Value) := event.kind.fields.zip event.arguments

/-- The event as a record: its kind, then its fields. -/
def toMembers (event : Event) : List (Text × Value) :=
  (Text.ofString "kind", .text event.kind.name) ::
    event.entries.map fun (field, value) => (field.label, value)

def toValue (event : Event) : Value := .record event.toMembers

/-- Every field holds a value of the kind that is expected of it. -/
def WellTyped (event : Event) : Prop :=
  ∀ entry ∈ event.entries, entry.2.kind = entry.1.expected

instance (event : Event) : Decidable event.WellTyped :=
  inferInstanceAs (Decidable (∀ entry ∈ event.entries, entry.2.kind = entry.1.expected))

/-- The event with the name of its type, and each value behind the name of its field. -/
def shown (event : Event) : Text :=
  event.kind.typeName ++ Text.ofString "(" ++
    Text.join (Text.ofString ", ") (event.entries.map fun (field, value) =>
      field.label ++ Text.ofString "=" ++ value.shown) ++ Text.ofString ")"

/-- The line that announces the event before it is applied. -/
def announcement (event : Event) : Text :=
  Text.ofString "dispatch " ++ event.kind.name ++
    Value.inParentheses (event.arguments.map Value.shown)

/-- Events of one kind are equal if their values are. -/
def same (first second : Event) : Bool :=
  decide (first.kind = second.kind) && Value.sameItems first.arguments second.arguments

def sameAll : List Event → List Event → Bool
  | [], [] => true
  | first :: rest, second :: others => first.same second && sameAll rest others
  | _, _ => false

/-- The number of different events, or the kind of the first value that no set can hold. -/
def countDistinct (events : List Event) : Except Value.Kind Nat :=
  match (events.flatMap arguments).find? (!·.isHashable) with
  | some value => .error value.kind
  | none =>
    .ok (events.foldl (fun found event =>
      if found.any event.same then found else event :: found) []).length

/-- An attempt to change a field of an event. Events never change, so each is refused. -/
inductive Change where
  | assign
  | delete
  deriving DecidableEq, Repr

def Change.refusal (change : Change) (field : Text) : Text :=
  Text.ofString (match change with
    | .assign => "cannot assign to field "
    | .delete => "cannot delete field ") ++ field.quoted

end Event

end SelectorProse
