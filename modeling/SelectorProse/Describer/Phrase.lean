import SelectorProse.Event.Basic

/-!
The phrase that an event adds to a description. It depends on the event and on three facts about
what came before; whether there is a phrase at all depends on the event alone.
-/

set_option autoImplicit false

namespace SelectorProse

/-- The part of a call that a fault is about. -/
inductive Part where
  | name
  | id
  | className
  | value
  | fragment
  deriving DecidableEq, Repr

def Part.label : Part → Text
  | .name => Text.ofString "name"
  | .id => Text.ofString "id"
  | .className => Text.ofString "class_name"
  | .value => Text.ofString "value"
  | .fragment => Text.ofString "fragment"

/-- Why an event cannot be described. -/
inductive Fault where
  /-- A name that is not truthy. -/
  | emptyName (part : Part)
  | absent (part : Part)
  /-- Only a text can be put behind a text. -/
  | notText (found : Value.Kind)
  /-- A value cannot be written out. -/
  | unwritable (obstacle : Value.Obstacle)
  deriving DecidableEq, Repr

/-- The wording for a name that is empty. -/
def emptyNameMessage (label : Text) : Text := label ++ Text.ofString " must be a non-empty string"

def Fault.message : Fault → Text
  | .emptyName part => emptyNameMessage part.label
  | .absent part => part.label ++ Text.ofString " must not be None"
  | .notText found =>
    Text.ofString "can only concatenate str (not \"" ++ found.name ++ Text.ofString "\") to str"
  | .unwritable obstacle => obstacle.message

namespace Phrase

/-- What a phrase depends on besides its event. -/
structure Context where
  /-- The template for dash matches is left unfilled. -/
  legacy : Bool
  /-- There is some text already. -/
  started : Bool
  /-- Descendants have been mentioned already. -/
  chained : Bool
  deriving DecidableEq, Repr

def requireName (part : Part) (value : Value) : Except Fault Value :=
  if value.isTruthy then .ok value else .error (.emptyName part)

def requirePresent (part : Part) : Value → Except Fault Value
  | .null => .error (.absent part)
  | value => .ok value

/-- A value inserted into a phrase. -/
def inserted (value : Value) : Except Fault Text :=
  match value.obstacle? with
  | none => .ok value.plain
  | some obstacle => .error (.unwritable obstacle)

/-- A value put behind a text. -/
def appended : Value → Except Fault Text
  | .text t => .ok t
  | value => .error (.notText value.kind)

/-- The words before the attribute's name, between name and value, and behind the value. -/
structure Template where
  before : Text
  between : Text
  behind : Text
  deriving DecidableEq, Repr

def Template.fill (template : Template) (name value : Text) : Text :=
  template.before ++ name ++ template.between ++ value ++ template.behind

def template (comparison : Comparison) : Template where
  before := Text.ofString " which have a "
  between := Text.ofString (match comparison with
    | .exact => " attribute with a value of '"
    | .includes => " attribute which includes the value '"
    | .dashMatch => " attribute with a hyphen separated value matching '"
    | .prefixMatch => " attribute whose value begins with '"
    | .suffixMatch => " attribute whose value ends with '"
    | .substring => " attribute whose value contains '")
  behind := Text.ofString "'"

/-- Stands where a name or a value would be filled in. -/
def placeholder (index : Nat) : Text :=
  Text.ofString "\x7b" ++ Text.ofNat index ++ Text.ofString "\x7d"

/-- Name and value are checked before anything is written, also where neither is. -/
def ofAttribute (legacy : Bool) (comparison : Comparison) (name value : Value) :
    Except Fault Text := do
  let name ← requireName .name name
  let value ← requirePresent .value value
  if legacy && comparison = .dashMatch then
    return (template comparison).fill (placeholder 0) (placeholder 1)
  else
    return (template comparison).fill (← inserted name) (← inserted value)

end Phrase

/-- The phrase of an event; the start and the end of a description add none. -/
def Event.phrase (context : Phrase.Context) : Event → Except Fault Text
  | .init => .ok []
  | .close => .ok []
  | .onSelector => .ok (Text.ofString
      (if context.started then ", then combined with previous, select all nodes"
        else "Select all nodes"))
  | .type name => do
    let name ← Phrase.requireName .name name
    return Text.ofString " with the <" ++ (← Phrase.inserted name) ++ Text.ofString "> tag"
  | .universal => .ok []
  | .id value => do
    let value ← Phrase.requireName .id value
    return Text.ofString " with an id of '" ++ (← Phrase.inserted value) ++ Text.ofString "'"
  | .className value => do
    let value ← Phrase.requireName .className value
    return Text.ofString " with class name " ++ (← Phrase.appended value)
  | .attributeExists name => do
    let name ← Phrase.requireName .name name
    return Text.ofString " which have a " ++ (← Phrase.inserted name) ++
      Text.ofString " attribute"
  | .attributeMatch comparison name value =>
    Phrase.ofAttribute context.legacy comparison name value
  | .firstChild => .ok (Text.ofString " where the node is the first child")
  | .lastChild => .ok (Text.ofString " where the node is the last child")
  | .nthChild position => do
    return Text.ofString " where the node is the " ++ (← Phrase.inserted position) ++
      Text.ofString "th child"
  | .onlyChild => .ok (Text.ofString " where the node is the only child")
  | .empty => .ok (Text.ofString " where the node is empty")
  | .child => .ok (Text.ofString " child of")
  | .descendant => .ok (Text.ofString
      (if context.chained then ", which in turn have descendants" else " which have descendants"))
  | .adjacent => .ok (Text.ofString " which is immediately preceeded by a sibling node")

end SelectorProse
