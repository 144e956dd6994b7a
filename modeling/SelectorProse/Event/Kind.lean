import SelectorProse.Value.Basic

/-!
The kinds of step in a walk over a selector, with their names and the fields they carry.
-/

set_option autoImplicit false

namespace SelectorProse

/-- How an attribute's value is compared with the value that a selector gives. -/
inductive Comparison where
  | exact
  | includes
  | dashMatch
  | prefixMatch
  | suffixMatch
  | substring
  deriving DecidableEq, Repr

/-- What an event carries besides its kind. -/
inductive Field where
  | name
  | value
  | position
  deriving DecidableEq, Repr

namespace Field

def label : Field → Text
  | .name => Text.ofString "name"
  | .value => Text.ofString "value"
  | .position => Text.ofString "position"

/-- Positions are whole numbers, and all else is text. -/
def expected : Field → Value.Kind
  | .name => .text
  | .value => .text
  | .position => .int

theorem label_injective {f g : Field} (same : f.label = g.label) : f = g := by
  revert same
  cases f <;> cases g <;> decide

end Field

namespace Event

inductive Kind where
  | init
  | onSelector
  | close
  | type
  | universal
  | id
  | className
  | attributeExists
  | attributeMatch (comparison : Comparison)
  | firstChild
  | lastChild
  | nthChild
  | onlyChild
  | empty
  | child
  | descendant
  | adjacent
  deriving DecidableEq, Repr

namespace Kind

/-- Every kind once, in the order in which kinds are listed. -/
def all : List Kind := [
  .init, .onSelector, .close,
  .type, .universal, .id, .className,
  .attributeExists, .attributeMatch .exact, .attributeMatch .includes, .attributeMatch .dashMatch,
  .attributeMatch .prefixMatch, .attributeMatch .suffixMatch, .attributeMatch .substring,
  .firstChild, .lastChild, .nthChild, .onlyChild, .empty,
  .child, .descendant, .adjacent]

/-- The name of a kind in scripts and logs. -/
def name : Kind → Text
  | .init => Text.ofString "init"
  | .onSelector => Text.ofString "on_selector"
  | .close => Text.ofString "close"
  | .type => Text.ofString "type"
  | .universal => Text.ofString "universal"
  | .id => Text.ofString "id"
  | .className => Text.ofString "class_name"
  | .attributeExists => Text.ofString "attribute_exists"
  | .attributeMatch .exact => Text.ofString "attribute_exact"
  | .attributeMatch .includes => Text.ofString "attribute_includes"
  | .attributeMatch .dashMatch => Text.ofString "attribute_dash_match"
  | .attributeMatch .prefixMatch => Text.ofString "attribute_prefix_match"
  | .attributeMatch .suffixMatch => Text.ofString "attribute_suffix_match"
  | .attributeMatch .substring => Text.ofString "attribute_substring"
  | .firstChild => Text.ofString "first_child"
  | .lastChild => Text.ofString "last_child"
  | .nthChild => Text.ofString "nth_child"
  | .onlyChild => Text.ofString "only_child"
  | .empty => Text.ofString "empty"
  | .child => Text.ofString "child"
  | .descendant => Text.ofString "descendant"
  | .adjacent => Text.ofString "adjacent"

/-- The fields of a kind, in the order in which they are given. -/
def fields : Kind → List Field
  | .type => [.name]
  | .id => [.value]
  | .className => [.value]
  | .attributeExists => [.name]
  | .attributeMatch _ => [.name, .value]
  | .nthChild => [.position]
  | _ => []

/-- The kind with this name, if there is one. -/
def ofName? (given : Text) : Option Kind := all.find? (·.name == given)

theorem mem_all (kind : Kind) : kind ∈ all := by
  cases kind with
  | attributeMatch comparison => cases comparison <;> decide
  | _ => decide

theorem ofName?_name (kind : Kind) : ofName? kind.name = some kind := by
  cases kind with
  | attributeMatch comparison => cases comparison <;> decide
  | _ => decide

theorem name_of_ofName? {given : Text} {kind : Kind} (found : ofName? given = some kind) :
    kind.name = given := by
  have matching := List.find?_some found
  simpa using matching

private def capital (c : CodePoint) : CodePoint :=
  if 0x61 ≤ c.val ∧ c.val ≤ 0x7A then CodePoint.ofNat (c.val - 0x20) else c

/-- Words joined by low lines become capitalised words. -/
private def capitalised : Text → Text
  | [] => []
  | [c] => [c]
  | c :: d :: rest =>
    if c = '_' then capital d :: capitalised rest else c :: capitalised (d :: rest)

/-- The name of a kind as that of a type: `on_selector` is `OnSelector`. -/
def typeName (kind : Kind) : Text := capitalised ('_' :: kind.name)

end Kind

end Event

end SelectorProse
