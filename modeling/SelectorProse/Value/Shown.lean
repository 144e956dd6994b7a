import SelectorProse.Binary64.Shortest
import SelectorProse.Text.Quoted
import SelectorProse.Value.Basic

/-!
Values in messages: texts quoted, lists in brackets, records in braces.
-/

set_option autoImplicit false

namespace SelectorProse.Value

def floatShown (x : Binary64) : Text :=
  x.written (Text.ofString "nan") (Text.ofString "inf")

def inBrackets (items : List Text) : Text :=
  Text.ofString "[" ++ Text.join (Text.ofString ", ") items ++ Text.ofString "]"

def inBraces (members : List Text) : Text :=
  Text.ofString "\x7b" ++ Text.join (Text.ofString ", ") members ++ Text.ofString "\x7d"

/-- Items in parentheses; a single one is followed by a comma. -/
def inParentheses : List Text → Text
  | [item] => Text.ofString "(" ++ item ++ Text.ofString ",)"
  | items => Text.ofString "(" ++ Text.join (Text.ofString ", ") items ++ Text.ofString ")"

mutual

def shown : Value → Text
  | .null => Text.ofString "None"
  | .bool true => Text.ofString "True"
  | .bool false => Text.ofString "False"
  | .int i => Text.ofInt i
  | .float x => floatShown x
  | .text t => t.quoted
  | .list items => inBrackets (shownItems items)
  | .record members => inBraces (shownMembers members)

def shownItems : List Value → List Text
  | [] => []
  | item :: rest => item.shown :: shownItems rest

def shownMembers : List (Text × Value) → List Text
  | [] => []
  | (key, value) :: rest =>
    (key.quoted ++ Text.ofString ": " ++ value.shown) :: shownMembers rest

end

theorem shownItems_eq_map (items : List Value) : shownItems items = items.map shown := by
  induction items with
  | nil => rfl
  | cons item rest ih => simp [shownItems, ih]

/-- A text as it is, and any other value as in messages. -/
def plain : Value → Text
  | .text t => t
  | value => value.shown

end SelectorProse.Value
