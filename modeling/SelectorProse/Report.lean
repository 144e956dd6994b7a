import SelectorProse.Describer.Phrase
import SelectorProse.Script.Fault

/-!
Reports that a caller makes in the library's three families, from values of any kind.
-/

set_option autoImplicit false

namespace SelectorProse

inductive Report where
  | general (arguments : List Value)
  | invalidFragment (field content : Value)
  | eventScript (index content : Value)
  deriving Repr

namespace Report

/-- A report on a fragment. Without a message of its own it says that the field is empty. -/
def onFragment (field message : Value) : Report :=
  .invalidFragment field
    (if message.isTruthy then message else .text (emptyNameMessage field.plain))

/-- A report on a script, or on the event with this index in it. -/
def onScript (message index : Value) : Report :=
  .eventScript index (match index with
    | .null => message
    | index => .text (Script.indexed index message.plain))

def family : Report → Text
  | .general _ => Text.ofString "DescribeError"
  | .invalidFragment _ _ => Text.ofString "InvalidFragmentError"
  | .eventScript _ _ => Text.ofString "EventScriptError"

/-- What the report holds. -/
def contents : Report → List Value
  | .general arguments => arguments
  | .invalidFragment _ content => [content]
  | .eventScript _ content => [content]

def message (report : Report) : Text :=
  match report.contents with
  | [] => []
  | [content] => content.plain
  | contents => Value.inParentheses (contents.map Value.shown)

def shown (report : Report) : Text :=
  report.family ++ Text.ofString "(" ++
    Text.join (Text.ofString ", ") (report.contents.map Value.shown) ++ Text.ofString ")"

/-- Reports on fragments are at the same time reports on values. -/
def isOnValue : Report → Bool
  | .invalidFragment _ _ => true
  | _ => false

end Report

end SelectorProse
