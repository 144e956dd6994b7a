import SelectorProse.Event.OfValue
import SelectorProse.File.Fault
import SelectorProse.Json.Fault
import SelectorProse.Text.Utf8

/-!
Why a script is not turned into events.
-/

set_option autoImplicit false

namespace SelectorProse.Script

inductive Defect where
  | malformed (problem : Json.Problem) (place : Json.Place)
  | withoutEvents
  | notAList (found : Value.Kind)
  | event (defect : Event.Defect)
  | unopened (path : Text) (fault : File.Fault)
  | undecodable (path : Text) (fault : Utf8.DecodeFault)
  deriving Repr

def Defect.message : Defect → Text
  | .malformed problem place =>
    Text.ofString "invalid JSON: " ++ problem.message ++ Text.ofString ": " ++ place.message
  | .withoutEvents => Text.ofString "script object has no 'events' list"
  | .notAList found => Text.ofString "expected a list of events, got " ++ found.name
  | .event defect => defect.message
  | .unopened path fault =>
    Text.ofString "cannot read " ++ path ++ Text.ofString ": " ++
      fault.message (Path.normalized path)
  | .undecodable path fault =>
    Text.ofString "cannot read " ++ path ++ Text.ofString ": " ++ fault.message

/-- A message about the event with this index. Null is no index. -/
def indexed (index : Value) (message : Text) : Text :=
  match index with
  | .null => message
  | index => Text.ofString "event " ++ index.plain ++ Text.ofString ": " ++ message

/-- A script is rejected for a defect, of one event if there is an index; or it is beyond what is
read at all. -/
inductive Fault where
  | sourceNotText (found : Value.Kind)
  | rejected (index : Value) (defect : Defect)
  | integerTooLong (digits : Nat)
  | tooDeep (container : Json.Container)
  /-- A kind that has to be named cannot be written out. -/
  | unwritable (obstacle : Value.Obstacle)
  | nulInPath
  deriving Repr

def Fault.message : Fault → Text
  | .sourceNotText found =>
    Text.ofString "the JSON object must be str, bytes or bytearray, not " ++ found.name
  | .rejected index defect => indexed index defect.message
  | .integerTooLong digits =>
    Text.digitLimitMessage
      (Text.ofString ": value has " ++ Text.ofNat digits ++ Text.ofString " digits")
  | .tooDeep container =>
    Text.ofString "maximum recursion depth exceeded while decoding a JSON " ++
      Text.ofString (match container with
        | .list => "array"
        | .record => "object") ++ Text.ofString " from a unicode string"
  | .unwritable obstacle => obstacle.message
  | .nulInPath => Text.ofString "embedded null byte"

end SelectorProse.Script
