import SelectorProse.File.Tree
import SelectorProse.Json.Reader
import SelectorProse.Json.Writer
import SelectorProse.Script.Fault

/-!
Scripts: walks stored as JSON documents. A document is a list of events, or a record that holds
such a list as its member `events`.
-/

set_option autoImplicit false

namespace SelectorProse.Script

/-- What is reported of a defect of an event. -/
def report (index : Value) (defect : Event.Defect) : Fault :=
  match defect.obstacle? with
  | none => .rejected index (.event defect)
  | some obstacle => .unwritable obstacle

/-- The event that a value stands for, under an index of the caller's choice. -/
def readEvent (index : Value) (value : Value) : Except Fault Event :=
  match Event.ofValue value with
  | .ok event => .ok event
  | .error defect => .error (report index defect)

/-- The events of a list whose first item has this index; the first that is rejected decides. -/
def ofItems (index : Nat) : List Value → Except Fault (List Event)
  | [] => .ok []
  | item :: rest =>
    match readEvent (.int index) item with
    | .error fault => .error fault
    | .ok event => (event :: ·) <$> ofItems (index + 1) rest

def ofList : Value → Except Fault (List Event)
  | .list items => ofItems 0 items
  | value => .error (.rejected .null (.notAList value.kind))

def ofDocument : Value → Except Fault (List Event)
  | .record members =>
    match members.lookup (Text.ofString "events") with
    | some value => ofList value
    | none => .error (.rejected .null .withoutEvents)
  | value => ofList value

def parse (source : Text) : Except Fault (List Event) :=
  match Json.read source with
  | .ok value => ofDocument value
  | .error (.malformed problem offset) =>
    .error (.rejected .null (.malformed problem (.ofOffset source offset)))
  | .error (.integerTooLong digits) => .error (.integerTooLong digits)
  | .error (.tooDeep container) => .error (.tooDeep container)

/-- Only a text can be a script. -/
def ofSource : Value → Except Fault (List Event)
  | .text source => parse source
  | value => .error (.sourceNotText value.kind)

/-- The content of a file as a script, with uniform line ends. The path only names it in faults. -/
def ofOctets (path : Text) (content : Octets) : Except Fault (List Event) :=
  match Utf8.decode content with
  | .ok source => parse source.unifyLineEnds
  | .error fault => .error (.rejected .null (.undecodable path fault))

/-- The script that opening a file gave. -/
def ofOpened (path : Text) (opened : Except File.Fault Octets) : Except Fault (List Event) :=
  if path.contains '\x00' then .error .nulInPath
  else
    match opened with
    | .ok content => ofOctets path content
    | .error fault => .error (.rejected .null (.unopened path fault))

/-- The content of the file at the normal form of a path. -/
def opened (tree : File.Tree) (path : Text) : Except File.Fault Octets :=
  match tree.find (Path.normalized path) with
  | .ok (.file content) => .ok content
  | .ok .directory => .error .isADirectory
  | .error fault => .error fault

def load (tree : File.Tree) (path : Text) : Except Fault (List Event) :=
  ofOpened path (opened tree path)

/-- The document of a walk; there is none if a number in it is too long to be written. -/
def dump? (events : List Event) : Option Text :=
  let document := Value.list (events.map Event.toValue)
  if document.isWritable then some (Json.written 0 document) else none

end SelectorProse.Script
