import SelectorProse.Json.Token
import SelectorProse.Value.Basic

/-!
Reading a JSON document: a machine that takes its tokens one by one and keeps the lists and records
that are open. Where the document is malformed the machine stops, at the first place that no
continuation can mend.
-/

set_option autoImplicit false

namespace SelectorProse.Json

/-- An open list with its items so far, the last one first, or an open record with the key of the
member that is being read. -/
inductive Frame where
  | item (before : List Value)
  | member (before : List (Text × Value)) (name : Text)
  deriving Repr

/-- What comes next, inside the open lists and records, innermost first. -/
inductive State where
  | value (outer : List Frame)
  /-- Directly behind an opening bracket. -/
  | firstItem (outer : List Frame)
  /-- Directly behind an opening brace. -/
  | firstKey (outer : List Frame)
  | key (before : List (Text × Value)) (outer : List Frame)
  | colon (before : List (Text × Value)) (name : Text) (outer : List Frame)
  | afterItem (items : List Value) (outer : List Frame)
  | afterMember (members : List (Text × Value)) (outer : List Frame)
  | done (result : Value)
  deriving Repr

/-- A value has been read: it goes into the innermost open list or record. -/
def State.completed (result : Value) : List Frame → State
  | [] => .done result
  | .item before :: outer => .afterItem (result :: before) outer
  | .member before name :: outer => .afterMember (Value.put name result before) outer

/-- The whole number that a sign and digits spell. -/
def ofSignedDigits (negative : Bool) (digits : Text) : Int :=
  if negative then -(ofDigits digits : Int) else ofDigits digits

/-- A value begins. -/
def State.begin (outer : List Frame) (lexeme : Lexeme) : Except Fault State :=
  match lexeme.token with
  | .null => .ok (.completed .null outer)
  | .bool b => .ok (.completed (.bool b) outer)
  | .float x => .ok (.completed (.float x) outer)
  | .text t => .ok (.completed (.text t) outer)
  | .int negative digits =>
    if digits.length ≤ Text.digitLimit then
      .ok (.completed (.int (ofSignedDigits negative digits)) outer)
    else
      .error (.integerTooLong digits.length)
  | .openList =>
    if outer.length < Value.nestingLimit then .ok (.firstItem outer)
    else .error (.tooDeep .list)
  | .openRecord =>
    if outer.length < Value.nestingLimit then .ok (.firstKey outer)
    else .error (.tooDeep .record)
  | .brokenText problem distance => .error (.malformed problem (lexeme.start + distance))
  | _ => .error (.malformed .expectedValue lexeme.start)

/-- A key is read. -/
def State.beginKey (before : List (Text × Value)) (outer : List Frame) (lexeme : Lexeme) :
    Except Fault State :=
  match lexeme.token with
  | .text name => .ok (.colon before name outer)
  | .brokenText problem distance => .error (.malformed problem (lexeme.start + distance))
  | _ => .error (.malformed .expectedKey lexeme.start)

def State.step : State → Lexeme → Except Fault State
  | .value outer, lexeme => State.begin outer lexeme
  | .firstItem outer, lexeme =>
    if lexeme.token = .closeList then .ok (.completed (.list []) outer)
    else State.begin (.item [] :: outer) lexeme
  | .firstKey outer, lexeme =>
    if lexeme.token = .closeRecord then .ok (.completed (.record []) outer)
    else State.beginKey [] outer lexeme
  | .key before outer, lexeme => State.beginKey before outer lexeme
  | .colon before name outer, lexeme =>
    if lexeme.token = .colon then .ok (.value (.member before name :: outer))
    else .error (.malformed .expectedColon lexeme.start)
  | .afterItem items outer, lexeme =>
    match lexeme.token with
    | .comma => .ok (.value (.item items :: outer))
    | .closeList => .ok (.completed (.list items.reverse) outer)
    | _ => .error (.malformed .expectedComma lexeme.start)
  | .afterMember members outer, lexeme =>
    match lexeme.token with
    | .comma => .ok (.key members outer)
    | .closeRecord => .ok (.completed (.record members) outer)
    | _ => .error (.malformed .expectedComma lexeme.start)
  | .done _, lexeme => .error (.malformed .extraData lexeme.start)

/-- The document ends at this offset. -/
def State.finish (offset : Nat) : State → Except Fault Value
  | .done result => .ok result
  | .value _ => .error (.malformed .expectedValue offset)
  | .firstItem _ => .error (.malformed .expectedValue offset)
  | .firstKey _ => .error (.malformed .expectedKey offset)
  | .key _ _ => .error (.malformed .expectedKey offset)
  | .colon _ _ _ => .error (.malformed .expectedColon offset)
  | .afterItem _ _ => .error (.malformed .expectedComma offset)
  | .afterMember _ _ => .error (.malformed .expectedComma offset)

def State.run (length : Nat) : State → List Lexeme → Except Fault Value
  | state, [] => state.finish length
  | state, lexeme :: rest =>
    match state.step lexeme with
    | .ok next => next.run length rest
    | .error fault => .error fault

/-- A mark that some writers put at the front; no document begins with it. -/
def byteOrderMark : Text := Text.ofString "\ufeff"

/-- Reads a whole text as one document. -/
def read (source : Text) : Except Fault Value :=
  if byteOrderMark.isPrefixOf source then .error (.malformed .byteOrderMark 0)
  else (State.value []).run source.length (lex 0 source)

end SelectorProse.Json
