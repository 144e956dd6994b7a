import SelectorProse.Binary64.Shortest
import SelectorProse.Text.Surrogates
import SelectorProse.Value.Basic

/-!
Writing a JSON document in ASCII, one item or member a line and two spaces deeper than its
container.
-/

set_option autoImplicit false

namespace SelectorProse.Json

/-- A code point up to `0xFFFF` spelt with four hexadecimal digits. -/
def spelt (c : CodePoint) : Text := Text.ofString "\\u" ++ Text.hex 4 c.val

/-- One character between quotation marks. -/
def escaped (c : CodePoint) : Text :=
  if c = '"' then Text.ofString "\\\""
  else if c = '\\' then Text.ofString "\\\\"
  else if c = '\n' then Text.ofString "\\n"
  else if c = '\r' then Text.ofString "\\r"
  else if c = '\t' then Text.ofString "\\t"
  else if c = '\x0c' then Text.ofString "\\f"
  else if c = '\x08' then Text.ofString "\\b"
  else if 0x20 ≤ c.val ∧ c.val ≤ 0x7E then [c]
  else c.units.flatMap spelt

def textWritten (t : Text) : Text := Text.ofString "\"" ++ t.flatMap escaped ++ Text.ofString "\""

def floatWritten (x : Binary64) : Text :=
  x.written (Text.ofString "NaN") (Text.ofString "Infinity")

/-- A line feed and the indentation of a line. -/
def newLine (depth : Nat) : Text := '\n' :: List.replicate (2 * depth) ' '

/-- Entries between an opening and a closing character, each on a line of its own. -/
def block (opening closing : CodePoint) (depth : Nat) (entries : List Text) : Text :=
  if entries = [] then [opening, closing]
  else
    opening :: newLine (depth + 1) ++
      Text.join (',' :: newLine (depth + 1)) entries ++ newLine depth ++ [closing]

mutual

/-- A value that starts on a line of this depth. -/
def written (depth : Nat) : Value → Text
  | .null => Text.ofString "null"
  | .bool true => Text.ofString "true"
  | .bool false => Text.ofString "false"
  | .int i => Text.ofInt i
  | .float x => floatWritten x
  | .text t => textWritten t
  | .list items => block '[' ']' depth (itemsWritten (depth + 1) items)
  | .record members => block '\x7b' '\x7d' depth (membersWritten (depth + 1) members)

def itemsWritten (depth : Nat) : List Value → List Text
  | [] => []
  | item :: rest => written depth item :: itemsWritten depth rest

def membersWritten (depth : Nat) : List (Text × Value) → List Text
  | [] => []
  | (key, value) :: rest =>
    (textWritten key ++ Text.ofString ": " ++ written depth value) :: membersWritten depth rest

end

end SelectorProse.Json
