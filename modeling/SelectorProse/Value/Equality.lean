import SelectorProse.Value.Basic

/-!
Equality of values across kinds of number, and the values that a set can hold.
-/

set_option autoImplicit false

namespace SelectorProse.Value

/-- Whole and floating point numbers are equal if they are the same number. -/
def sameNumber : Int → Binary64 → Bool
  | i, x => x.toInt? == some i

/-- The number that a Boolean stands for. -/
def ofBool (b : Bool) : Int := if b then 1 else 0

mutual

/-- Numbers and Booleans are compared by their value, records without regard to order. -/
def same : Value → Value → Bool
  | .null, .null => true
  | .bool b, .bool c => b == c
  | .bool b, .int j => ofBool b == j
  | .bool b, .float y => sameNumber (ofBool b) y
  | .int i, .bool c => i == ofBool c
  | .int i, .int j => i == j
  | .int i, .float y => sameNumber i y
  | .float x, .bool c => sameNumber (ofBool c) x
  | .float x, .int j => sameNumber j x
  | .float x, .float y => x.sameValue y
  | .text s, .text t => s == t
  | .list items, .list others => sameItems items others
  | .record members, .record others =>
    members.length == others.length && sameMembers members others
  | _, _ => false

def sameItems : List Value → List Value → Bool
  | [], [] => true
  | item :: rest, other :: others => item.same other && sameItems rest others
  | _, _ => false

/-- Has every member an equal one among the others? -/
def sameMembers : List (Text × Value) → List (Text × Value) → Bool
  | [], _ => true
  | (key, value) :: rest, others =>
    (match others.lookup key with
      | some other => value.same other
      | none => false) && sameMembers rest others

end

/-- Lists and records can be no members of a set. -/
def isHashable : Value → Bool
  | .list _ => false
  | .record _ => false
  | _ => true

/-- The message on a value that can be no member of a set. -/
def Kind.unhashableMessage (kind : Kind) : Text :=
  Text.ofString "unhashable type: '" ++ kind.name ++ Text.ofString "'"

end SelectorProse.Value
