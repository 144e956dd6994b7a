import SelectorProse.Binary64.Basic
import SelectorProse.Text.Numeral

/-!
The values that a script can hold and an event can carry.
-/

set_option autoImplicit false

namespace SelectorProse

/-- The members of a record stand in the order in which their keys first came up. -/
inductive Value where
  | null
  | bool (b : Bool)
  | int (i : Int)
  | float (x : Binary64)
  | text (t : Text)
  | list (items : List Value)
  | record (members : List (Text × Value))
  deriving Repr, Inhabited

namespace Value

inductive Kind where
  | null
  | bool
  | int
  | float
  | text
  | list
  | record
  deriving DecidableEq, Repr

def kind : Value → Kind
  | .null => .null
  | .bool _ => .bool
  | .int _ => .int
  | .float _ => .float
  | .text _ => .text
  | .list _ => .list
  | .record _ => .record

def Kind.name : Kind → Text
  | .null => Text.ofString "NoneType"
  | .bool => Text.ofString "bool"
  | .int => Text.ofString "int"
  | .float => Text.ofString "float"
  | .text => Text.ofString "str"
  | .list => Text.ofString "list"
  | .record => Text.ofString "dict"

/-- Null, false, zeros and whatever is empty do not count. -/
def isTruthy : Value → Bool
  | .null => false
  | .bool b => b
  | .int i => i != 0
  | .float x => !x.isZero
  | .text t => !t.isEmpty
  | .list items => !items.isEmpty
  | .record members => !members.isEmpty

mutual

/-- Is every whole number inside short enough to be written? -/
def isWritable : Value → Bool
  | .int i => Text.isWritable i
  | .list items => areWritable items
  | .record members => areMembersWritable members
  | _ => true

def areWritable : List Value → Bool
  | [] => true
  | item :: rest => item.isWritable && areWritable rest

def areMembersWritable : List (Text × Value) → Bool
  | [] => true
  | (_, value) :: rest => value.isWritable && areMembersWritable rest

end

mutual

/-- How many lists and records stand inside one another, at most. -/
def nesting : Value → Nat
  | .list items => itemsNesting items + 1
  | .record members => membersNesting members + 1
  | _ => 0

def itemsNesting : List Value → Nat
  | [] => 0
  | item :: rest => max item.nesting (itemsNesting rest)

def membersNesting : List (Text × Value) → Nat
  | [] => 0
  | (_, value) :: rest => max value.nesting (membersNesting rest)

end

/-- At most this many lists and records stand inside one another where a value is read or written
out: a thousand calls can be open at a time, and a hundred of them are left to the callers. -/
def nestingLimit : Nat := 900

/-- Why a value is not written out. -/
inductive Obstacle where
  | integerTooLong
  | tooDeep
  deriving DecidableEq, Repr

def Obstacle.message : Obstacle → Text
  | .integerTooLong => Text.digitLimitMessage []
  | .tooDeep =>
    Text.ofString "maximum recursion depth exceeded while getting the repr of an object"

mutual

/-- The first obstacle that is met while the value is written out, from the outside in and from left
to right, where there is room for so many lists and records inside one another. -/
def obstacleWithin? : Nat → Value → Option Obstacle
  | _, .int i => if Text.isWritable i then none else some .integerTooLong
  | 0, .list _ => some .tooDeep
  | room + 1, .list items => itemsObstacle? room items
  | 0, .record _ => some .tooDeep
  | room + 1, .record members => membersObstacle? room members
  | _, _ => none

def itemsObstacle? : Nat → List Value → Option Obstacle
  | _, [] => none
  | room, item :: rest => (obstacleWithin? room item).or (itemsObstacle? room rest)

def membersObstacle? : Nat → List (Text × Value) → Option Obstacle
  | _, [] => none
  | room, (_, value) :: rest => (obstacleWithin? room value).or (membersObstacle? room rest)

end

def obstacle? (value : Value) : Option Obstacle := obstacleWithin? nestingLimit value

/-- A member put into a record: a key that is there keeps its place and takes the new value. -/
def put (key : Text) (value : Value) : List (Text × Value) → List (Text × Value)
  | [] => [(key, value)]
  | (k, v) :: rest => if k = key then (k, value) :: rest else (k, v) :: put key value rest

theorem lookup_put_self (key : Text) (value : Value) (members : List (Text × Value)) :
    (put key value members).lookup key = some value := by
  induction members with
  | nil => simp [put]
  | cons member rest ih =>
    obtain ⟨k, v⟩ := member
    by_cases same : k = key
    · simp [put, same]
    · have other : (key == k) = false := by simpa using fun h => same h.symm
      simp [put, same, List.lookup_cons, other, ih]

end Value

end SelectorProse
