import WorkflowCanvas.KeyMap

/-! JSON values. Integers and floating point numbers are kept apart, and the members of an object
stand in key order. -/
namespace WorkflowCanvas

/-- A JSON number: an integer, or a double precision number. The two are never equal. -/
inductive Number where
  | int (value : Int)
  | float (value : Float)
  deriving Inhabited

namespace Number

/-- Equality of numbers of one kind; the two zeros of a floating point number are equal. -/
def same : Number → Number → Bool
  | .int a, .int b => a == b
  | .float a, .float b => a == b
  | _, _ => false

def toFloat : Number → Float
  | .int value => Float.ofInt value
  | .float value => value

end Number

inductive Json where
  | null
  | bool (value : Bool)
  | num (value : Number)
  | str (value : String)
  | arr (items : List Json)
  | obj (members : List (String × Json))
  deriving Inhabited

namespace Json

/-- A whole number. -/
def int (value : Int) : Json := .num (.int value)

def nat (value : Nat) : Json := .num (.int value)

/-- A floating point number; what is not finite has no JSON form and is written `null`. -/
def float (value : Float) : Json := if value.isFinite then .num (.float value) else .null

def strings (items : List String) : Json := .arr (items.map .str)

/-- The given value, or `null`. -/
def orNull : Option Json → Json
  | some value => value
  | none => .null

/-- A member that is left out when there is no value for it. -/
def member? (key : String) : Option Json → List (String × Json)
  | some value => [(key, value)]
  | none => []

def isNull : Json → Bool
  | .null => true
  | _ => false

def isObject : Json → Bool
  | .obj _ => true
  | _ => false

/-- The member of an object under `key`. -/
def get? : Json → String → Option Json
  | .obj members, key => KeyMap.get? members key
  | _, _ => none

/-- The name of a value's kind. -/
def kind : Json → String
  | .null => "null"
  | .bool _ => "boolean"
  | .num _ => "number"
  | .str _ => "string"
  | .arr _ => "array"
  | .obj _ => "object"

mutual
/-- Equality of values: numbers by `Number.same`, objects member by member. -/
def same : Json → Json → Bool
  | .null, .null => true
  | .bool a, .bool b => a == b
  | .num a, .num b => a.same b
  | .str a, .str b => a == b
  | .arr xs, .arr ys => sameItems xs ys
  | .obj xs, .obj ys => sameMembers xs ys
  | _, _ => false

def sameItems : List Json → List Json → Bool
  | [], [] => true
  | x :: xs, y :: ys => x.same y && sameItems xs ys
  | _, _ => false

def sameMembers : List (String × Json) → List (String × Json) → Bool
  | [], [] => true
  | (k, x) :: xs, (l, y) :: ys => k == l && x.same y && sameMembers xs ys
  | _, _ => false
end

/-- Equality of values that may be missing. -/
def sameOption : Option Json → Option Json → Bool
  | none, none => true
  | some a, some b => a.same b
  | _, _ => false

mutual
/-- The value with the members of every object, at every depth, in key order. -/
def sorted : Json → Json
  | .arr items => .arr (sortedItems items)
  | .obj members => .obj (KeyMap.ofEntries (sortedMembers members))
  | value => value

def sortedItems : List Json → List Json
  | [] => []
  | x :: xs => x.sorted :: sortedItems xs

def sortedMembers : List (String × Json) → List (String × Json)
  | [] => []
  | (k, x) :: xs => (k, x.sorted) :: sortedMembers xs
end

end Json
end WorkflowCanvas
