import DesignTokens.Number.Double

/-!
# DesignTokens.Json.Basic — JSON values

1. **Values**: objects keep the order of their members; integers and doubles are different kinds
   of number.
2. **Members**: lookup by name (`Json.get?`), and adding a member (`Json.Members.put`): a name that
   is there already keeps its place and takes the new value.
3. **Depth** (`Json.depth`).
4. **Equality of values** (`Json.same`): arrays in order, objects without regard to order.
-/

namespace DesignTokens

/-- A JSON value. -/
inductive Json where
  | null
  | bool (value : Bool)
  | int (value : Int)
  | double (value : Double)
  | string (value : String)
  | array (items : List Json)
  | object (members : List (String × Json))
deriving Repr, Inhabited

namespace Json

/-- The members of an object, in document order. -/
abbrev Members := List (String × Json)

namespace Members

/-- The value of the first member with the given name. -/
def get? (members : Members) (name : String) : Option Json :=
  List.lookup name members

def has (members : Members) (name : String) : Bool :=
  (members.get? name).isSome

/-- Add a member: a new name goes to the end, a known one keeps its place and takes the value. -/
def put : Members → String → Json → Members
  | [], name, value => [(name, value)]
  | (known, old) :: rest, name, value =>
    if known = name then (known, value) :: rest else (known, old) :: put rest name value

/-- The names, in document order. -/
def names (members : Members) : List String :=
  members.map (·.1)

end Members

/-! ## Views -/

def members? : Json → Option Members
  | .object members => some members
  | _ => none

def items? : Json → Option (List Json)
  | .array items => some items
  | _ => none

def text? : Json → Option String
  | .string text => some text
  | _ => none

/-- The number, if the value is an integer that is not negative. -/
def nat? : Json → Option Nat
  | .int (.ofNat n) => some n
  | _ => none

/-- The member with the given name, if the value is an object that has one. -/
def get? (value : Json) (name : String) : Option Json :=
  value.members?.bind (·.get? name)

def isString : Json → Bool
  | .string _ => true
  | _ => false

def isNumber : Json → Bool
  | .int _ => true
  | .double _ => true
  | _ => false

def isBool : Json → Bool
  | .bool _ => true
  | _ => false

def isArray : Json → Bool
  | .array _ => true
  | _ => false

def isObject : Json → Bool
  | .object _ => true
  | _ => false

/-! ## Depth -/

mutual

/-- How deep the arrays and objects of a value are nested. -/
def depth : Json → Nat
  | .array items => depthOfItems items + 1
  | .object members => depthOfMembers members + 1
  | _ => 0

def depthOfItems : List Json → Nat
  | [] => 0
  | x :: rest => max (depth x) (depthOfItems rest)

def depthOfMembers : List (String × Json) → Nat
  | [] => 0
  | (_, x) :: rest => max (depth x) (depthOfMembers rest)

end

/-! ## Equality of values -/

mutual

/-- Equality of JSON values: an integer never equals a double, and the order of the members of an
object does not matter. -/
def same : Json → Json → Bool
  | .null, .null => true
  | .bool x, .bool y => x == y
  | .int x, .int y => x == y
  | .double x, .double y => x.same y
  | .string x, .string y => x == y
  | .array xs, .array ys => sameItems xs ys
  | .object xs, .object ys => xs.length == ys.length && sameMembers xs ys
  | _, _ => false

def sameItems : List Json → List Json → Bool
  | [], [] => true
  | x :: xs, y :: ys => same x y && sameItems xs ys
  | _, _ => false

/-- Every member of the first list has an equal one of its name in the second. -/
def sameMembers : List (String × Json) → List (String × Json) → Bool
  | [], _ => true
  | (name, x) :: xs, ys =>
    (match List.lookup name ys with
      | some y => same x y
      | none => false) && sameMembers xs ys

end

end Json

end DesignTokens
