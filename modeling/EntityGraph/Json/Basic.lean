import EntityGraph.Number.Double

/-!
Structured values. An object keeps its members in the order they were written; `settle` resolves repeated keys.
-/
namespace EntityGraph

/-- A structured value. Whole numbers are exact, all others are doubles. -/
inductive Json where
  | null
  | bool (value : Bool)
  | integer (value : Int)
  | double (value : Double)
  | string (value : String)
  | array (items : List Json)
  | object (members : List (String × Json))
deriving Inhabited

abbrev Members := List (String × Json)

namespace Members

/-- The value of the first member with a key. -/
def get? (members : Members) (key : String) : Option Json := members.lookup key

def hasKey (members : Members) (key : String) : Bool := members.any fun member => member.1 == key

def keys (members : Members) : List String := members.map Prod.fst

/-- Gives a key a value: in place when the key is there, at the end otherwise. -/
def put (members : Members) (key : String) (value : Json) : Members :=
  if hasKey members key then members.map fun member => if member.1 == key then (key, value) else member
  else members ++ [(key, value)]

/-- Repeated keys resolved: the last value, at the first position. -/
def settle (members : Members) : Members :=
  members.foldl (fun done member => put done member.1 member.2) []

end Members

namespace Json

mutual

/-- The value with the repeated keys of all its objects resolved. -/
def settle : Json → Json
  | .array items => .array (settleItems items)
  | .object members => .object (settleMembers members).settle
  | other => other

def settleItems : List Json → List Json
  | [] => []
  | item :: rest => settle item :: settleItems rest

def settleMembers : List (String × Json) → Members
  | [] => []
  | (key, value) :: rest => (key, settle value) :: settleMembers rest

end

def isNull : Json → Bool
  | null => true
  | _ => false

def asString? : Json → Option String
  | string s => some s
  | _ => none

def asArray? : Json → Option (List Json)
  | array items => some items
  | _ => none

def asObject? : Json → Option Members
  | object members => some members
  | _ => none

/-- The value as a count: a whole number from zero to `2 ^ 64 - 1`. -/
def asCount? : Json → Option Nat
  | integer (.ofNat n) => if n < 0x1_0000_0000_0000_0000 then some n else none
  | _ => none

/-- The value as a double: any number, whole ones rounded to the nearest. -/
def asDouble? : Json → Option Double
  | integer n => some (Double.ofInt n)
  | double d => some d
  | _ => none

end Json

end EntityGraph
