import EntityGraph.Json.Printer
import EntityGraph.Number.Decimal
import EntityGraph.Text.Blank

/-!
Property values: scalars with a numeric and a textual reading.
-/
namespace EntityGraph

inductive Value where
  | null
  | bool (value : Bool)
  | integer (value : Int64)
  | double (value : Double)
  | string (value : String)
deriving DecidableEq, Inhabited

namespace Value

def kindName : Value → String
  | null => "null"
  | bool _ => "bool"
  | integer _ => "integer"
  | double _ => "float"
  | string _ => "string"

def isNull : Value → Bool
  | null => true
  | _ => false

/-- The numeric reading: truth values count as one and zero, a string counts if it spells a number between blanks. -/
def asNumber? : Value → Option Double
  | null => none
  | bool b => some (if b then 1 else 0)
  | integer n => some (Double.ofInt n.toInt)
  | double d => some d
  | string s => Double.ofText? (trim s)

def asString? : Value → Option String
  | string s => some s
  | _ => none

def asText : Value → String
  | null => ""
  | bool true => "true"
  | bool false => "false"
  | integer n => toString n.toInt
  | double d => d.text .plain
  | string s => s

/-- A value that says something: not null, false, zero or the empty string. -/
def isTruthy : Value → Bool
  | null => false
  | bool b => b
  | integer n => n ≠ 0
  | double d => !d.equals 0
  | string s => !s.isEmpty

/-- Equality across kinds: numbers and truth values by their numeric reading, strings exactly, null only with null. -/
def looseEq : Value → Value → Bool
  | null, null => true
  | string a, string b => a == b
  | string _, _ => false
  | _, string _ => false
  | null, _ => false
  | _, null => false
  | a, b =>
    match a.asNumber?, b.asNumber? with
    | some x, some y => x.equals y
    | _, _ => false

/-- As a structured value; a double that is no number or infinite becomes null. -/
def toJson : Value → Json
  | null => .null
  | bool b => .bool b
  | integer n => .integer n.toInt
  | double d => if d.isFinite then .double d else .null
  | string s => .string s

/-- A whole number as an integer if it fits into 64 bits with a sign, and as a double otherwise. -/
def ofInt (n : Int) : Value :=
  if -0x8000_0000_0000_0000 ≤ n ∧ n < 0x8000_0000_0000_0000 then integer (Int64.ofInt n) else double (Double.ofInt n)

/-- The scalar that a structured value stands for; containers do not stand for one. -/
def ofScalar? : Json → Option Value
  | .null => some null
  | .bool b => some (bool b)
  | .integer n => some (ofInt n)
  | .double d => some (double d)
  | .string s => some (string s)
  | .array _ => none
  | .object _ => none

/-- Any structured value as a scalar: a container is kept as its compact text. -/
def ofJson (json : Json) : Value := (ofScalar? json).getD (string json.compact)

end Value

end EntityGraph
