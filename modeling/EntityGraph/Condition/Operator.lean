import EntityGraph.Graph.Entity
import EntityGraph.Pattern.Search
import EntityGraph.Text.Search

/-!
Named comparisons of an attribute with an operand.
-/
namespace EntityGraph

inductive Operator where
  | equals
  | notEquals
  | gt
  | lt
  | gte
  | lte
  | contains
  | startsWith
  | endsWith
  | regex
deriving DecidableEq

namespace Operator

def name : Operator → String
  | equals => "equals"
  | notEquals => "not_equals"
  | gt => "gt"
  | lt => "lt"
  | gte => "gte"
  | lte => "lte"
  | contains => "contains"
  | startsWith => "startswith"
  | endsWith => "endswith"
  | regex => "regex"

/-- The operator with a name or sign, in any case and between blanks. -/
def ofText? (text : String) : Option Operator :=
  match lower (trim text) with
  | "equals" | "eq" | "=" => some equals
  | "not_equals" | "ne" | "!=" => some notEquals
  | "gt" | ">" => some gt
  | "lt" | "<" => some lt
  | "gte" | ">=" => some gte
  | "lte" | "<=" => some lte
  | "contains" | "in" => some contains
  | "startswith" | "starts_with" => some startsWith
  | "endswith" | "ends_with" => some endsWith
  | "regex" => some regex
  | _ => none

/-- A search pattern that takes no account of case. -/
def pattern? (text : String) : Option Pattern := Pattern.ofText? true text

end Operator

namespace Value

/-- The order of two values: by number if both have a numeric reading, else by text. Absent if one is not a number. -/
def compare? (actual expected : Value) : Option Ordering :=
  match actual.asNumber?, expected.asNumber? with
  | some a, some b => a.compare? b
  | _, _ => some (compare actual.asText expected.asText)

end Value

/-- The comparison holds between an attribute and an operand. Parts of texts are compared without regard to case. -/
def Operator.holds (operator : Operator) (actual expected : Value) : Bool :=
  match operator with
  | .equals => actual.looseEq expected
  | .notEquals => !actual.looseEq expected
  | .gt => actual.compare? expected = some .gt
  | .lt => actual.compare? expected = some .lt
  | .gte => actual.compare? expected = some .gt || actual.compare? expected = some .eq
  | .lte => actual.compare? expected = some .lt || actual.compare? expected = some .eq
  | .contains => containsText (lower actual.asText) (lower expected.asText)
  | .startsWith => startsWithText (lower actual.asText) (lower expected.asText)
  | .endsWith => endsWithText (lower actual.asText) (lower expected.asText)
  | .regex =>
    match Operator.pattern? expected.asText with
    | some pattern => pattern.isFoundIn actual.asText
    | none => false

structure OperatorCondition where
  field : String
  operator : Operator
  value : Value
deriving DecidableEq

/-- An attribute that is missing or null never compares. -/
def OperatorCondition.evaluate (condition : OperatorCondition) (entity : Entity) : Bool :=
  match entity.attribute? condition.field with
  | none => false
  | some actual => !actual.isNull && condition.operator.holds actual condition.value

end EntityGraph
