import EntityGraph.Condition.Operator
import EntityGraph.Condition.Expression

/-!
Conditions on entities: tests of single attributes, one-line expressions, and their combinations.
-/
namespace EntityGraph

inductive FieldCondition where
  /-- Loose equality; a missing attribute counts as null. -/
  | equals (field : String) (value : Value)
  | compare (condition : OperatorCondition)
  /-- A comparison that is not known never holds. -/
  | unknownOperator (field operator : String)
deriving DecidableEq

namespace FieldCondition

def ofOperator (field operator : String) (operand : Json) : FieldCondition :=
  match Operator.ofText? operator with
  | some known => .compare ⟨field, known, Value.ofJson operand⟩
  | none => .unknownOperator field operator

/-- The tests of a field: one for every operator of a mapping, equality for anything else. -/
def ofEntry (field : String) (spec : Json) : List FieldCondition :=
  match spec with
  | .object operators => operators.map fun (operator, operand) => ofOperator field operator operand
  | other => [.equals field (Value.ofJson other)]

def evaluate (condition : FieldCondition) (entity : Entity) : Bool :=
  match condition with
  | equals field value => ((entity.attribute? field).getD .null).looseEq value
  | compare condition => condition.evaluate entity
  | unknownOperator _ _ => false

end FieldCondition

inductive Condition where
  | all (parts : List Condition)
  | any (parts : List Condition)
  | not (part : Condition)
  /-- Every test has to hold. -/
  | fields (tests : List FieldCondition)
  | expression (condition : Expression)
  /-- What cannot be read never holds. -/
  | never
deriving Inhabited

namespace Condition

def fieldsOf (members : Members) : Condition :=
  .fields (members.flatMap fun (field, spec) => FieldCondition.ofEntry field spec)

mutual

/-- The condition that a value describes. In a mapping `all` comes before `any`, that before `not`, and other keys
are fields only when there is none of the three. -/
def ofJson : Json → Condition
  | .object members =>
    match partsAt "all" members with
    | some parts => .all parts
    | none =>
      match partsAt "any" members with
      | some parts => .any parts
      | none =>
        match partAt "not" members with
        | some part => .not part
        | none => fieldsOf members
  | .string text =>
    match Expression.ofText? text with
    | some condition => .expression condition
    | none => .never
  | _ => .never

/-- The conditions of a list, or the only one. -/
def partsAt (key : String) : List (String × Json) → Option (List Condition)
  | [] => none
  | (name, .array items) :: rest => if name = key then some (ofItems items) else partsAt key rest
  | (name, value) :: rest => if name = key then some [ofJson value] else partsAt key rest

def partAt (key : String) : List (String × Json) → Option Condition
  | [] => none
  | (name, value) :: rest => if name = key then some (ofJson value) else partAt key rest

def ofItems : List Json → List Condition
  | [] => []
  | item :: rest => ofJson item :: ofItems rest

end

mutual

def evaluate (entity : Entity) : Condition → Bool
  | .all parts => evaluateAll entity parts
  | .any parts => evaluateAny entity parts
  | .not part => !evaluate entity part
  | .fields tests => tests.all fun test => test.evaluate entity
  | .expression condition => condition.evaluate entity
  | .never => false

def evaluateAll (entity : Entity) : List Condition → Bool
  | [] => true
  | part :: rest => evaluate entity part && evaluateAll entity rest

def evaluateAny (entity : Entity) : List Condition → Bool
  | [] => false
  | part :: rest => evaluate entity part || evaluateAny entity rest

end

end Condition

end EntityGraph
