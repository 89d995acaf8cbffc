import EntityGraph.Condition.Operator

/-!
Tests on the text of one attribute, without regard to case.
-/
namespace EntityGraph

/-- A test on a text; the operands are in lower case. -/
inductive FieldMatch where
  | contains (text : String)
  | equals (text : String)
  | regex (pattern : String)
  | startsWith (text : String)
  | endsWith (text : String)
  | never
deriving DecidableEq

namespace FieldMatch

def ofEntry (name : String) (operand : Json) : FieldMatch :=
  let text := operand.asText
  match name with
  | "contains" => .contains (lower text)
  | "equals" => .equals (lower text)
  | "regex" => .regex text
  | "startswith" => .startsWith (lower text)
  | "endswith" => .endsWith (lower text)
  | _ => .never

/-- The test that comes first in an order of names. -/
def ofMembers (order : List String) (members : Members) : FieldMatch :=
  (order.findSome? fun name => (members.get? name).map (ofEntry name)).getD .never

def ofFieldSpec (members : Members) : FieldMatch :=
  ofMembers ["contains", "equals", "regex", "startswith", "endswith"] members

/-- The test of a filter entry: a plain text is looked for anywhere. -/
def ofFilterEntry : Json → FieldMatch
  | .string text => .contains (lower text)
  | .object members => ofMembers ["regex", "contains", "equals", "startswith", "endswith"] members
  | _ => .never

/-- The test on a text; nothing matches the empty text. -/
def accepts (test : FieldMatch) (text : String) : Bool :=
  if text.isEmpty then false
  else
    let text := lower text
    match test with
    | contains needle => containsText text needle
    | equals expected => text == expected
    | regex pattern =>
      match Operator.pattern? pattern with
      | some pattern => pattern.isFoundIn text
      | none => false
    | startsWith start => startsWithText text start
    | endsWith ending => endsWithText text ending
    | never => false

end FieldMatch

structure FieldSpec where
  field : String
  test : FieldMatch
deriving DecidableEq

/-- Missing, empty, zero and false attributes never match. -/
def FieldSpec.evaluate (spec : FieldSpec) (entity : Entity) : Bool :=
  match entity.attribute? spec.field with
  | none => false
  | some actual => actual.isTruthy && spec.test.accepts actual.asText

end EntityGraph
