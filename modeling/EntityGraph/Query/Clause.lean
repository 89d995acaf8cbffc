import EntityGraph.Query.Error

/-!
Single clauses of a definition.
-/
namespace EntityGraph

/-- A clause says something: it is not null, false, zero or empty. -/
def Json.isSet : Json → Bool
  | .null => false
  | .bool b => b
  | .integer n => n ≠ 0
  | .double d => !d.equals 0
  | .string s => !s.isEmpty
  | .array items => !items.isEmpty
  | .object members => !members.isEmpty

namespace Members

def clause? (definition : Members) (key : String) : Option Json := (definition.get? key).filter Json.isSet

def textClause? (definition : Members) (key : String) : Option String := (definition.clause? key).map Json.asText

/-- A clause that holds a count; a missing one and null stand for the default. -/
def countClause (definition : Members) (key : String) (default : Nat) : Except QueryError Nat :=
  match definition.get? key with
  | none => .ok default
  | some .null => .ok default
  | some value =>
    match value.asCount? with
    | some n => .ok n
    | none => .error (.notACount key value)

/-- A clause that holds a mapping; it may be missing or say nothing. -/
def mappingClause (definition : Members) (key : String) : Except QueryError (Option Members) :=
  match definition.get? key with
  | none => .ok none
  | some (.object members) => .ok (some members)
  | some value => if value.isSet then .error (.clauseNotAMapping key value) else .ok none

/-- A clause that names relationship types, by one text or a list. -/
def typesClause? (definition : Members) (key : String) : Option (List String) :=
  match definition.get? key with
  | some (.string type) => some [type]
  | some (.array types) => some (types.filterMap Json.asString?)
  | _ => none

end Members

end EntityGraph
