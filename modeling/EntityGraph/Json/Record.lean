import EntityGraph.Json.Basic

/-!
Records with a fixed list of fields. A record is written as an object, whose unknown members are passed over and whose
known ones may not repeat, or as an array of its fields in order, which may end early.
-/
namespace EntityGraph.Json

/-- The fields of a record that a value holds, by name. -/
def record? (names : List String) : Json → Option Members
  | .object members =>
    let known := members.filter fun member => names.contains member.1
    if (known.map (·.1)).eraseDups.length = known.length then some known else none
  | .array items => if items.length ≤ names.length then some (names.zip items) else none
  | _ => none

/-- A field that has to be there. -/
def field? (members : Members) (name : String) (read? : Json → Option α) : Option α :=
  (members.get? name).bind read?

/-- A field that may be left out. -/
def fieldOr? (members : Members) (name : String) (read? : Json → Option α) (missing : α) : Option α :=
  match members.get? name with
  | some value => read? value
  | none => some missing

/-- A field that may be left out or null. -/
def optional? (members : Members) (name : String) (read? : Json → Option α) : Option (Option α) :=
  match members.get? name with
  | some .null => some none
  | some value => (read? value).map some
  | none => some none

def list? (read? : Json → Option α) : Json → Option (List α)
  | .array items => items.mapM read?
  | _ => none

end EntityGraph.Json
