import EntityGraph.Store.Basic
import EntityGraph.Json.Basic

/-!
Result rows: entities and relationships as members of an object.
-/
namespace EntityGraph

/-- One result, as named fields. -/
abbrev Row := Members

namespace Entity

/-- The value that a row shows for a field; unknown fields are null. -/
def fieldJson (entity : Entity) (field : String) : Json :=
  if field = "properties" then entity.properties.toJson
  else ((entity.attribute? field).map Value.toJson).getD .null

/-- The id under `name`, then the fields asked for. -/
def toRow (entity : Entity) (fields : List String) : Row :=
  (fields.filter (· ≠ "name")).foldl (fun row field => Members.put row field (entity.fieldJson field))
    [("name", .string entity.id)]

end Entity

/-- Ends, type and weight, then the properties if there are any. -/
def Relationship.toRow (relationship : Relationship) : Row :=
  [("source", .string relationship.source), ("target", .string relationship.target),
   ("type", .string relationship.type), ("weight", (Value.double relationship.weight).toJson)]
  ++ (if relationship.properties.entries.isEmpty then [] else [("properties", relationship.properties.toJson)])

/-- The rows of the entities that a list of ids names; unknown ids are passed over. -/
def Store.rowsOf (store : Store) (ids fields : List String) : List Row :=
  (ids.filterMap store.get?).map fun entity => entity.toRow fields

end EntityGraph
