import EntityGraph.Snapshot.Basic
import EntityGraph.Json.Printer
import EntityGraph.Json.Reader
import EntityGraph.Json.Record
import EntityGraph.Time.Layout

/-!
Snapshots as structured text. Encoding and decoding name the same fields in the same order; a field that encoding may
leave out has a default in decoding.
-/
namespace EntityGraph

/-- A timestamp, loosely written. -/
def Instant.ofJson? (json : Json) : Option Instant := json.asString?.bind Instant.ofLenientText?

namespace Entity

def toJson (entity : Entity) : Json :=
  .object <|
    [("id", .string entity.id), ("type", .string entity.type), ("description", .string entity.description),
     ("properties", entity.properties.toJson), ("created_at", .string entity.createdAt.text)]
    ++ (entity.updatedAt.map fun time => ("updated_at", .string time.text)).toList

def fieldNames : List String := ["id", "type", "description", "properties", "created_at", "updated_at"]

/-- Id, type and time of creation are required. -/
def ofJson? (json : Json) : Option Entity := do
  let fields ← json.record? fieldNames
  some {
    id := ← Json.field? fields "id" Json.asString?
    type := ← Json.field? fields "type" Json.asString?
    description := ← Json.fieldOr? fields "description" Json.asString? ""
    properties := ← Json.fieldOr? fields "properties" Properties.ofJson? Properties.empty
    createdAt := ← Json.field? fields "created_at" Instant.ofJson?
    updatedAt := ← Json.optional? fields "updated_at" Instant.ofJson? }

end Entity

namespace Relationship

/-- A weight that is no number or infinite has no written form and becomes null. -/
def toJson (relationship : Relationship) : Json :=
  .object
    [("id", .string relationship.id.text), ("source_id", .string relationship.source),
     ("target_id", .string relationship.target), ("type", .string relationship.type),
     ("weight", (Value.double relationship.weight).toJson), ("properties", relationship.properties.toJson),
     ("created_at", .string relationship.createdAt.text)]

def fieldNames : List String := ["id", "source_id", "target_id", "type", "weight", "properties", "created_at"]

/-- Ends, type and time of creation are required; `fresh` is the id of a relationship that names none. -/
def ofJson? (fresh : RelationshipId) (json : Json) : Option Relationship := do
  let fields ← json.record? fieldNames
  some {
    id := ← Json.fieldOr? fields "id" (·.asString?.bind RelationshipId.ofText?) fresh
    source := ← Json.field? fields "source_id" Json.asString?
    target := ← Json.field? fields "target_id" Json.asString?
    type := ← Json.field? fields "type" Json.asString?
    weight := ← Json.fieldOr? fields "weight" Json.asDouble? defaultWeight
    properties := ← Json.fieldOr? fields "properties" Properties.ofJson? Properties.empty
    createdAt := ← Json.field? fields "created_at" Instant.ofJson? }

/-- Relationships in order; the fresh id of each is the one at its position. -/
def listOfJson? (fresh : Nat → RelationshipId) : Json → Option (List Relationship)
  | .array items => items.zipIdx.mapM fun (item, position) => ofJson? (fresh position) item
  | _ => none

end Relationship

namespace Snapshot

def toJson (snapshot : Snapshot) : Json :=
  .object
    [("version", .integer snapshot.version), ("entities", .array (snapshot.entities.map Entity.toJson)),
     ("relationships", .array (snapshot.relationships.map Relationship.toJson))]

def version? (json : Json) : Option Nat := json.asCount?.filter (· < 0x1_0000_0000)

/-- The version is required. -/
def ofJson? (fresh : Nat → RelationshipId) (json : Json) : Option Snapshot := do
  let fields ← json.record? ["version", "entities", "relationships"]
  some {
    version := ← Json.field? fields "version" version?
    entities := ← Json.fieldOr? fields "entities" (Json.list? Entity.ofJson?) []
    relationships := ← Json.fieldOr? fields "relationships" (Relationship.listOfJson? fresh) [] }

/-- The written form, on one line or indented. -/
def text (snapshot : Snapshot) (pretty : Bool) : String :=
  if pretty then snapshot.toJson.pretty else snapshot.toJson.compact

def ofText? (fresh : Nat → RelationshipId) (text : String) : Option Snapshot := (Json.read? text).bind (ofJson? fresh)

end Snapshot

end EntityGraph
