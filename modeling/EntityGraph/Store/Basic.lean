import Std.Data.TreeMap
import EntityGraph.Graph.Entity
import EntityGraph.Graph.Relationship
import EntityGraph.Store.Config

/-!
The store: a directed multigraph of entities and relationships. Both live in arrays of slots that are addressed by
position and never reused, so a removal leaves an empty slot behind and the order of insertion is kept. An index leads
from ids to entity slots, and every entity slot lists the slots of its edges.

The time and the ids of new relationships are arguments of the operations.
-/
namespace EntityGraph

/-- An entity with the positions of the edges that leave it and arrive at it. -/
structure NodeSlot where
  entity : Entity
  outgoing : List Nat
  incoming : List Nat
deriving DecidableEq

/-- A slot with an edge taken off both of its lists. -/
def NodeSlot.detach (slot : NodeSlot) (edge : Nat) : NodeSlot :=
  { slot with
    outgoing := slot.outgoing.filter (· != edge)
    incoming := slot.incoming.filter (· != edge) }

/-- A relationship with the positions of its ends. -/
structure EdgeSlot where
  relationship : Relationship
  source : Nat
  target : Nat
deriving DecidableEq

structure Store where
  nodes : Array (Option NodeSlot) := #[]
  index : Std.TreeMap String Nat := ∅
  edges : Array (Option EdgeSlot) := #[]
  edgeCount : Nat := 0
  config : StoreConfig := {}

/-- What a new relationship is stamped with. -/
structure Stamp where
  id : RelationshipId
  time : Instant

structure Statistics where
  entities : Nat
  relationships : Nat
deriving DecidableEq

namespace Store

def empty (config : StoreConfig) : Store := { config }

def handle? (store : Store) (id : String) : Option Nat := store.index[id]?

/-- The entity slot at a position, unless it is empty. -/
def node? (store : Store) (handle : Nat) : Option NodeSlot := store.nodes[handle]?.join

/-- The edge slot at a position, unless it is empty. -/
def edge? (store : Store) (handle : Nat) : Option EdgeSlot := store.edges[handle]?.join

/-- Changes the entity slot at a position, if there is one. -/
def modifyNode (store : Store) (handle : Nat) (change : NodeSlot → NodeSlot) : Store :=
  { store with nodes := store.nodes.modify handle (Option.map change) }

def idAt (store : Store) (handle : Nat) : String := ((store.node? handle).map (·.entity.id)).getD ""

def relationshipsAt (store : Store) (handles : List Nat) : List Relationship :=
  handles.filterMap fun handle => (store.edge? handle).map (·.relationship)

def contains (store : Store) (id : String) : Bool := (store.handle? id).isSome

def slot? (store : Store) (id : String) : Option NodeSlot := (store.handle? id).bind store.node?

def get? (store : Store) (id : String) : Option Entity := (store.slot? id).map (·.entity)

def entities (store : Store) : List Entity := store.nodes.toList.filterMap (Option.map (·.entity))

def relationships (store : Store) : List Relationship := store.edges.toList.filterMap (Option.map (·.relationship))

def outgoing (store : Store) (id : String) : List Relationship :=
  ((store.slot? id).map fun slot => store.relationshipsAt slot.outgoing).getD []

def incoming (store : Store) (id : String) : List Relationship :=
  ((store.slot? id).map fun slot => store.relationshipsAt slot.incoming).getD []

def between (store : Store) (source target : String) : List Relationship :=
  (store.outgoing source).filter (·.target == target)

def entityCount (store : Store) : Nat := store.index.size

def relationshipCount (store : Store) : Nat := store.edgeCount

def statistics (store : Store) : Statistics := ⟨store.entityCount, store.relationshipCount⟩

/-- The id under which an entity of a type is kept: without blanks around it, and for a person without brackets.
Absent when nothing is left. -/
def normalId? (id type : String) : Option String :=
  let trimmed := trim id
  let cleaned := if type = personType then stripBrackets trimmed else trimmed
  if trimmed.isEmpty ∨ cleaned.isEmpty then none else some cleaned

/-- Puts an entity in place of the one with its id, whose edges stay, or at the end. -/
def insertEntity (store : Store) (entity : Entity) : Store :=
  let known := (store.handle? entity.id).filter fun handle => (store.node? handle).isSome
  match known with
  | some handle => store.modifyNode handle fun slot => { slot with entity }
  | none =>
    { store with
      index := store.index.insert entity.id store.nodes.size
      nodes := store.nodes.push (some ⟨entity, [], []⟩) }

/-- An entity after it was given again: the same type leaves a time of update, another type begins a new life. Newer
properties win, and a description replaces the old one. -/
def updated (entity : Entity) (now : Instant) (type : String) (properties : Properties)
    (description : Option String) : Entity :=
  { entity with
    type
    createdAt := if entity.type = type then entity.createdAt else now
    updatedAt := if entity.type = type then some now else none
    properties := entity.properties.merge properties
    description := description.getD entity.description }

/-- Adds an entity or updates the one with its id. The answer is the id it is kept under, absent for an empty id or a
blank type. -/
def upsert (store : Store) (now : Instant) (id type : String) (properties : Properties)
    (description : Option String) : Option String × Store :=
  if isBlankText type then (none, store)
  else match normalId? id type with
    | none => (none, store)
    | some id =>
      match store.handle? id with
      | some handle =>
        if (store.node? handle).isSome then
          (some id, store.modifyNode handle fun slot =>
            { slot with entity := updated slot.entity now type properties description })
        else (none, store)
      | none => (some id, store.insertEntity ⟨id, type, description.getD "", properties, now, none⟩)

/-- The id that the end of a relationship names: itself without blanks if there is such an entity, else without
brackets. -/
def endpoint? (store : Store) (id : String) : Option String :=
  let trimmed := trim id
  if store.contains trimmed then some trimmed
  else
    let cleaned := stripBrackets trimmed
    if cleaned ≠ trimmed ∧ store.contains cleaned then some cleaned else none

/-- Appends an edge between two positions and puts it on the lists of both. -/
def attach (store : Store) (relationship : Relationship) (source target : Nat) : Store :=
  let handle := store.edges.size
  let grown := { store with
    edges := store.edges.push (some ⟨relationship, source, target⟩)
    edgeCount := store.edgeCount + 1 }
  let left := grown.modifyNode source fun slot => { slot with outgoing := slot.outgoing ++ [handle] }
  left.modifyNode target fun slot => { slot with incoming := slot.incoming ++ [handle] }

/-- Adds a relationship between the entities that its ends name exactly; the answer says whether both exist. -/
def insertRelationship (store : Store) (relationship : Relationship) : Bool × Store :=
  match store.handle? relationship.source, store.handle? relationship.target with
  | some source, some target => (true, store.attach relationship source target)
  | _, _ => (false, store)

/-- Adds a relationship between two entities. The answer is false for a blank end, an empty type, or an end that
names no entity. -/
def addRelationship (store : Store) (stamp : Stamp) (source target type : String) (properties : Properties)
    (weight : Double) : Bool × Store :=
  if isBlankText source ∨ isBlankText target ∨ type.isEmpty then (false, store)
  else match store.endpoint? source, store.endpoint? target with
    | some source, some target =>
      store.insertRelationship ⟨stamp.id, source, target, type, weight, properties, stamp.time⟩
    | _, _ => (false, store)

/-- Empties an edge slot and takes it off the lists of its ends. -/
def dropEdge (store : Store) (handle : Nat) : Store :=
  match store.edge? handle with
  | none => store
  | some edge =>
    let shrunk := { store with
      edges := store.edges.setIfInBounds handle none
      edgeCount := store.edgeCount - 1 }
    (shrunk.modifyNode edge.source (·.detach handle)).modifyNode edge.target (·.detach handle)

/-- Forgets an entity and empties its slot; its edges are left as they are. -/
def vacate (store : Store) (id : String) (handle : Nat) : Store :=
  { store with index := store.index.erase id, nodes := store.nodes.setIfInBounds handle none }

/-- Removes an entity and every relationship that touches it; the answer is the entity. -/
def remove (store : Store) (id : String) : Option Entity × Store :=
  match store.handle? id with
  | none => (none, store)
  | some handle =>
    match store.node? handle with
    | none => (none, { store with index := store.index.erase id })
    | some slot => (some slot.entity, (slot.outgoing ++ slot.incoming).foldl dropEdge (store.vacate id handle))

def clear (store : Store) : Store := empty store.config

end Store

end EntityGraph
