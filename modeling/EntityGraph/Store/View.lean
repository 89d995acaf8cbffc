import EntityGraph.Store.Basic

/-!
Read-only projections of a store.
-/
namespace EntityGraph

structure GraphView where
  nodes : List Entity
  edges : List Relationship
deriving DecidableEq

namespace GraphView

def nodeCount (view : GraphView) : Nat := view.nodes.length

def edgeCount (view : GraphView) : Nat := view.edges.length

def contains (view : GraphView) (id : String) : Bool := view.nodes.any (·.id == id)

end GraphView

namespace Store

/-- The subgraph that a list of ids induces, in store order; unknown ids are passed over. -/
def inducedSubgraph (store : Store) (ids : List String) : GraphView :=
  let isMember (id : String) := ids.contains id && store.contains id
  { nodes := store.entities.filter fun entity => isMember entity.id
    edges := store.relationships.filter fun relationship =>
      isMember relationship.source && isMember relationship.target }

end Store

end EntityGraph
