import EntityGraph.Store.Basic
import EntityGraph.Store.Error
import EntityGraph.Text.Case.Lower

/-!
Bounded reachability. The search takes entities from a queue, so they are found in the order of their distance.
-/
namespace EntityGraph

/-- Which edges a search follows. -/
inductive Direction where
  | outgoing
  | incoming
  | both
deriving DecidableEq

namespace Direction

def name : Direction → String
  | outgoing => "outgoing"
  | incoming => "incoming"
  | both => "both"

/-- The direction that a word names, in any case. -/
def ofText (text : String) : Except StoreError Direction :=
  match lower text with
  | "outgoing" => .ok outgoing
  | "incoming" => .ok incoming
  | "both" => .ok both
  | other => .error (.invalidDirection other)

end Direction

/-- A search under way: the nodes seen, those that wait with their depth, and those found, in order. -/
structure Search (α : Type) where
  visited : List α
  queue : List (α × Nat)
  found : List α

namespace Search

def start (node : α) : Search α := ⟨[node], [(node, 0)], []⟩

/-- A neighbour that was not seen yet is found and waits at its depth. -/
def accept [BEq α] (depth : Nat) (search : Search α) (neighbor : α) : Search α :=
  if search.visited.contains neighbor then search
  else ⟨search.visited ++ [neighbor], search.queue ++ [(neighbor, depth)], search.found ++ [neighbor]⟩

/-- Takes nodes from the queue, at most so many, and steps on from those below the largest depth. -/
def run [BEq α] (step : α → List α) (maxDepth : Nat) : Nat → Search α → Search α
  | 0, search => search
  | turns + 1, search =>
    match search.queue with
    | [] => search
    | (node, depth) :: queue =>
      let rest := { search with queue }
      run step maxDepth turns
        (if maxDepth ≤ depth then rest else (step node).foldl (accept (depth + 1)) rest)

end Search

namespace Store

def successors (store : Store) (slot : NodeSlot) : List Nat :=
  slot.outgoing.filterMap fun edge => (store.edge? edge).map (·.target)

def predecessors (store : Store) (slot : NodeSlot) : List Nat :=
  slot.incoming.filterMap fun edge => (store.edge? edge).map (·.source)

/-- The distinct neighbours of a node, successors before predecessors. -/
def neighbors (store : Store) (direction : Direction) (handle : Nat) : List Nat :=
  match store.node? handle with
  | none => []
  | some slot =>
    let found := match direction with
      | .outgoing => store.successors slot
      | .incoming => store.predecessors slot
      | .both => store.successors slot ++ store.predecessors slot
    found.eraseDups

/-- An edge of one of the types leads from one node to another. -/
def hasTypedEdge (store : Store) (types : List String) (source target : Nat) : Bool :=
  match store.node? source with
  | none => false
  | some slot => slot.outgoing.any fun handle =>
    match store.edge? handle with
    | none => false
    | some edge => edge.target == target && edge.relationship.hasTypeIn types

/-- The types allow a step from a node to a neighbour. Without types every step is allowed; otherwise some edge of a
listed type has to point away from the node, or, when both directions are followed, either way. -/
def allowsStep (store : Store) (types : List String) (direction : Direction) (node neighbor : Nat) : Bool :=
  types.isEmpty || store.hasTypedEdge types node neighbor
    || (direction == .both && store.hasTypedEdge types neighbor node)

/-- The neighbours that a step may lead to. -/
def steps (store : Store) (types : List String) (direction : Direction) (node : Nat) : List Nat :=
  (store.neighbors direction node).filter (store.allowsStep types direction node)

/-- The ids of all entities other than `start` that at most `maxDepth` steps lead to, nearer ones first. An empty list
of types is no restriction. No entity waits twice, so there are at most as many turns as slots. -/
def findConnected (store : Store) (start : String) (maxDepth : Nat) (types : List String) (direction : Direction) :
    List String :=
  match store.handle? start with
  | none => []
  | some handle =>
    ((Search.start handle).run (store.steps types direction) maxDepth store.nodes.size).found.map store.idAt

end Store

end EntityGraph
