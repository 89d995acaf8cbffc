import EntityGraph.Query.Clause
import EntityGraph.Query.Config
import EntityGraph.Query.Filter
import EntityGraph.Results.Response
import EntityGraph.Results.Sort
import EntityGraph.Store.Paths

/-!
Searches for the shortest paths between two entities, with the likeness of neighbours on each path.
-/
namespace EntityGraph

structure PathPlan where
  source : String
  target : String
  maxHops : Nat
  finish : Finish
deriving DecidableEq

/-- The dot products of neighbours in a list of vectors. -/
def Vector32.neighborDots (vectors : List Vector32) : List Single := List.zipWith dot vectors (vectors.drop 1)

namespace QueryContext

/-- The vector of an entity; an id that is not in the store stands for itself. -/
def embedId (context : QueryContext) (provider : EmbeddingProvider) (id : String) :
    Except EmbeddingError Vector32 :=
  provider.embed (((context.store.get? id).map Entity.embeddingText).getD id)

/-- The likeness of neighbours on a path: nothing if there is no provider, or some entity has no vector. -/
def semanticCoherence (context : QueryContext) (path : List String) : List Single :=
  match context.provider with
  | none => []
  | some provider =>
    if path.length < 2 then []
    else match path.mapM (context.embedId provider) with
      | .ok vectors => Vector32.neighborDots vectors
      | .error _ => []

def pathRow (context : QueryContext) (path : List String) : Row :=
  [("path", .array (path.map .string)), ("length", .integer (path.length - 1 : Nat)),
   ("semantic_coherence",
    .array ((context.semanticCoherence path).map fun likeness => (Value.double likeness.toDouble).toJson))]

end QueryContext

namespace PathPlan

/-- Both ends have to be given. -/
def ofDefinition (definition : Members) (config : QueryConfig) : Except QueryError PathPlan :=
  match definition.textClause? "from", definition.textClause? "to" with
  | some source, some target => do
    let maxHops ← definition.countClause "max_hops" config.maxHops
    return { source, target, maxHops, finish := .ofDefinition definition }
  | _, _ => .error .noEndpoints

def execute (plan : PathPlan) (context : QueryContext) : Except StoreError Results := do
  let paths ← context.store.shortestPaths plan.source plan.target plan.maxHops
  return .rows (plan.finish.apply (fun _ _ => none) (paths.map context.pathRow))

end PathPlan

end EntityGraph
