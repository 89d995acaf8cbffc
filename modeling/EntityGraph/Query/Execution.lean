import EntityGraph.Query.NodePlan
import EntityGraph.Query.PathPlan

/-!
Running queries: a run gives results or the first error, and an execution wraps them into a response. Both take their
reader of documents as an argument.
-/
namespace EntityGraph

inductive QueryPlan where
  | nodes (plan : NodePlan)
  | path (plan : PathPlan)

namespace QueryPlan

/-- The plan of a query; one of kind `find` has to say something under `nodes`. -/
def ofQuery (query : Query) (config : QueryConfig) : Except QueryError QueryPlan :=
  match query.kind with
  | .find =>
    if query.definition.hasKey "nodes" then (NodePlan.ofDefinition query.definition config).map nodes
    else .error .noNodes
  | .findNodes => (NodePlan.ofDefinition query.definition config).map nodes
  | .findPath => (PathPlan.ofDefinition query.definition config).map path

def execute (plan : QueryPlan) (context : QueryContext) : Except QueryError Results :=
  match plan with
  | nodes plan => .ok (plan.execute context)
  | path plan => (plan.execute context).mapError .store

end QueryPlan

/-- A store with what its queries need. -/
structure QueryEngine where
  context : QueryContext
  config : QueryConfig

namespace QueryEngine

def runQuery (engine : QueryEngine) (query : Query) : Except QueryError Results := do
  let plan ← QueryPlan.ofQuery query engine.config
  plan.execute engine.context

/-- The results of the query that a text holds. -/
def runWith (reader : DocumentReader) (engine : QueryEngine) (text : String) : Except QueryError Results := do
  let query ← Query.readWith reader text
  engine.runQuery query

/-- The name and the kind under which the answer to a query is given, as far as they are known. -/
def heading : Except QueryError Query → String × String
  | .ok query => (query.name, query.kind.name)
  | .error (.unsupportedKind name kind) => (name, kind)
  | .error _ => ("unknown", "unknown")

/-- The response to a query that took some time. -/
def executeWith (reader : DocumentReader) (engine : QueryEngine) (time : Double) (text : String) : Response :=
  let query := Query.readWith reader text
  let (name, kind) := heading query
  match query >>= engine.runQuery with
  | .ok results => .of engine.config.timePrecision true name kind (some results) time none
  | .error cause => .of engine.config.timePrecision false name kind none time (some cause.message)

end QueryEngine

end EntityGraph
