import EntityGraph.Query.Basic
import EntityGraph.Query.Clause
import EntityGraph.Query.Config
import EntityGraph.Query.Filter
import EntityGraph.Results.Response
import EntityGraph.Results.Sort
import EntityGraph.Store.View

/-!
Searches for entities: a list of filters, then the rows of the matches, or the subgraph of the matches and what they
are connected to.
-/
namespace EntityGraph

/-- What is returned of the matches. -/
inductive NodeMode where
  | list
  /-- With everything that so many relationships of some types lead to. -/
  | expand (relations : Option (List String)) (depth : Nat)
deriving DecidableEq

structure NodePlan where
  stages : List FilterStage
  mode : NodeMode
  returnFields : List String
  finish : Finish

namespace NodePlan

/-- Likeness to a text, with the threshold of the clauses or the default one. -/
def semanticFilter? (nodes : Members) (config : QueryConfig) : Option SemanticFilter :=
  (nodes.textClause? "similar_to").map fun similarTo =>
    { similarTo
      threshold := ((nodes.get? "threshold").map Threshold.ofJson).getD (.atLeast config.similarityThreshold) }

/-- The test on the description; only a mapping is one. -/
def descriptionSpec? (nodes : Members) : Option FieldSpec :=
  match nodes.get? "description" with
  | some (.object spec) => some ⟨"description", FieldMatch.ofFieldSpec spec⟩
  | _ => none

def connectivityFilter (spec : Members) (config : QueryConfig) : Except QueryError ConnectivityFilter := do
  let maxDepth ← spec.countClause "max_depth" config.connectedToDepth
  return { entity := spec.textClause? "entity", maxDepth, via := spec.typesClause? "via" }

/-- The filters of a definition in the order in which they are applied. Properties may also stand outside of the
clauses about entities, unless there are some inside. -/
def stagesOf (definition : Members) (config : QueryConfig) : Except QueryError (List FilterStage) := do
  let nodes := Query.nodeClauses definition
  let properties ← nodes.mappingClause "properties"
  let fields ← definition.mappingClause "filter"
  let connectedTo ← (← definition.mappingClause "connected_to").mapM (connectivityFilter · config)
  let outerProperties ← if nodes.hasKey "properties" then pure none else definition.mappingClause "properties"
  return [
    (nodes.textClause? "type").map .type,
    (nodes.textClause? "name").map .name,
    properties.map fun members => .properties (.ofMembers members),
    (semanticFilter? nodes config).map .semantic,
    (descriptionSpec? nodes).map .fieldSpec,
    fields.map fun members => .fields (.ofMembers members),
    (definition.clause? "where").map fun clause => .meets (.ofJson clause),
    connectedTo.map .connectedTo,
    outerProperties.map fun members => .properties (.ofMembers members)].filterMap id

/-- The matches are expanded if relationships or a depth are asked for. -/
def modeOf (definition : Members) (config : QueryConfig) : Except QueryError NodeMode := do
  let relations := definition.typesClause? "relations"
  if relations.isSome || definition.hasKey "depth" then
    return .expand relations (← definition.countClause "depth" config.depth)
  else return .list

def ofDefinition (definition : Members) (config : QueryConfig) : Except QueryError NodePlan := do
  return {
    stages := ← stagesOf definition config
    mode := ← modeOf definition config
    returnFields := Query.returnFields (Query.nodeClauses definition) definition config.returnFields
    finish := .ofDefinition definition }

def candidates (plan : NodePlan) (context : QueryContext) : List String :=
  plan.stages.foldl (fun ids stage => stage.apply context ids) (context.store.entities.map (·.id))

/-- Fields that a row does not show are read from its entity. -/
def attributeOf (store : Store) : SortSpec.Fallback := fun row field => do
  let id ← (← row.get? "name").asString?
  let value ← (← store.get? id).attribute? field
  return value.toJson

def finishedRows (plan : NodePlan) (store : Store) (ids : List String) : List Row :=
  plan.finish.apply (attributeOf store) (store.rowsOf ids plan.returnFields)

/-- What the matches lead to, without repeats. -/
def connected (store : Store) (relations : Option (List String)) (depth : Nat) (matched : List String) : List String :=
  (matched.flatMap fun id => store.findConnected id depth (relations.getD []) .both).eraseDups

/-- The matches with what they are connected to. Sorting and limiting concern the nodes only. -/
def expand (plan : NodePlan) (store : Store) (relations : Option (List String)) (depth : Nat)
    (matched : List String) : Subgraph :=
  if matched.isEmpty then .empty
  else
    let connectedNodes := connected store relations depth matched
    let ids := matched ++ connectedNodes.filter (!matched.contains ·)
    let nodes := plan.finishedRows store ids
    let edges := (store.inducedSubgraph ids).edges.map Relationship.toRow
    { nodes, edges, startingNodes := matched, connectedNodes, nodeCount := nodes.length, edgeCount := edges.length }

def execute (plan : NodePlan) (context : QueryContext) : Results :=
  let matched := plan.candidates context
  match plan.mode with
  | .list => .rows (plan.finishedRows context.store matched)
  | .expand relations depth => .subgraph (plan.expand context.store relations depth matched)

end NodePlan

end EntityGraph
