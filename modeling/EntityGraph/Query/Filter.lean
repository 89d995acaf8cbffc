import EntityGraph.Condition.Basic
import EntityGraph.Condition.FieldMatch
import EntityGraph.Condition.Threshold
import EntityGraph.Embedding.Basic
import EntityGraph.Store.Traversal

/-!
Filters on candidates. A filter keeps some of the ids it is given, in their order.
-/
namespace EntityGraph

/-- What a query is run on. -/
structure QueryContext where
  store : Store
  provider : Option EmbeddingProvider

/-- Groups of tests; of every group at least one test has to hold. -/
structure PropertyFilter where
  groups : List (List FieldCondition)
deriving DecidableEq

namespace PropertyFilter

/-- A group for every field: equality, or the operators of a mapping. -/
def ofMembers (members : Members) : PropertyFilter :=
  ⟨members.map fun (field, spec) => FieldCondition.ofEntry field spec⟩

def accepts (filter : PropertyFilter) (entity : Entity) : Bool :=
  filter.groups.all fun tests => tests.any fun test => test.evaluate entity

end PropertyFilter

/-- Tests on the texts of attributes, which all have to hold. -/
structure FieldFilter where
  specs : List FieldSpec
deriving DecidableEq

namespace FieldFilter

def ofMembers (members : Members) : FieldFilter :=
  ⟨members.map fun (field, entry) => ⟨field, FieldMatch.ofFilterEntry entry⟩⟩

def accepts (filter : FieldFilter) (entity : Entity) : Bool := filter.specs.all fun spec => spec.evaluate entity

end FieldFilter

/-- Closeness to an entity. Without an entity everything is close. -/
structure ConnectivityFilter where
  entity : Option String
  maxDepth : Nat
  /-- The types of relationships to follow. -/
  via : Option (List String)
deriving DecidableEq

/-- Likeness to a text. -/
structure SemanticFilter where
  similarTo : String
  threshold : Threshold
deriving DecidableEq

/-- The candidates whose entities pass a test. -/
def Store.retain (store : Store) (test : Entity → Bool) (candidates : List String) : List String :=
  candidates.filter fun id => (store.get? id).any test

namespace ConnectivityFilter

/-- The candidates within reach of the entity, along relationships in either direction. -/
def apply (filter : ConnectivityFilter) (store : Store) (candidates : List String) : List String :=
  match filter.entity with
  | none => candidates
  | some entity =>
    let reachable := store.findConnected entity filter.maxDepth (filter.via.getD []) .both
    candidates.filter reachable.contains

end ConnectivityFilter

namespace SemanticFilter

/-- An entity is like the text that a vector stands for. An entity without a vector is not. -/
def accepts (filter : SemanticFilter) (provider : EmbeddingProvider) (wanted : Vector32) (entity : Entity) : Bool :=
  match provider.embed entity.embeddingText with
  | .ok vector => filter.threshold.accepts (Vector32.dot wanted vector).toDouble
  | .error _ => false

/-- The candidates that are like the text: none if there is no provider, or no vector for the text. -/
def apply (filter : SemanticFilter) (context : QueryContext) (candidates : List String) : List String :=
  match context.provider with
  | none => []
  | some provider =>
    match provider.embed filter.similarTo with
    | .error _ => []
    | .ok wanted => context.store.retain (filter.accepts provider wanted) candidates

end SemanticFilter

/-- One step of a search for entities. -/
inductive FilterStage where
  | type (value : String)
  | name (value : String)
  | properties (filter : PropertyFilter)
  | semantic (filter : SemanticFilter)
  | fieldSpec (spec : FieldSpec)
  | fields (filter : FieldFilter)
  | meets (condition : Condition)
  | connectedTo (filter : ConnectivityFilter)

/-- The candidates that a step keeps. -/
def FilterStage.apply (stage : FilterStage) (context : QueryContext) (candidates : List String) : List String :=
  match stage with
  | .type value => context.store.retain (fun entity => entity.type == value) candidates
  | .name value => candidates.filter (· == value)
  | .properties filter => context.store.retain filter.accepts candidates
  | .semantic filter => filter.apply context candidates
  | .fieldSpec spec => context.store.retain spec.evaluate candidates
  | .fields filter => context.store.retain filter.accepts candidates
  | .meets condition => context.store.retain (fun entity => condition.evaluate entity) candidates
  | .connectedTo filter => filter.apply context.store candidates

end EntityGraph
