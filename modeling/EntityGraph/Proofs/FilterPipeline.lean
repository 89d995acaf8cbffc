import EntityGraph.Proofs.ListingRefinement
import EntityGraph.Proofs.RowContents
import EntityGraph.Query.NodePlan

/-!
A search for entities is one conjunction. Every filter tests each candidate for itself, so a list of filters keeps the
ids that pass the tests of all of them, in whatever order and however often the filters are applied.
-/
namespace EntityGraph

/-- There is an entity with an id, and it passes a test. -/
def Store.passes (store : Store) (test : Entity → Bool) (id : String) : Bool := (store.get? id).any test

/-- An entity is like the text. No entity is if there is no provider, or no vector for the text. -/
def SemanticFilter.admits (filter : SemanticFilter) (provider : Option EmbeddingProvider) (entity : Entity) : Bool :=
  provider.any fun provider =>
    match provider.embed filter.similarTo with
    | .ok wanted => filter.accepts provider wanted entity
    | .error _ => false

/-- An id is within reach of the entity. Without an entity every id is. -/
def ConnectivityFilter.admits (filter : ConnectivityFilter) (store : Store) (id : String) : Bool :=
  filter.entity.all fun entity =>
    (store.findConnected entity filter.maxDepth (filter.via.getD []) .both).contains id

/-- The test of a filter on one id. Besides names and reach it is about the entity with the id, if there is one. -/
def FilterStage.admits (stage : FilterStage) (context : QueryContext) (id : String) : Bool :=
  match stage with
  | .type value => context.store.passes (·.type == value) id
  | .name value => id == value
  | .properties filter => context.store.passes filter.accepts id
  | .semantic filter => context.store.passes (filter.admits context.provider) id
  | .fieldSpec spec => context.store.passes spec.evaluate id
  | .fields filter => context.store.passes filter.accepts id
  | .meets condition => context.store.passes (fun entity => condition.evaluate entity) id
  | .connectedTo filter => filter.admits context.store id

/-- An id passes the tests of all filters of a search. -/
def NodePlan.admits (plan : NodePlan) (context : QueryContext) (id : String) : Bool :=
  plan.stages.all (·.admits context id)

theorem Store.retain_eq (store : Store) (test : Entity → Bool) (candidates : List String) :
    store.retain test candidates = candidates.filter (store.passes test) := rfl

theorem Store.filter_passes_never (store : Store) {test : Entity → Bool} (never : ∀ entity, test entity = false)
    (candidates : List String) : candidates.filter (store.passes test) = [] := by
  have nothing : test = fun _ => false := funext never
  simp [passes, nothing]

theorem SemanticFilter.apply_eq (filter : SemanticFilter) (context : QueryContext) (candidates : List String) :
    filter.apply context candidates = candidates.filter (context.store.passes (filter.admits context.provider)) := by
  unfold SemanticFilter.apply
  split
  · rename_i absent
    rw [context.store.filter_passes_never]
    simp [admits, absent]
  · rename_i provider given
    split
    · rename_i cause failed
      rw [context.store.filter_passes_never]
      simp [admits, given, failed]
    · rename_i wanted found
      have same : filter.admits context.provider = filter.accepts provider wanted := by
        funext entity
        simp [admits, given, found]
      rw [same, Store.retain_eq]

theorem ConnectivityFilter.apply_eq (filter : ConnectivityFilter) (store : Store) (candidates : List String) :
    filter.apply store candidates = candidates.filter (filter.admits store) := by
  unfold ConnectivityFilter.apply
  split
  · rename_i absent
    have kept : ∀ id ∈ candidates, filter.admits store id = true := by simp [admits, absent]
    exact (List.filter_eq_self.mpr kept).symm
  · rename_i entity given
    apply List.filter_congr
    intro id _
    rw [admits, given, Option.all_some]

/-- Every filter keeps the candidates that pass its test, and looks at no other candidate for it. -/
theorem FilterStage.apply_eq (stage : FilterStage) (context : QueryContext) (candidates : List String) :
    stage.apply context candidates = candidates.filter (stage.admits context) := by
  cases stage with
  | type | name | properties | fieldSpec | fields | meets => rfl
  | semantic filter => exact filter.apply_eq context candidates
  | connectedTo filter => exact filter.apply_eq context.store candidates

theorem FilterStage.applyAll_eq (stages : List FilterStage) (context : QueryContext) (candidates : List String) :
    stages.foldl (fun ids stage => stage.apply context ids) candidates =
      candidates.filter fun id => stages.all (·.admits context id) := by
  induction stages generalizing candidates with
  | nil => simp
  | cons stage rest ih =>
    rw [List.foldl_cons, ih, stage.apply_eq, List.filter_filter]
    apply List.filter_congr
    intro id _
    rw [List.all_cons, Bool.and_comm]

namespace NodePlan

variable {plan other : NodePlan} {context : QueryContext}

theorem candidates_eq (plan : NodePlan) (context : QueryContext) :
    plan.candidates context = context.store.ids.filter (plan.admits context) :=
  FilterStage.applyAll_eq plan.stages context context.store.ids

/-- Only which filters there are decides, not their order or number. -/
theorem candidates_congr (same : ∀ stage, stage ∈ other.stages ↔ stage ∈ plan.stages) (context : QueryContext) :
    other.candidates context = plan.candidates context := by
  rw [candidates_eq, candidates_eq]
  apply List.filter_congr
  intro id _
  rw [Bool.eq_iff_iff, admits, admits, List.all_eq_true, List.all_eq_true]
  exact forall_congr' fun stage => imp_congr_left (same stage)

end NodePlan

namespace Store

variable {store : Store}

theorem WellFormed.rowsOf_filter (valid : store.WellFormed) (test : String → Bool) (fields : List String) :
    store.rowsOf (store.ids.filter test) fields =
      (store.entities.filter fun entity => test entity.id).map (·.toRow fields) := by
  have found : (store.ids.filter test).filterMap store.get? = store.entities.filter fun entity => test entity.id := by
    rw [ids, List.filter_map, List.filterMap_map]
    refine (List.filterMap_congr fun entity member => ?_).trans List.filterMap_some
    exact valid.get?_id (List.mem_filter.mp member).1
  rw [rowsOf, found]

end Store

/-- In every store and with every provider, a filter keeps or drops each candidate by a test on it alone. The matches of
a search are the ids of all entities that pass every test, in store order and each once; filters in another order or
applied again find the same; and a list that is neither sorted nor cut has one row for each match. -/
theorem NodePlan.candidates_conjunction (config : StoreConfig) (commands : List Command)
    (provider : Option EmbeddingProvider) (plan : NodePlan) :
    let context : QueryContext := ⟨Store.history config commands, provider⟩
    (∀ (stage : FilterStage) (candidates : List String),
      stage.apply context candidates = candidates.filter (stage.admits context)) ∧
    plan.candidates context = context.store.ids.filter (plan.admits context) ∧
    (plan.candidates context).Nodup ∧
    (∀ other : NodePlan, (∀ stage, stage ∈ other.stages ↔ stage ∈ plan.stages) →
      other.candidates context = plan.candidates context) ∧
    (plan.mode = .list → plan.finish = ⟨none, none⟩ → ∃ rows, plan.execute context = .rows rows ∧
      rows = (context.store.entities.filter fun entity => plan.admits context entity.id).map
        (·.toRow plan.returnFields) ∧
      rows.map (·.get? "name") = (plan.candidates context).map fun id => some (.string id)) := by
  intro context
  have valid : context.store.WellFormed := Store.history_wellFormed config commands
  refine ⟨?_, plan.candidates_eq context, ?_, ?_, ?_⟩
  · intro stage candidates
    exact stage.apply_eq context candidates
  · rw [candidates_eq]
    exact valid.nodup_ids.filter _
  · intro other same
    exact candidates_congr same context
  · intro listed unfinished
    have rows := valid.rowsOf_filter (plan.admits context) plan.returnFields
    rw [← candidates_eq] at rows
    refine ⟨_, ?_, rows, ?_⟩
    · simp only [execute, listed, finishedRows, unfinished, Finish.apply]
    · rw [rows, candidates_eq, Store.ids, List.filter_map, List.map_map, List.map_map]
      apply List.map_congr_left
      intro entity _
      exact entity.name_toRow plan.returnFields

/-- Of three entities one is of the type and next to another one; it is found as well if the filters are turned round
and one of them is applied twice. -/
theorem NodePlan.candidates_conjunction_neighbor :
    let commands : List Command := [
      .edit (.upsert ⟨0, 0⟩ "a" "Node" .empty none), .edit (.upsert ⟨0, 0⟩ "b" "Node" .empty none),
      .edit (.upsert ⟨0, 0⟩ "c" "Leaf" .empty none), .edit (.relate ⟨⟨1⟩, ⟨0, 0⟩⟩ "b" "a" "knows" .empty 1),
      .edit (.relate ⟨⟨2⟩, ⟨0, 0⟩⟩ "a" "c" "knows" .empty 1)]
    let context : QueryContext := ⟨Store.history {} commands, none⟩
    let near : FilterStage := .connectedTo ⟨some "a", 1, none⟩
    let plan (stages : List FilterStage) : NodePlan := ⟨stages, .list, ["type"], ⟨none, none⟩⟩
    (plan [.type "Node", near]).candidates context = ["b"] ∧
      (plan [near, .type "Node", near]).candidates context = ["b"] ∧
      ∃ row, (plan [.type "Node", near]).execute context = .rows [row] ∧
        Members.get? row "name" = some (.string "b") := by
  intro commands context near plan
  obtain ⟨-, -, -, alike, rows⟩ := candidates_conjunction {} commands none (plan [.type "Node", near])
  have found : (plan [.type "Node", near]).candidates context = ["b"] := rfl
  refine ⟨found, ?_, ?_⟩
  · rw [alike (plan [near, .type "Node", near]) (by simp [plan, or_comm]), found]
  · obtain ⟨_, executed, rfl, -⟩ := rows rfl rfl
    exact ⟨_, executed, rfl⟩

end EntityGraph
