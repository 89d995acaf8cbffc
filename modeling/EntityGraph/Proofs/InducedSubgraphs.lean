import EntityGraph.Proofs.ListingRefinement

/-!
Projections of a store. No relationship names an entity that is not there, so a projection is complete and closed, only
the set of the known ids that are given decides what it shows, and all ids together give the whole graph back.
-/
namespace EntityGraph

namespace GraphView

def ids (view : GraphView) : List String := view.nodes.map (·.id)

theorem contains_iff {view : GraphView} {id : String} : view.contains id = true ↔ id ∈ view.ids := by
  simp [contains, ids]

end GraphView

namespace Store

variable {store : Store} {ids others : List String}

/-- What the projection of a store on some ids has to show: the entities with these ids and the relationships between
them, each in store order. No entity is shown twice, and no edge leads out of the view. -/
structure Induces (store : Store) (ids : List String) (view : GraphView) : Prop where
  nodes : view.nodes = store.entities.filter fun entity => entity.id ∈ ids
  once : view.ids.Nodup
  named : ∀ id, view.contains id = true ↔ id ∈ ids ∧ store.contains id = true
  edges : view.edges = store.relationships.filter fun edge => edge.source ∈ ids ∧ edge.target ∈ ids
  closed : ∀ edge ∈ view.edges, view.contains edge.source = true ∧ view.contains edge.target = true
  nodeCount : view.nodeCount = (store.ids.filter fun id => id ∈ ids).length
  edgeCount : view.edgeCount = store.relationships.countP fun edge => edge.source ∈ ids ∧ edge.target ∈ ids

theorem WellFormed.nodes_inducedSubgraph (valid : store.WellFormed) (ids : List String) :
    (store.inducedSubgraph ids).nodes = store.entities.filter fun entity => entity.id ∈ ids := by
  simp [valid.inducedSubgraph_eq]

theorem WellFormed.edges_inducedSubgraph (valid : store.WellFormed) (ids : List String) :
    (store.inducedSubgraph ids).edges =
      store.relationships.filter fun edge => edge.source ∈ ids ∧ edge.target ∈ ids := by
  simp [valid.inducedSubgraph_eq, Bool.decide_and]

theorem WellFormed.ids_inducedSubgraph (valid : store.WellFormed) (ids : List String) :
    (store.inducedSubgraph ids).ids = store.ids.filter fun id => id ∈ ids := by
  rw [GraphView.ids, valid.nodes_inducedSubgraph, Store.ids, List.filter_map]
  rfl

theorem WellFormed.contains_inducedSubgraph (valid : store.WellFormed) {id : String} :
    (store.inducedSubgraph ids).contains id = true ↔ id ∈ ids ∧ store.contains id = true := by
  rw [GraphView.contains_iff, valid.ids_inducedSubgraph, List.mem_filter, valid.contains_iff, decide_eq_true_iff,
    and_comm]

theorem WellFormed.induces (valid : store.WellFormed) (ids : List String) :
    store.Induces ids (store.inducedSubgraph ids) where
  nodes := valid.nodes_inducedSubgraph ids
  once := by
    rw [valid.ids_inducedSubgraph]
    exact valid.nodup_ids.filter _
  named _ := valid.contains_inducedSubgraph
  edges := valid.edges_inducedSubgraph ids
  closed := by
    intro edge shown
    rw [valid.edges_inducedSubgraph] at shown
    obtain ⟨member, listed⟩ := List.mem_filter.mp shown
    obtain ⟨source, target⟩ := of_decide_eq_true listed
    have known (side : End) : store.contains (side.id edge) = true :=
      valid.contains_iff.mpr (valid.end_mem_ids side member)
    exact ⟨valid.contains_inducedSubgraph.mpr ⟨source, known .source⟩,
      valid.contains_inducedSubgraph.mpr ⟨target, known .target⟩⟩
  nodeCount := by
    rw [← valid.ids_inducedSubgraph, GraphView.ids, List.length_map]
    rfl
  edgeCount := by
    rw [GraphView.edgeCount, valid.edges_inducedSubgraph, List.countP_eq_length_filter]

/-- Of the ids that are given only the known ones matter, and only which they are. -/
theorem WellFormed.inducedSubgraph_congr (valid : store.WellFormed)
    (same : ∀ id, store.contains id = true → (id ∈ others ↔ id ∈ ids)) :
    store.inducedSubgraph others = store.inducedSubgraph ids := by
  have listed {id : String} (known : id ∈ store.ids) : others.contains id = ids.contains id := by
    rw [Bool.eq_iff_iff, List.contains_iff_mem, List.contains_iff_mem]
    exact same id (valid.contains_iff.mpr known)
  rw [valid.inducedSubgraph_eq, valid.inducedSubgraph_eq]
  congr 1
  · apply List.filter_congr
    intro entity member
    exact listed (List.mem_map_of_mem member)
  · apply List.filter_congr
    intro edge member
    have source : edge.source ∈ store.ids := valid.end_mem_ids .source member
    have target : edge.target ∈ store.ids := valid.end_mem_ids .target member
    rw [listed source, listed target]

theorem WellFormed.inducedSubgraph_again (valid : store.WellFormed) (ids : List String) :
    store.inducedSubgraph (store.inducedSubgraph ids).ids = store.inducedSubgraph ids := by
  apply valid.inducedSubgraph_congr
  intro id known
  rw [← GraphView.contains_iff, valid.contains_inducedSubgraph]
  exact and_iff_left known

theorem WellFormed.inducedSubgraph_all (valid : store.WellFormed) :
    store.inducedSubgraph store.ids = ⟨store.entities, store.relationships⟩ := by
  rw [valid.inducedSubgraph_eq]
  congr 1
  · apply List.filter_eq_self.mpr
    intro entity member
    exact List.contains_iff_mem.mpr (List.mem_map_of_mem member)
  · apply List.filter_eq_self.mpr
    intro edge member
    rw [Bool.and_eq_true, List.contains_iff_mem, List.contains_iff_mem]
    exact ⟨valid.end_mem_ids .source member, valid.end_mem_ids .target member⟩

/-- In every history, a projection shows exactly the given entities and all relationships among them. In whatever order
the ids are given, however often, and with whatever unknown ones among them, it is the same; projecting on the ids of its
own nodes changes nothing; and all ids of the store give the whole store. -/
theorem projection_exact (config : StoreConfig) (commands : List Command) :
    (∀ ids, (history config commands).Induces ids ((history config commands).inducedSubgraph ids)) ∧
    (∀ ids others, (∀ id, (history config commands).contains id = true → (id ∈ others ↔ id ∈ ids)) →
      (history config commands).inducedSubgraph others = (history config commands).inducedSubgraph ids) ∧
    (∀ ids, (history config commands).inducedSubgraph ((history config commands).inducedSubgraph ids).ids =
      (history config commands).inducedSubgraph ids) ∧
    (history config commands).inducedSubgraph ((history config commands).entities.map (·.id)) =
      ⟨(history config commands).entities, (history config commands).relationships⟩ := by
  have valid := history_wellFormed config commands
  exact ⟨valid.induces, fun _ _ => valid.inducedSubgraph_congr, valid.inducedSubgraph_again,
    valid.inducedSubgraph_all⟩

/-- Four entities, one of them connected to itself, another one connected to the first and removed again. -/
def thinned : List Command := [
  .edit (.upsert ⟨0, 0⟩ "a" "Node" .empty none), .edit (.upsert ⟨0, 0⟩ "b" "Node" .empty none),
  .edit (.upsert ⟨0, 0⟩ "c" "Leaf" .empty none), .edit (.upsert ⟨0, 0⟩ "d" "Leaf" .empty none),
  .edit (.relate ⟨⟨1⟩, ⟨0, 0⟩⟩ "a" "b" "knows" .empty 1), .edit (.relate ⟨⟨2⟩, ⟨0, 0⟩⟩ "c" "a" "knows" .empty 1),
  .edit (.relate ⟨⟨3⟩, ⟨0, 0⟩⟩ "c" "c" "knows" .empty 1), .edit (.relate ⟨⟨4⟩, ⟨0, 0⟩⟩ "c" "d" "knows" .empty 1),
  .edit (.remove "b")]

/-- The ids are given in another order, one of them twice, and the removed one with them. -/
theorem projection_exact_thinned :
    let view := (history {} thinned).inducedSubgraph ["c", "b", "a", "c"]
    (∀ id, (history {} thinned).contains id = true → (id ∈ ["c", "b", "a", "c"] ↔ id ∈ ["a", "c"])) ∧
      view = (history {} thinned).inducedSubgraph ["a", "c"] ∧ view.ids = ["a", "c"] ∧
      view.edges.map (·.id.bits) = [2, 3] := by
  intro view
  obtain ⟨induces, alike, -, -⟩ := projection_exact {} thinned
  have gone : (history {} thinned).contains "b" = false := by decide +kernel
  have same (id : String) (known : (history {} thinned).contains id = true) :
      id ∈ ["c", "b", "a", "c"] ↔ id ∈ ["a", "c"] := by
    have present : id ≠ "b" := by
      rintro rfl
      cases gone.symm.trans known
    grind
  refine ⟨same, alike _ _ same, ?_, ?_⟩
  · rw [GraphView.ids, (induces _).nodes]
    decide +kernel
  · rw [(induces _).edges]
    decide +kernel

end Store

end EntityGraph
