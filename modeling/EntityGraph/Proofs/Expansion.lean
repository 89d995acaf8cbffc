import EntityGraph.Proofs.FilterPipeline
import EntityGraph.Proofs.Reachability

/-!
The subgraph of the matches of a search and what they are connected to. Its rows name every id once, its edges are the
relationships among these ids, and so it is closed until a limit takes rows of nodes away, which leaves the edges.
-/
namespace EntityGraph

theorem SortSpec.sort_perm (spec : SortSpec) (fallback : SortSpec.Fallback) (rows : List Row) :
    (spec.sort fallback rows).Perm rows := by
  unfold sort
  dsimp only
  split
  · have unkeyed : (rows.map fun row => (spec.keys fallback row, row)).map Prod.snd = rows := by
      simp [Function.comp_def]
    have arranged := (List.mergeSort_perm (rows.map fun row => (spec.keys fallback row, row))
      fun a b => compareKeys spec.fields a.1 b.1 ≠ .gt).map Prod.snd
    rwa [unkeyed] at arranged
  · exact .refl rows

namespace Finish

/-- Sorting without limiting. -/
def uncut (finish : Finish) : Finish := { finish with limit := none }

/-- Limiting without sorting. -/
def cut (finish : Finish) (rows : List Row) : List Row :=
  match finish.limit with
  | some limit => rows.take limit
  | none => rows

theorem apply_eq (finish : Finish) (fallback : SortSpec.Fallback) (rows : List Row) :
    finish.apply fallback rows = finish.cut (finish.uncut.apply fallback rows) := rfl

theorem apply_uncut_perm (finish : Finish) (fallback : SortSpec.Fallback) (rows : List Row) :
    (finish.uncut.apply fallback rows).Perm rows := by
  simp only [apply, uncut]
  split
  · exact SortSpec.sort_perm _ fallback rows
  · exact .refl rows

theorem cut_of_fits {finish : Finish} {rows : List Row}
    (fits : ∀ limit, finish.limit = some limit → rows.length ≤ limit) : finish.cut rows = rows := by
  unfold cut
  split
  · rename_i limit present
    exact List.take_of_length_le (fits limit present)
  · rfl

theorem apply_nil (finish : Finish) (fallback : SortSpec.Fallback) : finish.apply fallback [] = [] := by
  have nothing : finish.uncut.apply fallback [] = [] := (finish.apply_uncut_perm fallback []).eq_nil
  rw [apply_eq, nothing, cut]
  split
  · exact List.take_nil
  · rfl

end Finish

namespace Store

variable {store : Store}

theorem WellFormed.get?_of_mem_ids (valid : store.WellFormed) {id : String} (listed : id ∈ store.ids) :
    ∃ entity, store.get? id = some entity ∧ entity.id = id := by
  obtain ⟨entity, member, rfl⟩ := List.mem_map.mp listed
  exact ⟨entity, valid.get?_id member, rfl⟩

theorem WellFormed.shown_rowsOf (valid : store.WellFormed) {wanted : List String}
    (listed : ∀ id ∈ wanted, id ∈ store.ids) (fields : List String) :
    List.Forall₂ (fun id row => ∃ entity, store.get? id = some entity ∧ entity.ShownAs fields row) wanted
      (store.rowsOf wanted fields) := by
  rw [rowsOf, List.forall₂_map_right_iff]
  induction wanted with
  | nil => exact .nil
  | cons id rest ih =>
    obtain ⟨entity, found, -⟩ := valid.get?_of_mem_ids (listed id List.mem_cons_self)
    rw [List.filterMap_cons, found]
    exact .cons ⟨entity, found, entity.shownAs_toRow fields⟩
      (ih fun later member => listed later (List.mem_cons_of_mem _ member))

theorem WellFormed.names_rowsOf (valid : store.WellFormed) {wanted : List String}
    (listed : ∀ id ∈ wanted, id ∈ store.ids) (fields : List String) :
    (store.rowsOf wanted fields).map (·.get? "name") = wanted.map fun id => some (.string id) := by
  symm
  rw [← List.forall₂_eq_eq_eq, List.forall₂_map_left_iff, List.forall₂_map_right_iff]
  refine (valid.shown_rowsOf listed fields).imp ?_
  rintro id row ⟨entity, found, shown⟩
  obtain ⟨-, rfl⟩ := valid.get?_eq_some_iff.mp found
  exact shown.name.symm

/-- Searches find entities only. -/
theorem WellFormed.findConnected_subset (valid : store.WellFormed) {start id : String} {depth : Nat}
    {types : List String} {direction : Direction} (found : id ∈ store.findConnected start depth types direction) :
    id ∈ store.ids := by
  obtain ⟨elsewhere, count, -, walk⟩ := ((valid.findsConnected start depth types direction).reached id).mp found
  cases walk with
  | here => exact absurd rfl elsewhere
  | next _ taken => exact (valid.steps_mem_ids taken).2

end Store

/-- The ids that a subgraph is about: the matches, then what else they are connected to. -/
def Subgraph.members (found : Subgraph) : List String :=
  found.startingNodes ++ found.connectedNodes.filter (!found.startingNodes.contains ·)

namespace NodePlan

/-- A search without matches is no exception. -/
theorem expand_eq (plan : NodePlan) (store : Store) (relations : Option (List String)) (depth : Nat)
    (matched : List String) :
    plan.expand store relations depth matched =
      let connectedNodes := connected store relations depth matched
      let ids := matched ++ connectedNodes.filter (!matched.contains ·)
      let nodes := plan.finishedRows store ids
      let edges := (store.inducedSubgraph ids).edges.map Relationship.toRow
      { nodes, edges, startingNodes := matched, connectedNodes, nodeCount := nodes.length
        edgeCount := edges.length } := by
  unfold expand
  split
  · rename_i nothing
    obtain rfl := List.isEmpty_iff.mp nothing
    have noRows : plan.finishedRows store [] = [] := plan.finish.apply_nil (attributeOf store)
    simp [connected, noRows, Store.inducedSubgraph, Subgraph.empty]
  · rfl

/-- What an expanded search has to return: the matches in store order, what they are connected to where it comes up
first, a row that shows it for each of these entities before sorting and limiting, and one for each relationship among
them. -/
structure Expands (plan : NodePlan) (context : QueryContext) (relations : Option (List String)) (depth : Nat)
    (found : Subgraph) : Prop where
  starting : found.startingNodes = context.store.ids.filter (plan.admits context)
  connected : found.connectedNodes = (found.startingNodes.flatMap fun start =>
    context.store.findConnected start depth (relations.getD []) .both).eraseDups
  reached : ∀ id, id ∈ found.connectedNodes ↔ ∃ start ∈ found.startingNodes, id ≠ start ∧
    ∃ count ≤ depth, Walk (context.store.Steps (relations.getD []) .both) start count id
  once : found.members.Nodup
  names : (context.store.rowsOf found.members plan.returnFields).map (·.get? "name") =
    found.members.map fun id => some (.string id)
  rows : List.Forall₂ (fun id row => ∃ entity, context.store.get? id = some entity ∧
    entity.ShownAs plan.returnFields row) found.members (context.store.rowsOf found.members plan.returnFields)
  nodes : found.nodes =
    plan.finish.apply (attributeOf context.store) (context.store.rowsOf found.members plan.returnFields)
  edges : found.edges = (context.store.relationships.filter fun relationship =>
    found.members.contains relationship.source && found.members.contains relationship.target).map Relationship.toRow
  shows : List.Forall₂ Relationship.ShownAs (context.store.relationships.filter fun relationship =>
    found.members.contains relationship.source && found.members.contains relationship.target) found.edges
  nodeCount : found.nodeCount = found.nodes.length
  edgeCount : found.edgeCount = found.edges.length
  nothing : found.startingNodes = [] → found = ⟨[], [], [], [], 0, 0⟩

variable {plan : NodePlan} {context : QueryContext} {relations : Option (List String)} {depth : Nat}

theorem execute_expand (plan : NodePlan) (expanded : plan.mode = .expand relations depth) :
    plan.execute context = .subgraph (plan.expand context.store relations depth (plan.candidates context)) := by
  rw [execute, expanded]

theorem mem_connected (valid : context.store.WellFormed) {matched : List String} {id : String} :
    id ∈ connected context.store relations depth matched ↔ ∃ start ∈ matched, id ≠ start ∧
      ∃ count ≤ depth, Walk (context.store.Steps (relations.getD []) .both) start count id := by
  rw [connected, List.mem_eraseDups, List.mem_flatMap]
  exact exists_congr fun start => and_congr_right fun _ => (valid.findsConnected start depth _ .both).reached id

theorem expand_expands (valid : context.store.WellFormed) :
    plan.Expands context relations depth (plan.expand context.store relations depth (plan.candidates context)) := by
  have nothing : plan.candidates context = [] →
      plan.expand context.store relations depth (plan.candidates context) = ⟨[], [], [], [], 0, 0⟩ := by
    intro unmatched
    rw [unmatched]
    rfl
  have matches_eq := plan.candidates_eq context
  rw [expand_eq] at nothing ⊢
  generalize plan.candidates context = matched at *
  let others := (connected context.store relations depth matched).filter (!matched.contains ·)
  have listed : ∀ id ∈ matched ++ others, id ∈ context.store.ids := by
    intro id member
    rcases List.mem_append.mp member with old | new
    · rw [matches_eq] at old
      exact (List.mem_filter.mp old).1
    · have found := List.mem_eraseDups.mp (List.mem_filter.mp new).1
      obtain ⟨start, -, reached⟩ := List.mem_flatMap.mp found
      exact valid.findConnected_subset reached
  have once : (matched ++ others).Nodup := by
    rw [List.nodup_append]
    refine ⟨?_, (nodup_eraseDups _).filter _, ?_⟩
    · rw [matches_eq]
      exact valid.nodup_ids.filter _
    · rintro id old _ new rfl
      simpa [old] using (List.mem_filter.mp new).2
  exact {
    starting := matches_eq
    connected := rfl
    reached := fun _ => mem_connected valid
    once
    names := valid.names_rowsOf listed plan.returnFields
    rows := valid.shown_rowsOf listed plan.returnFields
    nodes := rfl
    edges := by
      dsimp only
      rw [valid.inducedSubgraph_eq]
      rfl
    shows := by
      dsimp only
      rw [valid.inducedSubgraph_eq, List.forall₂_map_right_iff]
      exact List.forall₂_same.mpr fun relationship _ => relationship.shownAs_toRow
    nodeCount := rfl
    edgeCount := rfl
    nothing }

/-- In every store, with every provider and whatever the filters, an expanded search returns exactly the subgraph of
its matches and what they are connected to. -/
theorem expansion_exact (config : StoreConfig) (commands : List Command) (provider : Option EmbeddingProvider)
    (plan : NodePlan) (relations : Option (List String)) (depth : Nat) (expanded : plan.mode = .expand relations depth) :
    ∃ found, plan.execute ⟨Store.history config commands, provider⟩ = .subgraph found ∧
      plan.Expands ⟨Store.history config commands, provider⟩ relations depth found := by
  exact ⟨_, plan.execute_expand expanded, expand_expands (Store.history_wellFormed config commands)⟩

/-- Two matches that are connected to each other by parallel relationships, one of them to itself and to a third
entity. -/
def overlapping : List Command := [
  .edit (.upsert ⟨0, 0⟩ "a" "Node" .empty none), .edit (.upsert ⟨0, 0⟩ "b" "Node" .empty none),
  .edit (.upsert ⟨0, 0⟩ "c" "Leaf" .empty none), .edit (.relate ⟨⟨1⟩, ⟨0, 0⟩⟩ "a" "b" "knows" .empty 1),
  .edit (.relate ⟨⟨2⟩, ⟨0, 0⟩⟩ "a" "b" "likes" .empty 1), .edit (.relate ⟨⟨3⟩, ⟨0, 0⟩⟩ "b" "b" "knows" .empty 1),
  .edit (.relate ⟨⟨4⟩, ⟨0, 0⟩⟩ "b" "c" "knows" .empty 1)]

theorem expansion_exact_overlapping :
    let plan : NodePlan := ⟨[.type "Node"], .expand none 1, ["type"], ⟨none, some 2⟩⟩
    ∃ found, plan.execute ⟨Store.history {} overlapping, none⟩ = .subgraph found ∧
      found.startingNodes = ["a", "b"] ∧ found.connectedNodes = ["b", "c", "a"] ∧ found.members = ["a", "b", "c"] ∧
      found.nodeCount = 2 ∧ found.edgeCount = 4 := by
  intro plan
  obtain ⟨found, executed, expands⟩ := expansion_exact {} overlapping none plan none 1 rfl
  have starting : found.startingNodes = ["a", "b"] := expands.starting.trans (by decide +kernel)
  have connectedNodes : found.connectedNodes = ["b", "c", "a"] := by
    rw [expands.connected, starting]
    decide +kernel
  have members : found.members = ["a", "b", "c"] := by
    rw [Subgraph.members, starting, connectedNodes]
    rfl
  refine ⟨found, executed, starting, connectedNodes, members, ?_, ?_⟩
  · rw [expands.nodeCount, expands.nodes, members]
    rfl
  · rw [expands.edgeCount, expands.edges, members, List.length_map]
    decide +kernel

end NodePlan

namespace Subgraph

/-- Some row of a node names an id. -/
def Names (found : Subgraph) (id : String) : Prop := ∃ row ∈ found.nodes, row.get? "name" = some (.string id)

/-- Both ends of every edge are named by rows of nodes. -/
def Closed (found : Subgraph) : Prop :=
  ∀ edge ∈ found.edges, ∀ key ∈ ["source", "target"], ∃ id, edge.get? key = some (.string id) ∧ found.Names id

theorem Closed.of_eq {found whole : Subgraph} (closed : whole.Closed) (edges : found.edges = whole.edges)
    (nodes : found.nodes = whole.nodes) : found.Closed := by
  intro edge member key side
  rw [edges] at member
  obtain ⟨id, ending, row, present, name⟩ := closed edge member key side
  exact ⟨id, ending, row, nodes ▸ present, name⟩

end Subgraph

namespace NodePlan

variable {plan : NodePlan} {context : QueryContext} {relations : Option (List String)} {depth : Nat} {found : Subgraph}

def uncut (plan : NodePlan) : NodePlan := { plan with finish := plan.finish.uncut }

theorem Expands.closed (expands : plan.Expands context relations depth found)
    (complete : ∀ row ∈ context.store.rowsOf found.members plan.returnFields, row ∈ found.nodes) : found.Closed := by
  have named {id : String} (listed : id ∈ found.members) : found.Names id := by
    have shown : some (.string id) ∈ found.members.map fun id => some (Json.string id) := List.mem_map_of_mem listed
    rw [← expands.names] at shown
    obtain ⟨row, present, name⟩ := List.mem_map.mp shown
    exact ⟨row, complete row present, name⟩
  intro edge member key side
  rw [expands.edges] at member
  obtain ⟨relationship, kept, rfl⟩ := List.mem_map.mp member
  obtain ⟨source, target⟩ := Bool.and_eq_true_iff.mp (List.mem_filter.mp kept).2
  rcases List.mem_pair.mp side with rfl | rfl
  · exact ⟨relationship.source, rfl, named (List.contains_iff_mem.mp source)⟩
  · exact ⟨relationship.target, rfl, named (List.contains_iff_mem.mp target)⟩

theorem uncut_closed (plan : NodePlan) (context : QueryContext) (relations : Option (List String)) (depth : Nat)
    (valid : context.store.WellFormed) :
    (plan.uncut.expand context.store relations depth (plan.candidates context)).Closed := by
  have expands : plan.uncut.Expands context relations depth
      (plan.uncut.expand context.store relations depth (plan.candidates context)) := expand_expands valid
  apply expands.closed
  intro row present
  rw [expands.nodes]
  exact (plan.finish.apply_uncut_perm _ _).mem_iff.mpr present

/-- A limit takes away rows of nodes and nothing else. -/
theorem expand_uncut (plan : NodePlan) (store : Store) (relations : Option (List String)) (depth : Nat)
    (matched : List String) :
    (plan.expand store relations depth matched).edges = (plan.uncut.expand store relations depth matched).edges ∧
      (plan.expand store relations depth matched).nodes =
        plan.finish.cut (plan.uncut.expand store relations depth matched).nodes := by
  rw [expand_eq, expand_eq]
  exact ⟨rfl, plan.finish.apply_eq _ _⟩

theorem uncut_nodes_length (plan : NodePlan) (store : Store) (matched : List String) :
    (plan.uncut.expand store relations depth matched).nodes.length =
      (store.rowsOf (plan.uncut.expand store relations depth matched).members plan.returnFields).length := by
  rw [expand_eq]
  exact (plan.finish.apply_uncut_perm _ _).length_eq

/-- In every store, an expanded search returns all edges of a closed subgraph, whatever its filters and its order, and
of the rows of that subgraph as many as its limit allows. So what it returns is closed if there is no limit, or the
limit takes no row away. -/
theorem expansion_closed (config : StoreConfig) (commands : List Command) (provider : Option EmbeddingProvider)
    (plan : NodePlan) (relations : Option (List String)) (depth : Nat) (expanded : plan.mode = .expand relations depth) :
    ∃ found whole, plan.execute ⟨Store.history config commands, provider⟩ = .subgraph found ∧
      plan.uncut.execute ⟨Store.history config commands, provider⟩ = .subgraph whole ∧
      whole.Closed ∧ found.edges = whole.edges ∧ found.nodes = plan.finish.cut whole.nodes ∧
      ((∀ limit, plan.finish.limit = some limit → whole.nodes.length ≤ limit) → found.Closed) := by
  have closed := plan.uncut_closed ⟨Store.history config commands, provider⟩ relations depth
    (Store.history_wellFormed config commands)
  obtain ⟨edges, nodes⟩ := plan.expand_uncut (Store.history config commands) relations depth
    (plan.candidates ⟨Store.history config commands, provider⟩)
  exact ⟨_, _, plan.execute_expand expanded, plan.uncut.execute_expand expanded, closed, edges, nodes,
    fun fits => closed.of_eq edges (nodes.trans (Finish.cut_of_fits fits))⟩

theorem expansion_closed_overlapping :
    let plan : NodePlan := ⟨[.type "Node"], .expand none 1, ["type"], ⟨some ⟨[⟨"name", true⟩]⟩, some 3⟩⟩
    plan.mode = .expand none 1 ∧ ∃ found, plan.execute ⟨Store.history {} overlapping, none⟩ = .subgraph found ∧
      found.edges.length = 4 ∧ found.Closed := by
  intro plan
  obtain ⟨found, whole, executed, uncut, -, edges, -, closed⟩ := expansion_closed {} overlapping none plan none 1 rfl
  obtain rfl := Results.subgraph.inj uncut
  have four : found.edges.length = 4 := by
    rw [edges]
    rfl
  refine ⟨rfl, found, executed, four, closed ?_⟩
  rintro _ ⟨⟩
  rw [uncut_nodes_length]
  decide +kernel

/-- Two entities, the first connected to the second. -/
def adjacent : List Command := [
  .edit (.upsert ⟨0, 0⟩ "a" "Node" .empty none), .edit (.upsert ⟨0, 0⟩ "b" "Node" .empty none),
  .edit (.relate ⟨⟨1⟩, ⟨0, 0⟩⟩ "a" "b" "knows" .empty 1)]

/-- A limit of one row leaves the edge to the entity whose row it takes away. -/
theorem expansion_cut_open :
    let plan : NodePlan := ⟨[.name "a"], .expand none 1, ["name"], ⟨none, some 1⟩⟩
    ∃ found, plan.execute ⟨Store.history {} adjacent, none⟩ = .subgraph found ∧ ¬ found.Closed := by
  intro plan
  refine ⟨_, rfl, fun closed => ?_⟩
  obtain ⟨id, ending, row, present, name⟩ := closed _ List.mem_cons_self "target" (by decide)
  obtain rfl : "b" = id := Json.string.inj (Option.some.inj ending)
  obtain rfl : row = [("name", .string "a")] := List.mem_singleton.mp present
  have same : "a" = "b" := Json.string.inj (Option.some.inj name)
  exact absurd same (by decide)

end NodePlan

end EntityGraph
