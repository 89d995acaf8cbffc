import EntityGraph.Proofs.SearchAgreement
import EntityGraph.Proofs.SortedItems
import EntityGraph.Query.PathPlan

/-!
The rows of a search for paths: one for each shortest path, with its edges counted and the likeness of all neighbours on
it, or of none. All paths have the same edges, so sorting by the path or its length changes nothing, and a limit keeps
the first paths that were found.
-/
namespace EntityGraph

theorem mapM_except_cases {α β ε : Type} (f : α → Except ε β) (items : List α) :
    (∃ values, items.mapM f = .ok values ∧ values.length = items.length ∧
      ∀ (i : Nat) item, items[i]? = some item → ∃ value, values[i]? = some value ∧ f item = .ok value) ∨
    ∃ error, items.mapM f = .error error ∧ ∃ item ∈ items, f item = .error error := by
  induction items with
  | nil => exact .inl ⟨[], rfl, rfl, nofun⟩
  | cons first items ih =>
    rw [List.mapM_cons]
    cases turned : f first with
    | error error => exact .inr ⟨error, rfl, first, List.mem_cons_self, turned⟩
    | ok value =>
      rcases ih with ⟨values, read, length, each⟩ | ⟨error, failed, item, listed, fails⟩
      · rw [read]
        refine .inl ⟨value :: values, rfl, congrArg (· + 1) length, ?_⟩
        intro i item found
        cases i with
        | zero =>
          obtain rfl : first = item := Option.some.inj found
          exact ⟨value, rfl, turned⟩
        | succ i => exact each i item found
      · rw [failed]
        exact .inr ⟨error, rfl, item, List.mem_cons_of_mem _ listed, fails⟩

theorem Vector32.length_neighborDots (vectors : List Vector32) :
    (neighborDots vectors).length = vectors.length - 1 := by
  rw [neighborDots, List.length_zipWith, List.length_drop]
  omega

theorem Vector32.getElem?_neighborDots {vectors : List Vector32} {i : Nat} {a b : Vector32}
    (first : vectors[i]? = some a) (second : vectors[i + 1]? = some b) :
    (neighborDots vectors)[i]? = some (dot a b) := by
  rw [neighborDots, List.getElem?_zipWith, List.getElem?_drop, Nat.add_comm, first, second]

/-- What the likeness of neighbours among some entities has to be: nothing without a provider, without neighbours, or if
the provider fails at one of the entities; otherwise the dot product of the vectors of each two neighbours. -/
structure ScoresNeighbors (provider? : Option EmbeddingProvider) (entities : List Entity) (likeness : List Single) :
    Prop where
  unprovided : provider? = none → likeness = []
  alone : entities.length < 2 → likeness = []
  failed : ∀ provider, provider? = some provider → ∀ entity ∈ entities, ∀ error,
    provider.embed entity.embeddingText = .error error → likeness = []
  scored : ∀ provider, provider? = some provider → 2 ≤ entities.length →
    (∀ entity ∈ entities, ∃ vector, provider.embed entity.embeddingText = .ok vector) →
      likeness.length + 1 = entities.length ∧
      ∀ (i : Nat) one two, entities[i]? = some one → entities[i + 1]? = some two →
        ∃ a b, provider.embed one.embeddingText = .ok a ∧ provider.embed two.embeddingText = .ok b ∧
          likeness[i]? = some (Vector32.dot a b)

namespace ScoresNeighbors

variable {provider? : Option EmbeddingProvider} {provider : EmbeddingProvider} {entities : List Entity}
  {vectors : List Vector32}

/-- There is nothing to score where a provider would fail if there were neighbours. -/
theorem nothing (fails : ∀ provider, provider? = some provider → 2 ≤ entities.length →
    ∃ entity ∈ entities, ∃ error, provider.embed entity.embeddingText = .error error) :
    ScoresNeighbors provider? entities [] where
  unprovided _ := rfl
  alone _ := rfl
  failed _ _ _ _ _ _ := rfl
  scored provider provided enough embeds := by
    obtain ⟨entity, member, error, fails⟩ := fails provider provided enough
    obtain ⟨vector, succeeds⟩ := embeds entity member
    cases fails.symm.trans succeeds

/-- The vectors of all entities score their neighbours. -/
theorem neighborDots (enough : 2 ≤ entities.length) (length : vectors.length = entities.length)
    (each : ∀ (i : Nat) entity, entities[i]? = some entity →
      ∃ vector, vectors[i]? = some vector ∧ provider.embed entity.embeddingText = .ok vector) :
    ScoresNeighbors (some provider) entities (Vector32.neighborDots vectors) where
  unprovided := nofun
  alone few := absurd few (by omega)
  failed := by
    rintro _ ⟨⟩ entity member error fails
    obtain ⟨i, found⟩ := List.mem_iff_getElem?.mp member
    obtain ⟨vector, -, succeeds⟩ := each i entity found
    cases fails.symm.trans succeeds
  scored := by
    rintro _ ⟨⟩ - -
    refine ⟨by rw [Vector32.length_neighborDots]; omega, ?_⟩
    intro i one two first second
    obtain ⟨a, before, one⟩ := each i one first
    obtain ⟨b, behind, two⟩ := each (i + 1) two second
    exact ⟨a, b, one, two, Vector32.getElem?_neighborDots before behind⟩

end ScoresNeighbors

namespace QueryContext

variable {context : QueryContext} {entities : List Entity}

theorem embedId_of_mem (valid : context.store.WellFormed) (provider : EmbeddingProvider) {entity : Entity}
    (known : entity ∈ context.store.entities) :
    context.embedId provider entity.id = provider.embed entity.embeddingText := by
  rw [embedId, valid.get?_id known]
  rfl

/-- Either there are the vectors of all entities on a path, or the provider fails at one of them. -/
theorem embedId_cases (valid : context.store.WellFormed) (provider : EmbeddingProvider)
    (known : ∀ entity ∈ entities, entity ∈ context.store.entities) :
    (∃ vectors, (entities.map (·.id)).mapM (context.embedId provider) = .ok vectors ∧
      vectors.length = entities.length ∧ ∀ (i : Nat) entity, entities[i]? = some entity →
        ∃ vector, vectors[i]? = some vector ∧ provider.embed entity.embeddingText = .ok vector) ∨
    ∃ error, (entities.map (·.id)).mapM (context.embedId provider) = .error error ∧
      ∃ entity ∈ entities, provider.embed entity.embeddingText = .error error := by
  rcases mapM_except_cases (context.embedId provider) (entities.map (·.id)) with
    ⟨vectors, embedded, length, each⟩ | ⟨error, failed, _, listed, fails⟩
  · refine .inl ⟨vectors, embedded, length.trans (List.length_map _), ?_⟩
    intro i entity found
    rw [← embedId_of_mem valid provider (known entity (List.mem_of_getElem? found))]
    exact each i entity.id (by rw [List.getElem?_map, found, Option.map_some])
  · obtain ⟨entity, member, rfl⟩ := List.mem_map.mp listed
    rw [embedId_of_mem valid provider (known entity member)] at fails
    exact .inr ⟨error, failed, entity, member, fails⟩

theorem semanticCoherence_scores (valid : context.store.WellFormed)
    (known : ∀ entity ∈ entities, entity ∈ context.store.entities) :
    ScoresNeighbors context.provider entities (context.semanticCoherence (entities.map (·.id))) := by
  unfold semanticCoherence
  cases context.provider with
  | none => exact .nothing nofun
  | some provider =>
    dsimp only
    rw [List.length_map]
    split
    · rename_i few
      exact .nothing fun _ _ enough => absurd few (by omega)
    · rename_i enough
      rcases embedId_cases valid provider known with
        ⟨vectors, embedded, length, each⟩ | ⟨error, failed, entity, member, fails⟩
      · rw [embedded]
        exact .neighborDots (by omega) length each
      · rw [failed]
        apply ScoresNeighbors.nothing
        rintro _ ⟨⟩ -
        exact ⟨entity, member, error, fails⟩

end QueryContext

namespace Store

variable {store : Store} {source target : String}

/-- The answer of a search between two entities: each path once, and all with the same edges. -/
theorem WellFormed.shortestPaths_isPath (valid : store.WellFormed) (sourceKnown : source ∈ store.ids)
    (targetKnown : target ∈ store.ids) (maxHops : Nat) :
    ∃ paths edges, store.shortestPaths source target maxHops = .ok paths ∧ paths.Nodup ∧
      ∀ path ∈ paths, IsPath (store.Joins []) source target edges path := by
  have answers := valid.findsShortest source target
  by_cases same : source = target
  · subst same
    refine ⟨_, 0, answers.same rfl sourceKnown maxHops, List.nodup_singleton _, ?_⟩
    exact List.forall_mem_singleton.mpr (IsPath.zero_iff.mpr ⟨rfl, rfl⟩)
  by_cases near : ∃ distance ≤ maxHops, IsDistance (store.Joins []) source distance target
  · obtain ⟨distance, within, found⟩ := near
    obtain ⟨paths, once, all, answer⟩ := answers.within same sourceKnown targetKnown distance found
    exact ⟨paths, distance, answer maxHops within, once, fun path listed => (all path).mp listed⟩
  · obtain ⟨paths, answer, some, -⟩ := valid.shortestPaths_walks same sourceKnown targetKnown maxHops
    -- a path would be a walk within the bound, and then the distance is within it too
    have none : paths = [] := by
      by_contra nonempty
      obtain ⟨count, within, walk⟩ := some.mp nonempty
      obtain ⟨distance, shorter, found⟩ := walk.distance
      exact near ⟨distance, by omega, found⟩
    subst none
    exact ⟨[], 0, answer, List.nodup_nil, List.forall_mem_nil _⟩

theorem WellFormed.entities_of_isPath (valid : store.WellFormed) (sourceKnown : source ∈ store.ids) {edges : Nat}
    {path : List String} (along : IsPath (store.Joins []) source target edges path) :
    ∃ entities : List Entity, entities.map (·.id) = path ∧ ∀ entity ∈ entities, entity ∈ store.entities := by
  have listed : ∀ id ∈ path, id ∈ store.ids :=
    along.forall_mem sourceKnown fun _ _ taken => (valid.joins_mem_ids taken).2
  clear along
  induction path with
  | nil => exact ⟨[], rfl, List.forall_mem_nil _⟩
  | cons id path ih =>
    obtain ⟨first, rest⟩ := List.forall_mem_cons.mp listed
    obtain ⟨entity, known, rfl⟩ := List.mem_map.mp first
    obtain ⟨entities, rfl, others⟩ := ih rest
    exact ⟨entity :: entities, rfl, List.forall_mem_cons.mpr ⟨known, others⟩⟩

end Store

namespace QueryContext

variable {context : QueryContext} {source target : String} {edges : Nat} {path other : List String}

/-- What a row has to show of a path between two entities: its nodes, the number of its edges, and how alike its
neighbours are. -/
structure Shows (context : QueryContext) (source target : String) (edges : Nat) (path : List String) (row : Row) :
    Prop where
  along : IsPath (context.store.Joins []) source target edges path
  nodes : row.get? "path" = some (.array (path.map .string))
  length : row.get? "length" = some (.integer edges)
  coherence : ∃ entities likeness, entities.map (·.id) = path ∧
    (∀ entity ∈ entities, entity ∈ context.store.entities) ∧
    ScoresNeighbors context.provider entities likeness ∧
    row.get? "semantic_coherence" = some (.array (likeness.map fun single => (Value.double single.toDouble).toJson))

theorem pathRow_shows (valid : context.store.WellFormed) (sourceKnown : source ∈ context.store.ids)
    (along : IsPath (context.store.Joins []) source target edges path) :
    context.Shows source target edges path (context.pathRow path) := by
  obtain ⟨entities, rfl, known⟩ := valid.entities_of_isPath sourceKnown along
  refine ⟨along, rfl, ?_, entities, _, rfl, known, semanticCoherence_scores valid known, rfl⟩
  have counted : (entities.map (·.id)).length - 1 = edges := by
    rw [along.length]
    rfl
  rw [← counted]
  rfl

theorem keys_pathRow {spec : SortSpec} (plain : ∀ field ∈ spec.fields, field.field ≠ "semantic_coherence")
    (same : path.length = other.length) :
    spec.keys (fun _ _ => none) (context.pathRow path) = spec.keys (fun _ _ => none) (context.pathRow other) := by
  apply List.map_congr_left
  intro field listed
  by_cases nodes : field.field = "path"
  · have shown (path : List String) :
        Members.get? (context.pathRow path) "path" = some (.array (path.map .string)) := rfl
    simp only [nodes, shown, Option.some_or, SortKey.ofJson?, List.length_map, same]
  by_cases length : field.field = "length"
  · have shown (path : List String) :
        Members.get? (context.pathRow path) "length" = some (.integer (path.length - 1 : Nat)) := rfl
    simp only [length, shown, same]
  have hidden (path : List String) : Members.get? (context.pathRow path) field.field = none := by
    simp [pathRow, Members.get?, List.lookup_cons, beq_false_of_ne nodes, beq_false_of_ne length,
      beq_false_of_ne (plain field listed)]
  rw [hidden, hidden]

end QueryContext

namespace PathPlan

def uncut (plan : PathPlan) : PathPlan := { plan with finish := plan.finish.uncut }

def pathKeys (context : QueryContext) (spec : SortSpec) (path : List String) : List SortKey :=
  spec.keys (fun _ _ => none) (context.pathRow path)

/-- The rows are those of the paths that were found, sorted and limited as the paths are by the keys of their rows. -/
theorem execute_eq {plan : PathPlan} {context : QueryContext} {paths : List (List String)}
    (found : context.store.shortestPaths plan.source plan.target plan.maxHops = .ok paths) :
    plan.execute context =
      .ok (.rows ((plan.finish.keep (plan.finish.order (pathKeys context) paths)).map context.pathRow)) := by
  have rows : plan.finish.apply (fun _ _ => none) (paths.map context.pathRow) =
      (plan.finish.keep (plan.finish.order (pathKeys context) paths)).map context.pathRow :=
    Finish.apply_map fun _ _ _ _ => rfl
  rw [execute, found, ← rows]
  rfl

/-- In every store, with every provider and between any two entities, the rows are those of all shortest paths, each row
showing what it has to. Without a limit there is one for each path, and a limit keeps the first ones; unless they are
sorted by their coherence they come in the order of the paths. -/
theorem execute_shortest (config : StoreConfig) (commands : List Command) (provider : Option EmbeddingProvider)
    (plan : PathPlan) (sourceKnown : plan.source ∈ (Store.history config commands).ids)
    (targetKnown : plan.target ∈ (Store.history config commands).ids) :
    let context : QueryContext := ⟨Store.history config commands, provider⟩
    ∃ paths sorted edges, context.store.shortestPaths plan.source plan.target plan.maxHops = .ok paths ∧
      paths.Nodup ∧ sorted.Perm paths ∧
      plan.uncut.execute context = .ok (.rows (sorted.map context.pathRow)) ∧
      plan.execute context = .ok (.rows (plan.finish.cut (sorted.map context.pathRow))) ∧
      (∀ path ∈ paths, context.Shows plan.source plan.target edges path (context.pathRow path)) ∧
      ((∀ field ∈ plan.finish.sortFields, field.field ≠ "semantic_coherence") → sorted = paths) := by
  intro context
  have valid : context.store.WellFormed := Store.history_wellFormed config commands
  obtain ⟨paths, edges, found, once, along⟩ := valid.shortestPaths_isPath sourceKnown targetKnown plan.maxHops
  refine ⟨paths, plan.finish.order (pathKeys context) paths, edges, found, once, plan.finish.order_perm _ _,
    plan.uncut.execute_eq found, ?_, ?_, ?_⟩
  · rw [execute_eq found, Finish.keep_map]
  · intro path listed
    exact QueryContext.pathRow_shows valid sourceKnown (along path listed)
  · intro plain
    apply Finish.order_of_same_keys
    intro spec sort one first two second
    apply QueryContext.keys_pathRow
    · rwa [Finish.sortFields, sort] at plain
    · rw [(along one first).length, (along two second).length]

/-- Two ways between two entities, with a provider that fails at the node in the middle of the second. Sorted by falling
length the ways stay as they were found, and a limit of one keeps the first. -/
theorem execute_shortest_fork :
    let node (id : String) (description : Option String) : Command :=
      .edit (.upsert ⟨0, 0⟩ id "Node" .empty description)
    let edge (source target : String) : Command := .edit (.relate ⟨⟨1⟩, ⟨0, 0⟩⟩ source target "knows" .empty 1)
    let commands := [node "a" (some "red"), node "b" none, node "c" none, node "d" (some "blue"), edge "a" "b",
      edge "a" "c", edge "b" "d", edge "c" "d"]
    let provider : EmbeddingProvider :=
      ⟨2, fun text => if text = "c" then .error .emptyInput else .ok [.ofNat text.length, .ofNat 1]⟩
    let plan : PathPlan := ⟨"a", "d", 3, ⟨some ⟨[⟨"length", true⟩]⟩, some 1⟩⟩
    let store := Store.history {} commands
    let context : QueryContext := ⟨store, some provider⟩
    plan.source ∈ store.ids ∧ plan.target ∈ store.ids ∧
      plan.uncut.execute context = .ok (.rows [context.pathRow ["a", "b", "d"], context.pathRow ["a", "c", "d"]]) ∧
      plan.execute context = .ok (.rows [context.pathRow ["a", "b", "d"]]) ∧
      context.semanticCoherence ["a", "b", "d"] = [.ofNat 4, .ofNat 5] ∧
      context.semanticCoherence ["a", "c", "d"] = [] := by
  intro node edge commands provider plan store context
  have sourceKnown : plan.source ∈ store.ids := by decide +kernel
  have targetKnown : plan.target ∈ store.ids := by decide +kernel
  have two : context.store.shortestPaths plan.source plan.target plan.maxHops =
      .ok [["a", "b", "d"], ["a", "c", "d"]] := by decide +kernel
  obtain ⟨paths, sorted, edges, found, -, -, uncut, executed, -, plain⟩ :=
    execute_shortest {} commands (some provider) plan sourceKnown targetKnown
  have listed : sorted = [["a", "b", "d"], ["a", "c", "d"]] :=
    (plain (by decide)).trans (Except.ok.inj (found.symm.trans two))
  rw [listed] at uncut executed
  exact ⟨sourceKnown, targetKnown, uncut, executed, by decide +kernel, by decide +kernel⟩

end PathPlan

end EntityGraph
