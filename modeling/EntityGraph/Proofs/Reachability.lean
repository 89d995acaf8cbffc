import EntityGraph.Proofs.ListingSearch

/-!
Bounded search finds exactly the entities within so many steps, whatever the history of the store, the direction and
the types.
-/
namespace EntityGraph.Store

variable {store : Store}

/-- Some relationship leads from one entity to another, of one of the types where any are given. -/
def Joins (store : Store) (types : List String) (source target : String) : Prop :=
  ∃ relationship ∈ store.relationships, relationship.source = source ∧ relationship.target = target ∧
    (types = [] ∨ relationship.type ∈ types)

/-- One step of a search. Against the edges it needs, where types are given, also an edge of a type ahead. -/
def Steps (store : Store) (types : List String) : Direction → String → String → Prop
  | .outgoing, node, neighbor => store.Joins types node neighbor
  | .incoming, node, neighbor => store.Joins [] neighbor node ∧ (types = [] ∨ store.Joins types node neighbor)
  | .both, node, neighbor => store.Joins types node neighbor ∨ store.Joins types neighbor node

theorem Joins.untyped {types : List String} {source target : String} (joined : store.Joins types source target) :
    store.Joins [] source target := by
  obtain ⟨relationship, member, leaves, arrives, _⟩ := joined
  exact ⟨relationship, member, leaves, arrives, .inl rfl⟩

theorem mem_successors {node neighbor : String} :
    neighbor ∈ store.listing.successors node ↔ store.Joins [] node neighbor := by
  simp [Listing.successors, listing, Joins, and_assoc]

theorem mem_predecessors {node neighbor : String} :
    neighbor ∈ store.listing.predecessors node ↔ store.Joins [] neighbor node := by
  simp [Listing.predecessors, listing, Joins, and_assoc, and_comm]

theorem mem_neighbors {direction : Direction} {node neighbor : String} :
    neighbor ∈ store.listing.neighbors direction node ↔ store.Steps [] direction node neighbor := by
  cases direction <;> simp [Listing.neighbors, Steps, mem_successors, mem_predecessors]

theorem allowsStep_iff {types : List String} {direction : Direction} {node neighbor : String} :
    store.listing.allowsStep types direction node neighbor = true ↔
      types = [] ∨ store.Joins types node neighbor ∨ direction = .both ∧ store.Joins types neighbor node := by
  have typed (source target : String) (given : types ≠ []) :
      store.listing.hasTypedEdge types source target = true ↔ store.Joins types source target := by
    simp [Listing.hasTypedEdge, Relationship.hasTypeIn, listing, Joins, given]
  by_cases given : types = []
  · simp [Listing.allowsStep, given]
  · simp [Listing.allowsStep, given, typed]

theorem mem_steps {types : List String} {direction : Direction} {node neighbor : String} :
    neighbor ∈ store.listing.steps types direction node ↔ store.Steps types direction node neighbor := by
  rw [Listing.steps, List.mem_filter, mem_neighbors, allowsStep_iff]
  by_cases given : types = []
  · simp [given]
  · cases direction with
    | outgoing =>
      simp only [Steps, given, reduceCtorEq, false_and, false_or, or_false]
      exact ⟨And.right, fun joined => ⟨joined.untyped, joined⟩⟩
    | incoming => simp [Steps, given]
    | both =>
      simp only [Steps, given, true_and, false_or]
      exact ⟨And.right, fun joined => ⟨joined.imp Joins.untyped Joins.untyped, joined⟩⟩

/-- What a bounded search from an id has to find: every other id within the depth, each once, nearer ones first. -/
structure FindsConnected (store : Store) (start : String) (maxDepth : Nat) (types : List String)
    (direction : Direction) (found : List String) : Prop where
  once : found.Nodup
  reached : ∀ id, id ∈ found ↔ id ≠ start ∧ ∃ count ≤ maxDepth, Walk (store.Steps types direction) start count id
  nearerFirst : found.Pairwise fun first second => ∃ near far, near ≤ far ∧
    IsDistance (store.Steps types direction) start near first ∧
    IsDistance (store.Steps types direction) start far second
  elsewhere : start ∉ found
  unknown : start ∉ store.ids → found = []

theorem WellFormed.joins_mem_ids (valid : store.WellFormed) {types : List String} {source target : String}
    (joined : store.Joins types source target) : source ∈ store.ids ∧ target ∈ store.ids := by
  obtain ⟨relationship, member, rfl, rfl, -⟩ := joined
  exact ⟨valid.end_mem_ids .source member, valid.end_mem_ids .target member⟩

theorem WellFormed.steps_mem_ids (valid : store.WellFormed) {types : List String} {direction : Direction}
    {node neighbor : String} (taken : store.Steps types direction node neighbor) :
    node ∈ store.ids ∧ neighbor ∈ store.ids := by
  cases direction with
  | outgoing => exact valid.joins_mem_ids taken
  | incoming => exact (valid.joins_mem_ids taken.1).symm
  | both => exact taken.elim valid.joins_mem_ids fun back => (valid.joins_mem_ids back).symm

theorem WellFormed.walk_mem_ids (valid : store.WellFormed) {types : List String} {direction : Direction}
    {start node : String} {count : Nat} (known : start ∈ store.ids)
    (walk : Walk (store.Steps types direction) start count node) : node ∈ store.ids := by
  cases walk with
  | here => exact known
  | next _ taken => exact (valid.steps_mem_ids taken).2

theorem WellFormed.findsConnected (valid : store.WellFormed) (start : String) (maxDepth : Nat) (types : List String)
    (direction : Direction) :
    store.FindsConnected start maxDepth types direction (store.findConnected start maxDepth types direction) := by
  have steps : Listed (store.listing.steps types direction) = store.Steps types direction := by
    funext node neighbor
    exact propext mem_steps
  have initial := Search.AtLevel.initial (store.listing.steps types direction) start
  rw [valid.findConnected_listing, Listing.findConnected, ← valid.contains_listing]
  split
  · rename_i present
    have reached (id : String) : id ∈ Search.levels (store.listing.steps types direction) maxDepth [start] [start] ↔
        id ≠ start ∧ ∃ count ≤ maxDepth, Walk (store.Steps types direction) start count id := by
      rw [← IsDistance.within_iff, ← steps]
      simpa using initial.mem_levels maxDepth
    constructor
    · exact initial.nodup_levels (store.listing.nodup_steps types direction) maxDepth
    · exact reached
    · exact steps ▸ initial.ordered_levels maxDepth
    · exact fun listed => ((reached start).mp listed).1 rfl
    · exact fun absent => absurd (valid.contains_iff.mp present) absent
  · rename_i absent
    have unknown : start ∉ store.ids := mt valid.contains_iff.mpr absent
    have stays {node : String} {count : Nat} (walk : Walk (store.Steps types direction) start count node) :
        node = start := by
      induction walk with
      | here => rfl
      | next _ taken ih => exact absurd (ih ▸ (valid.steps_mem_ids taken).1) unknown
    constructor
    · exact List.nodup_nil
    · intro id
      refine iff_of_false List.not_mem_nil ?_
      rintro ⟨elsewhere, _, _, walk⟩
      exact elsewhere (stays walk)
    · exact List.Pairwise.nil
    · exact List.not_mem_nil
    · exact fun _ => rfl

/-- After every history, a bounded search finds exactly the entities within its depth. -/
theorem findConnected_exact (config : StoreConfig) (commands : List Command) (start : String) (maxDepth : Nat)
    (types : List String) (direction : Direction) :
    (history config commands).FindsConnected start maxDepth types direction
      ((history config commands).findConnected start maxDepth types direction) :=
  (history_wellFormed config commands).findsConnected start maxDepth types direction

end EntityGraph.Store
