import EntityGraph.Proofs.ListingRefinement
import EntityGraph.Proofs.QueueSearch
import EntityGraph.Proofs.Renaming

/-!
The searches over plain lists, whose nodes are ids. A store searches among positions and answers the same.
-/
namespace EntityGraph

namespace Listing

def successors (listing : Listing) (id : String) : List String :=
  (listing.relationships.filter (·.source == id)).map (·.target)

def predecessors (listing : Listing) (id : String) : List String :=
  (listing.relationships.filter (·.target == id)).map (·.source)

def neighbors (listing : Listing) (direction : Direction) (id : String) : List String :=
  let found := match direction with
    | .outgoing => listing.successors id
    | .incoming => listing.predecessors id
    | .both => listing.successors id ++ listing.predecessors id
  found.eraseDups

def hasTypedEdge (listing : Listing) (types : List String) (source target : String) : Bool :=
  listing.relationships.any fun relationship =>
    relationship.source == source && (relationship.target == target && relationship.hasTypeIn types)

def allowsStep (listing : Listing) (types : List String) (direction : Direction) (node neighbor : String) : Bool :=
  types.isEmpty || listing.hasTypedEdge types node neighbor
    || (direction == .both && listing.hasTypedEdge types neighbor node)

def steps (listing : Listing) (types : List String) (direction : Direction) (node : String) : List String :=
  (listing.neighbors direction node).filter (listing.allowsStep types direction node)

theorem nodup_steps (listing : Listing) (types : List String) (direction : Direction) (node : String) :
    (listing.steps types direction node).Nodup := (nodup_eraseDups _).filter _

def findConnected (listing : Listing) (start : String) (maxDepth : Nat) (types : List String)
    (direction : Direction) : List String :=
  if listing.contains start then Search.levels (listing.steps types direction) maxDepth [start] [start] else []

def shortestPaths (listing : Listing) (source target : String) (maxHops : Nat) :
    Except StoreError (List (List String)) :=
  if listing.contains source && listing.contains target then
    if source = target then .ok [[source]]
    else
      let layering := Layering.search (listing.neighbors .outgoing) target maxHops (Layering.start source)
      .ok (layering.shortestTo source target)
  else .error (.entitiesNotFound ([source, target].filter (!listing.contains ·)).eraseDups)

end Listing

namespace Store

variable {store : Store}

/-- An entity is at a position. -/
def Live (store : Store) (handle : Nat) : Prop := ∃ id, store.handle? id = some handle

theorem WellFormed.idAt_handle (valid : store.WellFormed) {id : String} {handle : Nat}
    (known : store.handle? id = some handle) : store.idAt handle = id :=
  idAt_of_idAt? (valid.index_iff.mp known)

theorem WellFormed.idAt_injective (valid : store.WellFormed) {first second : Nat} (one : store.Live first)
    (two : store.Live second) (same : store.idAt first = store.idAt second) : first = second := by
  obtain ⟨firstId, firstKnown⟩ := one
  obtain ⟨secondId, secondKnown⟩ := two
  rw [valid.idAt_handle firstKnown, valid.idAt_handle secondKnown] at same
  subst same
  exact Option.some.inj (firstKnown.symm.trans secondKnown)

/-- The nodes at one end of the edges that are listed at the other end of a node. -/
def across (store : Store) (near far : End) (slot : NodeSlot) : List Nat :=
  (near.edges slot).filterMap fun edge => (store.edge? edge).map far.node

theorem WellFormed.live_across (valid : store.WellFormed) (near far : End) {slot : NodeSlot} {neighbor : Nat}
    (found : neighbor ∈ store.across near far slot) : store.Live neighbor := by
  obtain ⟨_, _, reached⟩ := List.mem_filterMap.mp found
  obtain ⟨edge, live, rfl⟩ := Option.map_eq_some_iff.mp reached
  exact ⟨far.id edge.relationship, valid.end_id far live⟩

theorem WellFormed.map_across (valid : store.WellFormed) (near far : End) {id : String} {handle : Nat}
    {slot : NodeSlot} (known : store.handle? id = some handle) (live : store.node? handle = some slot) :
    (store.across near far slot).map store.idAt = (store.relationships.filter (near.id · == id)).map far.id := by
  rw [← valid.relationshipsAt_listing near known live, across, relationshipsAt, List.map_filterMap,
    List.map_filterMap]
  apply List.filterMap_congr
  intro position _
  cases found : store.edge? position with
  | none => rfl
  | some edge => simp [valid.idAt_handle (valid.end_id far found)]

theorem WellFormed.map_distinct (valid : store.WellFormed) {nodes : List Nat}
    (known : ∀ node ∈ nodes, store.Live node) :
    nodes.eraseDups.map store.idAt = (nodes.map store.idAt).eraseDups :=
  map_eraseDups nodes fun first one second two => valid.idAt_injective (known first one) (known second two)

theorem WellFormed.neighbors_listing (valid : store.WellFormed) (direction : Direction) {id : String} {handle : Nat}
    (known : store.handle? id = some handle) : (∀ neighbor ∈ store.neighbors direction handle, store.Live neighbor) ∧
      (store.neighbors direction handle).map store.idAt = store.listing.neighbors direction id := by
  obtain ⟨slot, live, _⟩ := (valid.index _ _).mp known
  have forward : ∀ neighbor ∈ store.successors slot, store.Live neighbor :=
    fun _ => valid.live_across .source .target
  have backward : ∀ neighbor ∈ store.predecessors slot, store.Live neighbor :=
    fun _ => valid.live_across .target .source
  have successors : (store.successors slot).map store.idAt = store.listing.successors id :=
    valid.map_across .source .target known live
  have predecessors : (store.predecessors slot).map store.idAt = store.listing.predecessors id :=
    valid.map_across .target .source known live
  simp only [Store.neighbors, live, Listing.neighbors, List.mem_eraseDups]
  cases direction with
  | outgoing =>
    refine ⟨forward, ?_⟩
    rw [valid.map_distinct forward, successors]
  | incoming =>
    refine ⟨backward, ?_⟩
    rw [valid.map_distinct backward, predecessors]
  | both =>
    have either : ∀ neighbor ∈ store.successors slot ++ store.predecessors slot, store.Live neighbor := by
      intro neighbor member
      rcases List.mem_append.mp member with after | before
      · exact forward neighbor after
      · exact backward neighbor before
    refine ⟨either, ?_⟩
    rw [valid.map_distinct either, List.map_append, successors, predecessors]

theorem WellFormed.renames_neighbors (valid : store.WellFormed) (direction : Direction) :
    Renames store.Live store.idAt (store.neighbors direction) (store.listing.neighbors direction) := by
  constructor
  · intro first second one two
    exact valid.idAt_injective one two
  · rintro node neighbor ⟨id, known⟩ taken
    exact (valid.neighbors_listing direction known).1 neighbor taken
  · rintro node ⟨id, known⟩
    rw [valid.idAt_handle known]
    exact (valid.neighbors_listing direction known).2

theorem WellFormed.hasTypedEdge_listing (valid : store.WellFormed) (types : List String) {sourceId targetId : String}
    {source target : Nat} (sourceKnown : store.handle? sourceId = some source)
    (targetKnown : store.handle? targetId = some target) :
    store.hasTypedEdge types source target = store.listing.hasTypedEdge types sourceId targetId := by
  obtain ⟨slot, live, _⟩ := (valid.index _ _).mp sourceKnown
  have listed := (valid.lists .source source slot live).exact
  rw [Bool.eq_iff_iff, Store.hasTypedEdge, live, Listing.hasTypedEdge]
  simp only [List.any_eq_true, Bool.and_eq_true, beq_iff_eq]
  constructor
  · intro ahead
    obtain ⟨position, member, allowed⟩ := ahead
    obtain ⟨edge, found, leaves⟩ := (listed position).mp member
    simp only [found, Bool.and_eq_true, beq_iff_eq] at allowed
    refine ⟨edge.relationship, mem_relationships.mpr ⟨position, by simp [relationshipAt?, found]⟩, ?_⟩
    exact ⟨(valid.end_iff .source sourceKnown found).mpr leaves,
      (valid.end_iff .target targetKnown found).mpr allowed.1, allowed.2⟩
  · intro ahead
    obtain ⟨relationship, member, leaves, arrives, typed⟩ := ahead
    obtain ⟨position, present⟩ := mem_relationships.mp member
    obtain ⟨edge, found, rfl⟩ := Option.map_eq_some_iff.mp present
    refine ⟨position, (listed position).mpr ⟨edge, found, (valid.end_iff .source sourceKnown found).mp leaves⟩, ?_⟩
    simp only [found, Bool.and_eq_true, beq_iff_eq]
    exact ⟨(valid.end_iff .target targetKnown found).mp arrives, typed⟩

theorem WellFormed.renames_steps (valid : store.WellFormed) (types : List String) (direction : Direction) :
    Renames store.Live store.idAt (store.steps types direction) (store.listing.steps types direction) := by
  have renames := valid.renames_neighbors direction
  constructor
  · exact renames.injective
  · intro node neighbor here taken
    exact renames.closed node neighbor here (List.mem_filter.mp taken).1
  · intro node here
    rw [Store.steps, Listing.steps, ← renames.steps node here, List.filter_map]
    congr 1
    apply List.filter_congr
    intro neighbor taken
    obtain ⟨id, known⟩ := here
    obtain ⟨neighborId, neighborKnown⟩ := renames.closed node neighbor ⟨id, known⟩ taken
    simp only [Function.comp_apply, valid.idAt_handle known, valid.idAt_handle neighborKnown, Store.allowsStep,
      Listing.allowsStep, valid.hasTypedEdge_listing types known neighborKnown,
      valid.hasTypedEdge_listing types neighborKnown known]

theorem nodup_neighbors (direction : Direction) (handle : Nat) : (store.neighbors direction handle).Nodup := by
  unfold Store.neighbors
  split
  · exact List.nodup_nil
  · exact nodup_eraseDups _

theorem nodup_steps (types : List String) (direction : Direction) (handle : Nat) :
    (store.steps types direction handle).Nodup := (nodup_neighbors direction handle).filter _

/-- The start and the nodes around it are positions, each at most once, so every one of them gets its turn. -/
theorem WellFormed.turns_suffice (valid : store.WellFormed) {start : Nat} (known : store.Live start) (maxDepth : Nat)
    (types : List String) (direction : Direction) :
    (start :: Search.levels (store.steps types direction) maxDepth [start] [start]).length ≤ store.nodes.size := by
  have initial := Search.AtLevel.initial (store.steps types direction) start
  -- Distinct positions cannot be more than there are slots.
  have distinct : (start :: Search.levels (store.steps types direction) maxDepth [start] [start]).Nodup := by
    refine List.nodup_cons.mpr ⟨?_, initial.nodup_levels (nodup_steps types direction) maxDepth⟩
    intro again
    obtain ⟨distance, beyond, _, found⟩ := (initial.mem_levels maxDepth).mp again
    have zero := found.unique (IsDistance.start_iff.mpr rfl)
    omega
  have inside : (start :: Search.levels (store.steps types direction) maxDepth [start] [start]) ⊆
      List.range store.nodes.size := by
    intro node member
    have live : store.Live node := by
      rcases List.mem_cons.mp member with rfl | found
      · exact known
      · obtain ⟨_, _, _, reached⟩ := (initial.mem_levels maxDepth).mp found
        exact (valid.renames_steps types direction).walk known reached.walk
    obtain ⟨id, named⟩ := live
    obtain ⟨slot, present, _⟩ := (valid.index _ _).mp named
    exact List.mem_range.mpr (lt_size_of_node present)
  simpa using distinct.length_le_of_subset inside

theorem WellFormed.found_levels (valid : store.WellFormed) {start : Nat} (known : store.Live start) (maxDepth : Nat)
    (types : List String) (direction : Direction) :
    ((Search.start start).run (store.steps types direction) maxDepth store.nodes.size).found =
      Search.levels (store.steps types direction) maxDepth [start] [start] := by
  have enough := valid.turns_suffice known maxDepth types direction
  rw [List.length_cons, Nat.add_comm] at enough
  have found : (Search.run (store.steps types direction) maxDepth store.nodes.size
      ⟨[start], [start].map (·, 0), []⟩).found =
        [] ++ Search.levels (store.steps types direction) maxDepth [start] [start] :=
    Search.run_levels (nodup_steps types direction) (Nat.zero_add maxDepth) enough
  exact found

theorem WellFormed.findConnected_listing (valid : store.WellFormed) (start : String) (maxDepth : Nat)
    (types : List String) (direction : Direction) :
    store.findConnected start maxDepth types direction =
      store.listing.findConnected start maxDepth types direction := by
  have listed := valid.contains_listing start
  unfold Store.findConnected Listing.findConnected
  cases known : store.handle? start with
  | none =>
    have absent : store.listing.contains start = false := by simpa [contains, known] using listed.symm
    rw [absent]
    rfl
  | some handle =>
    have present : store.listing.contains start = true := by simpa [contains, known] using listed.symm
    have here : ∀ node ∈ [handle], store.Live node := by
      intro node member
      exact ⟨start, List.mem_singleton.mp member ▸ known⟩
    have named := (valid.renames_steps types direction).levels maxDepth here here
    rw [List.map_singleton, valid.idAt_handle known] at named
    simp only [present, if_true]
    rw [valid.found_levels ⟨start, known⟩]
    exact named

theorem WellFormed.shortestPaths_listing (valid : store.WellFormed) (source target : String) (maxHops : Nat) :
    store.shortestPaths source target maxHops = store.listing.shortestPaths source target maxHops := by
  have sourceListed := valid.contains_listing source
  have targetListed := valid.contains_listing target
  have missing : [source, target].filter (!store.contains ·) =
      [source, target].filter (!store.listing.contains ·) := by
    simp only [valid.contains_listing]
  unfold Store.shortestPaths Listing.shortestPaths
  rw [← missing, ← sourceListed, ← targetListed]
  cases sourceKnown : store.handle? source with
  | none => simp [contains, sourceKnown]
  | some first =>
    cases targetKnown : store.handle? target with
    | none => simp [contains, targetKnown]
    | some last =>
      have same : first = last ↔ source = target := by
        constructor
        · intro here
          exact valid.handle_inj sourceKnown (here ▸ targetKnown)
        · intro equal
          subst equal
          exact Option.some.inj (sourceKnown.symm.trans targetKnown)
      have renames := valid.renames_neighbors .outgoing
      have sourceLive : store.Live first := ⟨source, sourceKnown⟩
      have targetLive : store.Live last := ⟨target, targetKnown⟩
      have mirrors := (Layering.Mirrors.start renames sourceLive).search renames targetLive maxHops
      have named := mirrors.shortestTo renames sourceLive targetLive
      rw [valid.idAt_handle sourceKnown, valid.idAt_handle targetKnown] at named
      simp [contains, sourceKnown, targetKnown, same, named]

end Store

end EntityGraph
