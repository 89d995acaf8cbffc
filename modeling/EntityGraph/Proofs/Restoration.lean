import EntityGraph.Proofs.ConsolidationContents
import EntityGraph.Proofs.ListingSearch
import EntityGraph.Proofs.SnapshotContents

/-!
Stores with the same contents cannot be told apart, now or after any further changes. A store that is rebuilt from a
snapshot numbers its slots anew, but has the contents of the one the snapshot was taken from.

Restoring depends on the snapshot alone, whatever is wrong with it, and a snapshot that is not restored changes nothing.
-/
namespace EntityGraph

namespace Store

variable {first second store : Store}

/-- Well-formed stores with the same contents, which may keep them in different slots. -/
structure Alike (first second : Store) : Prop where
  left : first.WellFormed
  right : second.WellFormed
  contents : first.listing = second.listing

/-- Every observer answers the same of both stores, lists in the same order. -/
structure Indistinguishable (first second : Store) : Prop where
  entities : first.entities = second.entities
  relationships : first.relationships = second.relationships
  get? : ∀ id, first.get? id = second.get? id
  contains : ∀ id, first.contains id = second.contains id
  outgoing : ∀ id, first.outgoing id = second.outgoing id
  incoming : ∀ id, first.incoming id = second.incoming id
  between : ∀ source target, first.between source target = second.between source target
  entitiesOfType : ∀ type, first.entitiesOfType type = second.entitiesOfType type
  allTypes : first.allTypes = second.allTypes
  textSearch : ∀ query, first.textSearch query = second.textSearch query
  entityCount : first.entityCount = second.entityCount
  relationshipCount : first.relationshipCount = second.relationshipCount
  statistics : first.statistics = second.statistics
  inducedSubgraph : ∀ ids, first.inducedSubgraph ids = second.inducedSubgraph ids
  findConnected : ∀ start maxDepth types direction,
    first.findConnected start maxDepth types direction = second.findConnected start maxDepth types direction
  shortestPaths : ∀ source target maxHops,
    first.shortestPaths source target maxHops = second.shortestPaths source target maxHops
  toSnapshot : first.toSnapshot = second.toSnapshot

namespace Alike

theorem entities (alike : first.Alike second) : first.entities = second.entities :=
  congrArg Listing.entities alike.contents

theorem relationships (alike : first.Alike second) : first.relationships = second.relationships :=
  congrArg Listing.relationships alike.contents

theorem get? (alike : first.Alike second) (id : String) : first.get? id = second.get? id := by
  rw [alike.left.get?_listing, alike.right.get?_listing, alike.contents]

theorem contains (alike : first.Alike second) (id : String) : first.contains id = second.contains id := by
  rw [alike.left.contains_listing, alike.right.contains_listing, alike.contents]

theorem outgoing (alike : first.Alike second) (id : String) : first.outgoing id = second.outgoing id := by
  rw [alike.left.outgoing_listing, alike.right.outgoing_listing, alike.relationships]

theorem incoming (alike : first.Alike second) (id : String) : first.incoming id = second.incoming id := by
  rw [alike.left.incoming_listing, alike.right.incoming_listing, alike.relationships]

theorem statistics (alike : first.Alike second) : first.statistics = second.statistics := by
  rw [alike.left.agrees.statistics, alike.right.agrees.statistics, alike.contents]

theorem indistinguishable (alike : first.Alike second) : first.Indistinguishable second where
  entities := alike.entities
  relationships := alike.relationships
  get? := alike.get?
  contains := alike.contains
  outgoing := alike.outgoing
  incoming := alike.incoming
  between source target := by rw [between, between, alike.outgoing]
  entitiesOfType type := by rw [entitiesOfType, entitiesOfType, alike.entities]
  allTypes := by rw [allTypes, allTypes, alike.entities]
  textSearch query := by rw [textSearch, textSearch, alike.entities]
  entityCount := congrArg Statistics.entities alike.statistics
  relationshipCount := congrArg Statistics.relationships alike.statistics
  statistics := alike.statistics
  inducedSubgraph ids := by
    rw [alike.left.inducedSubgraph_eq, alike.right.inducedSubgraph_eq, alike.entities, alike.relationships]
  findConnected start maxDepth types direction := by
    rw [alike.left.findConnected_listing, alike.right.findConnected_listing, alike.contents]
  shortestPaths source target maxHops := by
    rw [alike.left.shortestPaths_listing, alike.right.shortestPaths_listing, alike.contents]
  toSnapshot := by rw [toSnapshot, toSnapshot, alike.entities, alike.relationships]

/-- The same answer from both stores, which are alike afterwards. -/
def Matched (one two : α × Store) : Prop := one.1 = two.1 ∧ one.2.Alike two.2

theorem matched_of_observed {one two : α × Store} (left : one.2.WellFormed) (right : two.2.WellFormed)
    (same : observed one = observed two) : Matched one two := by
  have answers := congrArg Prod.fst same
  have contents := congrArg Prod.snd same
  exact ⟨answers, left, right, contents⟩

theorem edit (alike : first.Alike second) (change : Edit) : Matched (change.apply first) (change.apply second) := by
  apply matched_of_observed (alike.left.edit change) (alike.right.edit change)
  rw [alike.left.edit_listing, alike.right.edit_listing, alike.contents]

theorem consolidate (alike : first.Alike second) (now : Instant) (stamps : Nat → Stamp) (request : Consolidation) :
    Matched (first.consolidate now stamps request) (second.consolidate now stamps request) := by
  apply matched_of_observed (alike.left.consolidate ..) (alike.right.consolidate ..)
  rw [alike.left.consolidate_listing, alike.right.consolidate_listing, alike.contents]

theorem mutation (alike : first.Alike second) (mutation : Mutation) :
    Matched (mutation.apply first) (mutation.apply second) := by
  cases mutation with
  | edit change =>
    obtain ⟨answer, after⟩ := alike.edit change
    exact ⟨congrArg Outcome.edited answer, after⟩
  | consolidate now stamps request =>
    obtain ⟨answer, after⟩ := alike.consolidate now stamps request
    exact ⟨congrArg Outcome.consolidated answer, after⟩

theorem run (alike : first.Alike second) (mutations : List Mutation) :
    Matched (Mutation.run first mutations) (Mutation.run second mutations) := by
  induction mutations generalizing first second with
  | nil => exact ⟨rfl, alike⟩
  | cons mutation rest ih =>
    obtain ⟨answer, after⟩ := alike.mutation mutation
    obtain ⟨answers, last⟩ := ih after
    rw [Mutation.run_cons, Mutation.run_cons]
    exact ⟨by rw [answer, answers], last⟩

end Alike

/-- An empty store that is filled from a snapshot lists what the snapshot lists, if its ids are distinct and no end of a
relationship is missing. -/
theorem insertAll_empty (config : StoreConfig) (snapshot : Snapshot) (distinct : (snapshot.entities.map (·.id)).Nodup)
    (anchored : ∀ relationship ∈ snapshot.relationships, ∀ side : End,
      side.id relationship ∈ snapshot.entities.map (·.id)) :
    ((empty config).insertAll snapshot).WellFormed ∧
      ((empty config).insertAll snapshot).listing = ⟨snapshot.entities, snapshot.relationships⟩ := by
  refine ⟨(WellFormed.empty config).insertAll snapshot, ?_⟩
  rw [insertAll_settled, Snapshot.settled_eq distinct anchored]

/-- A store that is rebuilt from a snapshot has the contents of the one it was taken from. -/
theorem WellFormed.rebuilt (valid : store.WellFormed) :
    ∃ rebuilt, ofSnapshot store.toSnapshot = .ok rebuilt ∧ store.Alike rebuilt := by
  obtain ⟨linked, contents⟩ := insertAll_empty {} store.toSnapshot valid.nodup_ids
    fun _ member side => valid.end_mem_ids side member
  exact ⟨(Store.empty {}).insertAll store.toSnapshot, rfl, valid, linked, contents.symm⟩

/-- A snapshot of a store that any history leads to can be rebuilt, and whatever changes are then made to both stores,
they answer them alike and cannot be told apart. -/
theorem rebuilt_behaves_alike (config : StoreConfig) (commands : List Command) :
    ∃ rebuilt, ofSnapshot (history config commands).toSnapshot = .ok rebuilt ∧
      (history config commands).Indistinguishable rebuilt ∧
      ∀ mutations,
        (Mutation.run (history config commands) mutations).1 = (Mutation.run rebuilt mutations).1 ∧
          (Mutation.run (history config commands) mutations).2.Indistinguishable (Mutation.run rebuilt mutations).2 := by
  obtain ⟨rebuilt, success, alike⟩ := (history_wellFormed config commands).rebuilt
  refine ⟨rebuilt, success, alike.indistinguishable, ?_⟩
  intro mutations
  obtain ⟨answers, after⟩ := alike.run mutations
  exact ⟨answers, after.indistinguishable⟩

/-- A store lists every id of a snapshot once, where it occurs first, with the last of the entities that have it, and
the relationships, in order, whose ends both occur among the entities. -/
structure Settles (store : Store) (snapshot : Snapshot) : Prop where
  ids : store.entities.map (·.id) = (snapshot.entities.map (·.id)).eraseDups
  last : ∀ entity ∈ store.entities, snapshot.entities.findRev? (·.id == entity.id) = some entity
  relationships : store.relationships = snapshot.relationships.filter fun edge =>
    snapshot.entities.any (·.id == edge.source) && snapshot.entities.any (·.id == edge.target)

theorem settles_of_listing {snapshot : Snapshot} (contents : store.listing = snapshot.settled) :
    store.Settles snapshot := by
  have entities : store.entities = Snapshot.settledEntities snapshot.entities := congrArg Listing.entities contents
  refine ⟨?_, ?_, congrArg Listing.relationships contents⟩
  · rw [entities, Snapshot.ids_settledEntities]
  · intro entity listed
    rw [entities] at listed
    exact Snapshot.mem_settledEntities.mp listed

/-- A refilled store has nothing of what was in it but the settings. -/
theorem clear_insertAll_alike (store other : Store) (snapshot : Snapshot) :
    (store.clear.insertAll snapshot).Alike (other.clear.insertAll snapshot) where
  left := (WellFormed.empty _).insertAll snapshot
  right := (WellFormed.empty _).insertAll snapshot
  contents := (insertAll_settled _ snapshot).trans (insertAll_settled _ snapshot).symm

theorem restore_current (store : Store) {snapshot : Snapshot} (current : snapshot.version = Snapshot.currentVersion) :
    store.restore snapshot = (.ok (), store.clear.insertAll snapshot) := if_pos current

theorem restore_foreign (store : Store) {snapshot : Snapshot} (foreign : snapshot.version ≠ Snapshot.currentVersion) :
    store.restore snapshot = (.error (.snapshotVersion snapshot.version Snapshot.currentVersion), store) :=
  if_neg foreign

theorem restore_cases (store : Store) (snapshot : Snapshot) :
    (∃ after, store.restore snapshot = (.ok (), after)) ∨ ∃ cause, store.restore snapshot = (.error cause, store) := by
  by_cases current : snapshot.version = Snapshot.currentVersion
  · exact .inl ⟨_, store.restore_current current⟩
  · exact .inr ⟨_, store.restore_foreign current⟩

/-- Loading restores the snapshot that a file holds, or it fails and leaves the store as it was. -/
theorem loadFrom_cases (store : Store) (fresh : Nat → RelationshipId) (tree : FileTree) (path : String) :
    (∃ text snapshot, tree.read? path = some text ∧ Snapshot.ofText? fresh text = some snapshot ∧
      store.loadFrom fresh tree path = store.restore snapshot) ∨
    (¬ ∃ text snapshot, tree.read? path = some text ∧ Snapshot.ofText? fresh text = some snapshot) ∧
      ∃ cause, store.loadFrom fresh tree path = (.error cause, store) := by
  unfold loadFrom
  cases held : tree.read? path with
  | none => exact .inr ⟨by simp, _, rfl⟩
  | some text =>
    cases decoded : Snapshot.ofText? fresh text with
    | none => exact .inr ⟨by simp [decoded], .malformedSnapshot, by simp only [decoded]⟩
    | some snapshot => exact .inl ⟨text, snapshot, rfl, decoded, by simp only [decoded]⟩

/-- Whatever a snapshot holds, restoring one of the current version succeeds and settles it, whatever was in the store
before, and another round changes nothing. Another version is refused, and whenever restoring or loading fails, the
store is what it was. -/
theorem restore_settles (store : Store) (snapshot : Snapshot) :
    (snapshot.version = 1 → ∃ restored, store.restore snapshot = (.ok (), restored) ∧
      restored.config = store.config ∧ restored.Settles snapshot ∧
      (∀ other : Store, restored.Indistinguishable (other.restore snapshot).2) ∧
      ∃ rebuilt, ofSnapshot restored.toSnapshot = .ok rebuilt ∧ restored.Indistinguishable rebuilt) ∧
    (snapshot.version ≠ 1 → store.restore snapshot = (.error (.snapshotVersion snapshot.version 1), store)) ∧
    ∀ fresh tree path after,
      (store.loadFrom fresh tree path = (.ok (), after) ↔ ∃ text loaded, tree.read? path = some text ∧
        Snapshot.ofText? fresh text = some loaded ∧ store.restore loaded = (.ok (), after)) ∧
      ∀ cause, store.loadFrom fresh tree path = (.error cause, after) → after = store := by
  refine ⟨?_, store.restore_foreign, ?_⟩
  · intro current
    have valid := (WellFormed.empty store.config).insertAll snapshot
    obtain ⟨rebuilt, success, alike⟩ := valid.rebuilt
    refine ⟨_, store.restore_current current, config_insertAll _ snapshot,
      settles_of_listing (insertAll_settled _ snapshot), ?_, rebuilt, success, alike.indistinguishable⟩
    intro other
    rw [other.restore_current current]
    exact (clear_insertAll_alike store other snapshot).indistinguishable
  · intro fresh tree path after
    obtain ⟨text, snapshot, held, decoded, restores⟩ | ⟨nothing, cause, refused⟩ :=
      store.loadFrom_cases fresh tree path
    · rw [restores]
      constructor
      · constructor
        · exact fun success => ⟨text, snapshot, held, decoded, success⟩
        · rintro ⟨other, loaded, found, read, success⟩
          cases held.symm.trans found
          cases decoded.symm.trans read
          exact success
      · intro cause failed
        obtain ⟨_, success⟩ | ⟨_, refused⟩ := store.restore_cases snapshot
        · cases success.symm.trans failed
        · cases refused.symm.trans failed
          rfl
    · rw [refused]
      constructor
      · constructor
        · nofun
        · rintro ⟨text, loaded, found, read, -⟩
          exact absurd ⟨text, loaded, found, read⟩ nothing
      · intro cause failed
        cases failed
        rfl

/-- Two ids for three entities, one of which is given again with another type, and a relationship that ends nowhere. -/
def tangled : Snapshot where
  version := 1
  entities := [⟨"b", "Draft", "", .empty, ⟨0, 0⟩, none⟩, ⟨"a", "Node", "", .empty, ⟨0, 0⟩, none⟩,
    ⟨"b", "Node", "final", .empty, ⟨1, 0⟩, none⟩]
  relationships := [⟨⟨1⟩, "a", "b", "LINKS", 1, .empty, ⟨0, 0⟩⟩, ⟨⟨2⟩, "a", "c", "LINKS", 1, .empty, ⟨0, 0⟩⟩,
    ⟨⟨3⟩, "b", "b", "LINKS", 1, .empty, ⟨0, 0⟩⟩]

/-- A store with one entity. -/
def single : Store := ((empty {}).upsert ⟨0, 0⟩ "c" "Node" .empty none).2

theorem restore_settles_tangled :
    (∃ restored, single.restore tangled = (.ok (), restored) ∧
      restored.entities.map (fun entity => (entity.id, entity.type)) = [("b", "Node"), ("a", "Node")] ∧
      restored.relationships.map (·.id) = [⟨1⟩, ⟨3⟩]) ∧
    single.restore { tangled with version := 2 } = (.error (.snapshotVersion 2 1), single) := by
  refine ⟨?_, (restore_settles single { tangled with version := 2 }).2.1 (by decide)⟩
  obtain ⟨restored, success, -, settled, -⟩ := (restore_settles single tangled).1 rfl
  refine ⟨restored, success, ?_, ?_⟩
  · have found : restored.entities.map some = ["b", "a"].map fun id => tangled.entities.findRev? (·.id == id) := by
      have ids : restored.entities.map (·.id) = ["b", "a"] := settled.ids
      rw [← ids, List.map_map]
      exact List.map_congr_left fun entity listed => (settled.last entity listed).symm
    have entities : restored.entities = [⟨"b", "Node", "final", .empty, ⟨1, 0⟩, none⟩,
        ⟨"a", "Node", "", .empty, ⟨0, 0⟩, none⟩] :=
      List.map_injective_iff.mpr (Option.some_injective Entity) found
    rw [entities]
    rfl
  · rw [settled.relationships]
    rfl

end Store

end EntityGraph
