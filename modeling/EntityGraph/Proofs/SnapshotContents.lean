import EntityGraph.Proofs.ListingRefinement
import Mathlib.Data.List.Induction

/-!
What a store holds once it is filled from a snapshot, however malformed: every id has one entity, and relationships with
a missing end are left out.
-/
namespace EntityGraph

namespace Snapshot

/-- Every id where it occurs first, with the last of the entities that have it. -/
def settledEntities (entities : List Entity) : List Entity :=
  (entities.map (·.id)).eraseDups.filterMap fun id => entities.findRev? (·.id == id)

/-- The contents that a snapshot leads to: its settled entities, and the relationships whose ends both occur. -/
def settled (snapshot : Snapshot) : Listing where
  entities := settledEntities snapshot.entities
  relationships := snapshot.relationships.filter fun edge =>
    snapshot.entities.any (·.id == edge.source) && snapshot.entities.any (·.id == edge.target)

theorem last_id {entities : List Entity} {id : String} {entity : Entity}
    (found : entities.findRev? (·.id == id) = some entity) : entity.id = id := by
  rw [List.findRev?_eq_find?_reverse] at found
  simpa using List.find?_some found

theorem last_mem {entities : List Entity} {id : String} {entity : Entity}
    (found : entities.findRev? (·.id == id) = some entity) : entity ∈ entities := by
  rw [List.findRev?_eq_find?_reverse] at found
  exact List.mem_reverse.mp (List.mem_of_find?_eq_some found)

theorem exists_last {entities : List Entity} {id : String} (occurs : id ∈ entities.map (·.id)) :
    ∃ entity, entities.findRev? (·.id == id) = some entity := by
  obtain ⟨occurrence, member, rfl⟩ := List.mem_map.mp occurs
  rw [List.findRev?_eq_find?_reverse, ← Option.isSome_iff_exists, List.find?_isSome]
  exact ⟨occurrence, List.mem_reverse.mpr member, beq_self_eq_true _⟩

theorem last_concat (entities : List Entity) (entity : Entity) (id : String) :
    (entities ++ [entity]).findRev? (·.id == id) =
      if entity.id = id then some entity else entities.findRev? (·.id == id) := by
  simp only [List.findRev?_eq_find?_reverse, List.reverse_append, List.reverse_singleton, List.singleton_append,
    List.find?_cons]
  by_cases same : entity.id = id
  · simp [same]
  · rw [if_neg same, beq_false_of_ne same]

theorem ids_settledEntities (entities : List Entity) :
    (settledEntities entities).map (·.id) = (entities.map (·.id)).eraseDups := by
  rw [settledEntities, List.map_filterMap]
  refine (List.filterMap_congr fun id listed => ?_).trans List.filterMap_some
  obtain ⟨entity, found⟩ := exists_last (List.mem_eraseDups.mp listed)
  rw [found, Option.map_some, last_id found]

theorem settledEntities_concat (entities : List Entity) (entity : Entity) :
    settledEntities (entities ++ [entity]) =
      if entity.id ∈ entities.map (·.id) then
        (settledEntities entities).map fun other => if other.id = entity.id then entity else other
      else settledEntities entities ++ [entity] := by
  rw [settledEntities, List.map_append, List.map_singleton, eraseDups_concat, List.filterMap_append]
  simp only [last_concat]
  split
  · rename_i listed
    rw [List.filterMap_nil, List.append_nil, settledEntities, List.map_filterMap]
    apply List.filterMap_congr
    intro id occurs
    obtain ⟨other, found⟩ := exists_last (List.mem_eraseDups.mp occurs)
    rw [found, Option.map_some, last_id found]
    by_cases same : entity.id = id
    · rw [if_pos same, if_pos same.symm]
    · rw [if_neg same, if_neg (Ne.symm same)]
  · rename_i fresh
    have others : ((entities.map (·.id)).eraseDups.filterMap fun id =>
        if entity.id = id then some entity else entities.findRev? (·.id == id)) = settledEntities entities := by
      apply List.filterMap_congr
      intro id occurs
      rw [if_neg]
      rintro rfl
      exact fresh (List.mem_eraseDups.mp occurs)
    rw [others]
    simp

theorem mem_settledEntities {entities : List Entity} {entity : Entity} :
    entity ∈ settledEntities entities ↔ entities.findRev? (·.id == entity.id) = some entity := by
  simp only [settledEntities, List.mem_filterMap, List.mem_eraseDups]
  constructor
  · rintro ⟨id, _, found⟩
    rwa [last_id found]
  · intro found
    exact ⟨entity.id, List.mem_map_of_mem (last_mem found), found⟩

/-- Entities with ids of their own are settled. -/
theorem settledEntities_distinct {entities : List Entity} (distinct : (entities.map (·.id)).Nodup) :
    settledEntities entities = entities := by
  rw [settledEntities, eraseDups_of_nodup distinct, List.filterMap_map]
  refine (List.filterMap_congr fun entity member => ?_).trans List.filterMap_some
  obtain ⟨last, found⟩ := exists_last (List.mem_map_of_mem member)
  rw [Function.comp_apply, found, List.inj_on_of_nodup_map distinct (last_mem found) member (last_id found)]

theorem settled_eq {snapshot : Snapshot} (distinct : (snapshot.entities.map (·.id)).Nodup)
    (anchored : ∀ relationship ∈ snapshot.relationships, ∀ side : End,
      side.id relationship ∈ snapshot.entities.map (·.id)) :
    snapshot.settled = ⟨snapshot.entities, snapshot.relationships⟩ := by
  have occurs {id : String} (listed : id ∈ snapshot.entities.map (·.id)) :
      snapshot.entities.any (·.id == id) = true := by
    simpa using listed
  rw [settled, settledEntities_distinct distinct, List.filter_eq_self.mpr]
  intro edge member
  exact Bool.and_eq_true_iff.mpr ⟨occurs (anchored edge member .source), occurs (anchored edge member .target)⟩

end Snapshot

namespace Listing

variable {listing : Listing}

/-- Puts an entity in place of the one with its id, or at the end. -/
def insert (listing : Listing) (entity : Entity) : Listing :=
  { listing with entities :=
      if listing.contains entity.id then
        listing.entities.map fun other => if other.id = entity.id then entity else other
      else listing.entities ++ [entity] }

def joins (listing : Listing) (relationship : Relationship) : Bool :=
  listing.contains relationship.source && listing.contains relationship.target

/-- Appends a relationship if both its ends are listed. -/
def link (listing : Listing) (relationship : Relationship) : Listing :=
  if listing.joins relationship then { listing with relationships := listing.relationships ++ [relationship] }
  else listing

/-- Inserts the entities of a snapshot, then its relationships. -/
def insertAll (listing : Listing) (snapshot : Snapshot) : Listing :=
  snapshot.relationships.foldl link (snapshot.entities.foldl insert listing)

theorem contains_iff {id : String} : listing.contains id = true ↔ id ∈ listing.entities.map (·.id) := by
  simp [contains]

theorem foldl_insert (entities : List Entity) :
    entities.foldl insert Listing.empty = ⟨Snapshot.settledEntities entities, []⟩ := by
  induction entities using List.reverseRecOn with
  | nil => rfl
  | append_singleton entities entity ih =>
    rw [List.foldl_append, ih, List.foldl_cons, List.foldl_nil, Snapshot.settledEntities_concat, insert]
    simp only [contains_iff, Snapshot.ids_settledEntities, List.mem_eraseDups]

theorem foldl_link (listing : Listing) (relationships : List Relationship) :
    relationships.foldl link listing =
      { listing with relationships := listing.relationships ++ relationships.filter listing.joins } := by
  induction relationships generalizing listing with
  | nil => simp
  | cons relationship rest ih =>
    rw [List.foldl_cons, ih, link]
    split
    · rename_i joined
      have same : joins { listing with relationships := listing.relationships ++ [relationship] } = listing.joins := rfl
      rw [same, List.filter_cons_of_pos joined, List.append_assoc]
      rfl
    · rename_i apart
      rw [List.filter_cons_of_neg apart]

theorem insertAll_empty (snapshot : Snapshot) : Listing.empty.insertAll snapshot = snapshot.settled := by
  have listed (id : String) : contains ⟨Snapshot.settledEntities snapshot.entities, []⟩ id =
      snapshot.entities.any (·.id == id) := by
    rw [Bool.eq_iff_iff, contains_iff, Snapshot.ids_settledEntities, List.mem_eraseDups]
    simp
  have joined : joins ⟨Snapshot.settledEntities snapshot.entities, []⟩ = fun edge =>
      snapshot.entities.any (·.id == edge.source) && snapshot.entities.any (·.id == edge.target) := by
    funext edge
    rw [joins, listed, listed]
  rw [insertAll, foldl_insert, foldl_link, joined]
  rfl

end Listing

namespace Store

variable {store : Store}

theorem WellFormed.insertEntity_listing (valid : store.WellFormed) (entity : Entity) :
    (store.insertEntity entity).listing = store.listing.insert entity := by
  have listed := valid.contains_listing entity.id
  cases known : store.handle? entity.id with
  | none =>
    have absent : store.listing.contains entity.id = false := by simpa [contains, known] using listed.symm
    rw [insertEntity_fresh known, listing, entities_append, Listing.insert, absent]
    rfl
  | some handle =>
    have present : store.listing.contains entity.id = true := by simpa [contains, known] using listed.symm
    rw [valid.insertEntity_known known, listing, valid.entities_modify known (fun _ => entity), Listing.insert, present]
    rfl

theorem WellFormed.insertRelationship_listing (valid : store.WellFormed) (relationship : Relationship) :
    (store.insertRelationship relationship).2.listing = store.listing.link relationship := by
  have joined : store.listing.joins relationship =
      ((store.handle? relationship.source).isSome && (store.handle? relationship.target).isSome) := by
    rw [Listing.joins, ← valid.contains_listing, ← valid.contains_listing]
    rfl
  unfold Store.insertRelationship Listing.link
  rw [joined]
  cases source : store.handle? relationship.source <;> cases target : store.handle? relationship.target
  case some.some first last =>
    rw [listing, relationships_attach, entities_attach]
    rfl
  all_goals rfl

/-- Insertions that each do to the contents what an insertion into the lists does. -/
theorem WellFormed.foldl_listing {insert : Store → α → Store} {insertInto : Listing → α → Listing}
    (step : ∀ {store : Store}, store.WellFormed → ∀ item,
      (insert store item).WellFormed ∧ (insert store item).listing = insertInto store.listing item)
    (valid : store.WellFormed) (items : List α) :
    (items.foldl insert store).WellFormed ∧
      (items.foldl insert store).listing = items.foldl insertInto store.listing := by
  induction items generalizing store with
  | nil => exact ⟨valid, rfl⟩
  | cons item rest ih =>
    obtain ⟨kept, same⟩ := step valid item
    rw [List.foldl_cons, List.foldl_cons, ← same]
    exact ih kept

theorem WellFormed.insertAll_listing (valid : store.WellFormed) (snapshot : Snapshot) :
    (store.insertAll snapshot).listing = store.listing.insertAll snapshot := by
  obtain ⟨populated, entities⟩ := WellFormed.foldl_listing
    (fun valid entity => ⟨valid.insertEntity entity, valid.insertEntity_listing entity⟩) valid snapshot.entities
  obtain ⟨_, relationships⟩ := WellFormed.foldl_listing
    (fun valid edge => ⟨valid.insertRelationship edge, valid.insertRelationship_listing edge⟩) populated
    snapshot.relationships
  rw [Store.insertAll, relationships, entities]
  rfl

theorem insertAll_settled (config : StoreConfig) (snapshot : Snapshot) :
    ((empty config).insertAll snapshot).listing = snapshot.settled := by
  rw [(WellFormed.empty config).insertAll_listing, listing_empty, Listing.insertAll_empty]

theorem config_insertEntity (store : Store) (entity : Entity) : (store.insertEntity entity).config = store.config := by
  simp only [Store.insertEntity]
  split <;> rfl

theorem config_insertRelationship (store : Store) (relationship : Relationship) :
    (store.insertRelationship relationship).2.config = store.config := by
  unfold Store.insertRelationship
  split <;> rfl

theorem config_insertAll (store : Store) (snapshot : Snapshot) : (store.insertAll snapshot).config = store.config := by
  have populated : (snapshot.entities.foldl Store.insertEntity store).config = store.config :=
    List.foldlRecOn (motive := fun next : Store => next.config = store.config) _ _ rfl
      fun next same entity _ => (config_insertEntity next entity).trans same
  exact List.foldlRecOn (motive := fun next : Store => next.config = store.config) _ _ populated
    fun next same edge _ => (config_insertRelationship next edge).trans same

end Store

end EntityGraph
