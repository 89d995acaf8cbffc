import EntityGraph.Proofs.ListingRefinement

/-!
Whole runs of edits and consolidations. A consolidation is made of edits, so what every edit keeps is kept by every run;
in particular what holds of all contents and of everything that an edit brings in.
-/
namespace EntityGraph

/-- A change that a caller makes to the contents, with the times and ids it is stamped with. -/
inductive Mutation where
  | edit (change : Edit)
  | consolidate (now : Instant) (stamps : Nat → Stamp) (request : Consolidation)

/-- What a change answers. -/
inductive Outcome where
  | edited (answer : Answer)
  | consolidated (report : Except StoreError ConsolidationReport)

def Mutation.apply (store : Store) : Mutation → Outcome × Store
  | edit change => (change.apply store).map .edited id
  | consolidate now stamps request => (store.consolidate now stamps request).map .consolidated id

/-- The answers to a sequence of changes and the store after them. -/
def Mutation.run (store : Store) : List Mutation → List Outcome × Store
  | [] => ([], store)
  | mutation :: rest =>
    let (outcome, next) := mutation.apply store
    let (outcomes, last) := run next rest
    (outcome :: outcomes, last)

theorem Mutation.run_cons (store : Store) (first : Mutation) (rest : List Mutation) :
    run store (first :: rest) = ((first.apply store).1 :: (run (first.apply store).2 rest).1,
      (run (first.apply store).2 rest).2) := rfl

namespace Store

variable {store : Store}

/-- One removal of several: what has been removed so far, and the store without it. -/
private def removeNext (state : List String × Store) (id : String) : List String × Store :=
  (state.1 ++ ((state.2.remove id).1.map fun _ => id).toList, (state.2.remove id).2)

private theorem removeAll_eq (store : Store) (ids : List String) :
    Consolidation.removeAll store ids = ids.foldl removeNext ([], store) := by
  unfold Consolidation.removeAll
  congr 1
  funext state id
  dsimp only [removeNext]
  cases state.2.remove id with
  | mk entity after => cases entity <;> simp

private theorem foldl_removeNext (ids removed : List String) (store : Store) :
    ids.foldl removeNext (removed, store) =
      (removed ++ (ids.foldl removeNext ([], store)).1, (ids.foldl removeNext ([], store)).2) := by
  induction ids generalizing removed store with
  | nil => simp
  | cons id rest ih =>
    simp only [List.foldl_cons, removeNext, List.nil_append]
    rw [ih, ih (((store.remove id).1.map fun _ => id).toList), List.append_assoc]

theorem removeAll_cons (store : Store) (id : String) (rest : List String) :
    Consolidation.removeAll store (id :: rest) =
      (((store.remove id).1.map fun _ => id).toList ++ (Consolidation.removeAll (store.remove id).2 rest).1,
        (Consolidation.removeAll (store.remove id).2 rest).2) := by
  simp only [removeAll_eq, List.foldl_cons]
  exact foldl_removeNext rest _ _

end Store

/-- A change that is made of allowed edits only. -/
def Mutation.Allows (allowed : Edit → Prop) : Mutation → Prop
  | edit change => allowed change
  | consolidate now stamps _ =>
    (∀ id type properties description, allowed (.upsert now id type properties description)) ∧
      (∀ i source target type properties weight,
        allowed (.relate (stamps i) source target type properties weight)) ∧
      ∀ id, allowed (.remove id)

theorem Mutation.allows_of_all {allowed : Edit → Prop} (all : ∀ change, allowed change) (mutation : Mutation) :
    mutation.Allows allowed := by
  cases mutation with
  | edit change => exact all change
  | consolidate now stamps request => exact ⟨fun _ _ _ _ => all _, fun _ _ _ _ _ _ => all _, fun _ => all _⟩

namespace Store

variable {store : Store}

section Kept

variable {kept : Store → Prop} {allowed : Edit → Prop}
  (edits : ∀ {store} {change : Edit}, allowed change → kept store → kept (change.apply store).2)

include edits

theorem redirect_keeps {state : Consolidation.Redirection} {stamps : Nat → Stamp}
    (relates : ∀ i source target type properties weight,
      allowed (.relate (stamps i) source target type properties weight))
    (holds : kept state.store) (target source : String) : kept (state.redirect stamps target source).store := by
  let good (state : Consolidation.Redirection) : Prop := kept state.store
  have recreated (state : Consolidation.Redirection) (holds : good state) (edge : Relationship)
      (source target : String) : good (state.recreate stamps edge source target) :=
    edits (relates state.made source target edge.type edge.properties edge.weight) holds
  have arrived := List.foldlRecOn (motive := good) ((state.store.incoming source).filter (·.source != target))
    (fun state edge => state.recreate stamps edge edge.source target) holds
    fun state holds edge _ => recreated state holds edge edge.source target
  exact List.foldlRecOn (motive := good) _ _ arrived
    fun state holds edge _ => recreated state holds edge target edge.target

theorem removeAll_keeps (removes : ∀ id, allowed (.remove id)) (holds : kept store) (ids : List String) :
    kept (Consolidation.removeAll store ids).2 := by
  induction ids generalizing store with
  | nil => exact holds
  | cons id rest ih =>
    rw [removeAll_cons]
    exact ih (edits (removes id) holds)

theorem consolidate_keeps {now : Instant} {stamps : Nat → Stamp} {request : Consolidation}
    (allows : (Mutation.consolidate now stamps request).Allows allowed) (holds : kept store) :
    kept (store.consolidate now stamps request).2 := by
  obtain ⟨upserts, relates, removes⟩ := allows
  have merged := edits (upserts request.target request.type
    (request.mergedProperties (request.sources.filterMap store.get?))
    (request.mergedDescription (request.sources.filterMap store.get?))) holds
  simp only [Store.consolidate]
  split
  · exact holds
  split
  · exact holds
  split
  · exact holds
  split
  · rename_i left result
    simp only [Edit.apply, result] at merged
    exact merged
  · rename_i target after result
    simp only [Edit.apply, result] at merged
    apply removeAll_keeps edits removes
    exact List.foldlRecOn (motive := fun state : Consolidation.Redirection => kept state.store) _ _ merged
      fun _ holds source _ => redirect_keeps edits relates holds target source

theorem mutation_keeps {mutation : Mutation} (allows : mutation.Allows allowed) (holds : kept store) :
    kept (mutation.apply store).2 := by
  cases mutation with
  | edit change => exact edits allows holds
  | consolidate now stamps request => exact consolidate_keeps edits allows holds

theorem run_keeps {mutations : List Mutation} (allow : ∀ mutation ∈ mutations, mutation.Allows allowed)
    (holds : kept store) : kept (Mutation.run store mutations).2 := by
  induction mutations generalizing store with
  | nil => exact holds
  | cons mutation rest ih =>
    rw [Mutation.run_cons]
    exact ih (fun later member => allow later (List.mem_cons_of_mem mutation member))
      (mutation_keeps edits (allow mutation List.mem_cons_self) holds)

end Kept

end Store

/-- All entities have one property and all relationships another. -/
structure Listing.All (P : Entity → Prop) (Q : Relationship → Prop) (listing : Listing) : Prop where
  entities : ∀ entity ∈ listing.entities, P entity
  relationships : ∀ relationship ∈ listing.relationships, Q relationship

/-- Whatever an edit puts into the contents has the properties. -/
def Edit.Brings (P : Entity → Prop) (Q : Relationship → Prop) : Edit → Prop
  | upsert now id type properties description =>
    isBlankText type = false → ∀ normal, Store.normalId? id type = some normal →
      P ⟨normal, type, description.getD "", properties, now, none⟩ ∧
        ∀ entity, entity.id = normal → P entity → P (Store.updated entity now type properties description)
  | relate stamp _ _ type properties weight =>
    type ≠ "" → ∀ source target, Q ⟨stamp.id, source, target, type, weight, properties, stamp.time⟩
  | remove _ => True
  | clear => True

namespace Listing

variable {P : Entity → Prop} {Q : Relationship → Prop} {listing : Listing}

theorem All.empty : Listing.empty.All P Q := ⟨by simp [Listing.empty], by simp [Listing.empty]⟩

theorem All.upsert (all : listing.All P Q) {now : Instant} {id type : String} {properties : Properties}
    {description : Option String} (brings : (Edit.upsert now id type properties description).Brings P Q) :
    (listing.upsert now id type properties description).2.All P Q := by
  unfold Listing.upsert
  split
  · exact all
  rename_i typed
  split
  · exact all
  rename_i normal named
  obtain ⟨added, updated⟩ := brings (Bool.eq_false_iff.mpr typed) normal named
  split
  · refine ⟨?_, all.relationships⟩
    intro entity member
    obtain ⟨old, listed, rfl⟩ := List.mem_map.mp member
    split
    · rename_i same
      exact updated old same (all.entities old listed)
    · exact all.entities old listed
  · refine ⟨?_, all.relationships⟩
    intro entity member
    rcases List.mem_append.mp member with old | new
    · exact all.entities entity old
    · rw [List.mem_singleton.mp new]
      exact added

theorem All.relate (all : listing.All P Q) {stamp : Stamp} {source target type : String} {properties : Properties}
    {weight : Double} (brings : (Edit.relate stamp source target type properties weight).Brings P Q) :
    (listing.relate stamp source target type properties weight).2.All P Q := by
  unfold Listing.relate
  split
  · exact all
  rename_i allowed
  split
  · refine ⟨all.entities, ?_⟩
    intro relationship member
    rcases List.mem_append.mp member with old | new
    · exact all.relationships relationship old
    · rw [List.mem_singleton.mp new]
      simp only [not_or, String.isEmpty_iff] at allowed
      exact brings allowed.2.2 _ _
  · exact all

theorem All.remove (all : listing.All P Q) (id : String) : (listing.remove id).2.All P Q := by
  unfold Listing.remove
  split
  · exact all
  · exact ⟨fun entity member => all.entities entity (List.mem_filter.mp member).1,
      fun relationship member => all.relationships relationship (List.mem_filter.mp member).1⟩

theorem All.edit (all : listing.All P Q) {change : Edit} (brings : change.Brings P Q) :
    (change.applyTo listing).2.All P Q := by
  cases change with
  | upsert now id type properties description => exact all.upsert brings
  | relate stamp source target type properties weight => exact all.relate brings
  | remove id => exact all.remove id
  | clear => exact .empty

end Listing

/-- A well-formed store whose contents have two properties. -/
structure Store.Holds (P : Entity → Prop) (Q : Relationship → Prop) (store : Store) : Prop where
  valid : store.WellFormed
  contents : store.listing.All P Q

namespace Store

variable {P : Entity → Prop} {Q : Relationship → Prop} {store : Store}

theorem Holds.edit {change : Edit} (brings : change.Brings P Q) (holds : store.Holds P Q) :
    (change.apply store).2.Holds P Q := by
  refine ⟨holds.valid.edit change, ?_⟩
  have same := congrArg Prod.snd (holds.valid.edit_listing change)
  simp only [observed] at same
  rw [same]
  exact holds.contents.edit brings

theorem Holds.empty (config : StoreConfig) : (Store.empty config).Holds P Q := by
  refine ⟨.empty config, ?_⟩
  rw [listing_empty]
  exact .empty

theorem Holds.run {mutations : List Mutation} (allow : ∀ mutation ∈ mutations, mutation.Allows (Edit.Brings P Q))
    (holds : store.Holds P Q) : (Mutation.run store mutations).2.Holds P Q := run_keeps Holds.edit allow holds

end Store

end EntityGraph
