import EntityGraph.Proofs.NamingInvariant

/-!
Entities under their own ids. An entity is updated by its id, and joined to others by theirs, exactly if its id is
written the way in which changes write it. Stores that changes and reloads lead to hold no other ids, but a snapshot
from elsewhere may bring some in.
-/
namespace EntityGraph

theorem normalId?_eq_self_iff {id type : String} :
    Store.normalId? id type = some id ↔ IsTidy id ∧ (type = personType → stripBrackets id = id) := by
  constructor
  · intro named
    refine ⟨isTidy_normalId named, ?_⟩
    rintro rfl
    exact stripBrackets_normalId named
  · rintro ⟨⟨trimmed, full⟩, bare⟩
    by_cases person : type = personType
    · simp [Store.normalId?, trimmed, person, bare person, full]
    · simp [Store.normalId?, trimmed, person, full]

/-- The entities that would be kept under their own ids if they were given again. -/
theorem Entity.wellNamed_iff {entity : Entity} :
    entity.WellNamed ↔ isBlankText entity.type = false ∧ Store.normalId? entity.id entity.type = some entity.id := by
  rw [normalId?_eq_self_iff]
  exact ⟨fun named => ⟨named.typed, named.tidy, named.bare⟩, fun ⟨typed, tidy, bare⟩ => ⟨tidy, typed, bare⟩⟩

namespace Listing

variable {listing : Listing}

theorem upsert_answer (listing : Listing) (now : Instant) (id type : String) (properties : Properties)
    (description : Option String) : (listing.upsert now id type properties description).1 =
      if isBlankText type then none else Store.normalId? id type := by
  unfold upsert
  split
  · rfl
  · split
    · rename_i nothing
      exact nothing.symm
    · rename_i normal named
      rw [named]
      split <;> rfl

theorem upsert_self (distinct : (listing.entities.map (·.id)).Nodup) {entity : Entity}
    (listed : entity ∈ listing.entities) (named : entity.WellNamed) (now : Instant) :
    listing.upsert now entity.id entity.type .empty none = (some entity.id,
      ⟨listing.entities.map fun other => if other.id = entity.id then { entity with updatedAt := some now } else other,
        listing.relationships⟩) := by
  obtain ⟨typed, normal⟩ := Entity.wellNamed_iff.mp named
  have present : listing.contains entity.id = true :=
    List.any_eq_true.mpr ⟨entity, listed, beq_self_eq_true entity.id⟩
  have renewed : Store.updated entity now entity.type .empty none = { entity with updatedAt := some now } := by
    simp [Store.updated, Properties.merge, Properties.insertAll, Properties.empty]
  simp only [upsert, typed, normal, present, Bool.false_eq_true, if_false, if_true]
  have kept : ∀ other ∈ listing.entities,
      (if other.id = entity.id then Store.updated other now entity.type .empty none else other) =
        if other.id = entity.id then { entity with updatedAt := some now } else other := by
    intro other member
    by_cases same : other.id = entity.id
    · rw [if_pos same, if_pos same, List.inj_on_of_nodup_map distinct member listed same, renewed]
    · rw [if_neg same, if_neg same]
  rw [List.map_congr_left kept]

theorem trim_endpoint? {id name : String} (named : listing.endpoint? id = some name) : trim name = name := by
  unfold endpoint? at named
  split at named
  · cases named
    exact trim_idempotent id
  · split at named
    · cases named
      exact trim_stripBrackets (trim id)
    · cases named

/-- A relationship that is appended between two ids as they are written joins tidy ids. -/
theorem isTidy_of_relate {stamp : Stamp} {source target type : String} {properties : Properties} {weight : Double}
    (appended : (listing.relate stamp source target type properties weight).2.relationships =
      listing.relationships ++ [⟨stamp.id, source, target, type, weight, properties, stamp.time⟩]) :
    IsTidy source ∧ IsTidy target := by
  have nonempty {id : String} (shown : ¬ isBlankText id = true) : id ≠ "" := by
    rintro rfl
    exact shown rfl
  unfold relate at appended
  split at appended
  · simp at appended
  rename_i given
  rw [not_or, not_or] at given
  split at appended
  · rename_i sourceNamed targetNamed
    simp only [List.append_cancel_left_eq, List.cons.injEq, Relationship.mk.injEq, true_and, and_true] at appended
    obtain ⟨rfl, rfl⟩ := appended
    exact ⟨⟨trim_endpoint? sourceNamed, nonempty given.1⟩, ⟨trim_endpoint? targetNamed, nonempty given.2.1⟩⟩
  · simp at appended

end Listing

namespace Store

variable {store : Store}

/-- Whoever gives an entity again, under its id and with its type, updates it where it stands and changes nothing
else. -/
def UpdatesSelf (store : Store) (entity : Entity) : Prop :=
  ∀ now, ∃ after, store.upsert now entity.id entity.type .empty none = (some entity.id, after) ∧
    after.entities = store.entities.map (fun other =>
      if other.id = entity.id then { entity with updatedAt := some now } else other) ∧
    after.relationships = store.relationships ∧ after.entityCount = store.entityCount

/-- Whoever relates the ids of two entities gets a relationship between these, for any type that is not empty. -/
def JoinsExactly (store : Store) (source target : Entity) : Prop :=
  ∀ stamp type properties weight, type ≠ "" → ∃ after,
    store.addRelationship stamp source.id target.id type properties weight = (true, after) ∧
    after.entities = store.entities ∧ after.relationships = store.relationships ++
      [⟨stamp.id, source.id, target.id, type, weight, properties, stamp.time⟩]

/-- Every entity can be updated, and related to every other one, by its own id. -/
structure Addressable (store : Store) : Prop where
  updates : ∀ entity ∈ store.entities, store.UpdatesSelf entity
  joins : ∀ source ∈ store.entities, ∀ target ∈ store.entities, store.JoinsExactly source target

theorem WellFormed.contains_id (valid : store.WellFormed) {entity : Entity} (listed : entity ∈ store.entities) :
    store.listing.contains entity.id = true := by
  rw [← valid.contains_listing, valid.contains_iff]
  exact List.mem_map_of_mem listed

theorem WellFormed.updatesSelf_iff (valid : store.WellFormed) {entity : Entity} (listed : entity ∈ store.entities) :
    store.UpdatesSelf entity ↔ entity.WellNamed := by
  have observed (now : Instant) := valid.upsert_listing now entity.id entity.type .empty none
  constructor
  · intro updates
    obtain ⟨after, answered, -⟩ := updates ⟨0, 0⟩
    have answer := congrArg Prod.fst (observed ⟨0, 0⟩)
    rw [Listing.upsert_answer, answered] at answer
    split at answer
    · cases answer
    · rename_i typed
      exact Entity.wellNamed_iff.mpr ⟨Bool.eq_false_iff.mpr typed, answer.symm⟩
  · intro named now
    have distinct : (store.listing.entities.map (·.id)).Nodup := valid.nodup_ids
    have contents := (observed now).trans (Listing.upsert_self distinct listed named now)
    obtain ⟨answer, after⟩ := Prod.mk.inj contents
    have entities := congrArg Listing.entities after
    refine ⟨_, Prod.ext answer rfl, entities, congrArg Listing.relationships after, ?_⟩
    have afterValid := valid.upsert now entity.id entity.type .empty none
    rw [afterValid.entityCount_eq_length, valid.entityCount_eq_length, ids, ids, List.length_map, List.length_map]
    simpa [listing] using congrArg List.length entities

theorem WellFormed.joinsExactly_iff (valid : store.WellFormed) {source target : Entity}
    (sourceListed : source ∈ store.entities) (targetListed : target ∈ store.entities) :
    store.JoinsExactly source target ↔ IsTidy source.id ∧ IsTidy target.id := by
  have observed (stamp : Stamp) (type : String) (properties : Properties) (weight : Double) :=
    valid.relate_listing stamp source.id target.id type properties weight
  constructor
  · intro joins
    obtain ⟨after, answered, -, appended⟩ := joins ⟨⟨0⟩, ⟨0, 0⟩⟩ "LINKS" .empty 1 (by decide)
    have listed := congrArg (·.2.relationships) (observed ⟨⟨0⟩, ⟨0, 0⟩⟩ "LINKS" .empty 1)
    rw [answered] at listed
    exact Listing.isTidy_of_relate (listed.symm.trans appended)
  · rintro ⟨sourceTidy, targetTidy⟩ stamp type properties weight typed
    have contents := observed stamp type properties weight
    rw [Listing.relate_tidy sourceTidy targetTidy (valid.contains_id sourceListed) (valid.contains_id targetListed)
      stamp typed] at contents
    obtain ⟨answer, after⟩ := Prod.mk.inj contents
    exact ⟨_, Prod.ext answer rfl, congrArg Listing.entities after, congrArg Listing.relationships after⟩

/-- In every history, an entity is updated by its own id exactly if it is well named, and two entities are joined by
their own ids exactly if both ids are tidy. No other entities come up in stores that changes lead to, with reloads of
their own snapshots in between, so everything in them is addressable. -/
theorem own_ids_address (config : StoreConfig) (commands : List Command) :
    (∀ entity ∈ (history config commands).entities,
      (history config commands).UpdatesSelf entity ↔ entity.WellNamed) ∧
    (∀ source ∈ (history config commands).entities, ∀ target ∈ (history config commands).entities,
      (history config commands).JoinsExactly source target ↔ IsTidy source.id ∧ IsTidy target.id) ∧
    ∀ grown : Store, grown.Grown → grown.Addressable := by
  have valid := history_wellFormed config commands
  refine ⟨fun entity listed => valid.updatesSelf_iff listed,
    fun source sourceListed target targetListed => valid.joinsExactly_iff sourceListed targetListed, ?_⟩
  intro grown reached
  have names := reached.holdsNames
  have named (entity : Entity) (listed : entity ∈ grown.entities) : entity.WellNamed :=
    names.contents.entities entity listed
  constructor
  · intro entity listed
    exact (names.valid.updatesSelf_iff listed).mpr (named entity listed)
  · intro source sourceListed target targetListed
    exact (names.valid.joinsExactly_iff sourceListed targetListed).mpr
      ⟨(named source sourceListed).tidy, (named target targetListed).tidy⟩

/-- A snapshot with a bracketed person, an id between blanks and an id as it should be. -/
def stray : Snapshot where
  version := 1
  entities := [⟨"[John]", "Person", "", .empty, ⟨0, 0⟩, none⟩, ⟨" A ", "Node", "", .empty, ⟨0, 0⟩, none⟩,
    ⟨"B", "Node", "", .empty, ⟨0, 0⟩, none⟩]
  relationships := []

/-- The snapshot is what is read for its text and makes a store, but there the bracketed person cannot be updated, and
the entity between blanks cannot be joined to others: the one request makes a new entity, the other is refused. -/
theorem stray_not_addressable :
    (∀ fresh pretty, Snapshot.ofText? fresh (stray.text pretty) = some stray) ∧
    stray.version = Snapshot.currentVersion ∧
    let store := history {} [.rebuild stray]
    (store.upsert ⟨1, 0⟩ "[John]" "Person" .empty none).1 = some "John" ∧
    (store.upsert ⟨1, 0⟩ "[John]" "Person" .empty none).2.entityCount = store.entityCount + 1 ∧
    (store.addRelationship ⟨⟨1⟩, ⟨1, 0⟩⟩ " A " "B" "LINKS" .empty 1).1 = false ∧ ¬ store.Addressable := by
  have answer : ((history {} [.rebuild stray]).upsert ⟨1, 0⟩ "[John]" "Person" .empty none).1 = some "John" := by
    decide +kernel
  refine ⟨fun fresh pretty => ?_, rfl, answer, by decide +kernel, by decide +kernel, ?_⟩
  · have timely : stray.Timely := by decide +kernel
    rw [Snapshot.ofText?_text timely fresh (by decide) pretty, if_pos (by decide)]
    rfl
  intro addressable
  obtain ⟨after, updated, -⟩ :=
    addressable.updates ⟨"[John]", "Person", "", .empty, ⟨0, 0⟩, none⟩ (by decide +kernel) ⟨1, 0⟩
  rw [updated] at answer
  have same : "[John]" = "John" := Option.some.inj answer
  exact absurd same (by decide)

theorem own_ids_address_stray :
    let store := history {} [.rebuild stray]
    let john : Entity := ⟨"[John]", "Person", "", .empty, ⟨0, 0⟩, none⟩
    let spaced : Entity := ⟨" A ", "Node", "", .empty, ⟨0, 0⟩, none⟩
    let plain : Entity := ⟨"B", "Node", "", .empty, ⟨0, 0⟩, none⟩
    store.UpdatesSelf plain ∧ ¬ store.UpdatesSelf john ∧ ¬ store.UpdatesSelf spaced ∧
      store.JoinsExactly john plain ∧ ¬ store.JoinsExactly spaced plain ∧
      (Mutation.run (empty {}) retyped).2.Addressable := by
  intro store john spaced plain
  obtain ⟨updates, joins, grown⟩ := own_ids_address {} [.rebuild stray]
  have johnListed : john ∈ store.entities := by decide +kernel
  have spacedListed : spaced ∈ store.entities := by decide +kernel
  have plainListed : plain ∈ store.entities := by decide +kernel
  have johnTidy : IsTidy john.id := ⟨by decide +kernel, by decide⟩
  have plainTidy : IsTidy plain.id := ⟨by decide +kernel, by decide⟩
  have spacedUntidy : ¬ IsTidy spaced.id := fun tidy => absurd tidy.1 (by decide +kernel)
  have bracketed : stripBrackets john.id ≠ john.id := by decide +kernel
  refine ⟨(updates plain plainListed).mpr ⟨plainTidy, by decide +kernel, by decide⟩, ?_, ?_,
    (joins john johnListed plain plainListed).mpr ⟨johnTidy, plainTidy⟩, ?_,
    grown _ ((Grown.empty {}).run retyped)⟩
  · intro updated
    exact bracketed (((updates john johnListed).mp updated).bare rfl)
  · intro updated
    exact spacedUntidy ((updates spaced spacedListed).mp updated).tidy
  · intro joined
    exact spacedUntidy ((joins spaced spacedListed plain plainListed).mp joined).1

end Store

end EntityGraph
