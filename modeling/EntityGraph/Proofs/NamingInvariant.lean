import EntityGraph.Proofs.BracketedNames
import EntityGraph.Proofs.HistoryContents
import EntityGraph.Proofs.SnapshotDecoding

/-!
Names along every run: ids are tidy, types are not blank, and people are kept without brackets, however often entities
change their type and their store is taken down and loaded again.
-/
namespace EntityGraph

/-- A tidy id, a type that is not blank and, for a person, no blanks or brackets around the id. -/
structure Entity.WellNamed (entity : Entity) : Prop where
  tidy : IsTidy entity.id
  typed : isBlankText entity.type = false
  bare : entity.type = personType → stripBrackets entity.id = entity.id

theorem Entity.WellNamed.of_same {entity origin : Entity} (named : origin.WellNamed)
    (same : entity.id = origin.id ∧ entity.type = origin.type) : entity.WellNamed := by
  obtain ⟨id, type⟩ := same
  exact ⟨id ▸ named.tidy, type ▸ named.typed, by simpa only [id, type] using named.bare⟩

theorem stripBrackets_normalId {id normal : String} (named : Store.normalId? id personType = some normal) :
    stripBrackets normal = normal := by
  simp only [Store.normalId?, if_true] at named
  split at named
  · cases named
  · cases named
    exact stripBrackets_idempotent _

/-- An edit brings in an entity under the id that suits its new type, so a new type finds the old id in order. -/
theorem Edit.brings_named (change : Edit) :
    change.Brings Entity.WellNamed (fun relationship => relationship.type ≠ "") := by
  cases change with
  | upsert now id type properties description =>
    intro typed normal named
    have bare (person : type = personType) : stripBrackets normal = normal := by
      subst person
      exact stripBrackets_normalId named
    refine ⟨⟨isTidy_normalId named, typed, bare⟩, ?_⟩
    rintro entity rfl wellNamed
    exact ⟨wellNamed.tidy, typed, bare⟩
  | relate => exact fun typed _ _ => typed
  | remove | clear => trivial

namespace Store

variable {store source : Store}

/-- Well-named entities and relationships with a type, in a well-formed store. -/
abbrev HoldsNames (store : Store) : Prop :=
  store.Holds Entity.WellNamed fun relationship => relationship.type ≠ ""

/-- A store that changes lead to from an empty one, where at any time the contents may be replaced by those of another
such store: from its snapshot, from a file that holds the text of its snapshot, or by rebuilding it. -/
inductive Grown : Store → Prop where
  | empty (config : StoreConfig) : Grown (Store.empty config)
  | change {store : Store} (mutation : Mutation) (grown : Grown store) : Grown (mutation.apply store).2
  | restore {store source : Store} (grown : Grown store) (taken : Grown source) :
    Grown (store.restore source.toSnapshot).2
  | load {store source : Store} {fresh : Nat → RelationshipId} {tree : FileTree} {path : String} {pretty : Bool}
    (grown : Grown store) (taken : Grown source) (held : tree.read? path = some (source.toSnapshot.text pretty)) :
    Grown (store.loadFrom fresh tree path).2
  | rebuild {source rebuilt : Store} (taken : Grown source) (success : ofSnapshot source.toSnapshot = .ok rebuilt) :
    Grown rebuilt

theorem Grown.run (grown : store.Grown) (mutations : List Mutation) : (Mutation.run store mutations).2.Grown := by
  induction mutations generalizing store with
  | nil => exact grown
  | cons mutation rest ih =>
    rw [Mutation.run_cons]
    exact ih (grown.change mutation)

/-- The names in a snapshot that is read from a file are those of the store that was saved there. -/
theorem HoldsNames.of_text (names : source.HoldsNames) {fresh : Nat → RelationshipId} {pretty : Bool}
    {snapshot : Snapshot} (read : Snapshot.ofText? fresh (source.toSnapshot.text pretty) = some snapshot) :
    snapshot.listing.All Entity.WellNamed fun relationship => relationship.type ≠ "" := by
  obtain ⟨entities, relationships⟩ :=
    Snapshot.ofText?_names (show Snapshot.currentVersion < 0x1_0000_0000 by decide) read
  constructor
  · intro entity listed
    obtain ⟨origin, held, same⟩ := entities entity listed
    exact (names.contents.entities origin held).of_same same
  · intro edge listed
    obtain ⟨origin, held, same⟩ := relationships edge listed
    rw [same]
    exact names.contents.relationships origin held

theorem Grown.holdsNames (grown : store.Grown) : store.HoldsNames := by
  induction grown with
  | empty config => exact .empty config
  | change mutation _ names => exact mutation_keeps Holds.edit (mutation.allows_of_all Edit.brings_named) names
  | restore _ _ names taken => exact names.restore taken.contents
  | @load store source fresh tree path pretty _ _ held names taken =>
    have brings :
        (Command.load fresh tree path).Brings Entity.WellNamed fun relationship => relationship.type ≠ "" := by
      intro text snapshot found read
      cases held.symm.trans found
      exact taken.of_text read
    exact names.command brings
  | @rebuild source rebuilt _ success taken =>
    have rebuilds : ((Command.rebuild source.toSnapshot).apply (Store.empty {})).HoldsNames :=
      (Holds.empty {}).command taken.contents
    simpa only [Command.apply, success] using rebuilds

/-- What every entity and relationship is called, and that no two people have ids that differ only by blanks and
brackets around them. -/
structure Named (store : Store) : Prop where
  ids : ∀ entity ∈ store.entities, entity.id ≠ "" ∧ trim entity.id = entity.id
  types : ∀ entity ∈ store.entities, isBlankText entity.type = false
  relations : ∀ relationship ∈ store.relationships, relationship.type ≠ ""
  people : ∀ entity ∈ store.entities, entity.type = personType → stripBrackets entity.id = entity.id
  apart : (store.entitiesOfType personType).Pairwise fun one two => ¬ ∃ core, Wraps core one.id ∧ Wraps core two.id

theorem HoldsNames.named (names : store.HoldsNames) : store.Named where
  ids entity listed := (names.contents.entities entity listed).tidy.symm
  types entity listed := (names.contents.entities entity listed).typed
  relations := names.contents.relationships
  people entity listed := (names.contents.entities entity listed).bare
  apart := by
    have bare {entity : Entity} (member : entity ∈ store.entitiesOfType personType) :
        stripBrackets entity.id = entity.id := by
      obtain ⟨listed, person⟩ := List.mem_filter.mp member
      exact (names.contents.entities entity listed).bare (beq_iff_eq.mp person)
    have distinct : store.entities.Pairwise fun one two => one.id ≠ two.id :=
      List.pairwise_map.mp names.valid.nodup_ids
    refine (distinct.sublist List.filter_sublist).imp_of_mem ?_
    intro one two onePerson twoPerson different common
    have stripped := same_core_iff.mp common
    rw [bare onePerson, bare twoPerson] at stripped
    exact different stripped

/-- Whatever is done to a store, with whatever re-typings and reloads in between, everything in it is properly named,
and no person is in it twice, with brackets and without. -/
theorem grown_named (grown : store.Grown) : store.Named := grown.holdsNames.named

/-- A bracketed document, a person of that name who becomes a document and a person again, and is merged into another
bracketed person. -/
def retyped : List Mutation :=
  [.edit (.upsert ⟨0, 0⟩ "[x]" "Document" .empty none),
   .edit (.upsert ⟨1, 0⟩ "[x]" "Person" .empty none),
   .edit (.upsert ⟨2, 0⟩ " x " "Document" .empty none),
   .edit (.upsert ⟨3, 0⟩ "[[x]]" "Person" .empty none),
   .edit (.relate ⟨⟨1⟩, ⟨4, 0⟩⟩ "[x]" "x" "DESCRIBES" .empty 1),
   .consolidate ⟨5, 0⟩ (fun _ => ⟨⟨2⟩, ⟨5, 0⟩⟩) ⟨["x"], "[ y ]", "Person", .empty, none⟩]

theorem grown_named_retyped : ∃ rebuilt,
    ofSnapshot (Mutation.run (empty {}) retyped).2.toSnapshot = .ok rebuilt ∧ rebuilt.Grown ∧ rebuilt.Named ∧
      rebuilt.entities.map (fun entity => (entity.id, entity.type)) = [("[x]", "Document"), ("y", "Person")] := by
  have grown : (Mutation.run (empty {}) retyped).2.Grown := (Grown.empty {}).run retyped
  refine ⟨(empty {}).insertAll (Mutation.run (empty {}) retyped).2.toSnapshot, rfl, .rebuild grown rfl,
    grown_named (.rebuild grown rfl), by decide +kernel⟩

end Store

end EntityGraph
