import EntityGraph.Proofs.StoreInvariant
import EntityGraph.Snapshot.Files
import EntityGraph.Store.Consolidation

/-!
The representation invariant along every history of a store: each operation keeps it, so it holds of every store that
commands lead to from an empty one.
-/
namespace EntityGraph

namespace Store

variable {store : Store}

theorem WellFormed.insertEntity_known (valid : store.WellFormed) {entity : Entity} {handle : Nat}
    (known : store.handle? entity.id = some handle) :
    store.insertEntity entity = store.modifyNode handle fun slot => { slot with entity } := by
  obtain ⟨slot, live, _⟩ := (valid.index _ _).mp known
  simp [Store.insertEntity, known, live, Option.filter]

theorem insertEntity_fresh {entity : Entity} (fresh : store.handle? entity.id = none) :
    store.insertEntity entity = store.append entity := by
  simp [Store.insertEntity, fresh, Store.append]

theorem WellFormed.upsert_known (valid : store.WellFormed) {now : Instant} {id type normal : String}
    {properties : Properties} {description : Option String} {handle : Nat} (typed : isBlankText type = false)
    (named : normalId? id type = some normal) (known : store.handle? normal = some handle) :
    store.upsert now id type properties description = (some normal, store.modifyNode handle fun slot =>
      { slot with entity := updated slot.entity now type properties description }) := by
  obtain ⟨slot, live, _⟩ := (valid.index _ _).mp known
  simp [Store.upsert, typed, named, known, live]

theorem upsert_fresh {now : Instant} {id type normal : String} {properties : Properties}
    {description : Option String} (typed : isBlankText type = false) (named : normalId? id type = some normal)
    (fresh : store.handle? normal = none) :
    store.upsert now id type properties description =
      (some normal, store.append ⟨normal, type, description.getD "", properties, now, none⟩) := by
  simp [Store.upsert, typed, named, fresh, insertEntity_fresh]

theorem WellFormed.remove_known (valid : store.WellFormed) {id : String} {handle : Nat}
    (known : store.handle? id = some handle) :
    ∃ slot, store.node? handle = some slot ∧ slot.entity.id = id ∧ store.remove id = (some slot.entity,
      (slot.outgoing ++ slot.incoming).foldl dropEdge (store.vacate id handle)) := by
  obtain ⟨slot, live, named⟩ := (valid.index _ _).mp known
  exact ⟨slot, live, named, by simp [Store.remove, known, live]⟩

theorem remove_unknown {id : String} (unknown : store.handle? id = none) : store.remove id = (none, store) := by
  simp [Store.remove, unknown]

theorem WellFormed.updateEntity (valid : store.WellFormed) {target : Nat} (update : Entity → Entity)
    (sameId : ∀ entity, store.entityAt? target = some entity → (update entity).id = entity.id) :
    (store.modifyNode target fun slot => { slot with entity := update slot.entity }).WellFormed := by
  apply valid.modifyNode
  · funext handle
    rw [idAt?, entityAt?_modifyNode update (fun _ => rfl), idAt?]
    split
    · rename_i here
      subst here
      cases present : store.entityAt? target with
      | none => rfl
      | some entity => simp [sameId entity present]
    · rfl
  · intro slot side
    cases side <;> rfl

theorem WellFormed.insertEntity (valid : store.WellFormed) (entity : Entity) :
    (store.insertEntity entity).WellFormed := by
  cases known : store.handle? entity.id with
  | none =>
    rw [insertEntity_fresh known]
    exact valid.append known
  | some handle =>
    rw [valid.insertEntity_known known]
    apply valid.updateEntity fun _ => entity
    intro old present
    have named := valid.index_iff.mp known
    rw [idAt?, present] at named
    exact (Option.some.inj named).symm

theorem WellFormed.upsert (valid : store.WellFormed) (now : Instant) (id type : String) (properties : Properties)
    (description : Option String) : (store.upsert now id type properties description).2.WellFormed := by
  cases typed : isBlankText type with
  | true => simpa [Store.upsert, typed] using valid
  | false =>
    cases named : normalId? id type with
    | none => simpa [Store.upsert, typed, named] using valid
    | some normal =>
      cases known : store.handle? normal with
      | none =>
        rw [upsert_fresh typed named known]
        exact valid.append known
      | some handle =>
        rw [valid.upsert_known typed named known]
        exact valid.updateEntity (updated · now type properties description) fun _ _ => rfl

theorem WellFormed.insertRelationship (valid : store.WellFormed) (relationship : Relationship) :
    (store.insertRelationship relationship).2.WellFormed := by
  unfold Store.insertRelationship
  split
  · rename_i sourceFound targetFound
    exact valid.attach sourceFound targetFound
  · exact valid

theorem WellFormed.addRelationship (valid : store.WellFormed) (stamp : Stamp) (source target type : String)
    (properties : Properties) (weight : Double) :
    (store.addRelationship stamp source target type properties weight).2.WellFormed := by
  unfold Store.addRelationship
  split
  · exact valid
  · split
    · exact valid.insertRelationship _
    · exact valid

theorem WellFormed.remove (valid : store.WellFormed) (id : String) : (store.remove id).2.WellFormed := by
  cases known : store.handle? id with
  | none =>
    rw [remove_unknown known]
    exact valid
  | some handle =>
    obtain ⟨slot, live, _, removed⟩ := valid.remove_known known
    rw [removed]
    exact valid.vacated known live

theorem WellFormed.insertAll (valid : store.WellFormed) (snapshot : Snapshot) :
    (store.insertAll snapshot).WellFormed := by
  have populated : (snapshot.entities.foldl Store.insertEntity store).WellFormed :=
    List.foldlRecOn snapshot.entities _ valid fun _ kept entity _ => kept.insertEntity entity
  exact List.foldlRecOn snapshot.relationships _ populated fun _ kept relationship _ =>
    kept.insertRelationship relationship

theorem WellFormed.restore (valid : store.WellFormed) (snapshot : Snapshot) :
    (store.restore snapshot).2.WellFormed := by
  unfold Store.restore
  split
  · exact (WellFormed.empty store.config).insertAll snapshot
  · exact valid

theorem WellFormed.loadFrom (valid : store.WellFormed) (fresh : Nat → RelationshipId) (tree : FileTree)
    (path : String) : (store.loadFrom fresh tree path).2.WellFormed := by
  unfold Store.loadFrom
  split
  · exact valid
  · split
    · exact valid
    · exact valid.restore _

theorem wellFormed_ofSnapshot {snapshot : Snapshot} {restored : Store}
    (success : ofSnapshot snapshot = .ok restored) : restored.WellFormed := by
  have valid := (WellFormed.empty {}).restore snapshot
  unfold ofSnapshot at success
  split at success
  · rename_i result
    cases success
    rwa [result] at valid
  · cases success

theorem WellFormed.recreate {state : Consolidation.Redirection} (valid : state.store.WellFormed)
    (stamps : Nat → Stamp) (relationship : Relationship) (source target : String) :
    (state.recreate stamps relationship source target).store.WellFormed :=
  valid.addRelationship _ _ _ _ _ _

theorem WellFormed.redirect {state : Consolidation.Redirection} (valid : state.store.WellFormed)
    (stamps : Nat → Stamp) (target source : String) : (state.redirect stamps target source).store.WellFormed := by
  let kept (state : Consolidation.Redirection) : Prop := state.store.WellFormed
  have arrived : kept (((state.store.incoming source).filter (·.source != target)).foldl
      (fun state edge => state.recreate stamps edge edge.source target) state) :=
    List.foldlRecOn (motive := kept) _ _ valid fun _ valid edge _ => valid.recreate stamps edge edge.source target
  exact List.foldlRecOn (motive := kept) _ _ arrived fun _ valid edge _ =>
    valid.recreate stamps edge target edge.target

theorem WellFormed.removeAll (valid : store.WellFormed) (ids : List String) :
    (Consolidation.removeAll store ids).2.WellFormed := by
  refine List.foldlRecOn (motive := fun state : List String × Store => state.2.WellFormed) ids _ valid ?_
  intro state valid id _
  have removed := valid.remove id
  dsimp only
  split <;> rename_i result <;> simpa only [result] using removed

theorem WellFormed.consolidate (valid : store.WellFormed) (now : Instant) (stamps : Nat → Stamp)
    (request : Consolidation) : (store.consolidate now stamps request).2.WellFormed := by
  have merged := valid.upsert now request.target request.type
    (request.mergedProperties (request.sources.filterMap store.get?))
    (request.mergedDescription (request.sources.filterMap store.get?))
  simp only [Store.consolidate]
  split
  · exact valid
  split
  · exact valid
  split
  · exact valid
  split
  · rename_i left result
    rwa [result] at merged
  · rename_i target store result
    rw [result] at merged
    apply WellFormed.removeAll
    exact List.foldlRecOn (motive := fun state : Consolidation.Redirection => state.store.WellFormed) _ _ merged
      fun _ valid source _ => valid.redirect stamps target source

end Store

/-- A change of the contents, with the time and the ids it is stamped with. -/
inductive Edit where
  | upsert (now : Instant) (id type : String) (properties : Properties) (description : Option String)
  | relate (stamp : Stamp) (source target type : String) (properties : Properties) (weight : Double)
  | remove (id : String)
  | clear

/-- What an edit answers. -/
inductive Answer where
  | keptUnder (id : Option String)
  | related (added : Bool)
  | removed (entity : Option Entity)
  | cleared

def Edit.apply (store : Store) : Edit → Answer × Store
  | upsert now name type properties description =>
    (store.upsert now name type properties description).map .keptUnder id
  | relate stamp source target type properties weight =>
    (store.addRelationship stamp source target type properties weight).map .related id
  | remove name => (store.remove name).map .removed id
  | clear => (.cleared, store.clear)

/-- Everything that changes a store, or puts another in its place. -/
inductive Command where
  | edit (change : Edit)
  | consolidate (now : Instant) (stamps : Nat → Stamp) (request : Consolidation)
  | restore (snapshot : Snapshot)
  | load (fresh : Nat → RelationshipId) (tree : FileTree) (path : String)
  | rebuild (snapshot : Snapshot)

/-- The store after a command, whatever it answers. -/
def Command.apply (store : Store) : Command → Store
  | edit change => (change.apply store).2
  | consolidate now stamps request => (store.consolidate now stamps request).2
  | restore snapshot => (store.restore snapshot).2
  | load fresh tree path => (store.loadFrom fresh tree path).2
  | rebuild snapshot =>
    match Store.ofSnapshot snapshot with
    | .ok restored => restored
    | .error _ => store

namespace Store

/-- The store that commands lead to from an empty one. -/
def history (config : StoreConfig) (commands : List Command) : Store := commands.foldl Command.apply (empty config)

variable {store : Store}

theorem WellFormed.edit (valid : store.WellFormed) (change : Edit) : (change.apply store).2.WellFormed := by
  cases change with
  | upsert now id type properties description => exact valid.upsert now id type properties description
  | relate stamp source target type properties weight =>
    exact valid.addRelationship stamp source target type properties weight
  | remove id => exact valid.remove id
  | clear => exact .empty store.config

theorem WellFormed.command (valid : store.WellFormed) (command : Command) : (command.apply store).WellFormed := by
  cases command with
  | edit change => exact valid.edit change
  | consolidate now stamps request => exact valid.consolidate now stamps request
  | restore snapshot => exact valid.restore snapshot
  | load fresh tree path => exact valid.loadFrom fresh tree path
  | rebuild snapshot =>
    simp only [Command.apply]
    split
    · rename_i restored success
      exact wellFormed_ofSnapshot success
    · exact valid

theorem history_wellFormed (config : StoreConfig) (commands : List Command) :
    (history config commands).WellFormed :=
  List.foldlRecOn commands _ (WellFormed.empty config) fun _ valid command _ => valid.command command

/-- In every history the slots, the index, the lists and the counts agree, and no removal lowers a count of zero. -/
theorem history_representation (config : StoreConfig) (commands : List Command) :
    (history config commands).WellFormed ∧
      (history config commands).entityCount = (history config commands).nodes.countP (·.isSome) ∧
      (history config commands).CountsRemovals := by
  have valid := history_wellFormed config commands
  exact ⟨valid, valid.entityCount_eq, valid.countsRemovals⟩

end Store

end EntityGraph
