import EntityGraph.Proofs.Restoration
import EntityGraph.Proofs.TimelyContents
import Mathlib

/-!
Loading what was saved. The file that a store is saved to holds its contents, each double as its digits are read; but a
weight that is not finite is written as null, which is no weight, and then the file is no snapshot.
-/
namespace EntityGraph

theorem FileTree.read?_write? {tree written : FileTree} {path text : String}
    (success : tree.write? path text = some written) : written.read? path = some text := by
  simp only [write?, Option.bind_eq_bind, Option.bind_eq_some_iff] at success
  obtain ⟨made, -, stored⟩ := success
  split at stored
  · cases stored
  · cases stored
    simp [read?]

namespace Store

variable {store : Store} {tree saved : FileTree} {path : String}

theorem read?_saveTo (written : store.saveTo tree path = .ok saved) :
    saved.read? path = some (store.toSnapshot.text store.config.prettySnapshots) := by
  unfold saveTo at written
  split at written
  · rename_i after success
    cases written
    exact FileTree.read?_write? success
  · cases written

theorem loadFrom_saveTo (timely : store.toSnapshot.Timely) (written : store.saveTo tree path = .ok saved)
    (fresh : Nat → RelationshipId) (other : Store) :
    other.loadFrom fresh saved path =
      if ∀ relationship ∈ store.relationships, relationship.weight.isFinite = true then
        (.ok (), other.clear.insertAll (store.toSnapshot.readBack Double.reread))
      else (.error .malformedSnapshot, other) := by
  have decoded : Snapshot.ofText? fresh (store.toSnapshot.text store.config.prettySnapshots) =
      if ∀ relationship ∈ store.relationships, relationship.weight.isFinite = true then
        some (store.toSnapshot.readBack Double.reread)
      else none :=
    Snapshot.ofText?_text timely fresh (show Snapshot.currentVersion < 0x1_0000_0000 by decide) _
  have restored : other.restore (store.toSnapshot.readBack Double.reread) =
      (.ok (), other.clear.insertAll (store.toSnapshot.readBack Double.reread)) := if_pos rfl
  by_cases finite : ∀ relationship ∈ store.relationships, relationship.weight.isFinite = true
  · rw [if_pos finite] at decoded
    simp only [loadFrom, read?_saveTo written, decoded, if_pos finite, restored]
  · rw [if_neg finite] at decoded
    simp only [loadFrom, read?_saveTo written, decoded, if_neg finite]

theorem WellFormed.readBack_listing (valid : store.WellFormed) (again : Double → Double) (config : StoreConfig) :
    ((Store.empty config).insertAll (store.toSnapshot.readBack again)).listing =
      ⟨store.entities.map (Entity.readBack again), store.relationships.map (Relationship.readBack again)⟩ := by
  have sameIds : (store.entities.map (Entity.readBack again)).map (·.id) = store.ids := List.map_map
  refine (insertAll_empty config _ ?_ ?_).2
  · have distinct := valid.nodup_ids
    rwa [← sameIds] at distinct
  · -- reading back changes doubles only, so every relationship still has its ends
    intro relationship member side
    obtain ⟨original, held, rfl⟩ := List.mem_map.mp member
    have listed := valid.end_mem_ids side held
    rw [← sameIds] at listed
    cases side <;> exact listed

/-- Whatever history leads to a store that is saved: if all its weights are finite, every store that loads the file
answers success and then lists the same entities and relationships, doubles as they are read back and null for a
property that is not finite. Otherwise loading fails and changes nothing. -/
theorem load_saved (config : StoreConfig) (commands : List Command) (timely : ∀ command ∈ commands, command.Timely)
    (written : (history config commands).saveTo tree path = .ok saved) (fresh : Nat → RelationshipId) (other : Store) :
    ((∀ relationship ∈ (history config commands).relationships, relationship.weight.isFinite = true) →
      ∃ loaded, other.loadFrom fresh saved path = (.ok (), loaded) ∧ loaded.listing =
        ⟨(history config commands).entities.map (Entity.readBack Double.reread),
          (history config commands).relationships.map (Relationship.readBack Double.reread)⟩) ∧
    ((∃ relationship ∈ (history config commands).relationships, relationship.weight.isFinite = false) →
      other.loadFrom fresh saved path = (.error .malformedSnapshot, other)) := by
  have loaded := loadFrom_saveTo (history_timely timely) written fresh other
  constructor
  · intro finite
    rw [if_pos finite] at loaded
    exact ⟨_, loaded, (history_wellFormed config commands).readBack_listing Double.reread other.config⟩
  · rintro ⟨relationship, listed, lost⟩
    have notAll : ¬ ∀ relationship ∈ (history config commands).relationships, relationship.weight.isFinite = true := by
      intro finite
      rw [finite relationship listed] at lost
      cases lost
    rwa [if_neg notAll] at loaded

/-- Two entities, one of them with a property that is no number, and a relationship of a given weight. -/
def linkWith (weight : Double) : List Command :=
  [.edit (.upsert ⟨0, 0⟩ "A" "Node" (.ofList [("score", .double .nan)]) none),
   .edit (.upsert ⟨0, 0⟩ "B" "Node" .empty none),
   .edit (.relate ⟨⟨1⟩, ⟨0, 0⟩⟩ "A" "B" "LINKS" .empty weight)]

theorem linkWith_timely (weight : Double) : ∀ command ∈ linkWith weight, command.Timely := by
  have start : Instant.Valid ⟨0, 0⟩ := by decide
  simp [linkWith, Command.Timely, start]

theorem saveTo_empty (store : Store) : ∃ saved, store.saveTo .empty "g" = .ok saved := by
  have place : FilePath.ofText "g" = ["g"] := by cbv
  simp [saveTo, FileTree.write?, place, FileTree.makeDirectory?, FileTree.isDirectory, FileTree.empty]

theorem load_saved_half : ∃ saved loaded,
    (history {} (linkWith (Double.ofRatio false 1 2))).saveTo .empty "g" = .ok saved ∧
      (empty {}).loadFrom (fun _ => ⟨0⟩) saved "g" = (.ok (), loaded) ∧
      loaded.relationships.map (·.weight) = [Double.ofRatio false 1 2] ∧
      loaded.entities.map (·.properties) = [.ofList [("score", .null)], .empty] := by
  obtain ⟨saved, written⟩ := saveTo_empty (history {} (linkWith (Double.ofRatio false 1 2)))
  obtain ⟨loaded, success, contents⟩ :=
    (load_saved {} _ (linkWith_timely _) written (fun _ => ⟨0⟩) (empty {})).1 (by decide +kernel)
  have entities : loaded.entities = _ := congrArg Listing.entities contents
  have relationships : loaded.relationships = _ := congrArg Listing.relationships contents
  refine ⟨saved, loaded, written, success, ?_, ?_⟩
  · rw [relationships]
    decide +kernel
  · rw [entities]
    decide +kernel

/-- A store with a weight that is no number is saved, but the file cannot be loaded. -/
theorem load_saved_nan : ∃ saved, (history {} (linkWith .nan)).saveTo .empty "g" = .ok saved ∧
    ∀ (fresh : Nat → RelationshipId) (other : Store),
      other.loadFrom fresh saved "g" = (.error .malformedSnapshot, other) := by
  obtain ⟨saved, written⟩ := saveTo_empty (history {} (linkWith .nan))
  refine ⟨saved, written, ?_⟩
  intro fresh other
  rw [loadFrom_saveTo (history_timely (linkWith_timely .nan)) written, if_neg (by decide +kernel)]

end Store

end EntityGraph
