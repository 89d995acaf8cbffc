import EntityGraph.Proofs.Mutation
import EntityGraph.Proofs.SnapshotContents

/-!
Contents along every history: what holds of everything that edits bring in and that snapshots hold, taken or loaded,
holds of all contents of a store.
-/
namespace EntityGraph

def Snapshot.listing (snapshot : Snapshot) : Listing := ⟨snapshot.entities, snapshot.relationships⟩

/-- Whatever a command puts into the contents has the properties. -/
def Command.Brings (P : Entity → Prop) (Q : Relationship → Prop) : Command → Prop
  | edit change => change.Brings P Q
  | consolidate now stamps request => (Mutation.consolidate now stamps request).Allows (Edit.Brings P Q)
  | restore snapshot => snapshot.listing.All P Q
  | load fresh tree path =>
    ∀ text snapshot, tree.read? path = some text → Snapshot.ofText? fresh text = some snapshot →
      snapshot.listing.All P Q
  | rebuild snapshot => snapshot.listing.All P Q

variable {P : Entity → Prop} {Q : Relationship → Prop}

theorem Listing.All.settled {snapshot : Snapshot} (all : snapshot.listing.All P Q) : snapshot.settled.All P Q where
  entities entity member := all.entities entity (Snapshot.last_mem (Snapshot.mem_settledEntities.mp member))
  relationships edge member := all.relationships edge (List.mem_filter.mp member).1

namespace Store

variable {store : Store}

theorem Holds.restore (holds : store.Holds P Q) {snapshot : Snapshot} (brought : snapshot.listing.All P Q) :
    (store.restore snapshot).2.Holds P Q := by
  unfold Store.restore
  split
  · refine ⟨(WellFormed.empty store.config).insertAll snapshot, ?_⟩
    rw [clear, insertAll_settled]
    exact brought.settled
  · exact holds

theorem Holds.command (holds : store.Holds P Q) {command : Command} (brings : command.Brings P Q) :
    (command.apply store).Holds P Q := by
  cases command with
  | edit change => exact holds.edit brings
  | consolidate now stamps request => exact consolidate_keeps Holds.edit brings holds
  | restore snapshot => exact holds.restore brings
  | load fresh tree path =>
    simp only [Command.apply, Store.loadFrom]
    split
    · exact holds
    · rename_i text found
      split
      · exact holds
      · rename_i snapshot read
        exact holds.restore (brings text snapshot found read)
  | rebuild snapshot =>
    have restored := (Holds.empty {}).restore brings
    simp only [Command.apply, ofSnapshot]
    split
    · rename_i rebuilt success
      split at success
      · rename_i result
        cases success
        rwa [result] at restored
      · cases success
    · exact holds

theorem history_holds (config : StoreConfig) {commands : List Command}
    (brings : ∀ command ∈ commands, command.Brings P Q) : (history config commands).Holds P Q :=
  List.foldlRecOn commands _ (Holds.empty config) fun _ holds command member =>
    holds.command (brings command member)

end Store

end EntityGraph
