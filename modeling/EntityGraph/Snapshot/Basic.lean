import EntityGraph.Store.Basic
import EntityGraph.Store.Error

/-!
Snapshots: the whole contents of a store as plain lists.
-/
namespace EntityGraph

structure Snapshot where
  version : Nat
  entities : List Entity
  relationships : List Relationship
deriving DecidableEq

/-- The version of snapshots that are written and understood. -/
def Snapshot.currentVersion : Nat := 1

namespace Store

def toSnapshot (store : Store) : Snapshot := ⟨Snapshot.currentVersion, store.entities, store.relationships⟩

/-- Inserts entities, then relationships; a relationship with a missing end is left out. -/
def insertAll (store : Store) (snapshot : Snapshot) : Store :=
  let populated := snapshot.entities.foldl insertEntity store
  snapshot.relationships.foldl (fun store relationship => (store.insertRelationship relationship).2) populated

/-- Replaces the contents by those of a snapshot, unless its version is another one. -/
def restore (store : Store) (snapshot : Snapshot) : Except StoreError Unit × Store :=
  if snapshot.version = Snapshot.currentVersion then (.ok (), store.clear.insertAll snapshot)
  else (.error (.snapshotVersion snapshot.version Snapshot.currentVersion), store)

/-- A store with the contents of a snapshot and default settings. -/
def ofSnapshot (snapshot : Snapshot) : Except StoreError Store :=
  match (empty {}).restore snapshot with
  | (.ok (), store) => .ok store
  | (.error cause, _) => .error cause

end Store

end EntityGraph
