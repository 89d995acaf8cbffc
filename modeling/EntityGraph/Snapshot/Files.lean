import EntityGraph.Snapshot.FileTree
import EntityGraph.Snapshot.Json

/-!
Snapshots in files. Loading changes the store only if the file can be read, is a snapshot and has the right version.
-/
namespace EntityGraph.Store

def saveTo (store : Store) (tree : FileTree) (path : String) : Except StoreError FileTree :=
  match tree.write? path (store.toSnapshot.text store.config.prettySnapshots) with
  | some tree => .ok tree
  | none => .error (.unusableFile path)

def save (store : Store) (tree : FileTree) : Except StoreError FileTree :=
  store.saveTo tree store.config.snapshotPath

/-- Replaces the contents by the snapshot at a path. -/
def loadFrom (store : Store) (fresh : Nat → RelationshipId) (tree : FileTree) (path : String) :
    Except StoreError Unit × Store :=
  match tree.read? path with
  | none => (.error (.unusableFile path), store)
  | some text =>
    match Snapshot.ofText? fresh text with
    | none => (.error .malformedSnapshot, store)
    | some snapshot => store.restore snapshot

def load (store : Store) (fresh : Nat → RelationshipId) (tree : FileTree) : Except StoreError Unit × Store :=
  store.loadFrom fresh tree store.config.snapshotPath

/-- The store that settings describe: with the contents of its snapshot, or empty where there is none. -/
def openWith (config : StoreConfig) (fresh : Nat → RelationshipId) (tree : FileTree) : Except StoreError Store :=
  if tree.present config.snapshotPath then
    match (empty config).load fresh tree with
    | (.ok (), store) => .ok store
    | (.error cause, _) => .error cause
  else .ok (empty config)

end EntityGraph.Store
