import EntityGraph.Store.Basic
import EntityGraph.Store.Error

/-!
Merging several entities into one: its attributes are put together from theirs, their relationships to others are
re-created against it, and they are removed.
-/
namespace EntityGraph

structure Consolidation where
  sources : List String
  target : String
  type : String
  properties : Properties
  description : Option String

structure ConsolidationReport where
  target : String
  removed : List String
  relationshipsUpdated : Nat
deriving DecidableEq

namespace Consolidation

/-- The given properties, and for every other name the value of the first source that has it. -/
def mergedProperties (request : Consolidation) (sources : List Entity) : Properties :=
  sources.foldl (fun merged entity => merged.mergeNew entity.properties) request.properties

/-- The given description, or the descriptions of the sources that have one. -/
def mergedDescription (request : Consolidation) (sources : List Entity) : Option String :=
  request.description.or <|
    match (sources.map (·.description)).filter (!·.isEmpty) with
    | [] => none
    | descriptions => some (" | ".intercalate descriptions)

/-- A store in which relationships are being re-created, and how many have been. -/
structure Redirection where
  store : Store
  made : Nat

namespace Redirection

def recreate (stamps : Nat → Stamp) (state : Redirection) (relationship : Relationship) (source target : String) :
    Redirection :=
  match state.store.addRelationship (stamps state.made) source target relationship.type relationship.properties
      relationship.weight with
  | (added, store) => ⟨store, if added then state.made + 1 else state.made⟩

/-- Re-creates the relationships that arrive at a source, then those that leave it, except those with `target`. -/
def redirect (stamps : Nat → Stamp) (target : String) (state : Redirection) (source : String) : Redirection :=
  let arriving := (state.store.incoming source).filter (·.source != target)
  let state := arriving.foldl (fun state edge => state.recreate stamps edge edge.source target) state
  let leaving := (state.store.outgoing source).filter (·.target != target)
  leaving.foldl (fun state edge => state.recreate stamps edge target edge.target) state

end Redirection

/-- Removes the entities that are there, and lists them. -/
def removeAll (store : Store) (ids : List String) : List String × Store :=
  ids.foldl (fun (removed, store) id =>
    match store.remove id with
    | (some _, store) => (removed ++ [id], store)
    | (none, store) => (removed, store)) ([], store)

end Consolidation

/-- Merges the sources of a request into its target. A source that is the target itself stays. -/
def Store.consolidate (store : Store) (now : Instant) (stamps : Nat → Stamp) (request : Consolidation) :
    Except StoreError ConsolidationReport × Store :=
  if request.sources.isEmpty ∨ isBlankText request.target then (.error .emptyId, store)
  else if isBlankText request.type then (.error .emptyType, store)
  else
    let missing := request.sources.filter (!store.contains ·)
    if !missing.isEmpty then (.error (.entitiesNotFound missing), store)
    else
      let sources := request.sources.filterMap store.get?
      match store.upsert now request.target request.type (request.mergedProperties sources)
          (request.mergedDescription sources) with
      | (none, left) => (.error .emptyId, left)
      | (some target, merged) =>
        let others := request.sources.filter (· != target)
        let moved := others.foldl (Consolidation.Redirection.redirect stamps target) ⟨merged, 0⟩
        let (removed, final) := Consolidation.removeAll moved.store others
        (.ok ⟨target, removed, moved.made⟩, final)

end EntityGraph
