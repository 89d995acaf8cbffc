import EntityGraph.Text.Quoted

/-!
Why an operation on a store fails. What a file system says about a file, or a reader about a text, is not kept: the
message of such a fault ends before it.
-/
namespace EntityGraph

inductive StoreError where
  | emptyId
  | emptyType
  | invalidDirection (text : String)
  | entitiesNotFound (ids : List String)
  | snapshotVersion (found expected : Nat)
  /-- A file could not be read or written. -/
  | unusableFile (path : String)
  /-- A text is no snapshot. -/
  | malformedSnapshot
  /-- A text does not hold settings. -/
  | malformedConfig
deriving DecidableEq

namespace StoreError

def message : StoreError → String
  | emptyId => "entity id must be a non-empty string"
  | emptyType => "entity type must be a non-empty string"
  | invalidDirection text =>
    "invalid traversal direction '" ++ text ++ "' (expected outgoing, incoming or both)"
  | entitiesNotFound ids => "entities not found: " ++ Quoted.list ids
  | snapshotVersion found expected =>
    "unsupported snapshot version " ++ toString found ++ " (expected " ++ toString expected ++ ")"
  | unusableFile path => "snapshot I/O failed for " ++ path
  | malformedSnapshot => "snapshot encoding failed"
  | malformedConfig => "invalid configuration"

end StoreError

end EntityGraph
