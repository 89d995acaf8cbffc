import EntityGraph.Query.Config
import EntityGraph.Snapshot.FileTree
import EntityGraph.Store.Config
import EntityGraph.Store.Error

/-!
The settings of a store together with those of its queries, and settings in files.
-/
namespace EntityGraph

/-- The settings of a store and of its queries, in a section each. -/
structure Settings where
  store : StoreConfig := {}
  query : QueryConfig := {}

namespace Settings

def ofText? (text : String) : Option Settings := do
  let entries ← Toml.read? text
  some {
    store := ← Toml.Section.field? entries "store" StoreConfig.ofValue? {}
    query := ← Toml.Section.field? entries "query" QueryConfig.ofValue? {} }

end Settings

def FileTree.readConfig (tree : FileTree) (path : String) (read? : String → Option α) : Except StoreError α :=
  match tree.read? path with
  | none => .error (.unusableFile path)
  | some text =>
    match read? text with
    | some config => .ok config
    | none => .error .malformedConfig

end EntityGraph
