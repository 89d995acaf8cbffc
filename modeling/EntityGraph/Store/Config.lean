import EntityGraph.Toml.Section

/-!
The settings of a store.
-/
namespace EntityGraph

/-- Where a store keeps its snapshot and whether it is written with line breaks. -/
structure StoreConfig where
  snapshotPath : String := "knowledge_graph.json"
  prettySnapshots : Bool := true
deriving DecidableEq, Inhabited

def joinPath (directory name : String) : String :=
  if directory.isEmpty ∨ name.toList.head? = some '/' then name
  else if directory.toList.getLast? = some '/' then directory ++ name
  else directory ++ "/" ++ name

namespace StoreConfig

/-- The default settings with the snapshot inside a directory. -/
def inDir (directory : String) : StoreConfig := { snapshotPath := joinPath directory "knowledge_graph.json" }

def fieldNames : List String := ["snapshot_path", "pretty_snapshots"]

/-- The settings of a section; what it leaves out has its default. -/
def ofEntries? (entries : Toml.Entries) : Option StoreConfig := do
  let defaults : StoreConfig := {}
  some {
    snapshotPath := ← Toml.Section.field? entries "snapshot_path" Toml.Value.asString? defaults.snapshotPath
    prettySnapshots := ← Toml.Section.field? entries "pretty_snapshots" Toml.Value.asBool? defaults.prettySnapshots }

def ofValue? (value : Toml.Value) : Option StoreConfig := (Toml.Section.entries? fieldNames value).bind ofEntries?

def ofText? (text : String) : Option StoreConfig := (Toml.read? text).bind ofEntries?

end StoreConfig

end EntityGraph
