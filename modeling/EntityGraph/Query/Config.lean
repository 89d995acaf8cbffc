import EntityGraph.Toml.Section

/-!
The settings of queries: what holds where a query leaves a clause out.
-/
namespace EntityGraph

structure QueryConfig where
  /-- How far the connections of matches are followed. -/
  depth : Nat := 2
  /-- How far away the entity of a connectivity filter may be. -/
  connectedToDepth : Nat := 2
  maxHops : Nat := 5
  /-- The similarity that a match reaches at least. -/
  similarityThreshold : Double := Double.ofRatio false 1 2
  returnFields : List String := ["name", "type"]
  /-- How many decimal places of a duration are shown. -/
  timePrecision : Nat := 4
deriving DecidableEq, Inhabited

namespace QueryConfig

def fieldNames : List String :=
  ["default_depth", "default_connected_to_depth", "default_max_hops", "default_similarity_threshold",
   "default_return_fields", "time_precision"]

/-- The settings of a section; what it leaves out has its default. -/
def ofEntries? (entries : Toml.Entries) : Option QueryConfig := do
  let defaults : QueryConfig := {}
  let count := Toml.Value.asCount? 0x1_0000_0000_0000_0000
  some {
    depth := ← Toml.Section.field? entries "default_depth" count defaults.depth
    connectedToDepth := ← Toml.Section.field? entries "default_connected_to_depth" count defaults.connectedToDepth
    maxHops := ← Toml.Section.field? entries "default_max_hops" count defaults.maxHops
    similarityThreshold := ←
      Toml.Section.field? entries "default_similarity_threshold" Toml.Value.asDouble? defaults.similarityThreshold
    returnFields := ←
      Toml.Section.field? entries "default_return_fields" Toml.Value.asStrings? defaults.returnFields
    timePrecision := ←
      Toml.Section.field? entries "time_precision" (Toml.Value.asCount? 0x1_0000_0000) defaults.timePrecision }

def ofValue? (value : Toml.Value) : Option QueryConfig := (Toml.Section.entries? fieldNames value).bind ofEntries?

def ofText? (text : String) : Option QueryConfig := (Toml.read? text).bind ofEntries?

end QueryConfig

end EntityGraph
