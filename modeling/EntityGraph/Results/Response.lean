import EntityGraph.Results.Row
import EntityGraph.Json.Record
import EntityGraph.Json.Reader
import EntityGraph.Json.Printer

/-!
The results of queries and the envelope around them, as values and as structured text.
-/
namespace EntityGraph

/-- Matches together with what they are connected to. -/
structure Subgraph where
  nodes : List Row
  edges : List Row
  startingNodes : List String
  connectedNodes : List String
  nodeCount : Nat
  edgeCount : Nat

inductive Results where
  | rows (rows : List Row)
  | subgraph (subgraph : Subgraph)

structure Response where
  success : Bool
  name : String
  kind : String
  executionTime : Double
  results : Option Results
  resultCount : Option Nat
  error : Option String

namespace Subgraph

def empty : Subgraph := ⟨[], [], [], [], 0, 0⟩

def toJson (subgraph : Subgraph) : Json :=
  .object
    [("nodes", .array (subgraph.nodes.map .object)), ("edges", .array (subgraph.edges.map .object)),
     ("starting_nodes", .array (subgraph.startingNodes.map .string)),
     ("connected_nodes", .array (subgraph.connectedNodes.map .string)),
     ("node_count", .integer subgraph.nodeCount), ("edge_count", .integer subgraph.edgeCount)]

def fieldNames : List String :=
  ["nodes", "edges", "starting_nodes", "connected_nodes", "node_count", "edge_count"]

/-- A row; repeated keys are resolved. -/
def row? (json : Json) : Option Row := json.settle.asObject?

def rows? : Json → Option (List Row) := Json.list? row?

/-- All fields are required. -/
def ofJson? (json : Json) : Option Subgraph := do
  let fields ← json.record? fieldNames
  some {
    nodes := ← Json.field? fields "nodes" rows?
    edges := ← Json.field? fields "edges" rows?
    startingNodes := ← Json.field? fields "starting_nodes" (Json.list? Json.asString?)
    connectedNodes := ← Json.field? fields "connected_nodes" (Json.list? Json.asString?)
    nodeCount := ← Json.field? fields "node_count" Json.asCount?
    edgeCount := ← Json.field? fields "edge_count" Json.asCount? }

end Subgraph

namespace Results

/-- The number of rows; a subgraph counts as one result. -/
def count : Results → Nat
  | rows list => list.length
  | subgraph _ => 1

def toJson : Results → Json
  | rows list => .array (list.map .object)
  | subgraph found => found.toJson

/-- Rows if the value is a list of objects, else a subgraph. -/
def ofJson? (json : Json) : Option Results :=
  ((Subgraph.rows? json).map rows).or ((Subgraph.ofJson? json).map subgraph)

end Results

namespace Response

/-- Fields without a value are left out. -/
def toJson (response : Response) : Json :=
  .object <|
    [("success", .bool response.success), ("query_name", .string response.name),
     ("query_type", .string response.kind), ("execution_time", (Value.double response.executionTime).toJson)]
    ++ (response.results.map fun results => ("results", results.toJson)).toList
    ++ (response.resultCount.map fun count => ("result_count", Json.integer count)).toList
    ++ (response.error.map fun message => ("error", Json.string message)).toList

def fieldNames : List String :=
  ["success", "query_name", "query_type", "execution_time", "results", "result_count", "error"]

def asBool? : Json → Option Bool
  | .bool b => some b
  | _ => none

/-- The first four fields are required. -/
def ofJson? (json : Json) : Option Response := do
  let fields ← json.record? fieldNames
  some {
    success := ← Json.field? fields "success" asBool?
    name := ← Json.field? fields "query_name" Json.asString?
    kind := ← Json.field? fields "query_type" Json.asString?
    executionTime := ← Json.field? fields "execution_time" Json.asDouble?
    results := ← Json.optional? fields "results" Results.ofJson?
    resultCount := ← Json.optional? fields "result_count" Json.asCount?
    error := ← Json.optional? fields "error" Json.asString? }

def ofText? (text : String) : Option Response := (Json.read? text).bind ofJson?

/-- A number of seconds rounded to so many decimal places, at most fifteen. -/
def roundTo (places : Nat) (seconds : Double) : Double :=
  let factor := Double.ofInt (Nat.pow 10 (min places 15))
  (seconds.mul factor).roundHalfAway.div factor

/-- Elapsed seconds and nanoseconds as a number. -/
def elapsed (seconds nanoseconds : Nat) : Double :=
  (Double.ofInt seconds).add ((Double.ofInt nanoseconds).div (Double.ofInt 1_000_000_000))

/-- The envelope of an outcome: a success carries its results, a failure its message. -/
def of (precision : Nat) (success : Bool) (name kind : String) (results : Option Results)
    (time : Double) (error : Option String) : Response :=
  let kept := if success then results else none
  { success, name, kind
    executionTime := roundTo precision time
    results := kept
    resultCount := kept.map Results.count
    error := if success then none else error }

end Response

end EntityGraph
