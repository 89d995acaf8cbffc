import EntityGraph.Json.Printer
import EntityGraph.Store.Error

/-!
The kinds of queries, and why a query has no results.
-/
namespace EntityGraph

inductive QueryKind where
  /-- Looks for entities; the clauses about them have to stand under `nodes`. -/
  | find
  /-- Looks for entities; the clauses about them may stand in the definition itself. -/
  | findNodes
  /-- Looks for the shortest paths between two entities. -/
  | findPath
deriving DecidableEq

namespace QueryKind

def name : QueryKind → String
  | find => "find"
  | findNodes => "find_nodes"
  | findPath => "find_path"

def ofText? : String → Option QueryKind
  | "find" => some find
  | "find_nodes" => some findNodes
  | "find_path" => some findPath
  | _ => none

end QueryKind

inductive QueryError where
  /-- The text is no document, for a reason that the reader of documents gives. -/
  | unreadable (fault : String)
  | notAMapping
  | noQuery
  /-- What stands under the name is no mapping. -/
  | noKindMapping (name : String)
  | noKind (name : String)
  | unsupportedKind (name kind : String)
  | definitionNotAMapping (name : String) (kind : QueryKind)
  | noNodes
  | noEndpoints
  /-- A clause is no whole number from zero on. -/
  | notACount (clause : String) (value : Json)
  | clauseNotAMapping (clause : String) (value : Json)
  | store (cause : StoreError)

namespace QueryError

/-- The fault in the form of a query: a document with a name over a kind over a mapping of clauses. -/
def formatFault? : QueryError → Option String
  | unreadable fault => some fault
  | notAMapping => some "query must be a mapping"
  | noQuery => some "query is empty"
  | noKindMapping name => some ("query '" ++ name ++ "' must map a query type to its definition")
  | noKind name => some ("query '" ++ name ++ "' has no query type")
  | definitionNotAMapping name kind =>
    some ("definition of '" ++ name ++ "' (" ++ kind.name ++ ") must be a mapping")
  | _ => none

/-- The fault in the clauses of a query. -/
def clauseFault? : QueryError → Option String
  | noNodes => some "find query must specify a 'nodes' target"
  | noEndpoints => some "'from' and 'to' nodes must be specified for path finding"
  | notACount clause value =>
    some ("'" ++ clause ++ "' must be a non-negative integer, got " ++ value.compact)
  | clauseNotAMapping clause value => some ("'" ++ clause ++ "' must be a mapping, got " ++ value.compact)
  | _ => none

def message (error : QueryError) : String :=
  match error with
  | unsupportedKind name kind => "unsupported query type '" ++ kind ++ "' in query '" ++ name ++ "'"
  | store cause => cause.message
  | _ =>
    match error.formatFault?, error.clauseFault? with
    | some fault, _ => "invalid query format: " ++ fault
    | none, some fault => "invalid query: " ++ fault
    | none, none => ""

end QueryError

end EntityGraph
