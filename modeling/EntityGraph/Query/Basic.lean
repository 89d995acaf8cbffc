import EntityGraph.Query.Error

/-!
Queries: a name, a kind and the clauses of a definition. Of a document only the first key counts, and of what stands
under it only the first key again. How a text is read as a document is left open.
-/
namespace EntityGraph

/-- A reader of documents: the value that a text holds, or what is wrong with the text. -/
abbrev DocumentReader := String → Except String Json

structure Query where
  name : String
  kind : QueryKind
  definition : Members

namespace Query

def ofDocument : Json → Except QueryError Query
  | .object [] => .error .noQuery
  | .object ((name, .object ((kindName, definition) :: _)) :: _) =>
    match QueryKind.ofText? kindName, definition with
    | none, _ => .error (.unsupportedKind name kindName)
    | some kind, .object definition => .ok { name, kind, definition }
    | some kind, _ => .error (.definitionNotAMapping name kind)
  | .object ((name, .object []) :: _) => .error (.noKind name)
  | .object ((name, _) :: _) => .error (.noKindMapping name)
  | _ => .error .notAMapping

def readWith (reader : DocumentReader) (text : String) : Except QueryError Query :=
  match reader text with
  | .ok document => ofDocument document
  | .error fault => .error (.unreadable fault)

/-- The clauses about entities: those under `nodes` if that is a mapping, else the definition. -/
def nodeClauses (definition : Members) : Members :=
  match definition.get? "nodes" with
  | some (.object nodes) => nodes
  | _ => definition

/-- The fields to return: a name or a list of names, of the clauses about entities or of the definition. -/
def returnFields (nodes definition : Members) (defaults : List String) : List String :=
  match (nodes.get? "return").or (definition.get? "return") with
  | some (.array fields) => fields.filterMap Json.asString?
  | some (.string field) => [field]
  | _ => defaults

end Query

end EntityGraph
