import EntityGraph.Query.Execution
import EntityGraph.Yaml.Document

/-!
Queries written in YAML.
-/
namespace EntityGraph

/-- The reader of documents in YAML. It does not say what is wrong with a text: one mark stands for every reason. -/
def Yaml.reader : DocumentReader := fun text =>
  match Yaml.read? text with
  | some document => .ok document
  | none => .error "<yaml>"

def Query.ofText : String → Except QueryError Query := readWith Yaml.reader

namespace QueryEngine

def run (engine : QueryEngine) (text : String) : Except QueryError Results := engine.runWith Yaml.reader text

def execute (engine : QueryEngine) (time : Double) (text : String) : Response := engine.executeWith Yaml.reader time text

end QueryEngine

end EntityGraph
