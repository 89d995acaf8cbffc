import EntityGraph.Yaml.Resolve

/-!
Documents as structured values. Aliases are replaced by what they point to, at most a hundred times the size of the
document, and collections nest at most 128 levels deep, those behind aliases included.
-/
namespace EntityGraph.Yaml

structure Document where
  root : Node

namespace Document

def anchors (document : Document) : List (Nat × Node) := document.root.anchors.reverse

/-- How often aliases may be followed. -/
def aliasLimit (document : Document) : Nat := 100 * document.root.size

/-- How deep collections may nest. -/
def depthLimit : Nat := 128

/-- A reader that counts the aliases that it follows. -/
abbrev Counted := StateT Nat Option

/-- The content of a node, behind its anchor or alias. -/
def content (document : Document) : Node → Counted Node
  | .alias number => do
    let followed ← get
    set (followed + 1)
    guard (followed < document.aliasLimit)
    match document.anchors.lookup number with
    | some target => return target
    | none => failure
  | .anchored _ node => return node
  | node => return node

/-- A key is the text of a scalar. -/
def key (document : Document) (node : Node) : Counted String := do
  match ← document.content node with
  | .scalar _ _ text => return text
  | _ => failure

/-- The tag of a collection may be anything but one of the writer's own. -/
def acceptsTag (tag : Option Tag) : Bool := !(tag.map Tag.isLocal).getD false

/-- The value of a node, with so many levels of collections left. -/
def value (document : Document) : Nat → Node → Counted Json
  | 0, node => do
    match ← document.content node with
    | .scalar tag isPlain text => (Scalar.value? tag isPlain text : Option Json)
    | _ => failure
  | depth + 1, node => do
    match ← document.content node with
    | .scalar tag isPlain text => (Scalar.value? tag isPlain text : Option Json)
    | .sequence tag items =>
      guard (acceptsTag tag)
      return .array (← items.mapM (document.value depth))
    | .mapping tag entries =>
      guard (acceptsTag tag)
      let members ← entries.mapM fun (name, item) => do
        let name ← document.key name
        return (name, ← document.value depth item)
      return .object (Members.settle members)
    | _ => failure

def toJson? (document : Document) : Option Json := (document.value depthLimit document.root).run' 0

def ofText? (text : String) : Option Document := do
  some ⟨← Node.ofTokens? (← Token.ofText? text)⟩

end Document

/-- The value of the only document of a text; a text without a document is null. -/
def read? (text : String) : Option Json := (Document.ofText? text).bind Document.toJson?

end EntityGraph.Yaml
