import EntityGraph.Yaml.Token

/-!
The nodes of a document. An anchor is numbered by how many different names had been given before it; an alias holds the
number of the last anchor with its name, so a name has to be given before it is used.
-/
namespace EntityGraph.Yaml

inductive Node where
  | alias (number : Nat)
  | anchored (number : Nat) (node : Node)
  | scalar (tag : Option Tag) (isPlain : Bool) (text : String)
  | sequence (tag : Option Tag) (items : List Node)
  | mapping (tag : Option Tag) (entries : List (Node × Node))
deriving Inhabited

namespace Node

def empty : Node := .scalar none true ""

mutual

/-- The anchored nodes in the order in which they begin. -/
def anchors : Node → List (Nat × Node)
  | .alias _ => []
  | .anchored number node => (number, node) :: anchors node
  | .scalar _ _ _ => []
  | .sequence _ items => anchorsOfItems items
  | .mapping _ entries => anchorsOfEntries entries

def anchorsOfItems : List Node → List (Nat × Node)
  | [] => []
  | item :: rest => anchors item ++ anchorsOfItems rest

def anchorsOfEntries : List (Node × Node) → List (Nat × Node)
  | [] => []
  | (key, value) :: rest => anchors key ++ anchors value ++ anchorsOfEntries rest

end

mutual

/-- The size of a node: a collection counts twice, for its start and its end. -/
def size : Node → Nat
  | .alias _ => 1
  | .anchored _ node => size node
  | .scalar _ _ _ => 1
  | .sequence _ items => 2 + sizeOfItems items
  | .mapping _ entries => 2 + sizeOfEntries entries

def sizeOfItems : List Node → Nat
  | [] => 0
  | item :: rest => size item + sizeOfItems rest

def sizeOfEntries : List (Node × Node) → Nat
  | [] => 0
  | (key, value) :: rest => size key + size value + sizeOfEntries rest

end

end Node

/-- The handles of tags with what they stand for. -/
abbrev TagHandles := List (String × Tag)

namespace TagHandles

def standard : TagHandles := [("!", Tag.ofText "!"), ("!!", Tag.standard "")]

/-- The handles that directives define, in front of the standard ones. The version may be given once and has to be 1.1
or 1.2, and a handle may be defined once. -/
def ofDirectives? (directives : List Directive) : Option TagHandles := do
  let versions := directives.filterMap fun
    | .version major minor => some (major, minor)
    | .tag _ _ => none
  let handles := directives.filterMap fun
    | .version _ _ => none
    | .tag handle start => some (handle, start)
  guard (versions.length ≤ 1 && versions.all fun version => version = (1, 1) || version = (1, 2))
  guard ((handles.map Prod.fst).eraseDups.length = handles.length)
  some (handles ++ standard)

/-- The tag that a handle and a suffix stand for; an empty handle stands for nothing. -/
def resolve? (handles : TagHandles) (handle : String) (suffix : Tag) : Option Tag :=
  if handle.isEmpty then some suffix else (handles.lookup handle).map (· ++ suffix)

end TagHandles

namespace Node

/-- What is left to read, and the numbers of the anchors so far. -/
structure Progress where
  tokens : List Token
  anchors : List (String × Nat)

abbrev Reader := StateT Progress Option

namespace Reader

/-- The next token, which stays. -/
def peek : Reader (Option Token) := do return (← get).tokens.head?

def skip : Reader Unit := modify fun progress => { progress with tokens := progress.tokens.drop 1 }

/-- The next token, which is taken. -/
def next : Reader Token := do
  match (← get).tokens with
  | token :: rest => modify fun progress => { progress with tokens := rest }; return token
  | [] => failure

/-- Numbers an anchor. -/
def number (name : String) : Reader Nat := do
  let anchors := (← get).anchors
  let number := anchors.length
  let others := anchors.filter (·.1 ≠ name)
  modify fun progress => { progress with anchors := (name, number) :: others }
  return number

def numberOf (name : String) : Reader Nat := do
  match (← get).anchors.lookup name with
  | some number => return number
  | none => failure

def anchor : Reader (Option String) := do
  match ← peek with
  | some (.anchor name) => skip; return some name
  | _ => return none

def tag (handles : TagHandles) : Reader (Option Tag) := do
  match ← peek with
  | some (.tag handle suffix) =>
    skip
    match handles.resolve? handle suffix with
    | some tag => return some tag
    | none => failure
  | _ => return none

def decorations (handles : TagHandles) : Reader (Option String × Option Tag) := do
  match ← anchor with
  | some name => return (some name, ← tag handles)
  | none =>
    let tag ← tag handles
    return (← anchor, tag)

mutual

/-- A node. Only inside a block it may be a block itself; entries without an indentation of their own may follow the
key or the colon of a mapping. A plain mark as the tag of a text says nothing, and decorations alone are an empty
text. -/
def node (handles : TagHandles) : Nat → Bool → Bool → Reader Node
  | 0, _, _ => failure
  | fuel + 1, inBlock, unindented => do
    match ← peek with
    | some (.alias name) => skip; return .alias (← numberOf name)
    | _ =>
      let (name, tag) ← decorations handles
      let number ← name.mapM number
      let decorate (node : Node) : Node := (number.map fun n => Node.anchored n node).getD node
      match ← peek with
      | some (.scalar isPlain text) =>
        skip
        return decorate (.scalar (tag.filter (· ≠ Tag.ofText "!")) isPlain text)
      | some .flowSequenceStart => skip; return decorate (.sequence tag (← flowItems handles fuel true))
      | some .flowMappingStart => skip; return decorate (.mapping tag (← flowEntries handles fuel true))
      | next =>
        if unindented && next = some .blockEntry then
          return decorate (.sequence tag (← unindentedItems handles fuel))
        else if inBlock && next = some .blockSequenceStart then
          skip
          return decorate (.sequence tag (← blockItems handles fuel))
        else if inBlock && next = some .blockMappingStart then
          skip
          return decorate (.mapping tag (← blockEntries handles fuel))
        else if name.isSome || tag.isSome then return decorate (.scalar tag true "")
        else failure

/-- An empty text in front of certain tokens, and else a node. -/
def nodeUnless (handles : TagHandles) : Nat → Bool → Bool → List Token → Reader Node
  | 0, _, _, _ => failure
  | fuel + 1, inBlock, unindented, ends => do
    match ← peek with
    | some token => if ends.contains token then return empty else node handles fuel inBlock unindented
    | none => failure

def blockItems (handles : TagHandles) : Nat → Reader (List Node)
  | 0 => failure
  | fuel + 1 => do
    match ← next with
    | .blockEntry =>
      let item ← nodeUnless handles fuel true false [.blockEntry, .blockEnd]
      return item :: (← blockItems handles fuel)
    | .blockEnd => return []
    | _ => failure

/-- The items of a sequence that is not indented against the mapping around it. -/
def unindentedItems (handles : TagHandles) : Nat → Reader (List Node)
  | 0 => failure
  | fuel + 1 => do
    match ← peek with
    | some .blockEntry =>
      skip
      let item ← nodeUnless handles fuel true false [.blockEntry, .key, .value, .blockEnd]
      return item :: (← unindentedItems handles fuel)
    | _ => return []

def blockEntries (handles : TagHandles) : Nat → Reader (List (Node × Node))
  | 0 => failure
  | fuel + 1 => do
    match ← next with
    | .key =>
      let key ← nodeUnless handles fuel true true [.key, .value, .blockEnd]
      let value ← match ← peek with
        | some .value => skip; nodeUnless handles fuel true true [.key, .value, .blockEnd]
        | _ => pure empty
      return (key, value) :: (← blockEntries handles fuel)
    | .blockEnd => return []
    | _ => failure

/-- The items of a sequence between brackets, with a comma in front of all but the first. A comma may stand behind the
last one, and a pair may stand without braces. -/
def flowItems (handles : TagHandles) : Nat → Bool → Reader (List Node)
  | 0, _ => failure
  | fuel + 1, isFirst => do
    if (← peek) = some .flowSequenceEnd then skip; return []
    else
      if !isFirst then guard ((← next) = .flowEntry)
      match ← peek with
      | some .flowSequenceEnd => skip; return []
      | some .key =>
        skip
        let pair ← flowPair handles fuel
        return .mapping none [pair] :: (← flowItems handles fuel false)
      | _ =>
        let item ← node handles fuel false false
        return item :: (← flowItems handles fuel false)

/-- A pair between brackets. Where the key is empty the token behind it is lost. -/
def flowPair (handles : TagHandles) : Nat → Reader (Node × Node)
  | 0 => failure
  | fuel + 1 => do
    let ends : List Token := [.value, .flowEntry, .flowSequenceEnd]
    let hasKey := !((← peek).map ends.contains).getD false
    let key ← nodeUnless handles fuel false false ends
    if !hasKey then skip
    match ← peek with
    | some .value => skip; return (key, ← nodeUnless handles fuel false false [.flowEntry, .flowSequenceEnd])
    | _ => return (key, empty)

/-- The entries of a mapping between braces, with a comma in front of all but the first. A node without a mark is a key
with an empty value. -/
def flowEntries (handles : TagHandles) : Nat → Bool → Reader (List (Node × Node))
  | 0, _ => failure
  | fuel + 1, isFirst => do
    if (← peek) = some .flowMappingEnd then skip; return []
    else
      if !isFirst then guard ((← next) = .flowEntry)
      match ← peek with
      | some .flowMappingEnd => skip; return []
      | some .key =>
        skip
        let key ← nodeUnless handles fuel false false [.value, .flowEntry, .flowMappingEnd]
        let value ← match ← peek with
          | some .value => skip; nodeUnless handles fuel false false [.flowEntry, .flowMappingEnd]
          | _ => pure empty
        return (key, value) :: (← flowEntries handles fuel false)
      | _ =>
        let key ← node handles fuel false false
        return (key, empty) :: (← flowEntries handles fuel false)

end

def isDirective : Token → Bool
  | .directive _ => true
  | _ => false

/-- The only document of a text, after its directives; absent content is an empty text. -/
def document (fuel : Nat) : Reader Node := do
  let (front, rest) := (← get).tokens.span isDirective
  let handles ← match TagHandles.ofDirectives? (front.filterMap fun
      | .directive value => some value
      | _ => none) with
    | some handles => pure handles
    | none => failure
  modify fun progress => { progress with tokens := rest }
  match ← peek with
  | some .documentStart =>
    skip
    match ← peek with
    | none => return empty
    | some token =>
      if isDirective token || token = .documentStart || token = .documentEnd then return empty
      else node handles fuel true false
  | none => if front.isEmpty then return empty else failure
  | some _ => if front.isEmpty then node handles fuel true false else failure

end Reader

/-- The node of a document; there may be no other document behind it. -/
def ofTokens? (tokens : List Token) : Option Node := do
  let (node, progress) ← (Reader.document (4 * tokens.length + 4)).run ⟨tokens, []⟩
  guard (progress.tokens.all (· = .documentEnd))
  some node

end Node

end EntityGraph.Yaml
