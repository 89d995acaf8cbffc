import EntityGraph.Yaml.Scalar
import EntityGraph.Yaml.Tag

/-!
The lexical units of a document. Indentation opens and closes block collections. A key of one line is only known to be
one at its colon, so the place where it may have begun is remembered and the marks of the key are put in there.
-/
namespace EntityGraph.Yaml

inductive Token where
  | directive (value : Directive)
  | documentStart
  | documentEnd
  | blockSequenceStart
  | blockMappingStart
  | blockEnd
  | flowSequenceStart
  | flowSequenceEnd
  | flowMappingStart
  | flowMappingEnd
  | blockEntry
  | flowEntry
  | key
  | value
  | alias (name : String)
  | anchor (name : String)
  | tag (handle : String) (suffix : Tag)
  | scalar (isPlain : Bool) (text : String)
deriving DecidableEq

/-- Where a key may have begun: the number of tokens before it and its place. It is required if it stands at the
indentation of its block. -/
structure KeyStart where
  isRequired : Bool
  token : Nat
  place : Cursor

/-- What has been read of a document: tokens, the newest first; indentations, the innermost first; and the possible
keys of the brackets and braces that are open. -/
structure Lexer where
  cursor : Cursor
  tokens : List Token := []
  count : Nat := 0
  indent : Int := -1
  outerIndents : List Int := []
  keyAllowed : Bool := true
  key : Option KeyStart := none
  outerKeys : List (Option KeyStart) := []

namespace Lexer

def inFlow (lexer : Lexer) : Bool := !lexer.outerKeys.isEmpty

def push (lexer : Lexer) (token : Token) : Lexer :=
  { lexer with tokens := token :: lexer.tokens, count := lexer.count + 1 }

def insert (lexer : Lexer) (position : Nat) (token : Token) : Lexer :=
  let newer := lexer.count - position
  { lexer with
    tokens := lexer.tokens.take newer ++ token :: lexer.tokens.drop newer
    count := lexer.count + 1 }

def moveTo (lexer : Lexer) (cursor : Cursor) : Lexer := { lexer with cursor }

/-- Closes the blocks that are indented further than a column. -/
def closeBlocks (lexer : Lexer) (column : Int) : Lexer :=
  if lexer.inFlow then lexer else go lexer lexer.indent lexer.outerIndents
where
  go (lexer : Lexer) (indent : Int) : List Int → Lexer
    | [] => { lexer with indent, outerIndents := [] }
    | outer :: outers =>
      if column < indent then go (lexer.push .blockEnd) outer outers
      else { lexer with indent, outerIndents := outer :: outers }

/-- Opens a block at a column that is further in than the current one, in front of a token. -/
def openBlock (lexer : Lexer) (column : Nat) (position : Nat) (start : Token) : Lexer :=
  if lexer.inFlow || (column : Int) ≤ lexer.indent then lexer
  else { lexer.insert position start with indent := column, outerIndents := lexer.indent :: lexer.outerIndents }

/-- Forgets a possible key; a required one may not be forgotten. -/
def forgetKey? (lexer : Lexer) : Option Lexer :=
  match lexer.key with
  | some start => if start.isRequired then none else some { lexer with key := none }
  | none => some lexer

/-- Remembers that a key may begin here. -/
def rememberKey? (lexer : Lexer) : Option Lexer :=
  if lexer.keyAllowed then do
    let start : KeyStart :=
      ⟨!lexer.inFlow && lexer.indent = (lexer.cursor.column : Int), lexer.count, lexer.cursor⟩
    let lexer ← lexer.forgetKey?
    some { lexer with key := some start }
  else some lexer

/-- A key has to end on its line and after at most 1024 characters. -/
def isOver (start : KeyStart) (cursor : Cursor) : Bool :=
  start.place.line < cursor.line || start.place.index + 1024 < cursor.index

/-- Forgets the possible keys that have become too long. -/
def forgetOverlong? (lexer : Lexer) : Option Lexer := do
  let keep (key : Option KeyStart) : Option (Option KeyStart) :=
    match key with
    | some start =>
      if isOver start lexer.cursor then (if start.isRequired then none else some none) else some key
    | none => some none
  some { lexer with key := ← keep lexer.key, outerKeys := ← lexer.outerKeys.mapM keep }

/-- Passes over blanks, comments and line breaks. A tab does not indent a line of a block. -/
def skipGap : Nat → Lexer → Lexer
  | 0, lexer => lexer
  | fuel + 1, lexer =>
    let cursor := lexer.cursor
    let cursor :=
      if cursor.column = 0 && cursor.rest.head? = some byteOrderMark then cursor.advance else cursor
    let cursor := cursor.skipWhile fun c => c = ' ' || ((lexer.inFlow || !lexer.keyAllowed) && c = '\t')
    let cursor := if cursor.rest.head? = some '#' then cursor.skipWhile (!isBreak ·) else cursor
    if (cursor.rest.head?.map isBreak).getD false then
      skipGap fuel { lexer with cursor := cursor.advance, keyAllowed := lexer.keyAllowed || !lexer.inFlow }
    else lexer.moveTo cursor

/-- Ends all blocks in front of a directive or at the boundary of a document. -/
def endBlocks? (lexer : Lexer) : Option Lexer := do
  let lexer ← (lexer.closeBlocks (-1)).forgetKey?
  some { lexer with keyAllowed := false }

/-- A sign of so many characters. -/
def sign (lexer : Lexer) (token : Token) (length : Nat) : Lexer :=
  (lexer.push token).moveTo (lexer.cursor.advanceBy length)

def openFlow? (lexer : Lexer) (token : Token) : Option Lexer := do
  let lexer ← lexer.rememberKey?
  some ({ lexer with keyAllowed := true, key := none, outerKeys := lexer.key :: lexer.outerKeys }.sign token 1)

def closeFlow? (lexer : Lexer) (token : Token) : Option Lexer := do
  let lexer ← lexer.forgetKey?
  let lexer := match lexer.outerKeys with
    | [] => lexer
    | key :: outer => { lexer with key, outerKeys := outer }
  some ({ lexer with keyAllowed := false }.sign token 1)

def flowEntry? (lexer : Lexer) : Option Lexer := do
  let lexer ← lexer.forgetKey?
  some ({ lexer with keyAllowed := true }.sign .flowEntry 1)

/-- In a block an entry, a key or a value without a key may only stand where a key may, and opens a block there. -/
def openAt? (lexer : Lexer) (start : Token) : Option Lexer := do
  if lexer.inFlow then some lexer
  else
    guard lexer.keyAllowed
    some (lexer.openBlock lexer.cursor.column lexer.count start)

def blockEntry? (lexer : Lexer) : Option Lexer := do
  let lexer ← (← lexer.openAt? .blockSequenceStart).forgetKey?
  some ({ lexer with keyAllowed := true }.sign .blockEntry 1)

def key? (lexer : Lexer) : Option Lexer := do
  let lexer ← (← lexer.openAt? .blockMappingStart).forgetKey?
  some ({ lexer with keyAllowed := !lexer.inFlow }.sign .key 1)

def value? (lexer : Lexer) : Option Lexer := do
  match lexer.key with
  | some start =>
    let lexer := (lexer.insert start.token .key).openBlock start.place.column start.token .blockMappingStart
    some ({ lexer with key := none, keyAllowed := false }.sign .value 1)
  | none =>
    let lexer ← lexer.openAt? .blockMappingStart
    some ({ lexer with keyAllowed := !lexer.inFlow }.sign .value 1)

def name? (cursor : Cursor) : Option (String × Cursor) := do
  let (name, next) := cursor.takeWhile isNameChar
  guard (!name.isEmpty)
  let endsName (c : Char) : Bool := isGap c || "?:,]\x7d%@".toList.contains c || c.toNat = 96
  guard ((next.rest.head?.map endsName).getD true)
  some (String.ofList name, next)

/-- A token that a key may begin with. -/
def inKey? (lexer : Lexer) (read? : Cursor → Option (Token × Cursor)) : Option Lexer := do
  let lexer ← lexer.rememberKey?
  let (token, next) ← read? lexer.cursor
  some ({ lexer with keyAllowed := false }.push token |>.moveTo next)

def quoted? (read? : Nat → Cursor → Option Scanned) (cursor : Cursor) : Option (Token × Cursor) := do
  let (text, next) ← read? (cursor.rest.length + 1) cursor.advance
  some (.scalar false (String.ofList text), next)

/-- A plain text. If lines have ended behind it, a key may begin. -/
def plain? (lexer : Lexer) : Option Lexer := do
  let lexer ← lexer.rememberKey?
  let cursor := lexer.cursor
  let ((text, next), lineEnded) ←
    Plain.words? lexer.inFlow (lexer.indent + 1) (cursor.rest.length + 1) [] cursor
  some ({ lexer with keyAllowed := lineEnded }.push (.scalar true (String.ofList text)) |>.moveTo next)

def block? (lexer : Lexer) (folds : Bool) : Option Lexer := do
  let lexer ← lexer.forgetKey?
  let (text, next) ← Block.text? folds lexer.indent lexer.cursor.advance
  some ({ lexer with keyAllowed := true }.push (.scalar false (String.ofList text)) |>.moveTo next)

/-- A plain text begins with a character that is neither a sign nor a tab, or with a sign that is none here. -/
def startsPlain (inFlow : Bool) (c : Char) (rest : List Char) : Bool :=
  !(isGap c || "-?:,[]\x7b\x7d#&*!|>'\"%@".toList.contains c || c.toNat = 96)
    || (c = '-' && !(rest.head?.map isSpaceOrTab).getD false)
    || (!inFlow && (c = '?' || c = ':') && !gapFollows rest)

/-- Reads the next token, at a place that is not in a gap. -/
def token? (lexer : Lexer) (c : Char) (rest : List Char) : Option Lexer :=
  let atStart := lexer.cursor.column = 0
  if atStart && c = '%' then do
    let lexer ← lexer.endBlocks?
    let (directive, next) ← Directive.scan? lexer.cursor
    some ((lexer.push (.directive directive)).moveTo next)
  else if lexer.cursor.isAtMarker '-' then lexer.endBlocks?.map (·.sign .documentStart 3)
  else if lexer.cursor.isAtMarker '.' then lexer.endBlocks?.map (·.sign .documentEnd 3)
  else if c = '[' then lexer.openFlow? .flowSequenceStart
  else if c = '\x7b' then lexer.openFlow? .flowMappingStart
  else if c = ']' then lexer.closeFlow? .flowSequenceEnd
  else if c = '\x7d' then lexer.closeFlow? .flowMappingEnd
  else if c = ',' then lexer.flowEntry?
  else if c = '-' && gapFollows rest then lexer.blockEntry?
  else if c = '?' && (lexer.inFlow || gapFollows rest) then lexer.key?
  else if c = ':' && (lexer.inFlow || gapFollows rest) then lexer.value?
  else if c = '*' then
    lexer.inKey? fun cursor => (name? cursor.advance).map fun (name, next) => (.alias name, next)
  else if c = '&' then
    lexer.inKey? fun cursor => (name? cursor.advance).map fun (name, next) => (.anchor name, next)
  else if c = '!' then
    lexer.inKey? fun cursor =>
      (Tag.scan? lexer.inFlow cursor).map fun (handle, suffix, next) => (.tag handle suffix, next)
  else if c = '|' && !lexer.inFlow then lexer.block? false
  else if c = '>' && !lexer.inFlow then lexer.block? true
  else if c = '\'' then lexer.inKey? (quoted? Quoted.single?)
  else if c = '"' then lexer.inKey? (quoted? Quoted.double?)
  else if startsPlain lexer.inFlow c rest then lexer.plain?
  else none

def run? : Nat → Lexer → Option (List Token)
  | 0, _ => none
  | fuel + 1, lexer => do
    let lexer ← (skipGap (lexer.cursor.rest.length + 1) lexer).forgetOverlong?
    let lexer := lexer.closeBlocks lexer.cursor.column
    match lexer.cursor.rest with
    | [] => (← lexer.endBlocks?).tokens.reverse
    | c :: rest => run? fuel (← lexer.token? c rest)

end Lexer

/-- The tokens of a text; absent if it cannot be cut into tokens. A byte order mark at the start is passed over. -/
def Token.ofText? (text : String) : Option (List Token) := do
  let chars := match text.toList with
    | c :: rest => if c = byteOrderMark then rest else c :: rest
    | [] => []
  guard (chars.all isAllowed)
  let chars := normalizeBreaks chars
  Lexer.run? (chars.length + 1) ({ cursor := { rest := chars } })

end EntityGraph.Yaml
