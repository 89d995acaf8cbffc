import EntityGraph.Number.Decimal
import EntityGraph.Pattern.SetParser
import EntityGraph.Text.Letter

/-!
Reading a search pattern. There is no looking around and no referring back, and every error counts alike.
-/
namespace EntityGraph.Pattern

/-- A group that is still open: its finished branches and the parts of the current one, both in reverse, the flags it
sets inside, and whether blanks are ignored again after it. -/
structure OpenGroup where
  branches : List Tree
  parts : List Tree
  change : FlagChange
  ignoringAfter : Bool

namespace OpenGroup

def add (group : OpenGroup) (part : Tree) : OpenGroup := { group with parts := part :: group.parts }

def branch (group : OpenGroup) : OpenGroup :=
  { group with branches := Tree.ofParts group.parts.reverse :: group.branches, parts := [] }

def inner (group : OpenGroup) : Tree := Tree.ofBranches group.branch.branches.reverse

/-- Puts a repetition on the last part. -/
def repeatLast? (group : OpenGroup) (least : Nat) (most : Option Nat) : Option OpenGroup :=
  match group.parts with
  | part :: before =>
    if part.isRepeatable then some { group with parts := .repetition part least most :: before } else none
  | [] => none

end OpenGroup

/-- What is known in the middle of a pattern: the innermost open group, those around it, whether blanks are ignored,
and the names given to groups. -/
structure ParserState where
  group : OpenGroup
  outer : List OpenGroup
  ignoring : Bool
  names : List (List Char)

def Flag.ofChar? : Char → Option Flag
  | 'i' => some .ignoreCase
  | 'm' => some .multiLine
  | 's' => some .dotAll
  | 'R' => some .carriageReturn
  | 'u' => some .allScripts
  | 'U' => some .swapGreed
  | 'x' => some .ignoreBlanks
  | _ => none

/-- The last setting of a flag. -/
def FlagChange.get? (change : FlagChange) (flag : Flag) : Option Bool := List.lookup flag change

/-- Flags up to a colon or parenthesis: each at most once, at most one hyphen, and a flag after it. -/
def flags? : List Char → FlagChange → Option Bool → Option (FlagChange × Char × List Char)
  | [], _, _ => none
  | c :: rest, change, hyphen =>
    if c = ':' ∨ c = ')' then if hyphen = some true then none else some (change, c, rest)
    else if c = '-' then if hyphen.isSome then none else flags? rest change (some true)
    else do
      let flag ← Flag.ofChar? c
      if (change.get? flag).isSome then none
      else flags? rest (change ++ [(flag, hyphen.isNone)]) (hyphen.map fun _ => false)

def groupName? (text : List Char) : Option (List Char × List Char) :=
  let name := text.takeWhile (· ≠ '>')
  match name, text.drop name.length with
  | first :: more, _ :: rest =>
    let starts := first = '_' || alphabetic.containsChar first
    let goesOn := more.all fun c => c = '_' || c = '.' || c = '[' || c = ']' || isAlphanumeric c
    if starts && goesOn then some (name, rest) else none
  | _, _ => none

namespace ParserState

def enter (state : ParserState) (change : FlagChange) : ParserState :=
  { state with
    group := ⟨[], [], change, state.ignoring⟩
    outer := state.group :: state.outer
    ignoring := (change.get? .ignoreBlanks).getD state.ignoring }

def add (state : ParserState) (part : Tree) : ParserState := { state with group := state.group.add part }

def open? (state : ParserState) (text : List Char) : Option (ParserState × List Char) :=
  match skip state.ignoring text with
  | '?' :: '=' :: _ => none
  | '?' :: '!' :: _ => none
  | '?' :: '<' :: '=' :: _ => none
  | '?' :: '<' :: '!' :: _ => none
  | '?' :: 'P' :: '<' :: rest => named rest
  | '?' :: '<' :: rest => named rest
  | '?' :: rest => do
    let (change, mark, rest) ← flags? rest [] none
    if mark = ')' then
      if change.isEmpty then none
      else
        let ignoring := (change.get? .ignoreBlanks).getD state.ignoring
        some ({ state with ignoring }.add (.flags change), rest)
    else some (state.enter change, rest)
  | rest => some (state.enter [], rest)
where
  named (text : List Char) : Option (ParserState × List Char) := do
    let (name, rest) ← groupName? text
    guard (!state.names.contains name)
    some ({ state with names := name :: state.names }.enter [], rest)

def close? (state : ParserState) : Option ParserState :=
  match state.outer with
  | [] => none
  | parent :: outer =>
    some { state with
      group := parent.add (.group state.group.change state.group.inner)
      outer
      ignoring := state.group.ignoringAfter }

end ParserState

/-- A whole number below `2 ^ 32`, with blanks around it. -/
def countBound? (ignoring : Bool) (text : List Char) : Option Nat × List Char :=
  let text := text.dropWhile isBlank
  let body := text.takeWhile fun c => c.isDigit || (ignoring && isBlank c)
  let digits := body.filter Char.isDigit
  let n := Decimal.ofDigits digits
  (if digits.isEmpty ∨ 0x1_0000_0000 ≤ n then none else some n, (text.drop body.length).dropWhile isBlank)

/-- The bounds of a counted repetition, after its opening brace. -/
def counts? (ignoring : Bool) (text : List Char) : Option ((Nat × Option Nat) × List Char) :=
  match countBound? ignoring (skip ignoring text) with
  | (none, _) => none
  | (some least, rest) =>
    match rest with
    | '\x7d' :: rest => some ((least, some least), rest)
    | ',' :: rest =>
      match skip ignoring rest with
      | '\x7d' :: rest => some ((least, none), rest)
      | rest =>
        match countBound? ignoring rest with
        | (some most, '\x7d' :: rest) => if least ≤ most then some ((least, some most), rest) else none
        | _ => none
    | _ => none

/-- Passes over the mark of a reluctant repetition. -/
def dropReluctance : List Char → List Char
  | '?' :: rest => rest
  | rest => rest

def step? (state : ParserState) : List Char → Option (ParserState × List Char)
  | [] => none
  | c :: rest =>
    let repeated (least : Nat) (most : Option Nat) (rest : List Char) : Option (ParserState × List Char) :=
      (state.group.repeatLast? least most).map fun group => ({ state with group }, dropReluctance rest)
    match c with
    | '(' => state.open? rest
    | ')' => state.close?.map fun state => (state, rest)
    | '|' => some ({ state with group := state.group.branch }, rest)
    | '[' => (set? state.ignoring rest).map fun (set, rest) => (state.add (.set set), rest)
    | '?' => repeated 0 (some 1) rest
    | '*' => repeated 0 none rest
    | '+' => repeated 1 none rest
    | '\x7b' => do
      let ((least, most), rest) ← counts? state.ignoring rest
      repeated least most (skip state.ignoring rest)
    | '\\' => (escape? state.ignoring rest).map fun (primitive, rest) => (state.add primitive.toTree, rest)
    | '.' => some (state.add .dot, rest)
    | '^' => some (state.add (.place .caret), rest)
    | '$' => some (state.add (.place .dollar), rest)
    | c => some (state.add (.literal c false), rest)

/-- The rest of a pattern; the fuel is at least its length. -/
def treeWithin? : Nat → ParserState → List Char → Option Tree
  | fuel, state, text =>
    match skip state.ignoring text with
    | [] => if state.outer.isEmpty then some state.group.inner else none
    | text =>
      match fuel with
      | 0 => none
      | fuel + 1 => do
        let (state, rest) ← step? state text
        treeWithin? fuel state rest

def maxDepth : Nat := 250

def tree? (pattern : String) : Option Tree := do
  let text := pattern.toList
  let tree ← treeWithin? (text.length + 1) ⟨⟨[], [], [], false⟩, [], false, []⟩ text
  guard (tree.depth ≤ maxDepth)
  some tree

end EntityGraph.Pattern
