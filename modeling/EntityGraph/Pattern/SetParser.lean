import EntityGraph.Pattern.Escape

/-!
Sets in square brackets: characters, ranges, classes, nested sets and the operations between them, which all bind
alike and to the left.
-/
namespace EntityGraph.Pattern

/-- A set that is still open: its items so far in reverse, and the operation that waits for them. -/
structure OpenSet where
  negated : Bool
  items : List SetTree
  pending : Option (SetOperation × SetTree)

namespace OpenSet

def add (set : OpenSet) (item : SetTree) : OpenSet := { set with items := item :: set.items }

/-- The items so far, after the waiting operation. -/
def combined (set : OpenSet) : SetTree :=
  let right := match set.items with
    | [item] => item
    | items => .union items.reverse
  match set.pending with
  | none => right
  | some (kind, left) => .operation kind left right

def operate (set : OpenSet) (kind : SetOperation) : OpenSet :=
  { set with items := [], pending := some (kind, set.combined) }

def close (set : OpenSet) : SetTree := .bracketed set.negated set.combined

end OpenSet

/-- The names of classes that are written between colons. -/
def classNames : List String :=
  ["alnum", "alpha", "ascii", "blank", "cntrl", "digit", "graph", "lower", "print", "punct", "space", "upper", "word",
   "xdigit"]

/-- A class between `[:` and `:]`; anything else is the start of a nested set. -/
def namedClass? : List Char → Option (SetTree × List Char)
  | '[' :: ':' :: rest =>
    let (negated, rest) := match rest with
      | '^' :: rest => (true, rest)
      | rest => (false, rest)
    let name := rest.takeWhile (· ≠ ':')
    match rest.drop name.length with
    | ':' :: ']' :: rest =>
      if classNames.contains (String.ofList name) then some (.named (String.ofList name) negated, rest) else none
    | _ => none
  | _ => none

/-- The start of a set after its bracket: a negation, then hyphens, or a closing bracket, as literals. -/
def openSet? (ignoring : Bool) (text : List Char) : Option (OpenSet × List Char) := do
  let text := skip ignoring text
  let (negated, text) := match text with
    | '^' :: rest => (true, skip ignoring rest)
    | rest => (false, rest)
  let (hyphens, text) := takeHyphens text
  guard (!text.isEmpty)
  match hyphens, text with
  | 0, ']' :: rest =>
    let rest := skip ignoring rest
    guard (!rest.isEmpty)
    some (⟨negated, [.literal ']' false], none⟩, rest)
  | _, text => some (⟨negated, List.replicate hyphens (.literal '-' false), none⟩, text)
where
  takeHyphens : List Char → Nat × List Char
    | [] => (0, [])
    | c :: rest =>
      if c = '-' then
        let (count, rest) := takeHyphens rest
        (count + 1, rest)
      else if ignoring && isBlank c then
        let (count, more) := takeHyphens rest
        if count = 0 then (0, c :: rest) else (count, more)
      else (0, c :: rest)

/-- One character or class. -/
def setPrimitive? (ignoring : Bool) : List Char → Option (Primitive × List Char)
  | [] => none
  | '\\' :: rest => escape? ignoring rest
  | c :: rest => some (.literal c false, rest)

def setItem? (ignoring : Bool) (text : List Char) : Option (SetTree × List Char) := do
  let (first, rest) ← setPrimitive? ignoring text
  let rest := skip ignoring rest
  match rest with
  | [] => none
  | '-' :: more =>
    let more := skip ignoring more
    match more with
    | [] => none
    | next :: _ =>
      if next = ']' ∨ next = '-' then do some (← first.toSetTree?, rest)
      else do
        let (last, rest) ← setPrimitive? ignoring more
        match first, last with
        | .literal a aByte, .literal b bByte =>
          if a ≤ b then some (.range a b (aByte || bByte), rest) else none
        | _, _ => none
  | rest => do some (← first.toSetTree?, rest)

/-- The rest of a set whose brackets are open, innermost first. The fuel is at least the length of the text. -/
def setWithin? (ignoring : Bool) : Nat → List OpenSet → List Char → Option (SetTree × List Char)
  | 0, _, _ => none
  | _, [], _ => none
  | fuel + 1, set :: outer, text =>
    match skip ignoring text with
    | [] => none
    | '[' :: rest =>
      match namedClass? ('[' :: rest) with
      | some (item, rest) => setWithin? ignoring fuel (set.add item :: outer) rest
      | none => do
        let (inner, rest) ← openSet? ignoring rest
        setWithin? ignoring fuel (inner :: set :: outer) rest
    | ']' :: rest =>
      match outer with
      | [] => some (set.close, rest)
      | parent :: others => setWithin? ignoring fuel (parent.add set.close :: others) rest
    | '&' :: '&' :: rest => setWithin? ignoring fuel (set.operate .intersection :: outer) rest
    | '-' :: '-' :: rest => setWithin? ignoring fuel (set.operate .difference :: outer) rest
    | '~' :: '~' :: rest => setWithin? ignoring fuel (set.operate .symmetricDifference :: outer) rest
    | text => do
      let (item, rest) ← setItem? ignoring text
      setWithin? ignoring fuel (set.add item :: outer) rest

def set? (ignoring : Bool) (text : List Char) : Option (SetTree × List Char) := do
  let (set, rest) ← openSet? ignoring text
  setWithin? ignoring (text.length + 1) [set] rest

end EntityGraph.Pattern
