/-!
The structure of a written search pattern.
-/
namespace EntityGraph.Pattern

/-- What can be switched inside a pattern: letter case, `^` and `$` at lines, `.` on line ends, carriage returns as
line ends, all scripts or ASCII alone. Greed and blanks make no difference to what is found. -/
inductive Flag where
  | ignoreCase
  | multiLine
  | dotAll
  | carriageReturn
  | allScripts
  | swapGreed
  | ignoreBlanks
deriving DecidableEq

/-- Flags that are switched on or off. -/
abbrev FlagChange := List (Flag × Bool)

inductive Place where
  | caret
  | dollar
  | textStart
  | textEnd
  | wordBoundary
  | noWordBoundary
  | wordStart
  | wordEnd
  | wordStartHalf
  | wordEndHalf
deriving DecidableEq

/-- The three classes with a letter of their own. -/
inductive LetterClass where
  | digit
  | space
  | word
deriving DecidableEq

/-- A class by property: one name, or the name of a property and a value. -/
structure PropertyQuery where
  name : String
  value : Option String

inductive SetOperation where
  | intersection
  | difference
  | symmetricDifference
deriving DecidableEq

/-- What stands between square brackets. A literal remembers whether it was written as two hexadecimal digits. -/
inductive SetTree where
  | literal (c : Char) (isByte : Bool)
  | range (first last : Char) (isByte : Bool)
  | named (name : String) (negated : Bool)
  | letter (kind : LetterClass) (negated : Bool)
  | property (query : PropertyQuery) (negated : Bool)
  | bracketed (negated : Bool) (inner : SetTree)
  | union (items : List SetTree)
  | operation (kind : SetOperation) (left right : SetTree)

inductive Tree where
  | empty
  | flags (change : FlagChange)
  | literal (c : Char) (isByte : Bool)
  | dot
  | place (kind : Place)
  | letter (kind : LetterClass) (negated : Bool)
  | property (query : PropertyQuery) (negated : Bool)
  | set (tree : SetTree)
  | repetition (inner : Tree) (least : Nat) (most : Option Nat)
  | group (change : FlagChange) (inner : Tree)
  | alternation (branches : List Tree)
  | concatenation (parts : List Tree)

namespace SetTree

mutual

/-- How deep brackets, lists and operations are nested. -/
def depth : SetTree → Nat
  | .bracketed _ inner => inner.depth + 1
  | .union items => depthItems items + 1
  | .operation _ left right => max left.depth right.depth + 1
  | _ => 0

def depthItems : List SetTree → Nat
  | [] => 0
  | item :: rest => max item.depth (depthItems rest)

end

end SetTree

namespace Tree

mutual

/-- How deep repetitions, groups, lists and sets are nested. -/
def depth : Tree → Nat
  | .set tree => tree.depth
  | .repetition inner _ _ => inner.depth + 1
  | .group _ inner => inner.depth + 1
  | .alternation branches => depthParts branches + 1
  | .concatenation parts => depthParts parts + 1
  | _ => 0

def depthParts : List Tree → Nat
  | [] => 0
  | part :: rest => max part.depth (depthParts rest)

end

/-- A list of parts as one tree. -/
def ofParts : List Tree → Tree
  | [] => .empty
  | [part] => part
  | parts => .concatenation parts

/-- A list of branches as one tree. -/
def ofBranches : List Tree → Tree
  | [branch] => branch
  | branches => .alternation branches

/-- Something that a repetition can be put on. -/
def isRepeatable : Tree → Bool
  | .empty => false
  | .flags _ => false
  | _ => true

end Tree

end EntityGraph.Pattern
