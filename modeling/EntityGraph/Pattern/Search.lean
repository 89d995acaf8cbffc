import EntityGraph.Pattern.Basic
import EntityGraph.Text.Letter

/-!
Whether a pattern is found in a text. `Pattern.ends` follows a pattern from a set of places at once to all places
where it can end, so that nothing has to be tried twice.
-/
namespace EntityGraph.Pattern

/-- Places in a text, ascending. -/
abbrev Places := List Nat

/-- The union of two ascending lists. -/
def mergePlaces : Places → Places → Places
  | [], right => right
  | left, [] => left
  | a :: left, b :: right =>
    if a < b then a :: mergePlaces left (b :: right)
    else if b < a then b :: mergePlaces (a :: left) right
    else a :: mergePlaces left right
termination_by left right => left.length + right.length

/-- A word character beside a place. -/
def isWordAt (asciiOnly : Bool) (text : Array Char) (place : Nat) : Bool :=
  match text[place]? with
  | none => false
  | some c => if asciiOnly then c.isAlphanum || c = '_' else isWordChar c

def isWordBefore (asciiOnly : Bool) (text : Array Char) (place : Nat) : Bool :=
  place ≠ 0 && isWordAt asciiOnly text (place - 1)

def charBefore? (text : Array Char) (place : Nat) : Option Char := if place = 0 then none else text[place - 1]?

def Look.holds (look : Look) (text : Array Char) (place : Nat) : Bool :=
  let before (asciiOnly : Bool) := isWordBefore asciiOnly text place
  let after (asciiOnly : Bool) := isWordAt asciiOnly text place
  match look with
  | .textStart => place = 0
  | .textEnd => place = text.size
  | .lineStart => place = 0 || charBefore? text place = some '\n'
  | .lineEnd => place = text.size || text[place]? = some '\n'
  | .lineStartAny =>
    place = 0 || charBefore? text place = some '\n'
      || (charBefore? text place = some '\r' && text[place]? ≠ some '\n')
  | .lineEndAny =>
    place = text.size || text[place]? = some '\r'
      || (text[place]? = some '\n' && charBefore? text place ≠ some '\r')
  | .boundary asciiOnly => before asciiOnly != after asciiOnly
  | .noBoundary asciiOnly => before asciiOnly == after asciiOnly
  | .wordStart asciiOnly => !before asciiOnly && after asciiOnly
  | .wordEnd asciiOnly => before asciiOnly && !after asciiOnly
  | .wordStartHalf asciiOnly => !before asciiOnly
  | .wordEndHalf asciiOnly => !after asciiOnly

/-- A step taken exactly so many times. It stops early when it changes nothing any more. -/
def repeatExactly (step : Places → Places) : Nat → Places → Places
  | 0, places => places
  | count + 1, places =>
    let next := step places
    if next = places then places else repeatExactly step count next

/-- A step taken up to so many times. It stops early when it leads nowhere new. -/
def repeatUpTo (step : Places → Places) : Nat → Places → Places
  | 0, places => places
  | count + 1, places =>
    let next := mergePlaces places (step places)
    if next = places then places else repeatUpTo step count next

/-- All places where the pattern can end when it starts at one of the given places. -/
def ends (text : Array Char) : Pattern → Places → Places
  | .empty, places => places
  | .char test, places => places.filterMap fun place =>
    match text[place]? with
    | some c => if test.holds c.toNat then some (place + 1) else none
    | none => none
  | .look condition, places => places.filter (condition.holds text)
  | .sequence first second, places => ends text second (ends text first places)
  | .either first second, places => mergePlaces (ends text first places) (ends text second places)
  | .repetition inner least most, places =>
    let start := repeatExactly (ends text inner) least places
    repeatUpTo (ends text inner) (match most with
      | some most => most - least
      | none => text.size + 1) start

def isFoundIn (pattern : Pattern) (text : String) : Bool :=
  let chars := text.toList.toArray
  !(ends chars pattern (List.range (chars.size + 1))).isEmpty

end EntityGraph.Pattern
