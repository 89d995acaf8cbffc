/-!
Sets of characters as ascending lists of ranges of code points.
-/
namespace EntityGraph

/-- Every `step`-th code point from `first` to `last`. -/
structure CodeRange where
  first : Nat
  last : Nat
  step : Nat

namespace CodeRange

def contains (range : CodeRange) (code : Nat) : Bool :=
  range.first ≤ code && code ≤ range.last && (code - range.first) % range.step == 0

end CodeRange

/-- A set of code points: ranges, ascending by their first code point. -/
abbrev CodeSet := List CodeRange

namespace CodeSet

/-- Membership; ranges that begin beyond the code point are not looked at. -/
def contains : CodeSet → Nat → Bool
  | [], _ => false
  | range :: rest, code =>
    if code < range.first then false else range.contains code || contains rest code

def containsChar (set : CodeSet) (c : Char) : Bool := set.contains c.toNat

end CodeSet

/-- Characters that all have a partner at the same distance. -/
structure CodeShift where
  range : CodeRange
  offset : Int

/-- The partner of a code point under a list of shifts; the code point itself if it has none. -/
def shiftCode : List CodeShift → Nat → Nat
  | [], code => code
  | shift :: rest, code =>
    if shift.range.contains code then (code + shift.offset).toNat else shiftCode rest code

end EntityGraph
