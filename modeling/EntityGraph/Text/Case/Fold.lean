import EntityGraph.Text.Case.Tables

/-!
Characters that are the same up to case.
-/
namespace EntityGraph.Case

def foldCode (code : Nat) : Nat := shiftCode foldShifts code

/-- The code points that a list of shifts takes to a given one. -/
def sources (target : Nat) (shifts : List CodeShift) : List Nat :=
  shifts.filterMap fun shift =>
    let code : Int := target - shift.offset
    if 0 ≤ code ∧ shift.range.contains code.toNat then some code.toNat else none

/-- All code points with the same folding, the code point itself among them. -/
def variants (code : Nat) : List Nat :=
  let folded := foldCode code
  folded :: (sources folded foldShifts)

end EntityGraph.Case
