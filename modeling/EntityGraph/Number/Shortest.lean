import EntityGraph.Number.Decimal

/-!
The shortest decimal that reads back as a given double: the coarsest power-of-ten grid with a point among the reals
that round to the double, and on it the point nearest to the double.
-/
namespace EntityGraph

/-- Which of two equally near decimals is written. -/
inductive Tie where
  | even
  | up
deriving DecidableEq

namespace Shortest

/-- The reals that round to a double, as multiples of a quarter of its last place: `low`, `middle` and `high` of
them are the lower end, the double itself and the upper end. -/
structure Interval where
  low : Nat
  middle : Nat
  high : Nat
  quarterExponent : Int
  endsIncluded : Bool

/-- The interval of `significand * 2 ^ exponent`. Below a power of two the next double is half as far away. -/
def Interval.of (significand : Nat) (exponent : Int) : Interval :=
  let atPower := decide (significand = 1 <<< BinaryFormat.double.fractionBits)
    && decide (BinaryFormat.double.minExponent < exponent)
  { low := 4 * significand - (if atPower then 1 else 2)
    middle := 4 * significand
    high := 4 * significand + 2
    quarterExponent := exponent - 2
    endsIncluded := significand % 2 = 0 }

/-- Grid points of step `10 ^ k` and quarters as multiples of one unit: a quarter is `quarter` units, a step `step`. -/
def units (quarterExponent k : Int) : Nat × Nat :=
  let (numerator, denominator) := binaryRatio 1 quarterExponent
  match k with
  | .ofNat shift => (numerator, denominator * Nat.pow 10 shift)
  | .negSucc shift => (numerator * Nat.pow 10 (shift + 1), denominator)

def Interval.contains (interval : Interval) (quarter point : Nat) : Bool :=
  if interval.endsIncluded then interval.low * quarter ≤ point && point ≤ interval.high * quarter
  else interval.low * quarter < point && point < interval.high * quarter

/-- The grid point of step `10 ^ k` that stands for the double, if one lies in its interval. -/
def Interval.pointAt (interval : Interval) (tie : Tie) (k : Int) : Option Nat :=
  let (quarter, step) := units interval.quarterExponent k
  let below := interval.middle * quarter / step
  let belowIn := interval.contains quarter (below * step)
  let aboveIn := interval.contains quarter ((below + 1) * step)
  let twice := 2 * (interval.middle * quarter % step)
  match belowIn, aboveIn with
  | false, false => none
  | true, false => some below
  | false, true => some (below + 1)
  | true, true =>
    if twice < step then some below
    else if step < twice then some (below + 1)
    else match tie with
      | .up => some (below + 1)
      | .even => some (if below % 2 = 0 then below else below + 1)

/-- The first hit on ever finer grids. -/
def Interval.search (interval : Interval) (tie : Tie) : Nat → Int → Decimal
  | 0, k => ⟨(interval.pointAt tie k).getD 0, k⟩
  | fuel + 1, k =>
    match interval.pointAt tie k with
    | some point => ⟨point, k⟩
    | none => interval.search tie fuel (k - 1)

end Shortest

/-- The shortest decimal of `significand * 2 ^ exponent`, nearest to it among the shortest. Twenty grids down from
its order of magnitude suffice, as seventeen digits tell all doubles apart. -/
def Decimal.shortest (tie : Tie) (significand : Nat) (exponent : Int) : Decimal :=
  if significand = 0 then ⟨0, 0⟩
  else
    let top := (significand.log2 + exponent + 1) * 30103 / 100000 + 1
    (Shortest.Interval.of significand exponent).search tie 20 top

end EntityGraph
