import EntityGraph.Number.Shortest

/-!
How a double is written: its shortest decimal, laid out as one of two styles asks.
-/
namespace EntityGraph

/-- The decisions of a written number: the exponents that are written with a plain point (all of them when absent),
whether a whole number ends in `.0`, and which of two equally short decimals is taken. -/
structure NumberStyle where
  positional : Option (Int × Int)
  markWhole : Bool
  tie : Tie

namespace NumberStyle

/-- Numbers as values are shown: never an exponent, a whole number without a point, a tie upwards. -/
def plain : NumberStyle := ⟨none, false, .up⟩

/-- Numbers in structured text: a point or an exponent is always there, the exponent from `10 ^ 16` up and below
`10 ^ -5`, and a tie goes to the even digit. -/
def structured : NumberStyle := ⟨some (-5, 15), true, .even⟩

/-- Digits with a point: `coefficient * 10 ^ exponent` written out. -/
def layOut (markWhole : Bool) (d : Decimal) : List Char :=
  let digits := Decimal.digitsOf d.coefficient
  match d.exponent with
  | .ofNat shift =>
    (if d.coefficient = 0 then digits else digits ++ List.replicate shift '0')
      ++ (if markWhole then ['.', '0'] else [])
  | .negSucc shift =>
    let places := shift + 1
    let padded := List.replicate (places + 1 - digits.length) '0' ++ digits
    padded.take (padded.length - places) ++ '.' :: padded.drop (padded.length - places)

def scientific (d : Decimal) (exponent : Int) : List Char :=
  let mantissa := match Decimal.digitsOf d.coefficient with
    | [] => []
    | [digit] => [digit]
    | digit :: more => digit :: '.' :: more
  let sign := if exponent < 0 then '-' else '+'
  mantissa ++ 'e' :: sign :: Decimal.digitsOf exponent.natAbs

def finiteText (style : NumberStyle) (negative : Bool) (significand : Nat) (exponent : Int) : String :=
  let d := Decimal.shortest style.tie significand exponent
  let power : Int := d.exponent + ((Decimal.digitsOf d.coefficient).length - 1 : Nat)
  let body := match style.positional with
    | some (low, high) =>
      if d.coefficient = 0 ∨ (low ≤ power ∧ power ≤ high) then layOut style.markWhole d else scientific d power
    | none => layOut style.markWhole d
  String.ofList (if negative then '-' :: body else body)

end NumberStyle

def Double.text (style : NumberStyle) (x : Double) : String :=
  match x.parts with
  | .nan => "NaN"
  | .infinite negative => if negative then "-inf" else "inf"
  | .finite negative significand exponent => style.finiteText negative significand exponent

end EntityGraph
