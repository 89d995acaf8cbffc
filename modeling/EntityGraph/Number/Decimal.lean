import EntityGraph.Number.Double

/-!
Decimal numbers: what a text of digits, a point and an exponent stands for, and the double nearest to it.
-/
namespace EntityGraph

structure Decimal where
  coefficient : Nat
  exponent : Int
deriving DecidableEq

namespace Decimal

def digitValue (c : Char) : Nat := c.toNat - '0'.toNat

/-- The whole number that a list of decimal digits spells. -/
def ofDigits (digits : List Char) : Nat := digits.foldl (fun n c => 10 * n + digitValue c) 0

def digitsOf (n : Nat) : List Char := Nat.toDigits 10 n

/-- The double nearest to `± coefficient * 10 ^ exponent`. Outside the range of doubles only the order of magnitude
is looked at, so the work does not grow with the exponent. -/
def toDouble (negative : Bool) (d : Decimal) : Double :=
  let magnitude : Int := (digitsOf d.coefficient).length + d.exponent
  if d.coefficient = 0 ∨ magnitude < -400 then Double.ofRatio negative 0 1
  else if 400 < magnitude then Double.infinity negative
  else match d.exponent with
    | .ofNat shift => Double.ofRatio negative (d.coefficient * Nat.pow 10 shift) 1
    | .negSucc shift => Double.ofRatio negative d.coefficient (Nat.pow 10 (shift + 1))

/-- A sign, if there is one, and what follows it. -/
def takeSign : List Char → Bool × List Char
  | '-' :: rest => (true, rest)
  | '+' :: rest => (false, rest)
  | rest => (false, rest)

/-- The exponent part of a number: nothing, or a mark, a sign and at least one digit. -/
def exponent? : List Char → Option Int
  | [] => some 0
  | mark :: rest =>
    let (negative, digits) := takeSign rest
    if (mark = 'e' ∨ mark = 'E') ∧ !digits.isEmpty ∧ digits.all Char.isDigit then
      some (if negative then -(ofDigits digits : Int) else ofDigits digits)
    else none

/-- An unsigned number: digits with an optional point, a digit on one side of it at least, then an exponent. -/
def unsigned? (text : List Char) : Option Decimal :=
  let (whole, rest) := text.span Char.isDigit
  let (fraction, rest) := match rest with
    | '.' :: more => more.span Char.isDigit
    | more => ([], more)
  if whole.isEmpty && fraction.isEmpty then none
  else (exponent? rest).map fun exponent => ⟨ofDigits (whole ++ fraction), exponent - fraction.length⟩

end Decimal

/-- The number that a text spells: a sign, then digits, a word for infinity, or a word for "not a number". -/
def Double.ofText? (text : String) : Option Double :=
  let (negative, rest) := Decimal.takeSign text.toList
  let word := String.ofList (rest.map Char.toLower)
  if word = "inf" ∨ word = "infinity" then some (Double.infinity negative)
  else if word = "nan" then some Double.nan
  else (Decimal.unsigned? rest).map (Decimal.toDouble negative)

end EntityGraph
