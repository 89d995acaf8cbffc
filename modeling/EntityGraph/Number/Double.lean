import EntityGraph.Number.Binary

/-!
Double and single precision numbers, each kept as its word. Equality of the structures is equality of words; the
numeric comparison is `Double.compare?`, which leaves "not a number" unordered and identifies the two zeros.
-/
namespace EntityGraph

/-- Double precision: 52 fraction bits under 11 exponent bits. -/
def BinaryFormat.double : BinaryFormat := ⟨52, 11⟩

/-- Single precision: 23 fraction bits under 8 exponent bits. -/
def BinaryFormat.single : BinaryFormat := ⟨23, 8⟩

structure Double where
  word : UInt64
deriving DecidableEq, Inhabited

structure Single where
  word : UInt32
deriving DecidableEq, Inhabited

namespace Double

def ofWord (word : Nat) : Double := ⟨UInt64.ofNat word⟩

def parts (x : Double) : Parts := BinaryFormat.double.parts x.word.toNat

/-- The double nearest to a meaning. -/
def ofParts (p : Parts) : Double := ofWord (BinaryFormat.double.ofParts p)

/-- The double nearest to `± numerator / denominator`. -/
def ofRatio (negative : Bool) (numerator denominator : Nat) : Double :=
  ofWord (BinaryFormat.double.round negative numerator denominator)

def ofInt (n : Int) : Double := ofRatio (decide (n < 0)) n.natAbs 1

def zero : Double := ofInt 0
def one : Double := ofInt 1
def nan : Double := ofParts .nan
def infinity (negative : Bool) : Double := ofParts (.infinite negative)

instance : OfNat Double n := ⟨ofInt n⟩

def isFinite (x : Double) : Bool := x.parts.isFinite
def isNaN (x : Double) : Bool := x.parts = .nan
def negate (x : Double) : Double := ofParts x.parts.negate
def add (x y : Double) : Double := ofParts (x.parts.add y.parts)
def mul (x y : Double) : Double := ofParts (x.parts.mul y.parts)
def div (x y : Double) : Double := ofWord (BinaryFormat.double.divide x.parts y.parts)

def key? (x : Double) : Option Int := BinaryFormat.double.key? x.word.toNat

/-- The numeric comparison; absent when a side is not a number. -/
def compare? (x y : Double) : Option Ordering :=
  match x.key?, y.key? with
  | some a, some b => some (compare a b)
  | _, _ => none

def equals (x y : Double) : Bool := x.compare? y = some .eq

/-- The whole number nearest to a double, a half going away from zero; the identity outside the finite numbers and
where every double is whole. -/
def roundHalfAway (x : Double) : Double :=
  match x.parts with
  | .finite negative m (.negSucc shift) =>
    let unit := 1 <<< (shift + 1)
    ofRatio negative ((2 * m + unit) / (2 * unit)) 1
  | _ => x

end Double

namespace Single

private def ofWord (word : Nat) : Single := ⟨UInt32.ofNat word⟩

def parts (x : Single) : Parts := BinaryFormat.single.parts x.word.toNat

/-- The single nearest to a meaning. -/
def ofParts (p : Parts) : Single := ofWord (BinaryFormat.single.ofParts p)

def ofDouble (x : Double) : Single := ofParts x.parts

def toDouble (x : Single) : Double := Double.ofParts x.parts

def ofNat (n : Nat) : Single := ofWord (BinaryFormat.single.round false n 1)

def zero : Single := ofNat 0
def negativeZero : Single := ofParts (.finite true 0 0)

def isFinite (x : Single) : Bool := x.parts.isFinite
def add (x y : Single) : Single := ofParts (x.parts.add y.parts)
def mul (x y : Single) : Single := ofParts (x.parts.mul y.parts)
def div (x y : Single) : Single := ofWord (BinaryFormat.single.divide x.parts y.parts)
def sqrt (x : Single) : Single := ofWord (BinaryFormat.single.sqrt x.parts)

def key? (x : Single) : Option Int := BinaryFormat.single.key? x.word.toNat

/-- The numeric comparison; absent when a side is not a number. -/
def compare? (x y : Single) : Option Ordering :=
  match x.key?, y.key? with
  | some a, some b => some (compare a b)
  | _, _ => none

end Single

end EntityGraph
