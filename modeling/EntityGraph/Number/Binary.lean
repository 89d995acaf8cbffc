/-!
Binary floating-point formats: a word of a sign, a biased exponent and a fraction. `BinaryFormat.parts` reads a
word as `significand * 2 ^ exponent` and `BinaryFormat.round` gives the word nearest to a ratio, so arithmetic is
exact arithmetic on parts followed by one rounding.
-/
namespace EntityGraph

/-- The shape of a binary floating-point word; one sign bit stands above the exponent and the fraction. -/
structure BinaryFormat where
  fractionBits : Nat
  exponentBits : Nat

/-- What a floating-point word stands for; a finite one is `± significand * 2 ^ exponent`. -/
inductive Parts where
  | nan
  | infinite (negative : Bool)
  | finite (negative : Bool) (significand : Nat) (exponent : Int)
deriving DecidableEq

def binaryRatio (significand : Nat) (exponent : Int) : Nat × Nat :=
  match exponent with
  | .ofNat shift => (significand <<< shift, 1)
  | .negSucc shift => (significand, 1 <<< (shift + 1))

namespace Parts

def isFinite : Parts → Bool
  | finite .. => true
  | _ => false

def negate : Parts → Parts
  | nan => nan
  | infinite negative => infinite !negative
  | finite negative m e => finite (!negative) m e

/-- The signed integer `± significand * 2 ^ (exponent - base)`, for a base at most the exponent. -/
private def scaled (negative : Bool) (significand : Nat) (exponent base : Int) : Int :=
  let magnitude : Int := (significand <<< (exponent - base).toNat : Nat)
  if negative then -magnitude else magnitude

/-- The exact sum; two opposite numbers give a positive zero, two negative zeros a negative one. -/
def add : Parts → Parts → Parts
  | nan, _ => nan
  | _, nan => nan
  | infinite s, infinite t => if s = t then infinite s else nan
  | infinite s, _ => infinite s
  | _, infinite t => infinite t
  | finite s m e, finite t n d =>
    let base := min e d
    let total := scaled s m e base + scaled t n d base
    if total = 0 then finite (s && t) 0 base else finite (decide (total < 0)) total.natAbs base

/-- The exact product. -/
def mul : Parts → Parts → Parts
  | nan, _ => nan
  | _, nan => nan
  | infinite s, infinite t => infinite (s != t)
  | infinite s, finite t n _ => if n = 0 then nan else infinite (s != t)
  | finite s m _, infinite t => if m = 0 then nan else infinite (s != t)
  | finite s m e, finite t n d => finite (s != t) (m * n) (e + d)

end Parts

namespace BinaryFormat
variable (format : BinaryFormat)

/-- The exponent of the smallest positive number. -/
def minExponent : Int := 2 - (1 <<< (format.exponentBits - 1) : Nat) - (format.fractionBits : Int)

def signWeight : Nat := 1 <<< (format.fractionBits + format.exponentBits)

/-- The word of positive infinity: a full exponent and an empty fraction. -/
def infinityWord : Nat := (1 <<< format.exponentBits - 1) <<< format.fractionBits

def signed (negative : Bool) (word : Nat) : Nat := if negative then format.signWeight + word else word

/-- The one word written for "not a number". -/
def nanWord : Nat := format.infinityWord + 1 <<< (format.fractionBits - 1)

def parts (word : Nat) : Parts :=
  let negative := decide (format.signWeight ≤ word)
  let magnitude := if negative then word - format.signWeight else word
  let biased := magnitude / 1 <<< format.fractionBits
  let fraction := magnitude % 1 <<< format.fractionBits
  if biased = 1 <<< format.exponentBits - 1 then
    if fraction = 0 then .infinite negative else .nan
  else if biased = 0 then .finite negative fraction format.minExponent
  else .finite negative (1 <<< format.fractionBits + fraction) (format.minExponent + (biased - 1 : Nat))

/-- The quotient rounded to the nearest whole number, a half going to the even one. -/
def divideToEven (numerator denominator : Nat) : Nat :=
  let quotient := numerator / denominator
  let twice := 2 * (numerator % denominator)
  if denominator < twice ∨ (twice = denominator ∧ quotient % 2 = 1) then quotient + 1 else quotient

/-- `numerator / denominator / 2 ^ exponent` as a ratio of whole numbers. -/
def unscaled (numerator denominator : Nat) (exponent : Int) : Nat × Nat :=
  match exponent with
  | .ofNat shift => (numerator, denominator <<< shift)
  | .negSucc shift => (numerator <<< (shift + 1), denominator)

/-- The exponent at which a positive ratio has a full significand, but never below the smallest one. -/
def exponentOf (numerator denominator : Nat) : Int :=
  let guess : Int := (numerator.log2 : Int) - (denominator.log2 : Int) - (format.fractionBits : Int)
  let (n, d) := unscaled numerator denominator guess
  let exact := if n / d < 1 <<< format.fractionBits then guess - 1 else guess
  max exact format.minExponent

/-- The word nearest to `± numerator / denominator`, a tie going to the even significand and a number beyond the
largest to infinity. The exponent field counts on from the fraction, so a carry out of the significand needs no
case of its own. -/
def round (negative : Bool) (numerator denominator : Nat) : Nat :=
  if numerator = 0 then format.signed negative 0
  else
    let exponent := format.exponentOf numerator denominator
    let (n, d) := unscaled numerator denominator exponent
    let word := (exponent - format.minExponent).toNat <<< format.fractionBits + divideToEven n d
    format.signed negative (min word format.infinityWord)

/-- The word nearest to a meaning. -/
def ofParts : Parts → Nat
  | .nan => format.nanWord
  | .infinite negative => format.signed negative format.infinityWord
  | .finite negative significand exponent =>
    let (n, d) := binaryRatio significand exponent
    format.round negative n d

def divide : Parts → Parts → Nat
  | .nan, _ => format.nanWord
  | _, .nan => format.nanWord
  | .infinite s, .finite t _ _ => format.signed (s != t) format.infinityWord
  | .infinite _, .infinite _ => format.nanWord
  | .finite s _ _, .infinite t => format.signed (s != t) 0
  | .finite s m e, .finite t n d =>
    if n = 0 then
      if m = 0 then format.nanWord else format.signed (s != t) format.infinityWord
    else
      let (a, b) := binaryRatio m e
      let (c, k) := binaryRatio n d
      format.round (s != t) (a * k) (b * c)

/-- The largest whole number whose square is at most `n`, by binary digits from the top. -/
def squareRoot (n : Nat) : Nat :=
  go (n.log2 / 2 + 1) 0
where
  go : Nat → Nat → Nat
    | 0, root => root
    | place + 1, root =>
      let next := root + 1 <<< place
      go place (if next * next ≤ n then next else root)

/-- The rounded square root. Two spare binary digits and a mark for a remainder decide the rounding. -/
def sqrt : Parts → Nat
  | .nan => format.nanWord
  | .infinite negative => if negative then format.nanWord else format.infinityWord
  | .finite negative m e =>
    if m = 0 then format.signed negative 0
    else if negative then format.nanWord
    else
      let spare := format.fractionBits + 3
      let n := m <<< (2 * spare + (e % 2).toNat)
      let half := (e - e % 2) / 2
      let root := squareRoot n
      let marked := if root * root = n then 2 * root else 2 * root + 1
      let (a, b) := binaryRatio marked (half - spare - 1)
      format.round false a b

/-- The order of numbers as an order of integers; both zeros have key zero, "not a number" has none. -/
def key? (word : Nat) : Option Int :=
  let negative := decide (format.signWeight ≤ word)
  let magnitude := if negative then word - format.signWeight else word
  if format.infinityWord < magnitude then none
  else some (if negative then -(magnitude : Int) else magnitude)

end BinaryFormat

end EntityGraph
