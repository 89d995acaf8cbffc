import EntityGraph.Number.Double

/-!
Texts as vectors, and how alike two vectors are.
-/
namespace EntityGraph

abbrev Vector32 := List Single

inductive EmbeddingError where
  | emptyInput
  | backend (message : String)
deriving DecidableEq

def EmbeddingError.message : EmbeddingError → String
  | .emptyInput => "no embeddable tokens in input"
  | .backend message => "embedding backend error: " ++ message

/-- Turns texts into vectors of one length. -/
structure EmbeddingProvider where
  dimensions : Nat
  embed : String → Except EmbeddingError Vector32

namespace Vector32

/-- The sum from left to right; the sum of nothing is the negative zero. -/
def sum (v : Vector32) : Single := v.foldl Single.add Single.negativeZero

def dot (a b : Vector32) : Single := sum (List.zipWith Single.mul a b)

/-- The cosine of the angle between two vectors, zero if one of them has no length. -/
def cosine (a b : Vector32) : Single :=
  let lengthOfA := (dot a a).sqrt
  let lengthOfB := (dot b b).sqrt
  let isZero (x : Single) : Bool := x.compare? Single.zero = some .eq
  if isZero lengthOfA || isZero lengthOfB then Single.zero
  else (dot a b).div (lengthOfA.mul lengthOfB)

end Vector32

end EntityGraph
