import EntityGraph.Text.Case.Fold

/-!
Tests on single characters, by code point.
-/
namespace EntityGraph.Pattern

inductive CharTest where
  | none
  | range (first last : Nat)
  | sets (members : List CodeSet)
  /-- The test holds for the character in some case; the flag limits the cases to ASCII. -/
  | anyCase (asciiOnly : Bool) (inner : CharTest)
  | not (inner : CharTest)
  | or (left right : CharTest)
  | and (left right : CharTest)

namespace CharTest

/-- The character in every case, itself among them. -/
def cases (asciiOnly : Bool) (code : Nat) : List Nat :=
  if asciiOnly then (Case.variants code).filter fun variant => variant = code ∨ (variant < 128 ∧ code < 128)
  else Case.variants code

def holds : CharTest → Nat → Bool
  | none, _ => false
  | range first last, code => first ≤ code && code ≤ last
  | sets members, code => members.any fun set => set.contains code
  | anyCase asciiOnly inner, code => (cases asciiOnly code).any inner.holds
  | not inner, code => !inner.holds code
  | or left right, code => left.holds code || right.holds code
  | and left right, code => left.holds code && right.holds code

def any : CharTest := .not .none

def single (c : Char) : CharTest := .range c.toNat c.toNat

/-- One of several ranges of characters. -/
def ranges : List (Char × Char) → CharTest
  | [] => .none
  | (first, last) :: rest => .or (.range first.toNat last.toNat) (ranges rest)

def negateIf (negated : Bool) (test : CharTest) : CharTest := if negated then .not test else test

def ascii : CharTest := .range 0 127

def size : CharTest → Nat
  | none => 0
  | range _ _ => 1
  | sets members => (members.map fun set =>
      (set.map fun range => if range.step = 1 then 1 else (range.last - range.first) / range.step + 1).sum).sum
  | anyCase _ inner => inner.size
  | not inner => inner.size + 1
  | or left right => left.size + right.size
  | and left right => left.size + right.size

end CharTest

end EntityGraph.Pattern
