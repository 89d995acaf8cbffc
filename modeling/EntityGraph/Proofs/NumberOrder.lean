import EntityGraph.Number.Double
import Mathlib.Algebra.Group.Nat.Defs

/-!
The order of doubles: every double but "not a number" has a place among the integers, and two doubles are compared by
their places.
-/
namespace EntityGraph

namespace BinaryFormat

variable {format : BinaryFormat} {word : Nat}

theorem infinityWord_eq_mul (format : BinaryFormat) :
    format.infinityWord = (2 ^ format.exponentBits - 1) * 2 ^ format.fractionBits := by
  rw [infinityWord, Nat.shiftLeft_eq, Nat.one_shiftLeft]

theorem infinityWord_lt_signWeight (format : BinaryFormat) : format.infinityWord < format.signWeight := by
  rw [infinityWord_eq_mul, signWeight, Nat.one_shiftLeft, Nat.pow_add, Nat.mul_comm (2 ^ format.fractionBits)]
  have positive := Nat.two_pow_pos format.exponentBits
  exact Nat.mul_lt_mul_of_pos_right (by omega) (Nat.two_pow_pos _)

theorem key?_signed (negative : Bool) (bounded : word ≤ format.infinityWord) :
    format.key? (format.signed negative word) = some (if negative then -(word : Int) else word) := by
  have fits := format.infinityWord_lt_signWeight
  have kept : ¬ format.infinityWord < word := by omega
  cases negative with
  | false =>
    have positive : ¬ format.signWeight ≤ word := by omega
    simp [key?, signed, positive, kept]
  | true => simp [key?, signed, kept]

theorem round_signed (format : BinaryFormat) (negative : Bool) (numerator denominator : Nat) :
    format.round negative numerator denominator = format.signed negative (format.round false numerator denominator) := by
  unfold round
  split <;> rfl

theorem round_le_infinityWord (format : BinaryFormat) (numerator denominator : Nat) :
    format.round false numerator denominator ≤ format.infinityWord := by
  unfold round
  split
  · exact Nat.zero_le _
  · exact Nat.min_le_right ..

end BinaryFormat

namespace Double

variable {x y : Double}

theorem infinityWord_eq : BinaryFormat.double.infinityWord = 2047 * 2 ^ 52 := rfl

theorem signWeight_eq : BinaryFormat.double.signWeight = 2 ^ 63 := rfl

theorem key?_ofWord (negative : Bool) {word : Nat} (bounded : word ≤ BinaryFormat.double.infinityWord) :
    (ofWord (BinaryFormat.double.signed negative word)).key? = some (if negative then -(word : Int) else word) := by
  have small : BinaryFormat.double.signed negative word < UInt64.size := by
    rw [infinityWord_eq] at bounded
    simp only [BinaryFormat.signed, UInt64.size, signWeight_eq]
    split <;> omega
  rw [key?, ofWord, UInt64.toNat_ofNat_of_lt' small]
  exact BinaryFormat.key?_signed negative bounded

theorem key?_ofInt (n : Int) : (ofInt n).key?.isSome = true := by
  rw [ofInt, ofRatio, BinaryFormat.round_signed, key?_ofWord _ (BinaryFormat.round_le_infinityWord ..)]
  rfl

theorem key?_eq_none_iff : x.key? = none ↔ x.isNaN = true := by
  have fractionUnit : 1 <<< BinaryFormat.double.fractionBits = 2 ^ 52 := rfl
  have lastField : 1 <<< BinaryFormat.double.exponentBits - 1 = 2047 := rfl
  have infinity := infinityWord_eq
  have small : x.word.toNat < 2 ^ 64 := x.word.toNat_lt
  simp only [isNaN, parts, BinaryFormat.parts, fractionUnit, lastField, key?, BinaryFormat.key?]
  generalize unsigned : (if decide (BinaryFormat.double.signWeight ≤ x.word.toNat) = true
    then x.word.toNat - BinaryFormat.double.signWeight else x.word.toNat) = magnitude
  have below : magnitude < 2 ^ 63 := by
    rw [signWeight_eq] at unsigned
    simp only [decide_eq_true_eq] at unsigned
    split at unsigned <;> omega
  by_cases large : BinaryFormat.double.infinityWord < magnitude
  · have filled : magnitude / 2 ^ 52 = 2047 := by omega
    have fraction : magnitude % 2 ^ 52 ≠ 0 := by omega
    rw [if_pos large, if_pos filled, if_neg fraction]
    exact iff_of_true rfl rfl
  · have whole : magnitude / 2 ^ 52 = 2047 → magnitude % 2 ^ 52 = 0 := by omega
    rw [if_neg large]
    refine iff_of_false (by simp) ?_
    grind

theorem key?_isSome_iff : x.key?.isSome = true ↔ x.isNaN = false := by
  rw [← Option.ne_none_iff_isSome, Ne, key?_eq_none_iff, Bool.not_eq_true]

theorem isNaN_of_isFinite (finite : x.isFinite = true) : x.isNaN = false := by
  rw [isNaN, decide_eq_false_iff_not]
  intro nan
  rw [isFinite, nan] at finite
  cases finite

theorem key?_of_isFinite (finite : x.isFinite = true) : x.key?.isSome = true :=
  key?_isSome_iff.mpr (isNaN_of_isFinite finite)

theorem equals_iff : x.equals y = true ↔ ∃ key, x.key? = some key ∧ y.key? = some key := by
  unfold equals compare?
  cases x.key? <;> cases y.key? <;> simp [@eq_comm Int]

theorem compare?_eq_none_iff : x.compare? y = none ↔ x.isNaN = true ∨ y.isNaN = true := by
  rw [← key?_eq_none_iff, ← key?_eq_none_iff]
  unfold compare?
  cases x.key? <;> cases y.key? <;> simp

theorem compare?_swap (x y : Double) : y.compare? x = (x.compare? y).map Ordering.swap := by
  unfold compare?
  rcases x.key? with _ | a <;> rcases y.key? with _ | b <;> try rfl
  exact congrArg some Std.OrientedOrd.eq_swap

end Double

end EntityGraph
