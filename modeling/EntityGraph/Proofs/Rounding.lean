import EntityGraph.Proofs.NumberOrder
import Mathlib.Algebra.Order.Field.Power
import Mathlib.Algebra.Order.Field.Rat
import Mathlib.Tactic.FieldSimp
import Mathlib.Tactic.Linarith
import Mathlib.Tactic.Ring

/-!
Rounding to a binary format as arithmetic on ratios: the exponent that is chosen leaves a significand of full size, the
rounded significand is at most half a unit too large, and the word that is made of both stands for their product unless
the ratio lies beyond all finite numbers.
-/
namespace EntityGraph

theorem binaryRatio_pos (significand : Nat) (exponent : Int) : 0 < (binaryRatio significand exponent).2 := by
  cases exponent with
  | ofNat shift => exact Nat.one_pos
  | negSucc shift => simp [binaryRatio, Nat.shiftLeft_eq]

theorem binaryRatio_value (significand : Nat) (exponent : Int) :
    ((binaryRatio significand exponent).1 : ℚ) / (binaryRatio significand exponent).2 =
      significand * 2 ^ exponent := by
  cases exponent with
  | ofNat shift => simp [binaryRatio, Nat.shiftLeft_eq]
  | negSucc shift => simp [binaryRatio, Nat.shiftLeft_eq, zpow_negSucc, div_eq_mul_inv]

theorem binary_mul (m n : Nat) (e k : Int) :
    ((m * n : Nat) * 2 ^ (e + k) : ℚ) = m * 2 ^ e * (n * 2 ^ k) := by
  rw [zpow_add₀ two_ne_zero]
  push_cast
  ring

/-- The middle between the largest double and the next power of two. -/
def Double.limit : ℚ := (2 ^ 54 - 1) * 2 ^ (970 : ℤ)

namespace BinaryFormat

variable {n d : Nat}

theorem unscaled_pos (exponent : Int) (positive : 0 < d) : 0 < (unscaled n d exponent).2 := by
  cases exponent with
  | ofNat shift => simpa [unscaled, Nat.shiftLeft_eq] using positive
  | negSucc shift => exact positive

theorem unscaled_value (exponent : Int) :
    ((unscaled n d exponent).1 : ℚ) / (unscaled n d exponent).2 = n / d / 2 ^ exponent := by
  cases exponent with
  | ofNat shift => simp [unscaled, Nat.shiftLeft_eq, div_div]
  | negSucc shift => simp [unscaled, Nat.shiftLeft_eq, zpow_negSucc, div_mul_eq_mul_div]

theorem unscaled_div_lt_iff {bits : Nat} (exponent : Int) (denominator : 0 < d) :
    (unscaled n d exponent).1 / (unscaled n d exponent).2 < 1 <<< bits ↔ (n / d : ℚ) < 2 ^ (bits + exponent) := by
  have positive := unscaled_pos (n := n) exponent denominator
  have divisor : (0 : ℚ) < (unscaled n d exponent).2 := by exact_mod_cast positive
  have cast (x y : Nat) : x < y ↔ (x : ℚ) < y := Nat.cast_lt.symm
  rw [Nat.div_lt_iff_lt_mul positive, Nat.one_shiftLeft, cast, Nat.cast_mul, ← div_lt_iff₀ divisor, unscaled_value,
    div_lt_iff₀ (by positivity), zpow_add₀ two_ne_zero]
  simp

/-- Rounding goes up only from a remainder of at least a half. -/
theorem divideToEven_cases (n d : Nat) :
    divideToEven n d = n / d ∨ divideToEven n d = n / d + 1 ∧ d ≤ 2 * (n % d) := by
  simp only [divideToEven]
  split
  · exact .inr ⟨rfl, by omega⟩
  · exact .inl rfl

theorem divideToEven_le_add_half (n : Nat) (positive : 0 < d) : (divideToEven n d : ℚ) ≤ n / d + 1 / 2 := by
  have split : d * (n / d) + n % d = n := Nat.div_add_mod n d
  have doubled : 2 * (d * divideToEven n d) ≤ 2 * n + d := by
    rcases divideToEven_cases n d with down | ⟨up, half⟩
    · rw [down]
      omega
    · rw [up, Nat.mul_add]
      omega
  have cast : (2 * (d * divideToEven n d) : ℚ) ≤ 2 * n + d := by exact_mod_cast doubled
  have divisor : (0 : ℚ) < d := by exact_mod_cast positive
  rw [div_add_div _ _ (ne_of_gt divisor) two_ne_zero, le_div_iff₀ (by positivity)]
  linarith

theorem divideToEven_le {bound : Nat} (positive : 0 < d) (below : n ≤ d * bound) : divideToEven n d ≤ bound := by
  have split : d * (n / d) + n % d = n := Nat.div_add_mod n d
  rcases divideToEven_cases n d with down | ⟨up, half⟩
  · rw [down]
    exact Nat.div_le_of_le_mul below
  · rw [up]
    have remains : d * (n / d) < d * bound := by omega
    exact Nat.lt_of_mul_lt_mul_left remains

theorem le_divideToEven {bound : Nat} (positive : 0 < d) (above : bound * d ≤ n) : bound ≤ divideToEven n d := by
  have quotient : bound ≤ n / d := (Nat.le_div_iff_mul_le positive).mpr above
  rcases divideToEven_cases n d with down | ⟨up, -⟩ <;> omega

/-- The rounded significand of a ratio at an exponent. -/
def significandAt (n d : Nat) (exponent : Int) : Nat :=
  divideToEven (unscaled n d exponent).1 (unscaled n d exponent).2

theorem significandAt_le_add_half (exponent : Int) (denominator : 0 < d) :
    (significandAt n d exponent : ℚ) ≤ n / d / 2 ^ exponent + 1 / 2 := by
  rw [← unscaled_value]
  exact divideToEven_le_add_half _ (unscaled_pos exponent denominator)

theorem significandAt_le {exponent : Int} {bits : Nat} (denominator : 0 < d)
    (below : (n / d : ℚ) < 2 ^ (bits + exponent)) : significandAt n d exponent ≤ 2 ^ bits := by
  have positive := unscaled_pos (n := n) exponent denominator
  have divisor : (0 : ℚ) < (unscaled n d exponent).2 := by exact_mod_cast positive
  apply divideToEven_le positive
  rw [zpow_add₀ two_ne_zero, zpow_natCast, ← div_lt_iff₀ (by positivity), ← unscaled_value,
    div_lt_iff₀ divisor] at below
  rw [Nat.mul_comm]
  exact_mod_cast below.le

theorem le_significandAt {exponent : Int} {bits : Nat} (denominator : 0 < d)
    (above : (2 : ℚ) ^ (bits + exponent) ≤ n / d) : 2 ^ bits ≤ significandAt n d exponent := by
  have positive := unscaled_pos (n := n) exponent denominator
  have divisor : (0 : ℚ) < (unscaled n d exponent).2 := by exact_mod_cast positive
  apply le_divideToEven positive
  rw [zpow_add₀ two_ne_zero, zpow_natCast, ← le_div_iff₀ (by positivity), ← unscaled_value,
    le_div_iff₀ divisor] at above
  exact_mod_cast above

/-- Where a unit is a small part of the ratio, rounding adds a small part of it. -/
theorem significandAt_mul_le {exponent : Int} (denominator : 0 < d)
    (unit : (2 : ℚ) ^ exponent ≤ n / d * 2 ^ (-52 : ℤ)) :
    (significandAt n d exponent * 2 ^ exponent : ℚ) ≤ n / d * (1 + 2 ^ (-53 : ℤ)) := by
  have half := significandAt_le_add_half (n := n) exponent denominator
  calc (significandAt n d exponent : ℚ) * 2 ^ exponent ≤ (n / d / 2 ^ exponent + 1 / 2) * 2 ^ exponent := by gcongr
    _ = n / d + 2 ^ exponent / 2 := by field_simp
    _ ≤ n / d + n / d * 2 ^ (-52 : ℤ) / 2 := by gcongr
    _ = n / d * (1 + 2 ^ (-53 : ℤ)) := by
      rw [show (-53 : ℤ) = -52 - 1 by rfl, zpow_sub_one₀ two_ne_zero]
      ring

theorem log2_bounds (positive : 0 < n) : (2 : ℚ) ^ (n.log2 : ℤ) ≤ n ∧ (n : ℚ) < 2 ^ (n.log2 + 1 : ℤ) := by
  constructor
  · exact_mod_cast Nat.log2_self_le (Nat.pos_iff_ne_zero.mp positive)
  · exact_mod_cast Nat.lt_log2_self

theorem log2_quotient_bounds (numerator : 0 < n) (denominator : 0 < d) :
    (2 : ℚ) ^ (n.log2 - d.log2 - 1 : ℤ) < n / d ∧ (n / d : ℚ) < 2 ^ (n.log2 - d.log2 + 1 : ℤ) := by
  obtain ⟨numeratorLow, numeratorHigh⟩ := log2_bounds numerator
  obtain ⟨denominatorLow, denominatorHigh⟩ := log2_bounds denominator
  have divisor : (0 : ℚ) < d := by exact_mod_cast denominator
  constructor
  · rw [lt_div_iff₀ divisor]
    calc (2 : ℚ) ^ (n.log2 - d.log2 - 1 : ℤ) * d
        < 2 ^ (n.log2 - d.log2 - 1 : ℤ) * 2 ^ (d.log2 + 1 : ℤ) := by gcongr
      _ = 2 ^ (n.log2 : ℤ) := by
        rw [← zpow_add₀ two_ne_zero]
        congr 1
        omega
      _ ≤ n := numeratorLow
  · rw [div_lt_iff₀ divisor]
    calc (n : ℚ) < 2 ^ (n.log2 + 1 : ℤ) := numeratorHigh
      _ = 2 ^ (n.log2 - d.log2 + 1 : ℤ) * 2 ^ (d.log2 : ℤ) := by
        rw [← zpow_add₀ two_ne_zero]
        congr 1
        omega
      _ ≤ 2 ^ (n.log2 - d.log2 + 1 : ℤ) * d := by gcongr

/-- The significand at the chosen exponent has at most one digit more than the fraction, and a full one above the
smallest exponent. -/
theorem exponentOf_spec (format : BinaryFormat) (numerator : 0 < n) (denominator : 0 < d) :
    let exponent := format.exponentOf n d
    format.minExponent ≤ exponent ∧ (n / d : ℚ) < 2 ^ (format.fractionBits + 1 + exponent) ∧
      (format.minExponent < exponent → (2 : ℚ) ^ (format.fractionBits + exponent) ≤ n / d) := by
  intro exponent
  obtain ⟨low, high⟩ := log2_quotient_bounds numerator denominator
  obtain ⟨guess, guessEq⟩ : ∃ guess : Int, (n.log2 : Int) - d.log2 - format.fractionBits = guess := ⟨_, rfl⟩
  have position : (n.log2 : ℤ) - d.log2 = format.fractionBits + guess := by omega
  rw [position] at low high
  have chosen : exponent = max (if (n / d : ℚ) < 2 ^ (format.fractionBits + guess) then guess - 1 else guess)
      format.minExponent := by
    simp only [exponent, exponentOf, guessEq, unscaled_div_lt_iff guess denominator]
  refine ⟨by omega, ?_, ?_⟩
  · split at chosen
    · rename_i below
      refine lt_of_lt_of_le below (zpow_le_zpow_right₀ one_le_two ?_)
      omega
    · refine lt_of_lt_of_le high (zpow_le_zpow_right₀ one_le_two ?_)
      omega
  · intro above
    split at chosen
    · rename_i below
      have same : format.fractionBits + exponent = format.fractionBits + guess - 1 := by omega
      exact same ▸ le_of_lt low
    · rename_i notBelow
      have same : exponent = guess := by omega
      exact same ▸ not_lt.mp notBelow

section Words

variable {format : BinaryFormat}

theorem parts_below_infinity {word : Nat} (finite : word < format.infinityWord) :
    format.parts word =
      if word / 2 ^ format.fractionBits = 0 then .finite false (word % 2 ^ format.fractionBits) format.minExponent
      else .finite false (2 ^ format.fractionBits + word % 2 ^ format.fractionBits)
        (format.minExponent + (word / 2 ^ format.fractionBits - 1 : Nat)) := by
  have positive : ¬ format.signWeight ≤ word := Nat.not_le.mpr (finite.trans format.infinityWord_lt_signWeight)
  have inside : word / 2 ^ format.fractionBits ≠ 2 ^ format.exponentBits - 1 := by
    rw [infinityWord_eq_mul, Nat.mul_comm] at finite
    exact (Nat.div_lt_of_lt_mul finite).ne
  simp only [parts, positive, decide_false, Bool.false_eq_true, if_false, Nat.one_shiftLeft, inside]

/-- A word made of an exponent field and a rounded significand stands for their product, also where the significand has
carried into the field. -/
theorem parts_field {field significand : Nat} (full : field = 0 ∨ 2 ^ format.fractionBits ≤ significand)
    (rounded : significand ≤ 2 ^ (format.fractionBits + 1))
    (finite : field * 2 ^ format.fractionBits + significand < format.infinityWord) :
    ∃ m e, format.parts (field * 2 ^ format.fractionBits + significand) = .finite false m e ∧
      (m * 2 ^ e : ℚ) = significand * 2 ^ (format.minExponent + field) := by
  have unit : 0 < 2 ^ format.fractionBits := Nat.two_pow_pos _
  rw [parts_below_infinity finite, Nat.add_comm, Nat.add_mul_div_right _ _ unit, Nat.add_mul_mod_self_right]
  rw [Nat.pow_succ] at rounded
  rcases Nat.lt_or_ge significand (2 ^ format.fractionBits) with subnormal | normal
  · obtain rfl : field = 0 := full.resolve_right (Nat.not_le.mpr subnormal)
    rw [Nat.div_eq_of_lt subnormal, Nat.mod_eq_of_lt subnormal]
    exact ⟨_, _, rfl, by simp⟩
  rcases Nat.lt_or_ge significand (2 ^ format.fractionBits * 2) with exact | carried
  · have quotient : significand / 2 ^ format.fractionBits = 1 := Nat.div_eq_of_lt_le (by omega) (by omega)
    have remainder : 2 ^ format.fractionBits + significand % 2 ^ format.fractionBits = significand := by
      have whole := Nat.div_add_mod significand (2 ^ format.fractionBits)
      rwa [quotient, Nat.mul_one] at whole
    rw [quotient, if_neg (by omega), remainder]
    exact ⟨_, _, rfl, by simp⟩
  · -- the carry raises the field by one more and leaves an empty fraction
    obtain rfl : significand = 2 ^ format.fractionBits * 2 := Nat.le_antisymm rounded carried
    rw [Nat.mul_div_cancel_left _ unit, Nat.mul_mod_right, if_neg (by omega)]
    refine ⟨_, _, rfl, ?_⟩
    have next : format.minExponent + ((2 + field - 1 : Nat) : ℤ) = format.minExponent + field + 1 := by omega
    rw [next, zpow_add_one₀ two_ne_zero]
    push_cast
    ring

theorem round_positive (format : BinaryFormat) (numerator : 0 < n) :
    format.round false n d =
      min ((format.exponentOf n d - format.minExponent).toNat * 2 ^ format.fractionBits +
        significandAt n d (format.exponentOf n d)) format.infinityWord := by
  simp [round, Nat.pos_iff_ne_zero.mp numerator, signed, Nat.shiftLeft_eq, significandAt]

theorem significandAt_full (format : BinaryFormat) (numerator : 0 < n) (denominator : 0 < d) :
    (format.exponentOf n d - format.minExponent).toNat = 0 ∨
      2 ^ format.fractionBits ≤ significandAt n d (format.exponentOf n d) := by
  obtain ⟨above, -, full⟩ := exponentOf_spec format numerator denominator
  rcases Int.lt_or_eq_of_le above with larger | same
  · exact .inr (le_significandAt denominator (full larger))
  · exact .inl (by omega)

theorem significandAt_le_full (format : BinaryFormat) (numerator : 0 < n) (denominator : 0 < d) :
    significandAt n d (format.exponentOf n d) ≤ 2 ^ (format.fractionBits + 1) := by
  obtain ⟨-, spread, -⟩ := exponentOf_spec format numerator denominator
  exact significandAt_le denominator (by exact_mod_cast spread)

/-- The word of a ratio that is not rounded to infinity stands for the rounded significand at the chosen exponent. -/
theorem parts_round (numerator : 0 < n) (denominator : 0 < d)
    (finite : format.round false n d < format.infinityWord) :
    ∃ m e, format.parts (format.round false n d) = .finite false m e ∧
      (m * 2 ^ e : ℚ) = significandAt n d (format.exponentOf n d) * 2 ^ format.exponentOf n d := by
  have above := (exponentOf_spec format numerator denominator).1
  have field : format.minExponent + ((format.exponentOf n d - format.minExponent).toNat : ℤ) =
      format.exponentOf n d := by omega
  rw [round_positive format numerator] at finite ⊢
  have word := (min_lt_iff.mp finite).resolve_right (lt_irrefl _)
  obtain ⟨m, e, shown, value⟩ := parts_field (significandAt_full format numerator denominator)
    (significandAt_le_full format numerator denominator) word
  rw [field] at value
  rw [min_eq_left word.le]
  exact ⟨m, e, shown, value⟩

end Words

theorem exponentOf_double_le (numerator : 0 < n) (denominator : 0 < d) (bounded : (n / d : ℚ) < Double.limit) :
    double.exponentOf n d ≤ 971 := by
  obtain ⟨-, -, full⟩ := exponentOf_spec double numerator denominator
  by_contra beyond
  have smallest : double.minExponent = -1074 := rfl
  have places : double.fractionBits = 52 := rfl
  have power : (2 : ℚ) ^ (1024 : ℤ) ≤ 2 ^ (double.fractionBits + double.exponentOf n d : ℤ) :=
    zpow_le_zpow_right₀ one_le_two (by omega)
  have below : Double.limit < 2 ^ (1024 : ℤ) := by
    rw [Double.limit, show (1024 : ℤ) = (54 : ℕ) + 970 by rfl, zpow_add₀ two_ne_zero, zpow_natCast]
    exact mul_lt_mul_of_pos_right (by norm_num) (by positivity)
  exact absurd (power.trans (full (by omega))) (not_le.mpr (bounded.trans below))

/-- Below the limit the rounded significand does not carry into the exponent field of infinity. -/
theorem word_lt_infinity (denominator : 0 < d) (bounded : (n / d : ℚ) < Double.limit) {exponent : Int}
    (last : exponent ≤ 971) (rounded : significandAt n d exponent ≤ 2 ^ 53) :
    (exponent - double.minExponent).toNat * 2 ^ 52 + significandAt n d exponent < double.infinityWord := by
  have smallest : double.minExponent = -1074 := rfl
  have infinity : double.infinityWord = 2047 * 2 ^ 52 := rfl
  rw [infinity, smallest]
  rcases Int.lt_or_eq_of_le last with inside | rfl
  · omega
  · have scaled : (n / d : ℚ) / 2 ^ (971 : ℤ) < (2 ^ 54 - 1) / 2 := by
      rw [div_lt_iff₀ (by positivity)]
      refine lt_of_lt_of_eq bounded ?_
      rw [Double.limit, show (971 : ℤ) = 970 + 1 by rfl, zpow_add_one₀ two_ne_zero]
      ring
    have half := significandAt_le_add_half (n := n) 971 denominator
    have full : significandAt n d 971 < 2 ^ 53 := by
      have below : (significandAt n d 971 : ℚ) < 2 ^ 53 := by linarith
      exact_mod_cast below
    omega

theorem unit_le (numerator : 0 < n) (denominator : 0 < d) (normal : (2 : ℚ) ^ (-1022 : ℤ) ≤ n / d) :
    (2 : ℚ) ^ double.exponentOf n d ≤ n / d * 2 ^ (-52 : ℤ) := by
  obtain ⟨above, -, full⟩ := exponentOf_spec double numerator denominator
  have reached : (2 : ℚ) ^ (52 + double.exponentOf n d) ≤ n / d := by
    rcases Int.lt_or_eq_of_le above with larger | same
    · exact_mod_cast full larger
    · rw [← same]
      exact normal
  calc (2 : ℚ) ^ double.exponentOf n d = 2 ^ (52 + double.exponentOf n d) * 2 ^ (-52 : ℤ) := by
        rw [← zpow_add₀ two_ne_zero]
        congr 1
        omega
    _ ≤ n / d * 2 ^ (-52 : ℤ) := by gcongr

/-- A ratio below the limit is rounded to a finite double, which is larger by half a unit at most. -/
theorem round_double (denominator : 0 < d) (bounded : (n / d : ℚ) < Double.limit) :
    ∃ m e, double.parts (double.round false n d) = .finite false m e ∧ double.round false n d < 2 ^ 64 ∧
      ((2 : ℚ) ^ (-1022 : ℤ) ≤ n / d → (m * 2 ^ e : ℚ) ≤ n / d * (1 + 2 ^ (-53 : ℤ))) := by
  rcases Nat.eq_zero_or_pos n with rfl | numerator
  · have zero : double.round false 0 d = 0 := rfl
    rw [zero, parts_below_infinity (by decide)]
    exact ⟨_, _, rfl, by decide, fun _ => by simp⟩
  have infinity : double.infinityWord = 2047 * 2 ^ 52 := rfl
  have last := exponentOf_double_le numerator denominator bounded
  have finite : double.round false n d < double.infinityWord := by
    rw [round_positive double numerator]
    exact min_lt_of_left_lt
      (word_lt_infinity denominator bounded last (significandAt_le_full double numerator denominator))
  obtain ⟨m, e, shown, value⟩ := parts_round numerator denominator finite
  refine ⟨m, e, shown, by omega, fun normal => ?_⟩
  rw [value]
  exact significandAt_mul_le denominator (unit_le numerator denominator normal)

end BinaryFormat

namespace Double

theorem parts_ofRatio {n d : Nat} (denominator : 0 < d) (bounded : (n / d : ℚ) < limit) :
    ∃ m e, (ofRatio false n d).parts = .finite false m e ∧
      ((2 : ℚ) ^ (-1022 : ℤ) ≤ n / d → (m * 2 ^ e : ℚ) ≤ n / d * (1 + 2 ^ (-53 : ℤ))) := by
  obtain ⟨m, e, shown, small, value⟩ := BinaryFormat.round_double denominator bounded
  refine ⟨m, e, ?_, value⟩
  rw [parts, ofRatio, ofWord, UInt64.toNat_ofNat_of_lt' small, shown]

theorem parts_whole {n : Nat} (positive : 0 < n) (bounded : (n : ℚ) < limit) :
    ∃ m e, (ofRatio false n 1).parts = .finite false m e ∧ (m * 2 ^ e : ℚ) ≤ n * (1 + 2 ^ (-53 : ℤ)) := by
  obtain ⟨m, e, shown, value⟩ := parts_ofRatio (n := n) Nat.one_pos (by simpa using bounded)
  refine ⟨m, e, shown, ?_⟩
  have normal : (2 : ℚ) ^ (-1022 : ℤ) ≤ n / (1 : ℕ) := by
    have unit : (2 : ℚ) ^ (-1022 : ℤ) ≤ 1 := zpow_le_one_of_nonpos₀ one_le_two (by decide)
    have whole : (1 : ℚ) ≤ n := by exact_mod_cast positive
    simpa using unit.trans whole
  simpa using value normal

theorem mul_isFinite {x y : Double} {m n : Nat} {e k : Int} (left : x.parts = .finite false m e)
    (right : y.parts = .finite false n k) (bounded : (m * 2 ^ e * (n * 2 ^ k) : ℚ) < limit) :
    (x.mul y).isFinite = true := by
  have ratio := binaryRatio_value (m * n) (e + k)
  obtain ⟨_, _, shown, -⟩ := parts_ofRatio (binaryRatio_pos (m * n) (e + k)) (by rwa [ratio, binary_mul])
  have multiplied : x.mul y = ofRatio false (binaryRatio (m * n) (e + k)).1 (binaryRatio (m * n) (e + k)).2 := by
    rw [mul, left, right]
    rfl
  rw [multiplied, isFinite, shown]
  rfl

end Double

end EntityGraph
