import EntityGraph.Proofs.DoubleText
import EntityGraph.Proofs.Rounding

/-!
Every finite double is read back from its text as some double: the decimal that stands for it lies among the reals that
round to it, and so far below the overflow of the two roundings that reading takes.
-/
namespace EntityGraph

open Json

namespace Shortest

variable {interval : Interval} {tie : Tie}

theorem Interval.contains_le {quarter point : Nat} (inside : interval.contains quarter point = true) :
    point ≤ interval.high * quarter := by
  unfold Interval.contains at inside
  split at inside
  · simp only [Bool.and_eq_true, decide_eq_true_eq] at inside
    exact inside.2
  · simp only [Bool.and_eq_true, decide_eq_true_eq] at inside
    exact inside.2.le

theorem units_value (quarterExponent k : Int) :
    0 < (units quarterExponent k).2 ∧
      ((units quarterExponent k).1 : ℚ) / (units quarterExponent k).2 = 2 ^ quarterExponent / 10 ^ k := by
  have ratio := binaryRatio_value 1 quarterExponent
  have positive := binaryRatio_pos 1 quarterExponent
  simp only [Nat.cast_one, one_mul] at ratio
  cases k with
  | ofNat shift =>
    refine ⟨Nat.mul_pos positive (Nat.pow_pos (by decide)), ?_⟩
    simp only [units, Int.ofNat_eq_natCast, zpow_natCast, Nat.pow_eq]
    rw [← ratio, div_div]
    push_cast
    rfl
  | negSucc shift =>
    refine ⟨positive, ?_⟩
    simp only [units, zpow_negSucc, Nat.pow_eq]
    rw [← ratio, div_inv_eq_mul, div_mul_eq_mul_div]
    push_cast
    rfl

/-- A point that a grid has for an interval is at most the upper end of the interval. -/
theorem Interval.pointAt_le {k : Int} {point : Nat} (found : interval.pointAt tie k = some point) :
    (point * 10 ^ k : ℚ) ≤ interval.high * 2 ^ interval.quarterExponent := by
  have inside : interval.contains (units interval.quarterExponent k).1
      (point * (units interval.quarterExponent k).2) = true := by
    simp only [Interval.pointAt] at found
    grind
  obtain ⟨positive, ratio⟩ := units_value interval.quarterExponent k
  have step : (0 : ℚ) < (units interval.quarterExponent k).2 := by exact_mod_cast positive
  have below : (point * (units interval.quarterExponent k).2 : ℚ) ≤
      interval.high * (units interval.quarterExponent k).1 := by
    exact_mod_cast Interval.contains_le inside
  have grid : (0 : ℚ) < 10 ^ k := by positivity
  rw [← le_div_iff₀ step, mul_div_assoc, ratio, ← mul_div_assoc, le_div_iff₀ grid] at below
  exact below

theorem Interval.search_le (fuel : Nat) (k : Int) :
    (interval.search tie fuel k).value ≤ interval.high * 2 ^ interval.quarterExponent := by
  induction fuel generalizing k with
  | zero =>
    simp only [Interval.search, Decimal.value]
    cases found : interval.pointAt tie k with
    | some point => exact Interval.pointAt_le found
    | none =>
      simp only [Option.getD_none, Nat.cast_zero, zero_mul]
      positivity
  | succ fuel ih =>
    simp only [Interval.search]
    split
    · rename_i found
      exact Interval.pointAt_le found
    · exact ih _

end Shortest

/-- The decimal of a double is at most half a unit of its last place larger. -/
theorem Decimal.shortest_le (tie : Tie) (significand : Nat) (exponent : Int) :
    (Decimal.shortest tie significand exponent).value ≤ (significand + 1 / 2) * 2 ^ exponent := by
  unfold Decimal.shortest
  split
  · simp only [Decimal.value, Nat.cast_zero, zero_mul]
    positivity
  · refine (Shortest.Interval.search_le _ _).trans (le_of_eq ?_)
    simp only [Shortest.Interval.of]
    rw [zpow_sub₀ two_ne_zero]
    push_cast
    ring

namespace Json

/-- The significand and the power that are read make up no more than the decimal that was written. -/
theorem Numeral.significand_le (n : Numeral) {d : Decimal} (shows : n.Shows d) :
    (n.significand.1 * 10 ^ n.exponent : ℚ) ≤ d.value := by
  have wholeSmall : 10 ^ n.whole.length * 0 + Decimal.ofDigits n.whole < 2 ^ 64 := by
    have digits := Decimal.ofDigits_lt n.wholeDigits
    have places : 10 ^ n.whole.length ≤ 10 ^ 19 := Nat.pow_le_pow_right (by decide) shows.short
    omega
  obtain ⟨whole, undropped⟩ := (fittingDigits_fitted n.wholeDigits 0).complete wholeSmall
  rw [Nat.mul_zero, Nat.zero_add] at whole
  have fractionDigits : ∀ c ∈ n.fraction.getD [], c.isDigit = true := by
    cases parts : n.fraction with
    | none => nofun
    | some digits => exact (n.fractionDigits digits parts).2
  obtain ⟨-, below, counted, -⟩ := fittingDigits_fitted fractionDigits (Decimal.ofDigits n.whole)
  rw [← shows.value_eq, Numeral.value, Decimal.ofDigits_append]
  simp only [Numeral.exponent, Numeral.significand, whole, undropped]
  generalize (fittingDigits (Decimal.ofDigits n.whole) (n.fraction.getD [])).1 = significand at *
  generalize (fittingDigits (Decimal.ofDigits n.whole) (n.fraction.getD [])).2.1 = unread at *
  have power : ((0 : Nat) : ℤ) - ((n.fraction.getD []).length - unread : Nat) + n.power.getD 0 =
      unread + (n.power.getD 0 - (n.fraction.getD []).length) := by omega
  rw [power, zpow_add₀ (by norm_num), zpow_natCast, ← mul_assoc]
  have cast : (significand * 10 ^ unread : ℚ) ≤
      ((10 ^ (n.fraction.getD []).length * Decimal.ofDigits n.whole +
        Decimal.ofDigits (n.fraction.getD []) : ℕ) : ℚ) := by
    exact_mod_cast below
  gcongr

theorem limit_lt : Double.limit < 10 ^ 309 := by
  have whole : 18014398509481983 * 2 ^ 970 < 10 ^ 309 := by decide +kernel
  have cast : Double.limit = 18014398509481983 * 2 ^ 970 := by
    rw [Double.limit, show (970 : ℤ) = (970 : ℕ) by rfl, zpow_natCast]
    congr 1
    norm_num
  rw [cast]
  exact_mod_cast whole

theorem power_le_of_lt_limit {power : Nat} (small : (10 ^ power : ℚ) < Double.limit) : power ≤ 308 := by
  by_contra beyond
  have large : (10 : ℚ) ^ 309 ≤ 10 ^ power := pow_le_pow_right₀ (by norm_num) (by omega)
  exact absurd (large.trans_lt small) (not_lt.mpr limit_lt.le)

section Scaling

variable {significand power : Nat} (positive : 0 < significand)
  (product : (significand * 10 ^ power * (1 + 2 ^ (-53 : ℤ)) ^ 2 : ℚ) < Double.limit)

include positive product

theorem factors_lt_limit : (significand : ℚ) < Double.limit ∧ (10 ^ power : ℚ) < Double.limit := by
  have error : (1 : ℚ) ≤ 1 + 2 ^ (-53 : ℤ) := by
    have small : (0 : ℚ) < 2 ^ (-53 : ℤ) := by positivity
    linarith
  have whole : (1 : ℚ) ≤ significand := by exact_mod_cast positive
  have scaled : (1 : ℚ) ≤ 10 ^ power := one_le_pow₀ (by norm_num)
  have both : (significand * 10 ^ power : ℚ) < Double.limit :=
    lt_of_le_of_lt (le_mul_of_one_le_right (by positivity) (one_le_pow₀ error)) product
  exact ⟨lt_of_le_of_lt (le_mul_of_one_le_right (by positivity) scaled) both,
    lt_of_le_of_lt (le_mul_of_one_le_left (by positivity) whole) both⟩

/-- Rounding both factors leaves room for their product. -/
theorem mul_tenTo_isFinite : ((Double.ofInt significand).mul (tenTo power)).isFinite = true := by
  obtain ⟨startSmall, powerSmall⟩ := factors_lt_limit positive product
  obtain ⟨m, e, start, startValue⟩ := Double.parts_whole positive startSmall
  obtain ⟨n, k, ten, tenValue⟩ := Double.parts_whole (n := 10 ^ power) (Nat.pow_pos (by decide))
    (by exact_mod_cast powerSmall)
  refine Double.mul_isFinite start ten (lt_of_le_of_lt ?_ product)
  calc (m * 2 ^ e * (n * 2 ^ k) : ℚ)
      ≤ significand * (1 + 2 ^ (-53 : ℤ)) * ((10 ^ power : ℕ) * (1 + 2 ^ (-53 : ℤ))) := by gcongr
    _ = significand * 10 ^ power * (1 + 2 ^ (-53 : ℤ)) ^ 2 := by
      push_cast
      ring

end Scaling

theorem scale?_isSome {significand : Nat} {exponent : Int}
    (bounded : 0 ≤ exponent → (significand * 10 ^ exponent * (1 + 2 ^ (-53 : ℤ)) ^ 2 : ℚ) < Double.limit) :
    (scale? significand exponent).isSome := by
  unfold scale?
  rcases Nat.eq_zero_or_pos significand with rfl | positive
  · simp
  have nonzero := Nat.pos_iff_ne_zero.mp positive
  cases exponent with
  | negSucc power => simp [nonzero]
  | ofNat power =>
    have product := bounded (Int.natCast_nonneg power)
    rw [Int.ofNat_eq_natCast, zpow_natCast] at product
    have inRange := power_le_of_lt_limit (factors_lt_limit positive product).2
    have finite := mul_tenTo_isFinite positive product
    simp [nonzero, Nat.not_lt.mpr inRange, finite]

end Json

namespace Double

theorem parts_bounds {d : Double} {negative : Bool} {m : Nat} {e : Int} (shown : d.parts = .finite negative m e) :
    m < 2 ^ 53 ∧ e ≤ 971 := by
  have word := d.word.toNat_lt
  have sign : BinaryFormat.double.signWeight = 2 ^ 63 := rfl
  have fractionUnit : 1 <<< BinaryFormat.double.fractionBits = 2 ^ 52 := rfl
  have lastField : 1 <<< BinaryFormat.double.exponentBits - 1 = 2047 := rfl
  have smallest : BinaryFormat.double.minExponent = -1074 := rfl
  simp only [parts, BinaryFormat.parts, fractionUnit, lastField, smallest, sign, decide_eq_true_eq] at shown
  have below : (if 2 ^ 63 ≤ d.word.toNat then d.word.toNat - 2 ^ 63 else d.word.toNat) < 2 ^ 63 := by
    split <;> omega
  generalize (if 2 ^ 63 ≤ d.word.toNat then d.word.toNat - 2 ^ 63 else d.word.toNat) = magnitude at shown below
  split at shown
  · split at shown <;> cases shown
  split at shown
  · cases shown
    omega
  · cases shown
    omega

/-- The two largest doubles, whose decimals are too close to the overflow for an estimate. -/
theorem reread_largest (negative : Bool) :
    ∀ m ∈ [2 ^ 53 - 2, 2 ^ 53 - 1],
      ((Json.number? (NumberStyle.structured.finiteText negative m 971).toList).bind
        (·.1.asDouble?)).isSome = true := by
  revert negative
  decide +kernel

theorem reread?_isSome {d : Double} (finite : d.isFinite = true) : d.reread?.isSome = true := by
  obtain ⟨n, negative, m, e, shown, chars, shows⟩ := doubleText_numeral finite
  obtain ⟨significand, exponent⟩ := parts_bounds shown
  -- the bound on the error of both roundings is too coarse for the two largest doubles
  by_cases largest : e = 971 ∧ 2 ^ 53 - 2 ≤ m
  · obtain ⟨rfl, top⟩ := largest
    have text : (doubleText d).toList = (NumberStyle.structured.finiteText negative m 971).toList := by
      rw [doubleText, if_pos finite, text, shown]
    rw [reread?, text]
    exact reread_largest negative m (by simp; omega)
  · rw [reread?_numeral shows.marked chars, Numeral.double?, Option.isSome_map]
    apply scale?_isSome
    intro _
    have read : (n.significand.1 * 10 ^ n.exponent : ℚ) ≤ (m + 1 / 2) * 2 ^ e :=
      (n.significand_le shows).trans (Decimal.shortest_le .even m e)
    refine lt_of_le_of_lt (mul_le_mul_of_nonneg_right read (by positivity)) ?_
    rcases Int.lt_or_le e 971 with small | top
    · have unit : (2 : ℚ) ^ e ≤ 2 ^ (970 : ℤ) := zpow_le_zpow_right₀ one_le_two (by omega)
      have below : (m + 1 / 2 : ℚ) ≤ 2 ^ 53 - 1 / 2 := by
        have whole : (m + 1 : ℚ) ≤ 2 ^ 53 := by exact_mod_cast significand
        linarith
      calc (m + 1 / 2 : ℚ) * 2 ^ e * (1 + 2 ^ (-53 : ℤ)) ^ 2
          ≤ (2 ^ 53 - 1 / 2) * 2 ^ (970 : ℤ) * (1 + 2 ^ (-53 : ℤ)) ^ 2 :=
            mul_le_mul_of_nonneg_right (mul_le_mul below unit (by positivity) (by norm_num)) (by positivity)
        _ = (2 ^ 53 - 1 / 2) * (1 + 2 ^ (-53 : ℤ)) ^ 2 * 2 ^ (970 : ℤ) := mul_right_comm _ _ _
        _ < (2 ^ 54 - 1) * 2 ^ (970 : ℤ) := mul_lt_mul_of_pos_right (by norm_num) (by positivity)
    · obtain rfl : e = 971 := by omega
      have below : (m + 1 / 2 : ℚ) ≤ 2 ^ 53 - 5 / 2 := by
        have whole : (m + 3 : ℚ) ≤ 2 ^ 53 := by exact_mod_cast (show m + 3 ≤ 2 ^ 53 by omega)
        linarith
      calc (m + 1 / 2 : ℚ) * 2 ^ (971 : ℤ) * (1 + 2 ^ (-53 : ℤ)) ^ 2
          ≤ (2 ^ 53 - 5 / 2) * 2 ^ (971 : ℤ) * (1 + 2 ^ (-53 : ℤ)) ^ 2 :=
            mul_le_mul_of_nonneg_right (mul_le_mul_of_nonneg_right below (by positivity)) (by positivity)
        _ = (2 ^ 53 - 5 / 2) * (1 + 2 ^ (-53 : ℤ)) ^ 2 * 2 * 2 ^ (970 : ℤ) := by
          rw [show (971 : ℤ) = 970 + 1 by rfl, zpow_add_one₀ two_ne_zero]
          generalize (2 : ℚ) ^ (970 : ℤ) = unit
          ring
        _ < (2 ^ 54 - 1) * 2 ^ (970 : ℤ) := mul_lt_mul_of_pos_right (by norm_num) (by positivity)

/-- The double that the text of a finite double is read as. -/
def reread (d : Double) : Double := d.reread?.getD d

theorem reread?_eq {d : Double} (finite : d.isFinite = true) : d.reread? = some d.reread := by
  obtain ⟨again, read⟩ := Option.isSome_iff_exists.mp (reread?_isSome finite)
  rw [reread, read, Option.getD_some]

end Double

end EntityGraph
