import EntityGraph.Proofs.Rounding

/-!
The order that rounding keeps: a larger ratio never has the smaller word, and a larger word never stands for the smaller
number. So ratios between two bounds are rounded to numbers between the rounded bounds. A whole number with no more binary
digits than a significand is rounded to itself.
-/
namespace EntityGraph

namespace BinaryFormat

variable {format : BinaryFormat} {n d m k : Nat}

theorem divideToEven_mono (positive : 0 < d) (divisor : 0 < k) (ordered : (n / d : ℚ) ≤ m / k) :
    divideToEven n d ≤ divideToEven m k := by
  have crossed : n * k ≤ m * d := by
    rw [div_le_div_iff₀ (by exact_mod_cast positive) (by exact_mod_cast divisor)] at ordered
    exact_mod_cast ordered
  have first : d * (n / d) + n % d = n := Nat.div_add_mod n d
  have second : k * (m / k) + m % k = m := Nat.div_add_mod m k
  have quotients : n / d ≤ m / k := by
    rw [Nat.le_div_iff_mul_le divisor]
    refine Nat.le_of_mul_le_mul_right ?_ positive
    calc n / d * k * d = n / d * d * k := Nat.mul_right_comm _ _ _
      _ ≤ n * k := Nat.mul_le_mul_right _ (Nat.div_mul_le_self n d)
      _ ≤ m * d := crossed
  rcases Nat.lt_or_eq_of_le quotients with less | same
  · rcases divideToEven_cases n d with down | ⟨up, -⟩ <;> rcases divideToEven_cases m k with low | ⟨high, -⟩ <;> omega
  · -- with one quotient the remainders are ordered as fractions of the divisors
    have remainders : n % d * k ≤ m % k * d := by
      have left : n * k = d * k * (n / d) + n % d * k := by
        conv_lhs => rw [← first]
        ring
      have right : m * d = d * k * (n / d) + m % k * d := by
        conv_lhs => rw [← second, ← same]
        ring
      omega
    have passes : d < 2 * (n % d) → k < 2 * (m % k) := by
      intro more
      refine Nat.lt_of_mul_lt_mul_right (a := d) ?_
      nlinarith
    have reaches : d ≤ 2 * (n % d) → k ≤ 2 * (m % k) := by
      intro half
      refine Nat.le_of_mul_le_mul_right ?_ positive
      nlinarith
    simp only [divideToEven, ← same]
    split <;> split <;> omega

theorem significandAt_mono (exponent : Int) (positive : 0 < d) (divisor : 0 < k) (ordered : (n / d : ℚ) ≤ m / k) :
    significandAt n d exponent ≤ significandAt m k exponent := by
  refine divideToEven_mono (unscaled_pos exponent positive) (unscaled_pos exponent divisor) ?_
  rw [unscaled_value, unscaled_value]
  gcongr

theorem numerator_pos (numerator : 0 < n) (positive : 0 < d) (ordered : (n / d : ℚ) ≤ m / k) : 0 < m := by
  have ratio : (0 : ℚ) < n / d := div_pos (by exact_mod_cast numerator) (by exact_mod_cast positive)
  rcases Nat.eq_zero_or_pos m with rfl | present
  · simp only [Nat.cast_zero, zero_div] at ordered
    exact absurd ordered (not_le.mpr ratio)
  · exact present

theorem exponentOf_mono (format : BinaryFormat) (numerator : 0 < n) (positive : 0 < d) (divisor : 0 < k)
    (ordered : (n / d : ℚ) ≤ m / k) : format.exponentOf n d ≤ format.exponentOf m k := by
  have present := numerator_pos numerator positive ordered
  obtain ⟨smallest, spread, -⟩ := exponentOf_spec format present divisor
  obtain ⟨-, -, full⟩ := exponentOf_spec format numerator positive
  by_contra less
  have powers := (full (by omega)).trans_lt (ordered.trans_lt spread)
  have places := (zpow_lt_zpow_iff_right₀ one_lt_two).mp powers
  omega

/-- A larger ratio never has the smaller word. -/
theorem round_mono (format : BinaryFormat) (positive : 0 < d) (divisor : 0 < k) (ordered : (n / d : ℚ) ≤ m / k) :
    format.round false n d ≤ format.round false m k := by
  rcases Nat.eq_zero_or_pos n with rfl | numerator
  · exact Nat.zero_le _
  have present := numerator_pos numerator positive ordered
  rw [round_positive format numerator, round_positive format present]
  refine min_le_min_right _ ?_
  have smallest := (exponentOf_spec format numerator positive).1
  rcases Int.lt_or_eq_of_le (exponentOf_mono format numerator positive divisor ordered) with longer | same
  · -- a longer number has the larger word, whatever its significand is rounded to
    have carried := significandAt_le_full format numerator positive
    have full := (significandAt_full format present divisor).resolve_left (by omega)
    obtain ⟨field, fieldEq⟩ : ∃ field, (format.exponentOf n d - format.minExponent).toNat = field := ⟨_, rfl⟩
    obtain ⟨gap, gapEq⟩ : ∃ gap, (format.exponentOf m k - format.minExponent).toNat = field + 1 + gap :=
      ⟨(format.exponentOf m k - format.minExponent).toNat - (field + 1), by omega⟩
    rw [fieldEq, gapEq, Nat.add_mul, Nat.add_mul]
    rw [Nat.pow_succ] at carried
    omega
  · rw [same]
    exact Nat.add_le_add_left (significandAt_mono _ positive divisor ordered) _

theorem round_congr (format : BinaryFormat) (positive : 0 < d) (divisor : 0 < k) (same : (n / d : ℚ) = m / k) :
    format.round false n d = format.round false m k :=
  Nat.le_antisymm (round_mono format positive divisor same.le) (round_mono format divisor positive same.ge)

/-- The word is that of a number with the positive sign, and this is its value. -/
def Shows (format : BinaryFormat) (word : Nat) (value : ℚ) : Prop :=
  ∃ m e, format.parts word = .finite false m e ∧ (m * 2 ^ e : ℚ) = value

variable {word next : Nat} {p q : ℚ}

theorem Shows.unique (first : format.Shows word p) (second : format.Shows word q) : p = q := by
  obtain ⟨_, _, shown, rfl⟩ := first
  obtain ⟨_, _, again, rfl⟩ := second
  rw [shown] at again
  obtain ⟨-, rfl, rfl⟩ := Parts.finite.inj again
  rfl

/-- The exponent field of a word below infinity. -/
def fieldOf (format : BinaryFormat) (word : Nat) : Nat := word / 2 ^ format.fractionBits

/-- The significand of a word below infinity: the fraction, under a leading one unless the exponent field is empty. -/
def significandOf (format : BinaryFormat) (word : Nat) : Nat :=
  if format.fieldOf word = 0 then word % 2 ^ format.fractionBits
  else 2 ^ format.fractionBits + word % 2 ^ format.fractionBits

theorem shows_of_lt (finite : word < format.infinityWord) :
    format.Shows word (format.significandOf word * 2 ^ (format.minExponent + (format.fieldOf word - 1 : Nat))) := by
  rw [Shows, parts_below_infinity finite, significandOf, fieldOf]
  split
  · rename_i empty
    exact ⟨_, _, rfl, by simp [empty]⟩
  · exact ⟨_, _, rfl, rfl⟩

theorem Shows.lt_infinityWord (shown : format.Shows word q) : word < format.infinityWord := by
  obtain ⟨m, e, shown, -⟩ := shown
  by_contra beyond
  rw [infinityWord_eq_mul, not_lt, ← Nat.le_div_iff_mul_le (Nat.two_pow_pos _)] at beyond
  by_cases negative : format.signWeight ≤ word
  · simp only [parts, negative, decide_true, if_true] at shown
    split at shown
    · split at shown <;> cases shown
    · split at shown <;> cases shown
  · have field : word / 2 ^ format.fractionBits < 2 ^ format.exponentBits := by
      rw [signWeight, Nat.one_shiftLeft, not_le, Nat.pow_add] at negative
      exact Nat.div_lt_of_lt_mul negative
    have full : word / 2 ^ format.fractionBits = 2 ^ format.exponentBits - 1 := by omega
    simp only [parts, negative, decide_false, Bool.false_eq_true, if_false, Nat.one_shiftLeft, full, if_true] at shown
    split at shown <;> cases shown

theorem Shows.mono (first : format.Shows word p) (second : format.Shows next q) (ordered : word ≤ next)
    (finite : next < format.infinityWord) : p ≤ q := by
  rw [first.unique (shows_of_lt (ordered.trans_lt finite)), second.unique (shows_of_lt finite)]
  have fraction := Nat.mod_lt word (Nat.two_pow_pos format.fractionBits)
  have fields : format.fieldOf word ≤ format.fieldOf next := Nat.div_le_div_right ordered
  rcases Nat.lt_or_eq_of_le fields with less | same
  · have full : 2 ^ format.fractionBits ≤ format.significandOf next := by
      rw [significandOf, if_neg (by omega)]
      exact Nat.le_add_right _ _
    rcases Nat.eq_zero_or_pos (format.fieldOf word) with empty | filled
    · have small : format.significandOf word ≤ format.significandOf next := by
        rw [significandOf, if_pos empty]
        omega
      have powers : (2 : ℚ) ^ (format.minExponent + (format.fieldOf word - 1 : Nat)) ≤
          2 ^ (format.minExponent + (format.fieldOf next - 1 : Nat)) := zpow_le_zpow_right₀ one_le_two (by omega)
      gcongr
    · -- the larger field at least doubles the unit, and a significand is never as large as two full ones
      have small : format.significandOf word ≤ format.significandOf next * 2 := by
        rw [significandOf, if_neg (by omega)]
        omega
      calc (format.significandOf word : ℚ) * 2 ^ (format.minExponent + (format.fieldOf word - 1 : Nat))
          ≤ (format.significandOf next * 2 : Nat) * 2 ^ (format.minExponent + (format.fieldOf word - 1 : Nat)) := by
            gcongr
        _ = format.significandOf next * 2 ^ (format.minExponent + (format.fieldOf word - 1 : Nat) + 1) := by
            rw [zpow_add_one₀ two_ne_zero]
            push_cast
            ring
        _ ≤ format.significandOf next * 2 ^ (format.minExponent + (format.fieldOf next - 1 : Nat)) := by
            refine mul_le_mul_of_nonneg_left (zpow_le_zpow_right₀ one_le_two ?_) (Nat.cast_nonneg _)
            omega
  · have small : format.significandOf word ≤ format.significandOf next := by
      have first : 2 ^ format.fractionBits * format.fieldOf word + word % 2 ^ format.fractionBits = word :=
        Nat.div_add_mod word _
      have second : 2 ^ format.fractionBits * format.fieldOf next + next % 2 ^ format.fractionBits = next :=
        Nat.div_add_mod next _
      rw [← same] at second
      simp only [significandOf, ← same]
      split <;> omega
    rw [same]
    gcongr

/-- A ratio between two whole numbers is rounded to a number between those that they are rounded to. -/
theorem shows_round_between {low high : Nat} (positive : 0 < d) (lower : (low : ℚ) ≤ n / d) (upper : (n / d : ℚ) ≤ high)
    (bottom : format.Shows (format.round false low 1) p) (top : format.Shows (format.round false high 1) q) :
    ∃ value, format.Shows (format.round false n d) value ∧ p ≤ value ∧ value ≤ q := by
  have above := round_mono format Nat.one_pos positive (n := low) (by simpa using lower)
  have below := round_mono format positive Nat.one_pos (m := high) (by simpa using upper)
  have finite := top.lt_infinityWord
  have shown := shows_of_lt (below.trans_lt finite)
  exact ⟨_, shown, bottom.mono shown above (below.trans_lt finite), shown.mono top below finite⟩

theorem round_whole_mono (format : BinaryFormat) (ordered : m ≤ n) : format.round false m 1 ≤ format.round false n 1 :=
  round_mono format Nat.one_pos Nat.one_pos (by simpa using ordered)

theorem divideToEven_one (n : Nat) : divideToEven n 1 = n := by
  simp [divideToEven, Nat.mod_one]

theorem exponentOf_whole (format : BinaryFormat) (deep : format.minExponent ≤ -format.fractionBits) (positive : 0 < n) :
    format.exponentOf n 1 = n.log2 - format.fractionBits := by
  have one : Nat.log2 1 = 0 := rfl
  have position : (format.fractionBits : Int) + (n.log2 - (0 : Nat) - format.fractionBits) = n.log2 := by omega
  have full : ¬ (n / (1 : Nat) : ℚ) < 2 ^ (n.log2 : Int) := by
    rw [Nat.cast_one, div_one]
    exact not_lt.mpr (log2_bounds positive).1
  simp only [exponentOf, one, unscaled_div_lt_iff _ Nat.one_pos, position, full, if_false]
  omega

/-- A whole number with at most one digit more than the fraction is its own significand, shifted. -/
theorem significandAt_short {shift : Nat} : significandAt n 1 (-shift) = n * 2 ^ shift := by
  cases shift with
  | zero => exact (divideToEven_one n).trans (Nat.mul_one n).symm
  | succ shift =>
    have unit : -((shift + 1 : Nat) : Int) = .negSucc shift := rfl
    rw [unit]
    simp only [significandAt, unscaled, divideToEven_one, Nat.shiftLeft_eq]

theorem shows_short (deep : format.minExponent ≤ -format.fractionBits) (short : n < 2 ^ (format.fractionBits + 1))
    (finite : format.round false n 1 < format.infinityWord) : format.Shows (format.round false n 1) n := by
  rcases Nat.eq_zero_or_pos n with rfl | positive
  · have shown := shows_of_lt finite
    have empty : format.significandOf (format.round false 0 1) = 0 := by simp [round, signed, significandOf, fieldOf]
    rw [empty, Nat.cast_zero, zero_mul] at shown
    exact_mod_cast shown
  · obtain ⟨m, e, shown, value⟩ := parts_round positive Nat.one_pos finite
    obtain ⟨shift, places⟩ : ∃ shift : Nat, (n.log2 : Int) - format.fractionBits = -shift := by
      have digits := (Nat.log2_lt positive.ne').mpr short
      exact ⟨format.fractionBits - n.log2, by omega⟩
    refine ⟨m, e, shown, ?_⟩
    rw [value, exponentOf_whole format deep positive, places, significandAt_short, zpow_neg, zpow_natCast]
    push_cast
    field_simp

theorem shows_whole {limit : Nat} (deep : format.minExponent ≤ -format.fractionBits)
    (power : limit = 2 ^ (format.fractionBits + 1)) (top : format.Shows (format.round false limit 1) limit)
    (bounded : n ≤ limit) : format.Shows (format.round false n 1) n := by
  rcases Nat.lt_or_eq_of_le bounded with below | rfl
  · exact shows_short deep (power ▸ below) ((round_whole_mono format bounded).trans_lt top.lt_infinityWord)
  · exact top

end BinaryFormat

end EntityGraph
