import EntityGraph.Json.Printer
import EntityGraph.Proofs.NumberScan
import Mathlib.Tactic.FieldSimp

/-!
The text of a finite double is a numeral with a point or a power of ten, so it is read as a double or not at all, and
its value is that of the decimal that was chosen for it.
-/
namespace EntityGraph

open Decimal

def Decimal.value (d : Decimal) : ℚ := d.coefficient * 10 ^ d.exponent

namespace Json.Numeral

/-- The number that a numeral stands for, without its sign. -/
def value (n : Numeral) : ℚ :=
  ofDigits (n.whole ++ n.fraction.getD []) * 10 ^ (n.power.getD 0 - (n.fraction.getD []).length : ℤ)

/-- How a decimal is written: with a point or a power, few digits before the point, and without change of value. -/
structure Shows (n : Numeral) (d : Decimal) : Prop where
  marked : n.fraction.isSome ∨ n.power.isSome
  short : n.whole.length ≤ 19
  value_eq : n.value = d.value

/-- The significand that is read from all digits, and how many of those after the point were passed over. -/
def significand (n : Numeral) : Nat × Nat :=
  let (whole, _, _) := fittingDigits 0 n.whole
  let (all, unread, _) := fittingDigits whole (n.fraction.getD [])
  (all, unread)

/-- The power of ten that the significand is scaled by. -/
def exponent (n : Numeral) : Int :=
  (fittingDigits 0 n.whole).2.1 - ((n.fraction.getD []).length - n.significand.2 : Nat) + n.power.getD 0

/-- The double that a numeral with a point or a power is read as. -/
def double? (n : Numeral) (negative : Bool) : Option Double :=
  (scale? n.significand.1 n.exponent).map fun d => if negative then d.negate else d

theorem ofNumeral?_marked (n : Numeral) (negative : Bool) (marked : n.fraction.isSome ∨ n.power.isSome) :
    ofNumeral? negative n.whole n.fraction n.power = (n.double? negative).map .double := by
  unfold ofNumeral? double? exponent significand
  cases fraction : n.fraction with
  | some digits => simp [Function.comp_def]
  | none =>
    cases power : n.power with
    | some power => simp [Function.comp_def]
    | none => simp [fraction, power] at marked

theorem number?_signed (n : Numeral) (negative : Bool) (marked : n.fraction.isSome ∨ n.power.isSome) {rest : List Char}
    (ends : EndsNumber rest) :
    number? (signed negative n.chars ++ rest) = (n.double? negative).map fun again => (.double again, rest) := by
  have append : signed negative n.chars ++ rest = signed negative (n.chars ++ rest) := by
    cases negative <;> rfl
  rw [append, n.number?_chars negative ends, n.ofNumeral?_marked negative marked, Option.map_map]
  rfl

section Pointed

variable {digits : List Char} {places : Nat} (all : ∀ c ∈ digits, c.isDigit = true) (present : 0 < places)
  (inside : places < digits.length) (canonical : digits.length = places + 1 ∨ digits.head? ≠ some '0')

/-- Digits with a point before the last few of them. -/
def pointed : Numeral where
  whole := digits.take (digits.length - places)
  fraction := some (digits.drop (digits.length - places))
  power := none
  started := by simp [← List.length_pos_iff]; omega
  wholeDigits c member := all c (List.mem_of_mem_take member)
  canonical := by
    rcases canonical with one | nonzero
    · exact .inl (by simp [one])
    · exact .inr (by rwa [List.head?_take, if_neg (by omega)])
  fractionDigits := by
    rintro _ ⟨⟩
    exact ⟨by simp; omega, fun c member => all c (List.mem_of_mem_drop member)⟩

theorem pointed_chars : (pointed all present inside canonical).chars =
    digits.take (digits.length - places) ++ '.' :: digits.drop (digits.length - places) := by
  simp [chars, pointed]

theorem pointed_shows {d : Decimal} (short : digits.length ≤ places + 19)
    (same : (ofDigits digits : ℚ) * 10 ^ (-(places : ℤ)) = d.value) :
    (pointed all present inside canonical).Shows d := by
  refine ⟨.inl rfl, ?_, ?_⟩
  · simp only [pointed, List.length_take]
    omega
  · rw [← same]
    have count : (digits.drop (digits.length - places)).length = places := by
      rw [List.length_drop]
      omega
    simp [value, pointed, count]

end Pointed

end Json.Numeral

namespace NumberStyle

open Json

theorem layOut_zero (shift : Nat) :
    ∃ n : Numeral, layOut true ⟨0, .ofNat shift⟩ = n.chars ∧ n.Shows ⟨0, .ofNat shift⟩ := by
  refine ⟨Numeral.pointed (isDigit_zeros 2) Nat.one_pos (by decide) (.inl rfl), ?_,
    Numeral.pointed_shows (isDigit_zeros 2) _ (by decide) _ (by decide) ?_⟩
  · rw [Numeral.pointed_chars, layOut, digitsOf_zero]
    rfl
  · rw [ofDigits_zeros]
    simp [Decimal.value]

/-- Zeros fill up the digits of a large number, and one more stands behind the point. -/
theorem layOut_whole {coefficient shift : Nat} (positive : 0 < coefficient)
    (low : (shift : Int) + ((digitsOf coefficient).length - 1 : Nat) ≤ 15) :
    ∃ n : Numeral, layOut true ⟨coefficient, .ofNat shift⟩ = n.chars ∧ n.Shows ⟨coefficient, .ofNat shift⟩ := by
  let shown := digitsOf coefficient ++ List.replicate (shift + 1) '0'
  have all : ∀ c ∈ shown, c.isDigit = true :=
    List.forall_mem_append.mpr ⟨isDigit_digitsOf coefficient, isDigit_zeros _⟩
  have count : shown.length = (digitsOf coefficient).length + (shift + 1) := by
    simp only [shown, List.length_append, List.length_replicate]
  have ranged := length_digitsOf_pos coefficient
  have canonical : shown.length = 1 + 1 ∨ shown.head? ≠ some '0' := by
    refine .inr ?_
    rw [List.head?_append, List.head?_eq_some_head (digitsOf_ne_nil _), Option.some_or, ← List.head?_eq_some_head]
    exact head_digitsOf positive
  refine ⟨Numeral.pointed all Nat.one_pos (by omega) canonical, ?_,
    Numeral.pointed_shows all _ (by omega) canonical (by omega) ?_⟩
  · have before : shown.length - 1 = (digitsOf coefficient).length + shift := by omega
    have nonzero : coefficient ≠ 0 := Nat.pos_iff_ne_zero.mp positive
    rw [Numeral.pointed_chars, before]
    simp only [shown, layOut, nonzero, if_false, if_true, List.replicate_succ', ← List.append_assoc]
    rw [List.take_left' (by simp), List.drop_left' (by simp)]
  · simp only [shown, ofDigits_append, ofDigits_zeros, ofDigits_digitsOf, Decimal.value, List.length_replicate]
    push_cast
    rw [zpow_neg, zpow_one, Int.ofNat_eq_natCast, zpow_natCast]
    ring

/-- Zeros in front of the digits of a small number put one digit before the point. -/
theorem layOut_fraction {coefficient shift : Nat}
    (short : coefficient = 0 ∨ .negSucc shift + ((digitsOf coefficient).length - 1 : Nat) ≤ (15 : Int)) :
    ∃ n : Numeral, layOut true ⟨coefficient, .negSucc shift⟩ = n.chars ∧ n.Shows ⟨coefficient, .negSucc shift⟩ := by
  let padded := List.replicate (shift + 1 + 1 - (digitsOf coefficient).length) '0' ++ digitsOf coefficient
  have all : ∀ c ∈ padded, c.isDigit = true :=
    List.forall_mem_append.mpr ⟨isDigit_zeros _, isDigit_digitsOf coefficient⟩
  have count : padded.length = max (shift + 1 + 1) (digitsOf coefficient).length := by
    simp only [padded, List.length_append, List.length_replicate]
    omega
  have canonical : padded.length = shift + 1 + 1 ∨ padded.head? ≠ some '0' := by
    rcases Nat.lt_or_ge (shift + 1 + 1) (digitsOf coefficient).length with long | few
    · have unpadded : padded = digitsOf coefficient := by
        simp only [padded, Nat.sub_eq_zero_of_le (Nat.le_of_lt long), List.replicate_zero, List.nil_append]
      have positive : 0 < coefficient := by
        rcases Nat.eq_zero_or_pos coefficient with rfl | positive
        · simp [digitsOf_zero] at long
        · exact positive
      exact .inr (unpadded ▸ head_digitsOf positive)
    · exact .inl (by omega)
  refine ⟨Numeral.pointed all (Nat.succ_pos shift) (by omega) canonical, ?_,
    Numeral.pointed_shows all _ (by omega) canonical ?_ ?_⟩
  · rw [Numeral.pointed_chars]
    rfl
  · have ranged := length_digitsOf_pos coefficient
    rcases short with rfl | low
    · simp only [digitsOf_zero, List.length_singleton] at count
      omega
    · omega
  · rw [ofDigits_zeros_append, ofDigits_digitsOf, Decimal.value, Int.negSucc_eq]
    rfl

theorem layOut_numeral {d : Decimal}
    (short : d.coefficient = 0 ∨ d.exponent + ((digitsOf d.coefficient).length - 1 : Nat) ≤ 15) :
    ∃ n : Numeral, layOut true d = n.chars ∧ n.Shows d := by
  obtain ⟨coefficient, exponent⟩ := d
  cases exponent with
  | ofNat shift =>
    rcases Nat.eq_zero_or_pos coefficient with rfl | positive
    · exact layOut_zero shift
    · exact layOut_whole positive (short.resolve_left (Nat.pos_iff_ne_zero.mp positive))
  | negSucc shift => exact layOut_fraction short

theorem scientific_numeral (d : Decimal) :
    ∃ n : Numeral, scientific d (d.exponent + ((digitsOf d.coefficient).length - 1 : Nat)) = n.chars ∧ n.Shows d := by
  have digits := isDigit_digitsOf d.coefficient
  have spelled := ofDigits_digitsOf d.coefficient
  cases shown : digitsOf d.coefficient with
  | nil => exact absurd shown (digitsOf_ne_nil _)
  | cons first more =>
    rw [shown] at digits spelled
    have restDigits : ∀ c ∈ more, c.isDigit = true := fun c member => digits c (List.mem_cons_of_mem first member)
    let n : Numeral := {
      whole := [first]
      fraction := if more = [] then none else some more
      power := some (d.exponent + ((first :: more).length - 1 : Nat))
      started := nofun
      wholeDigits := by simpa using digits first List.mem_cons_self
      canonical := .inl rfl
      fractionDigits := by
        intro places given
        split at given
        · cases given
        · rename_i nonempty
          cases given
          exact ⟨nonempty, restDigits⟩ }
    have places : n.fraction.getD [] = more := by
      simp only [n]
      split
      · rename_i none
        exact none.symm
      · rfl
    refine ⟨n, ?_, ⟨.inr rfl, by simp [n], ?_⟩⟩
    · simp only [scientific, shown, n, Numeral.chars, powerChars, Option.elim_some]
      cases more with
      | nil => rfl
      | cons second more => simp
    · have power : n.power.getD 0 - (more.length : ℤ) = d.exponent := by
        simp [n]
      rw [Numeral.value, places, power, Decimal.value]
      congr 2

theorem structured_numeral (negative : Bool) (significand : Nat) (exponent : Int) :
    ∃ n : Numeral, (structured.finiteText negative significand exponent).toList = signed negative n.chars ∧
      n.Shows (Decimal.shortest .even significand exponent) := by
  have written (n : Numeral) (body : List Char) (same : body = n.chars) :
      (String.ofList (if negative then '-' :: body else body)).toList = signed negative n.chars := by
    rw [String.toList_ofList, same, signed]
  obtain ⟨d, chosen⟩ : ∃ d, Decimal.shortest .even significand exponent = d := ⟨_, rfl⟩
  simp only [finiteText, structured, chosen]
  by_cases plain : d.coefficient = 0 ∨
      -5 ≤ d.exponent + ((digitsOf d.coefficient).length - 1 : Nat) ∧
        d.exponent + ((digitsOf d.coefficient).length - 1 : Nat) ≤ 15
  · obtain ⟨n, chars, shows⟩ := layOut_numeral (plain.imp_right And.right)
    refine ⟨n, written n _ ?_, shows⟩
    rw [if_pos plain, chars]
  · obtain ⟨n, chars, shows⟩ := scientific_numeral d
    refine ⟨n, written n _ ?_, shows⟩
    rw [if_neg plain, chars]

end NumberStyle

namespace Double

open Json

/-- The double that the text of a double is read as. -/
def reread? (d : Double) : Option Double := (number? (doubleText d).toList).bind (·.1.asDouble?)

theorem doubleText_numeral {d : Double} (finite : d.isFinite = true) :
    ∃ (n : Numeral) (negative : Bool) (significand : Nat) (exponent : Int),
      d.parts = .finite negative significand exponent ∧ (doubleText d).toList = signed negative n.chars ∧
        n.Shows (Decimal.shortest .even significand exponent) := by
  cases parts : d.parts with
  | finite negative significand exponent =>
    obtain ⟨n, chars, shows⟩ := NumberStyle.structured_numeral negative significand exponent
    refine ⟨n, negative, significand, exponent, rfl, ?_, shows⟩
    rw [doubleText, if_pos finite, text, parts]
    exact chars
  | _ => simp [isFinite, parts, Parts.isFinite] at finite

theorem reread?_numeral {d : Double} {n : Numeral} {negative : Bool} (marked : n.fraction.isSome ∨ n.power.isSome)
    (chars : (doubleText d).toList = signed negative n.chars) : d.reread? = n.double? negative := by
  have alone := n.number?_signed negative marked EndsNumber.nil
  rw [List.append_nil] at alone
  rw [reread?, chars, alone]
  cases n.double? negative <;> rfl

/-- A scan of the text of a double gives that double's second reading, whatever follows the text. -/
theorem number?_doubleText {d : Double} (finite : d.isFinite = true) {rest : List Char} (ends : EndsNumber rest) :
    number? ((doubleText d).toList ++ rest) = d.reread?.map fun again => (.double again, rest) := by
  obtain ⟨n, negative, significand, exponent, -, chars, shows⟩ := doubleText_numeral finite
  rw [reread?_numeral shows.marked chars, chars, n.number?_signed negative shows.marked ends]

end Double

end EntityGraph
