import EntityGraph.Json.Reader
import EntityGraph.Proofs.DigitText
import Mathlib.Algebra.Order.Field.Rat
import Mathlib.Algebra.Order.Field.Power
import Mathlib.Tactic.Ring

/-!
Numbers in structured text: a whole number is read as itself, and a number with a point or an exponent as the double
that scaling its leading digits gives, whatever follows it.
-/
namespace EntityGraph

open Decimal

theorem Decimal.ofDigits_cons (c : Char) (rest : List Char) :
    ofDigits (c :: rest) = 10 ^ rest.length * digitValue c + ofDigits rest := by
  have split := ofDigits_append [c] rest
  simpa [ofDigits] using split

theorem Decimal.digitValue_lt {c : Char} (digit : c.isDigit = true) : digitValue c < 10 := by
  have high : c.toNat ≤ 57 := (Char.isDigit_iff_toNat.mp digit).2
  have zero : '0'.toNat = 48 := rfl
  unfold digitValue
  omega

theorem Decimal.ofDigits_lt {digits : List Char} (all : ∀ c ∈ digits, c.isDigit = true) :
    ofDigits digits < 10 ^ digits.length := by
  induction digits with
  | nil => exact Nat.one_pos
  | cons c rest ih =>
    have single := digitValue_lt (all c List.mem_cons_self)
    have more := ih fun d member => all d (List.mem_cons_of_mem c member)
    rw [ofDigits_cons, List.length_cons, Nat.pow_succ]
    have scaled : 10 ^ rest.length * digitValue c ≤ 10 ^ rest.length * 9 := Nat.mul_le_mul_left _ (by omega)
    omega

namespace Json

/-- Digits read after a value: as many as fit below `2 ^ 64`, the others only counted. -/
structure Fitted (value : Nat) (digits : List Char) (significand dropped : Nat) : Prop where
  bounded : value < 2 ^ 64 → significand < 2 ^ 64
  below : significand * 10 ^ dropped ≤ 10 ^ digits.length * value + ofDigits digits
  counted : dropped ≤ digits.length
  complete : 10 ^ digits.length * value + ofDigits digits < 2 ^ 64 →
    significand = 10 ^ digits.length * value + ofDigits digits ∧ dropped = 0

theorem fittingDigits_fitted {digits : List Char} (all : ∀ c ∈ digits, c.isDigit = true) (value : Nat) :
    Fitted value digits (fittingDigits value digits).1 (fittingDigits value digits).2.1 := by
  induction digits generalizing value with
  | nil => exact ⟨id, by simp [fittingDigits, ofDigits], Nat.le_refl _, fun _ => by simp [fittingDigits, ofDigits]⟩
  | cons c rest ih =>
    have digit := all c List.mem_cons_self
    have restAll : ∀ d ∈ rest, d.isDigit = true := fun d member => all d (List.mem_cons_of_mem c member)
    have total : 10 ^ (c :: rest).length * value + ofDigits (c :: rest) =
        10 ^ rest.length * (10 * value + digitValue c) + ofDigits rest := by
      rw [ofDigits_cons, List.length_cons]
      ring
    have counted : (rest.takeWhile Char.isDigit).length = rest.length := by
      rw [List.takeWhile_eq_self_iff.mpr restAll]
    simp only [fittingDigits, digit, if_true]
    split
    · rename_i fits
      obtain ⟨bounded, below, counts, complete⟩ := ih restAll (10 * value + digitValue c)
      exact ⟨fun _ => bounded fits, total ▸ below, Nat.le_succ_of_le counts, total ▸ complete⟩
    · rename_i large
      simp only [counted]
      refine ⟨id, ?_, Nat.le_refl _, ?_⟩
      · rw [List.length_cons]
        exact Nat.le_trans (Nat.le_of_eq (Nat.mul_comm _ _)) (Nat.le_add_right _ _)
      · rw [total]
        intro small
        have grown : 1 * (10 * value + digitValue c) ≤ 10 ^ rest.length * (10 * value + digitValue c) :=
          Nat.mul_le_mul_right _ (Nat.pow_pos (by decide))
        omega

/-- A text in which no number goes on. -/
def EndsNumber (rest : List Char) : Prop :=
  ∀ c ∈ rest.head?, c.isDigit = false ∧ c ≠ '.' ∧ c ≠ 'e' ∧ c ≠ 'E'

theorem EndsNumber.nil : EndsNumber [] := nofun

theorem EndsNumber.stopsDigits {rest : List Char} (ends : EndsNumber rest) : StopsDigits rest :=
  fun c first => (ends c first).1

/-- A text with a minus sign in front if there is to be one. -/
def signed (negative : Bool) (text : List Char) : List Char := if negative then '-' :: text else text

theorem takeMinus_signed (negative : Bool) {digits : List Char} (all : ∀ c ∈ digits, c.isDigit = true)
    (started : digits ≠ []) (rest : List Char) :
    takeMinus (signed negative (digits ++ rest)) = (negative, digits ++ rest) := by
  cases negative with
  | true => rfl
  | false =>
    cases digits with
    | nil => exact absurd rfl started
    | cons c more =>
      have minus : c ≠ '-' := by
        rintro rfl
        exact absurd (all '-' List.mem_cons_self) (by decide)
      simp [signed, takeMinus, minus]

theorem takeFraction?_none {rest : List Char} (plain : ∀ c ∈ rest.head?, c ≠ '.') :
    takeFraction? rest = some (none, rest) := by
  cases rest with
  | nil => rfl
  | cons c more => simp [takeFraction?, plain c rfl]

theorem takeFraction?_some {digits rest : List Char} (all : ∀ c ∈ digits, c.isDigit = true) (started : digits ≠ [])
    (stops : StopsDigits rest) : takeFraction? ('.' :: (digits ++ rest)) = some (some digits, rest) := by
  simp only [takeFraction?, span_digits all stops, List.isEmpty_iff, started, if_false]

theorem takePower?_none {rest : List Char} (ends : EndsNumber rest) : takePower? rest = some (none, rest) := by
  cases rest with
  | nil => rfl
  | cons c more =>
    obtain ⟨-, -, small, large⟩ := ends c rfl
    simp [takePower?, small, large]

/-- A power of ten as it is written. -/
def powerChars (power : Int) : List Char := 'e' :: (if power < 0 then '-' else '+') :: digitsOf power.natAbs

theorem takePower?_some {power : Int} {rest : List Char} (stops : StopsDigits rest) :
    takePower? (powerChars power ++ rest) = some (some power, rest) := by
  have spanned := span_digits (isDigit_digitsOf power.natAbs) stops
  by_cases negative : power < 0
  · have size : -(power.natAbs : Int) = power := by omega
    simp only [powerChars, negative, takePower?, List.cons_append, takeSign, spanned, List.isEmpty_iff,
      digitsOf_ne_nil, ofDigits_digitsOf, true_or, if_true, if_false, size]
  · have size : (power.natAbs : Int) = power := by omega
    simp only [powerChars, negative, takePower?, List.cons_append, takeSign, spanned, List.isEmpty_iff,
      digitsOf_ne_nil, ofDigits_digitsOf, true_or, if_true, if_false, size, Bool.false_eq_true]

/-- The written parts of a number: digits, digits after a point, a power of ten. -/
structure Numeral where
  whole : List Char
  fraction : Option (List Char)
  power : Option Int
  started : whole ≠ []
  wholeDigits : ∀ c ∈ whole, c.isDigit = true
  canonical : whole.length = 1 ∨ whole.head? ≠ some '0'
  fractionDigits : ∀ digits ∈ fraction, digits ≠ [] ∧ ∀ c ∈ digits, c.isDigit = true

namespace Numeral

/-- The number as it is written, without a sign. -/
def chars (n : Numeral) : List Char :=
  n.whole ++ (n.fraction.elim [] ('.' :: ·) ++ n.power.elim [] powerChars)

theorem scan_power {power : Option Int} {rest : List Char} (ends : EndsNumber rest) :
    takePower? (power.elim [] powerChars ++ rest) = some (power, rest) := by
  cases power with
  | none => exact takePower?_none ends
  | some power => exact takePower?_some ends.stopsDigits

theorem power_head (power : Option Int) {rest : List Char} (ends : EndsNumber rest) :
    ∀ c ∈ (power.elim [] powerChars ++ rest).head?, c.isDigit = false ∧ c ≠ '.' := by
  cases power with
  | none => exact fun c first => ⟨(ends c first).1, (ends c first).2.1⟩
  | some power =>
    rintro _ ⟨⟩
    decide

theorem scan_fraction (n : Numeral) {rest : List Char} (head : ∀ c ∈ rest.head?, c.isDigit = false ∧ c ≠ '.') :
    StopsDigits (n.fraction.elim [] ('.' :: ·) ++ rest) ∧
      takeFraction? (n.fraction.elim [] ('.' :: ·) ++ rest) = some (n.fraction, rest) := by
  cases parts : n.fraction with
  | none => exact ⟨fun c first => (head c first).1, takeFraction?_none fun c first => (head c first).2⟩
  | some digits =>
    obtain ⟨started, all⟩ := n.fractionDigits digits parts
    exact ⟨.cons rfl _, takeFraction?_some all started fun c first => (head c first).1⟩

theorem number?_chars (n : Numeral) (negative : Bool) {rest : List Char} (ends : EndsNumber rest) :
    number? (signed negative (n.chars ++ rest)) =
      (ofNumeral? negative n.whole n.fraction n.power).map fun value => (value, rest) := by
  obtain ⟨stops, fraction⟩ := n.scan_fraction (power_head n.power ends)
  have guarded : (!n.whole.isEmpty && (n.whole.length = 1 || n.whole.head? ≠ some '0')) = true := by
    simpa [n.started] using n.canonical
  rw [chars, List.append_assoc, List.append_assoc]
  simp only [number?, takeMinus_signed negative n.wholeDigits n.started, span_digits n.wholeDigits stops, guarded,
    fraction, Option.bind_eq_bind, Option.bind_some, scan_power ends]
  rfl

end Numeral

def Numeral.ofNat (n : Nat) : Numeral where
  whole := digitsOf n
  fraction := none
  power := none
  started := digitsOf_ne_nil n
  wholeDigits := isDigit_digitsOf n
  canonical := by
    cases n with
    | zero => exact .inl rfl
    | succ n => exact .inr (head_digitsOf (Nat.succ_pos n))
  fractionDigits := nofun

theorem toList_toString (n : Int) : (toString n).toList = signed (decide (n < 0)) (digitsOf n.natAbs) := by
  rcases n with n | n
  · have positive : ¬ Int.ofNat n < 0 := Int.not_lt.mpr (Int.natCast_nonneg n)
    simp only [positive, decide_false, signed]
    exact Nat.toList_repr
  · have shown : toString (Int.negSucc n) = "-" ++ (n + 1).repr := rfl
    simp [shown, signed, digitsOf, Int.negSucc_lt_zero]

theorem number?_integer {n : Int} (low : -0x8000_0000_0000_0000 ≤ n) (high : n < 0x1_0000_0000_0000_0000)
    {rest : List Char} (ends : EndsNumber rest) :
    number? ((toString n).toList ++ rest) = some (.integer n, rest) := by
  have split : (toString n).toList ++ rest = signed (decide (n < 0)) ((Numeral.ofNat n.natAbs).chars ++ rest) := by
    rw [toList_toString]
    cases decide (n < 0) <;> simp [signed, Numeral.ofNat, Numeral.chars]
  have complete := (fittingDigits_fitted (isDigit_digitsOf n.natAbs) 0).complete
  simp only [Nat.mul_zero, Nat.zero_add, ofDigits_digitsOf] at complete
  obtain ⟨significand, dropped⟩ := complete (by omega)
  rw [split, Numeral.number?_chars _ _ ends]
  simp only [ofNumeral?, Numeral.ofNat, significand, dropped]
  by_cases negative : n < 0
  · have small : ¬ (n.natAbs = 0 ∨ 0x8000_0000_0000_0000 < n.natAbs) := by omega
    have size : -(n.natAbs : Int) = n := by omega
    simp only [negative, decide_true, Nat.lt_irrefl, small, if_true, if_false, size, Option.map_some]
  · have size : (n.natAbs : Int) = n := by omega
    simp only [negative, decide_false, Nat.lt_irrefl, if_false, size, Option.map_some, Bool.false_eq_true]

end Json

end EntityGraph
