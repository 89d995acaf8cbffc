import EntityGraph.Proofs.CaseContext
import EntityGraph.Proofs.NumberScan
import Mathlib.Data.List.Basic

/-!
The two styles of numbers beside each other. The plain style never ends a whole number in `.0` and never writes an exponent;
the structured style does both, and takes the even one of two equally near decimals. So a double has one text in both styles
exactly if its decimal has digits after the point, needs no exponent and is the nearest one alone; and unless the texts are
the same, the structured one is not even a part of the plain one.
-/
namespace EntityGraph

open Decimal Json

namespace Shortest

variable {interval : Interval}

/-- Whether a grid has a point does not depend on ties, and the upward point is at most one further. -/
theorem Interval.pointAt_ties (interval : Interval) (k : Int) :
    interval.pointAt .up k = none ∧ interval.pointAt .even k = none ∨
      ∃ high low, interval.pointAt .up k = some high ∧ interval.pointAt .even k = some low ∧
        (high = low ∨ high = low + 1) := by
  simp only [Interval.pointAt]
  grind

theorem Interval.search_ties (fuel : Nat) (k : Int) :
    (interval.search .up fuel k).exponent = (interval.search .even fuel k).exponent ∧
      ((interval.search .up fuel k).coefficient = (interval.search .even fuel k).coefficient ∨
        (interval.search .up fuel k).coefficient = (interval.search .even fuel k).coefficient + 1) := by
  induction fuel generalizing k with
  | zero =>
    rcases interval.pointAt_ties k with ⟨up, even⟩ | ⟨high, low, up, even, near⟩
    · simp [Interval.search, up, even]
    · simp [Interval.search, up, even, near]
  | succ fuel ih =>
    rcases interval.pointAt_ties k with ⟨up, even⟩ | ⟨high, low, up, even, near⟩
    · simpa [Interval.search, up, even] using ih (k - 1)
    · simp [Interval.search, up, even, near]

end Shortest

/-- The decimals that the two ties choose are on one grid, and next to each other if they differ. -/
theorem Decimal.shortest_ties (significand : Nat) (exponent : Int) :
    (shortest .up significand exponent).exponent = (shortest .even significand exponent).exponent ∧
      ((shortest .up significand exponent).coefficient = (shortest .even significand exponent).coefficient ∨
        (shortest .up significand exponent).coefficient = (shortest .even significand exponent).coefficient + 1) := by
  unfold shortest
  split
  · exact ⟨rfl, .inl rfl⟩
  · exact Shortest.Interval.search_ties _ _

namespace NumberStyle

variable {d : Decimal} {c : Char} {markWhole : Bool}

/-- The digits of a number with as many places after the point, and at least one digit before it. -/
def padded (places coefficient : Nat) : List Char :=
  List.replicate (places + 1 - (digitsOf coefficient).length) '0' ++ digitsOf coefficient

def before (places coefficient : Nat) : List Char :=
  (padded places coefficient).take ((padded places coefficient).length - places)

def after (places coefficient : Nat) : List Char :=
  (padded places coefficient).drop ((padded places coefficient).length - places)

theorem layOut_pointed (coefficient shift : Nat) : layOut markWhole ⟨coefficient, .negSucc shift⟩ =
    before (shift + 1) coefficient ++ '.' :: after (shift + 1) coefficient := rfl

theorem isDigit_padded (places coefficient : Nat) : ∀ c ∈ padded places coefficient, c.isDigit = true :=
  List.forall_mem_append.mpr ⟨isDigit_zeros _, isDigit_digitsOf coefficient⟩

theorem isDigit_before (places coefficient : Nat) : ∀ c ∈ before places coefficient, c.isDigit = true :=
  fun c member => isDigit_padded places coefficient c (List.mem_of_mem_take member)

theorem isDigit_after (places coefficient : Nat) : ∀ c ∈ after places coefficient, c.isDigit = true :=
  fun c member => isDigit_padded places coefficient c (List.mem_of_mem_drop member)

theorem length_after (places coefficient : Nat) : (after places coefficient).length = places := by
  simp only [after, padded, List.length_drop, List.length_append, List.length_replicate]
  omega

theorem ofDigits_after (places coefficient : Nat) : ofDigits (after places coefficient) = coefficient % 10 ^ places := by
  have small := ofDigits_lt (isDigit_after places coefficient)
  have whole : ofDigits (padded places coefficient) = coefficient := by
    rw [padded, ofDigits_zeros_append, ofDigits_digitsOf]
  have split : ofDigits (before places coefficient ++ after places coefficient) = coefficient := by
    rw [before, after, List.take_append_drop, whole]
  rw [length_after] at small
  rw [ofDigits_append, length_after] at split
  conv_rhs => rw [← split]
  rw [Nat.mul_add_mod, Nat.mod_eq_of_lt small]

theorem mem_layOut (member : c ∈ layOut markWhole d) :
    c.isDigit = true ∨ c = '.' ∧ (markWhole = true ∨ d.exponent < 0) := by
  obtain ⟨coefficient, exponent⟩ := d
  cases exponent with
  | ofNat shift =>
    simp only [layOut, List.mem_append] at member
    rcases member with digit | mark
    · left
      split at digit
      · exact isDigit_digitsOf _ c digit
      · exact List.forall_mem_append.mpr ⟨isDigit_digitsOf _, isDigit_zeros _⟩ c digit
    · split at mark
      · rename_i marked
        simp only [List.mem_cons, List.not_mem_nil, or_false] at mark
        rcases mark with rfl | rfl
        · exact .inr ⟨rfl, .inl marked⟩
        · exact .inl rfl
      · cases mark
  | negSucc shift =>
    rw [layOut_pointed, List.mem_append, List.mem_cons] at member
    rcases member with first | rfl | last
    · exact .inl (isDigit_before _ _ c first)
    · exact .inr ⟨rfl, .inr (Int.negSucc_lt_zero shift)⟩
    · exact .inl (isDigit_after _ _ c last)

theorem mem_scientific {power : Int} (member : c ∈ scientific d power) : c.isDigit = true ∨ c ∈ ['.', 'e', '-', '+'] := by
  have digits := isDigit_digitsOf d.coefficient
  have places := isDigit_digitsOf power.natAbs
  simp only [scientific, List.mem_append, List.mem_cons] at member
  rcases member with mantissa | rfl | rfl | last
  · split at mantissa
    · cases mantissa
    · rename_i shown
      rw [shown] at digits
      exact .inl (digits c mantissa)
    · rename_i first more shown
      rw [shown, List.forall_mem_cons] at digits
      simp only [List.mem_cons] at mantissa
      rcases mantissa with rfl | rfl | rest
      · exact .inl digits.1
      · exact .inr (by simp)
      · exact .inl (digits.2 c rest)
  · exact .inr (by simp)
  · split <;> exact .inr (by simp)
  · exact .inl (places c last)

theorem layOut_ne_nil : layOut markWhole d ≠ [] := by
  obtain ⟨coefficient, shift | shift⟩ := d
  · have digits := digitsOf_ne_nil coefficient
    simp only [layOut]
    split <;> simp [digits]
  · simp [layOut_pointed]

theorem mem_scientific_mark (power : Int) : 'e' ∈ scientific d power := by
  simp [scientific]

/-- The power of ten of the first digit. -/
def leading (d : Decimal) : Int := d.exponent + ((digitsOf d.coefficient).length - 1 : Nat)

/-- The structured style writes a number with a point alone. -/
def Positional (d : Decimal) : Prop := d.coefficient = 0 ∨ -5 ≤ leading d ∧ leading d ≤ 15

instance (d : Decimal) : Decidable (Positional d) := inferInstanceAs (Decidable (_ ∨ _))

theorem toList_plain (negative : Bool) (significand : Nat) (exponent : Int) :
    (plain.finiteText negative significand exponent).toList =
      signed negative (layOut false (shortest .up significand exponent)) := String.toList_ofList

theorem toList_structured (negative : Bool) (significand : Nat) (exponent : Int) :
    (structured.finiteText negative significand exponent).toList =
      signed negative (if Positional (shortest .even significand exponent)
        then layOut true (shortest .even significand exponent)
        else scientific (shortest .even significand exponent) (leading (shortest .even significand exponent))) :=
  String.toList_ofList

/-- Both styles write the same: there is no tie, digits stand after the point, and no power of ten is needed. -/
def Shared (significand : Nat) (exponent : Int) : Prop :=
  shortest .up significand exponent = shortest .even significand exponent ∧
    (shortest .even significand exponent).exponent < 0 ∧ Positional (shortest .even significand exponent)

instance (significand : Nat) (exponent : Int) : Decidable (Shared significand exponent) :=
  inferInstanceAs (Decidable (_ ∧ _))

theorem Shared.text_eq {negative : Bool} {significand : Nat} {exponent : Int} (shared : Shared significand exponent) :
    plain.finiteText negative significand exponent = structured.finiteText negative significand exponent := by
  obtain ⟨same, fractional, positional⟩ := shared
  rw [← String.toList_inj, toList_plain, toList_structured, same]
  rw [if_pos positional]
  congr 1
  generalize shortest .even significand exponent = d at fractional
  obtain ⟨coefficient, _ | shift⟩ := d
  · simp at fractional
    omega
  · rfl

theorem mem_signed {negative : Bool} {text : List Char} (member : c ∈ signed negative text) : c = '-' ∨ c ∈ text := by
  cases negative with
  | false => exact .inr member
  | true => exact List.mem_cons.mp member

theorem mem_signed_of_mem {negative : Bool} {text : List Char} (member : c ∈ text) : c ∈ signed negative text := by
  cases negative with
  | false => exact member
  | true => exact List.mem_cons_of_mem _ member

theorem signed_ne_nil {text : List Char} (started : text ≠ []) (negative : Bool) : signed negative text ≠ [] := by
  cases negative <;> simp [signed, started]

/-- A whole number without a mark is written without a point, and with one it has a point. -/
theorem point_mem_layOut (coefficient shift : Nat) : '.' ∈ layOut true ⟨coefficient, .ofNat shift⟩ := by
  simp [layOut]

/-- If digits with a point are a part of other digits with a point, and as many follow the point, those are the same. -/
theorem after_eq_of_part {negative : Bool} {places one two : Nat}
    (part : signed negative (before places one ++ '.' :: after places one) <:+:
      signed negative (before places two ++ '.' :: after places two)) : after places one = after places two := by
  obtain ⟨front, back, whole⟩ := part
  have pointless {text : List Char} (digits : ∀ c ∈ text, c.isDigit = true) : '.' ∉ text :=
    fun member => absurd (digits _ member) (by decide)
  have sign (text rest : List Char) : signed negative (text ++ rest) = signed negative text ++ rest := by
    cases negative <;> rfl
  rw [sign, sign, ← List.append_assoc, List.append_assoc _ _ back, List.cons_append] at whole
  have first : '.' ∉ signed negative (before places two) := by
    intro member
    rcases mem_signed member with dash | digit
    · cases dash
    · exact pointless (isDigit_before places two) digit
  obtain ⟨-, -, tails⟩ :=
    (List.append_cons_inj_of_notMem first (pointless (isDigit_after places two))).mp whole.symm
  have lengths := congrArg List.length tails
  rw [List.length_append, length_after, length_after] at lengths
  have nothing : back = [] := List.eq_nil_of_length_eq_zero (by omega)
  rw [tails, nothing, List.append_nil]

/-- The structured text is a part of the plain one only if both are the same. -/
theorem shared_of_part {negative : Bool} {significand : Nat} {exponent : Int}
    (part : (structured.finiteText negative significand exponent).toList <:+:
      (plain.finiteText negative significand exponent).toList) : Shared significand exponent := by
  rw [toList_plain, toList_structured] at part
  obtain ⟨level, near⟩ := shortest_ties significand exponent
  unfold Shared
  generalize shortest .up significand exponent = high at *
  generalize shortest .even significand exponent = low at *
  have plainly {c : Char} (member : c ∈ signed negative (layOut false high)) :
      c = '-' ∨ c.isDigit = true ∨ c = '.' ∧ high.exponent < 0 := by
    simpa using (mem_signed member).imp_right mem_layOut
  have positional : Positional low := by
    by_contra scientifically
    rw [if_neg scientifically] at part
    rcases plainly (part.subset (mem_signed_of_mem (mem_scientific_mark (leading low)))) with mark | mark | ⟨mark, -⟩
    all_goals exact absurd mark (by decide)
  rw [if_pos positional] at part
  have fractional : low.exponent < 0 := by
    by_contra whole
    obtain ⟨coefficient, shift | shift⟩ := low
    · rcases plainly (part.subset (mem_signed_of_mem (point_mem_layOut coefficient shift))) with mark | mark | ⟨-, below⟩
      · exact absurd mark (by decide)
      · exact absurd mark (by decide)
      · exact whole (level ▸ below)
    · exact whole (Int.negSucc_lt_zero shift)
  refine ⟨?_, fractional, positional⟩
  obtain ⟨one, shift | shift⟩ := low
  · exact absurd fractional (Int.not_lt.mpr (Int.natCast_nonneg shift))
  obtain ⟨two, other⟩ := high
  obtain rfl : other = .negSucc shift := level
  -- the last digits agree, so coefficients that are next to each other at most are the same
  have digits := congrArg ofDigits (after_eq_of_part part)
  rw [ofDigits_after, ofDigits_after] at digits
  have places : 10 ≤ 10 ^ (shift + 1) := Nat.le_self_pow (Nat.succ_ne_zero shift) 10
  rcases near with same | next
  · exact congrArg (Decimal.mk · _) same
  · obtain rfl : two = one + 1 := next
    have rest : (one + 1 - one) % 10 ^ (shift + 1) = 0 := Nat.sub_mod_eq_zero_of_mod_eq digits.symm
    rw [Nat.add_sub_cancel_left, Nat.mod_eq_of_lt (by omega)] at rest
    cases rest

theorem steady_of_isDigit (digit : c.isDigit = true) : Case.Steady c :=
  Case.steady_of_lt ((Char.isDigit_iff_toNat.mp digit).2.trans_lt (by decide))

theorem steady_mark (mark : c ∈ ['.', 'e', '-', '+']) : Case.Steady c := by
  simp only [List.mem_cons, List.not_mem_nil, or_false] at mark
  rcases mark with rfl | rfl | rfl | rfl
  case inr.inl => decide +kernel
  all_goals exact Case.steady_of_lt (by decide)

theorem steady_signed {negative : Bool} {text : List Char} (steady : ∀ c ∈ text, Case.Steady c) :
    ∀ c ∈ signed negative text, Case.Steady c := by
  intro c member
  rcases mem_signed member with rfl | inside
  · exact steady_mark (by decide)
  · exact steady c inside

theorem steady_layOut : ∀ c ∈ layOut markWhole d, Case.Steady c := by
  intro c member
  rcases mem_layOut member with digit | ⟨rfl, -⟩
  · exact steady_of_isDigit digit
  · exact steady_mark (by decide)

theorem steady_scientific (power : Int) : ∀ c ∈ scientific d power, Case.Steady c := by
  intro c member
  exact (mem_scientific member).elim steady_of_isDigit steady_mark

theorem steady_plain (negative : Bool) (significand : Nat) (exponent : Int) :
    ∀ c ∈ (plain.finiteText negative significand exponent).toList, Case.Steady c := by
  rw [toList_plain]
  exact steady_signed steady_layOut

theorem steady_structured (negative : Bool) (significand : Nat) (exponent : Int) :
    ∀ c ∈ (structured.finiteText negative significand exponent).toList, Case.Steady c := by
  rw [toList_structured]
  refine steady_signed ?_
  split
  · exact steady_layOut
  · exact steady_scientific _

end NumberStyle

/-- A number that is finite, and that both styles write the same. -/
def Parts.OneText : Parts → Prop
  | .finite _ significand exponent => NumberStyle.Shared significand exponent
  | _ => False

instance : DecidablePred Parts.OneText
  | .finite _ significand exponent => inferInstanceAs (Decidable (NumberStyle.Shared significand exponent))
  | .nan | .infinite _ => inferInstanceAs (Decidable False)

namespace Double

variable {d : Double}

/-- A double that is finite, and that both styles write the same. -/
def OneText (d : Double) : Prop := d.parts.OneText

instance (d : Double) : Decidable d.OneText := inferInstanceAs (Decidable d.parts.OneText)

theorem OneText.isFinite (one : d.OneText) : d.isFinite = true := by
  rw [Double.isFinite]
  rw [OneText] at one
  cases parts : d.parts with
  | finite => rfl
  | _ =>
    rw [parts] at one
    exact one.elim

theorem OneText.text_eq (one : d.OneText) : d.text .plain = d.text .structured := by
  rw [OneText] at one
  rw [text, text]
  cases parts : d.parts with
  | finite =>
    rw [parts] at one
    exact one.text_eq
  | _ => rfl

theorem text_plain_ne_empty (d : Double) : d.text .plain ≠ "" := by
  rw [text]
  cases d.parts with
  | nan => simp
  | infinite negative => cases negative <;> simp
  | finite negative significand exponent =>
    rw [ne_eq, ← String.toList_eq_nil_iff, NumberStyle.toList_plain]
    exact NumberStyle.signed_ne_nil NumberStyle.layOut_ne_nil negative

/-- Of 2.5, 2, 1e-7 and 1125899906842626.25 only the first has one text: the second is whole, the third needs a power of
ten, and the last lies between two decimals of one digit after the point. -/
example : [⟨0x4004000000000000⟩, ⟨0x4000000000000000⟩, ⟨0x3E7AD7F29ABCAF48⟩, ⟨0x4310000000000009⟩].map
    (fun d : Double => decide d.OneText) = [true, false, false, false] := by
  decide +kernel

/-- In lower case, too, the structured text of a double is a part of the plain one only if both are the same. -/
theorem oneText_of_standsIn (finite : d.isFinite = true)
    (part : StandsIn (lower (d.text .structured)) (lower (d.text .plain))) : d.OneText := by
  rw [isFinite] at finite
  rw [text, text] at part
  rw [OneText]
  cases parts : d.parts with
  | finite negative significand exponent =>
    rw [parts] at part
    rw [StandsIn, toList_lower, toList_lower,
      Case.lowerChars_of_steady (NumberStyle.steady_structured negative significand exponent),
      Case.lowerChars_of_steady (NumberStyle.steady_plain negative significand exponent)] at part
    exact NumberStyle.shared_of_part part
  | _ => simp [parts, Parts.isFinite] at finite

end Double

end EntityGraph
