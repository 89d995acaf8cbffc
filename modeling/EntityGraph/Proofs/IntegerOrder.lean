import EntityGraph.Proofs.RoundingOrder

/-!
Integers compared as doubles. Rounding an integer to the nearest double keeps the order, and below `2 ^ 53` it keeps all
integers apart; so integers are compared exactly, except that two beyond `2 ^ 53` which share their nearest double count as
one.
-/
namespace EntityGraph

namespace BinaryFormat

variable {m n : Nat}

/-- A whole number up to `2 ^ 53` is a double. -/
theorem shows_double (small : n ≤ 2 ^ 53) : double.Shows (double.round false n 1) n := by
  have top : double.Shows (double.round false (2 ^ 53) 1) (2 ^ 53 : Nat) := ⟨2 ^ 52, 1, by decide +kernel, by norm_num⟩
  exact shows_whole (by decide) rfl top small

/-- Below `2 ^ 53` rounding keeps every whole number apart from the larger ones. -/
theorem round_strict (ordered : m < n) (small : m < 2 ^ 53) : double.round false m 1 < double.round false n 1 := by
  refine lt_of_lt_of_le ?_ (round_whole_mono double ordered)
  refine lt_of_le_of_ne (round_whole_mono double m.le_succ) fun same => ?_
  have first := shows_double small.le
  rw [same] at first
  have values : (m : ℚ) = (m + 1 : Nat) := first.unique (shows_double small)
  exact absurd (Nat.cast_injective values) (Nat.succ_ne_self m).symm

theorem round_pos (positive : 0 < n) : 0 < double.round false n 1 :=
  round_strict positive (by decide)

end BinaryFormat

namespace Double

open BinaryFormat

variable {a b : Int}

/-- The place of the double nearest to an integer. -/
def place (n : Int) : Int :=
  if n < 0 then -(double.round false n.natAbs 1 : Int) else double.round false n.natAbs 1

theorem ofInt_eq (n : Int) : ofInt n = ofWord (double.signed (decide (n < 0)) (double.round false n.natAbs 1)) := by
  rw [ofInt, ofRatio, round_signed]

theorem key?_ofInt_eq (n : Int) : (ofInt n).key? = some (place n) := by
  rw [ofInt_eq, key?_ofWord _ (round_le_infinityWord double _ _), place]
  simp only [decide_eq_true_eq]

theorem place_mono (ordered : a ≤ b) : place a ≤ place b := by
  unfold place
  split <;> split
  · have magnitudes := round_whole_mono double (show b.natAbs ≤ a.natAbs by omega)
    omega
  · omega
  · omega
  · have magnitudes := round_whole_mono double (show a.natAbs ≤ b.natAbs by omega)
    omega

/-- A place tells the sign and the magnitude of the double. -/
theorem signs_and_magnitudes (same : place a = place b) :
    (a < 0 ↔ b < 0) ∧ double.round false a.natAbs 1 = double.round false b.natAbs 1 := by
  have first : a < 0 → 0 < double.round false a.natAbs 1 := fun negative => round_pos (by omega)
  have second : b < 0 → 0 < double.round false b.natAbs 1 := fun negative => round_pos (by omega)
  unfold place at same
  split at same <;> split at same <;> omega

theorem ofInt_eq_iff : ofInt a = ofInt b ↔ place a = place b := by
  constructor
  · intro same
    have keys := key?_ofInt_eq a
    rw [same, key?_ofInt_eq b] at keys
    exact (Option.some.inj keys).symm
  · intro same
    obtain ⟨signs, magnitudes⟩ := signs_and_magnitudes same
    rw [ofInt_eq, ofInt_eq, decide_eq_decide.mpr signs, magnitudes]

theorem ofInt_inj (small : a.natAbs < 2 ^ 53 ∨ b.natAbs < 2 ^ 53) : ofInt a = ofInt b ↔ a = b := by
  refine ⟨fun same => ?_, congrArg ofInt⟩
  obtain ⟨signs, magnitudes⟩ := signs_and_magnitudes (ofInt_eq_iff.mp same)
  -- the smaller of two different magnitudes is below the bound, and rounding keeps it apart from the larger one
  have apart {m n : Nat} (less : m < n) (bounded : m < 2 ^ 53 ∨ n < 2 ^ 53) :
      double.round false m 1 ≠ double.round false n 1 := (round_strict less (by omega)).ne
  rcases Nat.lt_trichotomy a.natAbs b.natAbs with less | level | greater
  · exact absurd magnitudes (apart less small)
  · omega
  · exact absurd magnitudes.symm (apart greater small.symm)

theorem compare?_ofInt (a b : Int) :
    (ofInt a).compare? (ofInt b) = some (if ofInt a = ofInt b then .eq else compare a b) := by
  have places : (ofInt a).compare? (ofInt b) = some (compare (place a) (place b)) := by
    rw [compare?, key?_ofInt_eq, key?_ofInt_eq]
  rw [places, Option.some.injEq]
  by_cases same : ofInt a = ofInt b
  · rw [if_pos same, ofInt_eq_iff.mp same]
    exact compare_eq_iff_eq.mpr rfl
  · rw [if_neg same]
    have apart : place a ≠ place b := mt ofInt_eq_iff.mpr same
    rcases Int.lt_trichotomy a b with less | rfl | greater
    · rw [compare_lt_iff_lt.mpr less, compare_lt_iff_lt.mpr (lt_of_le_of_ne (place_mono less.le) apart)]
    · exact absurd rfl apart
    · rw [compare_gt_iff_gt.mpr greater, compare_gt_iff_gt.mpr (lt_of_le_of_ne (place_mono greater.le) apart.symm)]

end Double

end EntityGraph
