import EntityGraph.Text.Search
import Mathlib.Data.List.Infix

/-!
Lower-casing in context. All that a text sees of what stands around it is whether a letter with case comes next on either
side, and only its capital sigmas look. A text that comes out the same beside letters and alone is found, without regard
to case, wherever it stands; any other text has a place where it is not found.
-/
namespace EntityGraph

theorem occursIn_iff {needle text : List Char} : occursIn needle text = true ↔ needle <:+: text := by
  induction text with
  | nil => simp [occursIn]
  | cons c rest ih => simp [occursIn, List.infix_cons_iff, ih]

/-- The characters of a text stand next to each other in another. -/
def StandsIn (needle text : String) : Prop := needle.toList <:+: text.toList

theorem containsText_iff {text needle : String} : containsText text needle = true ↔ StandsIn needle text := occursIn_iff

theorem toList_lower (text : String) : (lower text).toList = lowerChars text.toList := String.toList_ofList

namespace Case

/-- A character with case comes first in a text, or the text lets the eye through and one comes first beyond it. -/
def casedThrough (beyond : Bool) : List Char → Bool
  | [] => beyond
  | c :: rest => if caseIgnorable.containsChar c then casedThrough beyond rest else cased.containsChar c

theorem casedAhead_cons (c : Char) (rest : List Char) :
    casedAhead (c :: rest) = if caseIgnorable.containsChar c then casedAhead rest else cased.containsChar c := by
  by_cases ignored : caseIgnorable.containsChar c = true <;> simp [casedAhead, ignored]

theorem casedAhead_append (cs more : List Char) : casedAhead (cs ++ more) = casedThrough (casedAhead more) cs := by
  induction cs with
  | nil => rfl
  | cons c rest ih => rw [List.cons_append, casedAhead_cons, casedThrough, ih]

theorem casedThrough_mono {near far : Bool} (farther : near = true → far = true) (cs : List Char)
    (seen : casedThrough near cs = true) : casedThrough far cs = true := by
  induction cs with
  | nil => exact farther seen
  | cons c rest ih =>
    simp only [casedThrough] at seen ⊢
    split at seen
    · rename_i ignored
      rw [if_pos ignored]
      exact ih seen
    · rename_i kept
      rwa [if_neg kept]

/-- The lower-case form of a capital sigma between letters or gaps. -/
def sigmaForm (before after : Bool) : Char := if before && !after then finalSigma else smallSigma

/-- A part of a text in lower case; `left` and `right` tell whether a letter with case comes next to it. -/
def lowerBetween (left right : Bool) : List Char → List Char
  | [] => []
  | c :: rest =>
    (if c = capitalSigma then [sigmaForm left (casedThrough right rest)] else lowerChar c) ++
      lowerBetween (casedThrough left [c]) right rest

theorem lowerFrom_append (before cs after : List Char) : lowerFrom before (cs ++ after) =
    lowerBetween (casedAhead before) (casedAhead after) cs ++ lowerFrom (cs.reverse ++ before) after := by
  induction cs generalizing before with
  | nil => rfl
  | cons c rest ih =>
    have next : casedThrough (casedAhead before) [c] = casedAhead (c :: before) := (casedAhead_append [c] before).symm
    rw [List.cons_append, lowerFrom, ih, lowerBetween, next, casedAhead_append rest after]
    simp only [sigmaForm, List.reverse_cons, List.append_assoc, List.singleton_append]
    split
    · split <;> rfl
    · rfl

theorem lowerChars_eq (cs : List Char) : lowerChars cs = lowerBetween false false cs := by
  have alone := lowerFrom_append [] cs []
  rwa [List.append_nil, lowerFrom, List.append_nil] at alone

/-- A part of a text in lower case stands in the whole text in lower case. -/
theorem lowerChars_append (front cs back : List Char) : lowerChars (front ++ cs ++ back) =
    lowerBetween false (casedAhead (cs ++ back)) front ++
      lowerBetween (casedAhead front.reverse) (casedAhead back) cs ++ lowerFrom (cs.reverse ++ front.reverse) back := by
  have outer := lowerFrom_append [] front (cs ++ back)
  have inner := lowerFrom_append front.reverse cs back
  rw [List.append_nil, inner] at outer
  rw [List.append_assoc, lowerChars, outer, List.append_assoc]
  rfl

theorem sigmaForm_cases {before before' after after' : Bool} (left : before = true → before' = true)
    (right : after' = true → after = true) : sigmaForm before' after' = sigmaForm before after ∨
      sigmaForm before' after' = finalSigma ∧ sigmaForm before after = smallSigma := by
  cases before <;> cases before' <;> cases after <;> cases after' <;> simp [sigmaForm] at *

/-- A letter on the left can make sigmas final, and none on the right can too; whenever that changes a text, it has fewer
inner and more final sigmas. -/
theorem lowerBetween_cases {left left' right right' : Bool} (lefts : left = true → left' = true)
    (rights : right' = true → right = true) (cs : List Char) :
    lowerBetween left' right' cs = lowerBetween left right cs ∨
      (lowerBetween left' right' cs).count smallSigma < (lowerBetween left right cs).count smallSigma ∧
      (lowerBetween left right cs).count finalSigma < (lowerBetween left' right' cs).count finalSigma := by
  induction cs generalizing left left' with
  | nil => exact .inl rfl
  | cons c rest ih =>
    have different : smallSigma ≠ finalSigma := by decide
    have next := ih (casedThrough_mono lefts [c])
    simp only [lowerBetween, List.count_append]
    split
    · rcases sigmaForm_cases lefts (casedThrough_mono rights rest) with same | ⟨final, small⟩
      · rw [same]
        rcases next with tail | ⟨fewer, more⟩
        · exact .inl (by rw [tail])
        · exact .inr ⟨by omega, by omega⟩
      · rw [final, small]
        refine .inr ?_
        rcases next with tail | ⟨fewer, more⟩
        · simp [tail, different, different.symm]
        · simp only [List.count_singleton, beq_iff_eq, different, different.symm, if_false, if_true]
          omega
    · rcases next with tail | ⟨fewer, more⟩
      · exact .inl (by rw [tail])
      · exact .inr ⟨by omega, by omega⟩

theorem lowerBetween_of_not_mem {cs : List Char} (plain : capitalSigma ∉ cs) (left right : Bool) :
    lowerBetween left right cs = cs.flatMap lowerChar := by
  induction cs generalizing left with
  | nil => rfl
  | cons c rest ih =>
    obtain ⟨other, plain⟩ := not_or.mp (mt List.mem_cons.mpr plain)
    rw [lowerBetween, if_neg (Ne.symm other), ih plain, List.flatMap_cons]

/-- A character without capital forms: no context gives it another form, and lower case keeps it. -/
def Steady (c : Char) : Prop := c ≠ capitalSigma ∧ lowerChar c = [c]

instance (c : Char) : Decidable (Steady c) := inferInstanceAs (Decidable (_ ∧ _))

/-- Below the first of the ranges no code point has a partner. -/
theorem shiftCode_of_lt {shifts : List CodeShift} {code : Nat} (below : ∀ shift ∈ shifts, code < shift.range.first) :
    shiftCode shifts code = code := by
  induction shifts with
  | nil => rfl
  | cons shift rest ih =>
    have outside : shift.range.contains code = false := by
      have low := below shift List.mem_cons_self
      simp [CodeRange.contains, not_le.mpr low]
    rw [shiftCode, if_neg (Bool.eq_false_iff.mp outside)]
    exact ih fun other member => below other (List.mem_cons_of_mem _ member)

/-- All characters in front of the letters are steady. -/
theorem steady_of_lt {c : Char} (low : c.toNat < 'A'.toNat) : Steady c := by
  have letters : ∀ shift ∈ lowerShifts, 'A'.toNat ≤ shift.range.first := by decide +kernel
  have plain {other : Char} (high : 'A'.toNat ≤ other.toNat) : c ≠ other := by
    rintro rfl
    exact absurd low (not_lt.mpr high)
  refine ⟨plain (by decide), ?_⟩
  rw [lowerChar, if_neg (plain (by decide)), shiftCode_of_lt fun shift member => low.trans_le (letters shift member),
    Char.ofNat_toNat]

theorem lowerChars_of_steady {cs : List Char} (steady : ∀ c ∈ cs, Steady c) : lowerChars cs = cs := by
  have plain : capitalSigma ∉ cs := fun member => (steady _ member).1 rfl
  rw [lowerChars_eq, lowerBetween_of_not_mem plain]
  calc cs.flatMap lowerChar = cs.flatMap ([·]) := List.flatMap_congr fun c member => (steady c member).2
    _ = cs := List.flatMap_singleton' cs

/-- A text comes out the same between letters, gaps and alone: each of its capital sigmas finds its own neighbours. -/
def Settled (cs : List Char) : Prop := ∀ left right, lowerBetween left right cs = lowerChars cs

instance (cs : List Char) : Decidable (Settled cs) := inferInstanceAs (Decidable (∀ _ _, _ = _))

theorem settled_of_not_mem {cs : List Char} (plain : capitalSigma ∉ cs) : Settled cs := by
  intro left right
  rw [lowerChars_eq, lowerBetween_of_not_mem plain, lowerBetween_of_not_mem plain]

theorem Settled.found {needle text : List Char} (settled : Settled needle) (stands : needle <:+: text) :
    lowerChars needle <:+: lowerChars text := by
  obtain ⟨front, back, rfl⟩ := stands
  rw [lowerChars_append, settled]
  exact ⟨_, _, rfl⟩

/-- A letter if there is to be one. -/
def neighbor (letter : Bool) : List Char := if letter then ['a'] else []

theorem lowerChars_neighbors (left right : Bool) (cs : List Char) :
    lowerChars (neighbor left ++ cs ++ neighbor right) = neighbor left ++ lowerBetween left right cs ++ neighbor right := by
  have letter : 'a' ≠ capitalSigma ∧ lowerChar 'a' = ['a'] := by decide +kernel
  have seen (shown : Bool) : casedAhead (neighbor shown).reverse = shown ∧ casedAhead (neighbor shown) = shown := by
    revert shown
    decide +kernel
  have first (beyond : Bool) : lowerBetween false beyond (neighbor left) = neighbor left := by
    cases left <;> simp [neighbor, lowerBetween, letter]
  have last (before : List Char) : lowerFrom before (neighbor right) = neighbor right := by
    cases right <;> simp [neighbor, lowerFrom, letter]
  rw [lowerChars_append, first, last, (seen left).1, (seen right).2]

theorem count_neighbor {letter : Char} (sigma : letter = smallSigma ∨ letter = finalSigma) (shown : Bool) :
    (neighbor shown).count letter = 0 := by
  rcases sigma with rfl | rfl <;> cases shown <;> decide

/-- A text that is not settled has a place where it is not found: a sigma that it has alone is missing there. -/
theorem exists_missed {needle : List Char} (unsettled : ¬ Settled needle) : ∃ text letter, needle <:+: text ∧
    (letter = smallSigma ∨ letter = finalSigma) ∧ (lowerChars text).count letter < (lowerChars needle).count letter := by
  obtain ⟨left, right, letter, sigma, fewer⟩ : ∃ left right letter, (letter = smallSigma ∨ letter = finalSigma) ∧
      (lowerBetween left right needle).count letter < (lowerBetween false false needle).count letter := by
    by_contra! kept
    -- a letter on the left alone could only take inner sigmas away, one on the right alone only final ones
    have before : lowerBetween true false needle = lowerBetween false false needle := by
      refine (lowerBetween_cases (by simp) (by simp) needle).resolve_right fun changed => ?_
      exact absurd changed.1 (not_lt.mpr (kept true false smallSigma (.inl rfl)))
    have after (left : Bool) (same : lowerBetween left false needle = lowerBetween false false needle) :
        lowerBetween left true needle = lowerBetween false false needle := by
      rw [← same]
      refine ((lowerBetween_cases id (by simp) needle).resolve_right fun changed => ?_).symm
      rw [same] at changed
      exact absurd changed.2 (not_lt.mpr (kept left true finalSigma (.inr rfl)))
    refine unsettled fun left right => ?_
    rw [lowerChars_eq]
    cases left <;> cases right
    · rfl
    · exact after false rfl
    · exact before
    · exact after true before
  refine ⟨neighbor left ++ needle ++ neighbor right, letter, ⟨_, _, rfl⟩, sigma, ?_⟩
  rw [lowerChars_neighbors, lowerChars_eq]
  simpa [List.count_append, count_neighbor sigma] using fewer

end Case

end EntityGraph
