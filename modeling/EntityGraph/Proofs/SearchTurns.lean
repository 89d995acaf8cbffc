import EntityGraph.Proofs.LayeringInvariant

/-!
The search for shortest paths turn by turn: every turn completes a level, and the last one has reached every target
within the hops.
-/
namespace EntityGraph.Layering

variable {α : Type} [Ord α]

/-- There are nodes on the last level, hops are left, and the target has no distance yet. -/
def Continues (layering : Layering α) (target : α) (hops : Nat) : Prop :=
  layering.frontier ≠ [] ∧ layering.level < hops ∧ layering.depth.contains target = false

/-- What a search knows after so many turns, each of which completes a level. -/
inductive Turns (step : α → List α) (source target : α) (hops : Nat) : Nat → Layering α → Prop where
  | start : Turns step source target hops 0 (start source)
  | next (turns : Turns step source target hops count layering) (goes : layering.Continues target hops) :
      Turns step source target hops (count + 1) (layering.advance step)

variable {step : α → List α} {source target : α} {layering : Layering α}

theorem search_saturates (reached : (layering.search step target hops).depth.contains target = true)
    (more : hops ≤ further) : layering.search step target further = layering.search step target hops := by
  induction hops generalizing layering further with
  | zero =>
    cases further with
    | zero => rfl
    | succ further =>
      rw [search] at reached
      simp [search, reached]
  | succ hops ih =>
    cases further with
    | zero => omega
    | succ further =>
      unfold search at reached ⊢
      split
      · rfl
      · rename_i going
        rw [if_neg going] at reached
        exact ih reached (by omega)

theorem search_of_continues (goes : layering.Continues target hops) (rest : Nat) :
    search step target (rest + 1) layering = search step target rest (layering.advance step) := by
  obtain ⟨more, _, missing⟩ := goes
  rw [search, if_neg (by simp [more, missing])]

variable [DecidableEq α] [Std.TransOrd α] [Std.LawfulEqOrd α] (distinct : ∀ node, (step node).Nodup)

include distinct

namespace Turns

/-- After every turn the levels are complete, one for each turn, and no more than the hops. -/
theorem layered (turns : Turns step source target hops count layering) : Layered step source layering ∧
    layering.Filled ∧ layering.level = count ∧ count ≤ hops := by
  induction turns with
  | start => exact ⟨.start step source, .start source, rfl, Nat.zero_le hops⟩
  | next _ goes ih =>
    obtain ⟨layered, filled, level, _⟩ := ih
    obtain ⟨_, left, _⟩ := goes
    have deeper := (grown_advance step layered.within).level
    exact ⟨layered.advance distinct, filled.advance step, by omega, by omega⟩

theorem search_rest (turns : Turns step source target hops count layering) :
    search step target (hops - count) layering = search step target hops (Layering.start source) := by
  induction turns with
  | start => rfl
  | @next count layering turns goes ih =>
    obtain ⟨_, _, level, _⟩ := turns.layered distinct
    have left := goes.2.1
    have rest : hops - count = hops - (count + 1) + 1 := by omega
    rw [← ih, rest, search_of_continues goes]

/-- With the hops that are left the search ends after some turn, as no further one begins. -/
theorem exists_last (turns : Turns step source target hops count layering) (whole : count + rest = hops) :
    ∃ last, Turns step source target hops last (search step target rest layering) ∧
      ¬ (search step target rest layering).Continues target hops := by
  induction rest generalizing count layering with
  | zero =>
    obtain ⟨_, _, level, _⟩ := turns.layered distinct
    refine ⟨count, turns, ?_⟩
    intro goes
    have left : layering.level < hops := goes.2.1
    omega
  | succ rest ih =>
    obtain ⟨_, _, level, _⟩ := turns.layered distinct
    by_cases goes : layering.Continues target hops
    · rw [search_of_continues goes]
      exact ih (turns.next goes) (by omega)
    · have stopped : (layering.frontier.isEmpty || layering.depth.contains target) = true := by
        by_contra going
        rw [Bool.or_eq_true, not_or, List.isEmpty_iff, Bool.not_eq_true] at going
        exact goes ⟨going.1, by omega, going.2⟩
      rw [search, if_pos stopped]
      exact ⟨count, turns, goes⟩

end Turns

theorem exists_turns (source target : α) (hops : Nat) :
    ∃ count, Turns step source target hops count (search step target hops (start source)) ∧
      ¬ (search step target hops (start source)).Continues target hops :=
  Turns.start.exists_last distinct (Nat.zero_add hops)

theorem search_reaches (found : IsDistance (Listed step) source distance target) (within : distance ≤ hops) :
    (search step target hops (start source)).depth[target]? = some distance := by
  obtain ⟨count, last, stopped⟩ := exists_turns distinct source target hops
  obtain ⟨layered, _⟩ := last.layered distinct
  cases known : (search step target hops (start source)).depth[target]? with
  | some near => rw [((layered.depth target near).mp known).2.unique found]
  | none =>
    -- A target beyond the last level, but within the hops, would have called for another turn.
    have further := layered.beyond known found
    refine absurd ⟨?_, by omega, ?_⟩ stopped
    · intro empty
      have near := layered.exhausted empty found
      omega
    · rw [Std.TreeMap.contains_eq_isSome_getElem?, known]
      rfl

end EntityGraph.Layering
