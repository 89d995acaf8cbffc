import EntityGraph.Proofs.SearchTurns

/-!
Which paths are read back from what the search for shortest paths knows.
-/
namespace EntityGraph.Layering

variable {α : Type} [Ord α] {step : α → List α} {source target node : α} {layering : Layering α}

section Paths

variable [DecidableEq α]

theorem pathsTo_start (layering : Layering α) (source : α) (steps : Nat) :
    layering.pathsTo source steps source = [[source]] := by
  cases steps <;> simp [pathsTo]

theorem pathsTo_parents (found : IsDistance (Listed step) source (distance + 1) node) (steps : Nat) :
    layering.pathsTo source (steps + 1) node =
      (layering.parentsOf node).flatMap fun parent => (layering.pathsTo source steps parent).map (· ++ [node]) := by
  rw [pathsTo, if_neg found.ne_start]

theorem Layered.pathsTo_more (layered : Layered step source layering) {distance steps : Nat}
    (found : IsDistance (Listed step) source distance node) (more : distance ≤ steps) :
    layering.pathsTo source steps node = layering.pathsTo source distance node := by
  induction distance generalizing steps node with
  | zero =>
    obtain rfl := IsDistance.start_iff.mp found
    rw [pathsTo_start, pathsTo_start]
  | succ distance ih =>
    obtain ⟨before, rfl⟩ : ∃ before, steps = before + 1 := ⟨steps - 1, by omega⟩
    rw [pathsTo_parents found, pathsTo_parents found]
    apply List.flatMap_congr
    intro parent listed
    rw [ih (layered.nearer found listed) (by omega)]

theorem Layered.shortestTo_eq [Std.TransOrd α] (layered : Layered step source layering)
    (known : layering.depth[target]? = some distance) :
    layering.shortestTo source target = layering.pathsTo source distance target := by
  obtain ⟨near, found⟩ := (layered.depth target distance).mp known
  rw [shortestTo, Std.TreeMap.contains_eq_isSome_getElem?, known, Option.isSome_some, if_pos rfl,
    layered.pathsTo_more found near]

theorem Layered.mem_pathsTo (layered : Layered step source layering) {steps : Nat} (known : steps ≤ layering.level)
    (found : IsDistance (Listed step) source steps node) (path : List α) :
    path ∈ layering.pathsTo source steps node ↔ IsPath (Listed step) source node steps path := by
  induction steps generalizing node path with
  | zero =>
    have first := IsDistance.start_iff.mp found
    rw [pathsTo, if_pos first, List.mem_singleton, IsPath.zero_iff, first]
    simp
  | succ steps ih =>
    rw [pathsTo_parents found]
    simp only [List.mem_flatMap, List.mem_map]
    constructor
    · intro whole
      obtain ⟨parent, listed, front, before, rfl⟩ := whole
      obtain ⟨_, _, _, _, taken⟩ := (layered.parents node parent).mp listed
      exact ((ih (by omega) (layered.nearer found listed) front).mp before).next taken
    · intro whole
      obtain ⟨front, parent, rfl, before, taken⟩ := whole.front
      obtain ⟨distance, bound, nearer⟩ := before.walk.distance
      have further := nearer.le_succ taken found
      obtain rfl : distance = steps := by omega
      refine ⟨parent, (layered.parents node parent).mpr ⟨distance, known, nearer, found, taken⟩, front, ?_, rfl⟩
      exact (ih (by omega) nearer front).mpr before

theorem Layered.nodup_pathsTo (layered : Layered step source layering) {steps : Nat} (known : steps ≤ layering.level)
    (found : IsDistance (Listed step) source steps node) : (layering.pathsTo source steps node).Nodup := by
  induction steps generalizing node with
  | zero =>
    rw [pathsTo, if_pos (IsDistance.start_iff.mp found)]
    exact List.nodup_singleton _
  | succ steps ih =>
    rw [pathsTo_parents found]
    refine List.nodup_flatMap.mpr ⟨?_, ?_⟩
    · intro parent listed
      exact (ih (by omega) (layered.nearer found listed)).map (List.append_left_injective _)
    · refine (layered.distinct node).imp_of_mem ?_
      intro first second firstListed secondListed different path one two
      -- The front of the path would end at both parents.
      obtain ⟨front, firstFront, rfl⟩ := List.mem_map.mp one
      obtain ⟨other, secondFront, same⟩ := List.mem_map.mp two
      obtain rfl := List.append_left_injective _ same
      have firstPath := (layered.mem_pathsTo (by omega) (layered.nearer found firstListed) other).mp firstFront
      have secondPath := (layered.mem_pathsTo (by omega) (layered.nearer found secondListed) other).mp secondFront
      exact different (Option.some.inj (firstPath.last.symm.trans secondPath.last))

end Paths

section Shortest

variable [DecidableEq α] [Std.TransOrd α] [Std.LawfulEqOrd α] (distinct : ∀ node, (step node).Nodup)

include distinct

theorem shortestTo_beyond (far : ∀ distance, IsDistance (Listed step) source distance target → hops < distance) :
    (Layering.search step target hops (start source)).shortestTo source target = [] := by
  obtain ⟨count, last, _⟩ := exists_turns distinct source target hops
  obtain ⟨layered, _, level, bound⟩ := last.layered distinct
  rw [shortestTo, Std.TreeMap.contains_eq_isSome_getElem?]
  cases known : (Layering.search step target hops (start source)).depth[target]? with
  | none => rfl
  | some distance =>
    obtain ⟨near, found⟩ := (layered.depth target distance).mp known
    have further := far distance found
    omega

/-- A target within the hops has all paths of its distance, each once, and the same list for all such bounds. -/
theorem shortestTo_within (found : IsDistance (Listed step) source distance target) :
    ∃ paths : List (List α), paths.Nodup ∧
      (∀ path, path ∈ paths ↔ IsPath (Listed step) source target distance path) ∧
      ∀ hops, distance ≤ hops →
        (Layering.search step target hops (start source)).shortestTo source target = paths := by
  have reached := search_reaches distinct found (Nat.le_refl distance)
  obtain ⟨count, last, _⟩ := exists_turns distinct source target distance
  obtain ⟨layered, _⟩ := last.layered distinct
  obtain ⟨known, _⟩ := (layered.depth target distance).mp reached
  have present : (Layering.search step target distance (start source)).depth.contains target = true := by
    rw [Std.TreeMap.contains_eq_isSome_getElem?, reached]
    rfl
  refine ⟨_, layered.nodup_pathsTo known found, layered.mem_pathsTo known found, ?_⟩
  intro hops within
  rw [search_saturates present within, layered.shortestTo_eq reached]

end Shortest

end EntityGraph.Layering
