import EntityGraph.Proofs.Walk
import EntityGraph.Store.Paths
import Mathlib.Data.List.Nodup

/-!
The search for shortest paths knows, after each level, every distance up to that level and all parents of the nodes
there; the paths read back from it are all shortest paths, each once.
-/
namespace EntityGraph.Layering

variable {α : Type} [Ord α]

section Reach

variable (layering : Layering α) (node neighbor other : α)

@[simp] theorem level_reach : (layering.reach node neighbor).level = layering.level := by
  unfold reach
  split
  · rfl
  · split <;> rfl

theorem frontier_reach : (layering.reach node neighbor).frontier =
    if layering.depth[neighbor]? = none then layering.frontier ++ [neighbor] else layering.frontier := by
  unfold reach
  split
  · rename_i fresh
    simp [fresh]
  · rename_i distance known
    split <;> simp [known]

variable [DecidableEq α] [Std.TransOrd α] [Std.LawfulEqOrd α]

theorem depth_reach : (layering.reach node neighbor).depth[other]? =
    if neighbor = other then layering.depth[neighbor]?.or (some layering.level) else layering.depth[other]? := by
  unfold reach
  by_cases same : neighbor = other
  · subst same
    split
    · rename_i fresh
      simp [fresh]
    · rename_i distance known
      split <;> simp [known]
  · split
    · simp [Std.TreeMap.getElem?_insert, same]
    · rw [if_neg same]
      split <;> rfl

/-- Only a step into the last level adds a parent. -/
theorem parents_reach : (layering.reach node neighbor).parents[other]? =
    if neighbor = other ∧ layering.depth[neighbor]?.getD layering.level = layering.level
    then some (layering.parentsOf other ++ [node]) else layering.parents[other]? := by
  unfold reach
  by_cases same : neighbor = other
  · subst same
    split
    · rename_i fresh
      simp [fresh]
    · rename_i distance known
      split <;> simp_all
  · split
    · simp [Std.TreeMap.getElem?_insert, same]
    · split <;> simp [Std.TreeMap.getElem?_insert, same]

theorem parentsOf_reach : (layering.reach node neighbor).parentsOf other =
    if neighbor = other ∧ layering.depth[neighbor]?.getD layering.level = layering.level
    then layering.parentsOf other ++ [node] else layering.parentsOf other := by
  rw [parentsOf, parents_reach]
  split <;> rfl

end Reach

/-- Distances up to the last level are known, the frontier is that level, and the parents of a node are the nodes one
level nearer with a step to it, each once. -/
structure Layered (step : α → List α) (source : α) (layering : Layering α) : Prop where
  depth : ∀ node distance, layering.depth[node]? = some distance ↔
    distance ≤ layering.level ∧ IsDistance (Listed step) source distance node
  frontier : ∀ node, node ∈ layering.frontier ↔ IsDistance (Listed step) source layering.level node
  once : layering.frontier.Nodup
  parents : ∀ node before, before ∈ layering.parentsOf node ↔ ∃ distance < layering.level,
    IsDistance (Listed step) source distance before ∧ IsDistance (Listed step) source (distance + 1) node ∧
      node ∈ step before
  distinct : ∀ node, (layering.parentsOf node).Nodup

/-- Every list of parents that is kept has one. -/
def Filled (layering : Layering α) : Prop := ∀ node : α, layering.parents[node]? ≠ some []

/-- The pairs of a node on the last level and a neighbour, whose steps build the next one. -/
def pairs (layering : Layering α) (step : α → List α) : List (α × α) :=
  layering.frontier.flatMap fun node => (step node).map (node, ·)

section Complete

variable {step : α → List α} {source node before : α} {layering : Layering α}

theorem mem_pairs : (before, node) ∈ layering.pairs step ↔ before ∈ layering.frontier ∧ node ∈ step before := by
  simp only [pairs, List.mem_flatMap, List.mem_map, Prod.mk.injEq]
  constructor
  · intro pair
    obtain ⟨before, last, node, taken, rfl, rfl⟩ := pair
    exact ⟨last, taken⟩
  · intro joined
    obtain ⟨last, taken⟩ := joined
    exact ⟨before, last, node, taken, rfl, rfl⟩

theorem mem_neighbors : node ∈ (layering.pairs step).map (·.2) ↔ ∃ before, (before, node) ∈ layering.pairs step := by
  simp

namespace Layered

theorem within (layered : Layered step source layering) (node : α) (distance : Nat)
    (known : layering.depth[node]? = some distance) : distance ≤ layering.level :=
  ((layered.depth node distance).mp known).1

theorem beyond (layered : Layered step source layering) (fresh : layering.depth[node]? = none)
    (found : IsDistance (Listed step) source distance node) : layering.level < distance := by
  apply Nat.lt_of_not_le
  intro near
  have known := (layered.depth node distance).mpr ⟨near, found⟩
  rw [fresh] at known
  cases known

/-- A node without a distance is on the next level exactly if a step from the last one leads to it. -/
theorem fresh_iff (layered : Layered step source layering) (fresh : layering.depth[node]? = none) :
    node ∈ (layering.pairs step).map (·.2) ↔ IsDistance (Listed step) source (layering.level + 1) node := by
  rw [mem_neighbors]
  constructor
  · intro reached
    obtain ⟨before, pair⟩ := reached
    obtain ⟨last, taken⟩ := mem_pairs.mp pair
    refine ((layered.frontier before).mp last).next taken ?_
    intro near bound found
    have further := layered.beyond fresh found
    omega
  · intro found
    obtain ⟨before, last, taken⟩ := found.before
    exact ⟨before, mem_pairs.mpr ⟨(layered.frontier before).mpr last, taken⟩⟩

theorem no_parents (layered : Layered step source layering) (fresh : layering.depth[node]? = none) :
    layering.parentsOf node = [] := by
  apply List.eq_nil_iff_forall_not_mem.mpr
  intro before member
  obtain ⟨distance, near, _, found, _⟩ := (layered.parents node before).mp member
  have further := layered.beyond fresh found
  omega

theorem nearer (layered : Layered step source layering)
    (found : IsDistance (Listed step) source (steps + 1) node) (listed : parent ∈ layering.parentsOf node) :
    IsDistance (Listed step) source steps parent := by
  obtain ⟨distance, _, nearer, here, _⟩ := (layered.parents node parent).mp listed
  have same := here.unique found
  obtain rfl : distance = steps := by omega
  exact nearer

theorem exhausted (layered : Layered step source layering) (empty : layering.frontier = [])
    (found : IsDistance (Listed step) source distance node) : distance < layering.level := by
  refine found.lt_of_empty ?_
  intro node last
  have listed := (layered.frontier node).mpr last
  rw [empty] at listed
  cases listed

theorem nodup_pairs (layered : Layered step source layering) (distinct : ∀ node, (step node).Nodup) :
    (layering.pairs step).Nodup := by
  refine List.nodup_flatMap.mpr ⟨?_, ?_⟩
  · intro node _
    refine (distinct node).map ?_
    intro first second same
    exact (Prod.mk.inj same).2
  · refine layered.once.imp ?_
    intro first second different pair one two
    obtain ⟨_, _, rfl⟩ := List.mem_map.mp one
    obtain ⟨_, _, same⟩ := List.mem_map.mp two
    exact different (Prod.mk.inj same).1.symm

end Layered

end Complete

variable [DecidableEq α]

/-- A level under construction, after the steps of some pairs of a node of the level before and a neighbour: the
neighbours that had no distance form the level, and the nodes before them are their parents. -/
structure Grown (base : Layering α) (done : List (α × α)) (grown : Layering α) : Prop where
  level : grown.level = base.level + 1
  depth : ∀ node, grown.depth[node]? =
    base.depth[node]?.or (if node ∈ done.map (·.2) then some (base.level + 1) else none)
  frontier : ∀ node, node ∈ grown.frontier ↔ base.depth[node]? = none ∧ node ∈ done.map (·.2)
  once : grown.frontier.Nodup
  parents : ∀ node, grown.parentsOf node = base.parentsOf node ++
    if base.depth[node]? = none then (done.filter (·.2 = node)).map (·.1) else []

namespace Layered

variable {step : α → List α} {source : α} {layering next : Layering α}

theorem depth_grown (layered : Layered step source layering)
    (grown : Grown layering (layering.pairs step) next) (node : α) (distance : Nat) :
    next.depth[node]? = some distance ↔
      distance ≤ layering.level + 1 ∧ IsDistance (Listed step) source distance node := by
  rw [grown.depth]
  cases known : layering.depth[node]? with
  | some near =>
    obtain ⟨bound, found⟩ := (layered.depth node near).mp known
    rw [Option.some_or, Option.some.injEq]
    constructor
    · rintro rfl
      exact ⟨by omega, found⟩
    · rintro ⟨_, other⟩
      exact found.unique other
  | none =>
    rw [Option.none_or]
    split
    · rename_i reached
      have found := (layered.fresh_iff known).mp reached
      rw [Option.some.injEq]
      constructor
      · rintro rfl
        exact ⟨Nat.le_refl _, found⟩
      · rintro ⟨_, other⟩
        exact found.unique other
    · rename_i unreached
      constructor
      · intro none
        cases none
      · intro reached
        obtain ⟨bound, found⟩ := reached
        have further := layered.beyond known found
        have last : distance = layering.level + 1 := by omega
        subst last
        exact absurd ((layered.fresh_iff known).mpr found) unreached

theorem frontier_grown (layered : Layered step source layering)
    (grown : Grown layering (layering.pairs step) next) (node : α) :
    node ∈ next.frontier ↔ IsDistance (Listed step) source (layering.level + 1) node := by
  rw [grown.frontier]
  cases known : layering.depth[node]? with
  | some near =>
    obtain ⟨bound, found⟩ := (layered.depth node near).mp known
    simp only [reduceCtorEq, false_and, false_iff]
    intro last
    have same := found.unique last
    omega
  | none => simp only [true_and, layered.fresh_iff known]

/-- The nodes of the new level have the nodes before them as parents, and the others keep theirs. -/
theorem parents_grown (layered : Layered step source layering)
    (grown : Grown layering (layering.pairs step) next) (node before : α) :
    before ∈ next.parentsOf node ↔ ∃ distance < layering.level + 1, IsDistance (Listed step) source distance before ∧
      IsDistance (Listed step) source (distance + 1) node ∧ node ∈ step before := by
  rw [grown.parents]
  cases known : layering.depth[node]? with
  | some near =>
    obtain ⟨bound, found⟩ := (layered.depth node near).mp known
    rw [if_neg (by simp), List.append_nil, layered.parents]
    refine exists_congr fun distance => and_congr_left ?_
    intro joined
    obtain ⟨_, last, _⟩ := joined
    have same := found.unique last
    omega
  | none =>
    have listed : before ∈ ((layering.pairs step).filter (·.2 = node)).map (·.1) ↔
        IsDistance (Listed step) source layering.level before ∧ node ∈ step before := by
      rw [← layered.frontier, ← mem_pairs]
      simp
    rw [if_pos rfl, layered.no_parents known, List.nil_append, listed]
    constructor
    · intro joined
      obtain ⟨last, taken⟩ := joined
      have reached := (layered.fresh_iff known).mp (mem_neighbors.mpr
        ⟨before, mem_pairs.mpr ⟨(layered.frontier before).mpr last, taken⟩⟩)
      exact ⟨layering.level, Nat.lt_succ_self _, last, reached, taken⟩
    · intro joined
      obtain ⟨distance, bound, last, found, taken⟩ := joined
      have further := layered.beyond known found
      have same : distance = layering.level := by omega
      exact ⟨same ▸ last, taken⟩

theorem nodup_parents_grown (layered : Layered step source layering)
    (grown : Grown layering (layering.pairs step) next) (distinct : ∀ node, (step node).Nodup) (node : α) :
    (next.parentsOf node).Nodup := by
  rw [grown.parents]
  cases known : layering.depth[node]? with
  | some near =>
    rw [if_neg (by simp), List.append_nil]
    exact layered.distinct node
  | none =>
    rw [if_pos rfl, layered.no_parents known, List.nil_append]
    refine List.Nodup.map_on ?_ ((layered.nodup_pairs distinct).filter _)
    intro first one second two same
    have firstStep : first.2 = node := by simpa using (List.mem_filter.mp one).2
    have secondStep : second.2 = node := by simpa using (List.mem_filter.mp two).2
    exact Prod.ext same (firstStep.trans secondStep.symm)

end Layered

section Grown

variable [Std.TransOrd α]

theorem Grown.deepen (base : Layering α) : Grown base [] base.deepen := by
  constructor <;> simp [Layering.deepen, parentsOf]

variable [Std.LawfulEqOrd α]

theorem Grown.reach {base grown : Layering α} {done : List (α × α)} (grows : Grown base done grown)
    (within : ∀ (node : α) distance, base.depth[node]? = some distance → distance ≤ base.level) (node neighbor : α) :
    Grown base (done ++ [(node, neighbor)]) (grown.reach node neighbor) := by
  have joined (other : α) : other ∈ (done ++ [(node, neighbor)]).map (·.2) ↔
      other ∈ done.map (·.2) ∨ other = neighbor := by
    rw [List.map_append, List.mem_append, List.map_singleton, List.mem_singleton]
  have added (other : α) : (done ++ [(node, neighbor)]).filter (·.2 = other) =
      done.filter (·.2 = other) ++ if neighbor = other then [(node, neighbor)] else [] := by
    by_cases same : neighbor = other <;> simp [List.filter_append, same]
  constructor
  · rw [level_reach, grows.level]
  · intro other
    rw [depth_reach, grows.depth, grows.depth, grows.level]
    simp only [joined]
    by_cases same : neighbor = other
    · subst same
      cases base.depth[neighbor]? with
      | none => by_cases seen : neighbor ∈ done.map (·.2) <;> simp [seen]
      | some distance => simp
    · simp only [if_neg same, Ne.symm same, or_false]
  · intro other
    rw [frontier_reach, joined]
    split
    · rename_i fresh
      rw [grows.depth, Option.or_eq_none_iff] at fresh
      rw [List.mem_append, List.mem_singleton, grows.frontier]
      by_cases same : other = neighbor
      · simp [same, fresh.1]
      · simp [same]
    · rename_i known
      rw [grows.depth, Option.or_eq_none_iff, not_and] at known
      rw [grows.frontier]
      by_cases same : other = neighbor
      · subst same
        have seen (fresh : base.depth[other]? = none) : other ∈ done.map (·.2) := by
          simpa using known fresh
        exact and_congr_right fun fresh => ⟨.inl, fun _ => seen fresh⟩
      · simp [same]
  · rw [frontier_reach]
    split
    · rename_i fresh
      rw [grows.depth] at fresh
      refine List.nodup_append'.mpr ⟨grows.once, List.nodup_singleton _, ?_⟩
      intro other listed last
      rw [List.mem_singleton.mp last, grows.frontier] at listed
      rw [if_pos listed.2, listed.1] at fresh
      cases fresh
    · exact grows.once
  · intro other
    rw [parentsOf_reach, grows.depth, grows.level, grows.parents, added]
    by_cases same : neighbor = other
    · subst same
      cases known : base.depth[neighbor]? with
      | none => by_cases seen : neighbor ∈ done.map (·.2) <;> simp [seen]
      | some distance =>
        -- A neighbour of the base lies on an earlier level and gets no parent.
        have near := within neighbor distance known
        have earlier : distance ≠ base.level + 1 := by omega
        simp [earlier]
    · simp [same]

theorem grown_advance {base : Layering α} (step : α → List α)
    (within : ∀ (node : α) distance, base.depth[node]? = some distance → distance ≤ base.level) :
    Grown base (base.pairs step) (base.advance step) := by
  have along (steps done : List (α × α)) (grown : Layering α) (grows : Grown base done grown) :
      Grown base (done ++ steps) (steps.foldl (fun grown pair => grown.reach pair.1 pair.2) grown) := by
    induction steps generalizing done grown with
    | nil => simpa using grows
    | cons first rest ih =>
      have later := ih _ _ (grows.reach within first.1 first.2)
      simpa using later
  have built := along (base.pairs step) [] base.deepen (.deepen base)
  simpa [advance, pairs, List.foldl_flatMap, List.foldl_map] using built

end Grown

namespace Layered

variable [Std.TransOrd α] [Std.LawfulEqOrd α] {step : α → List α} {source : α} {layering : Layering α}

theorem start (step : α → List α) (source : α) : Layered step source (start source) := by
  constructor
  · intro node distance
    by_cases same : source = node
    · subst same
      simp only [Layering.start, Std.TreeMap.getElem?_insert_self, Option.some.injEq]
      constructor
      · rintro rfl
        exact ⟨Nat.le_refl _, IsDistance.start_iff.mpr rfl⟩
      · intro reached
        obtain ⟨near, _⟩ := reached
        omega
    · have unknown : (Layering.start source).depth[node]? = none := by
        simp [Layering.start, same]
      rw [unknown]
      constructor
      · intro found
        cases found
      · intro reached
        obtain ⟨near, found⟩ := reached
        have zero : distance = 0 := Nat.le_zero.mp near
        subst zero
        exact absurd (IsDistance.start_iff.mp found).symm same
  · intro node
    simp [Layering.start, IsDistance.start_iff]
  · simp [Layering.start]
  · intro node before
    simp [Layering.start, parentsOf]
  · intro node
    simp [Layering.start, parentsOf]

theorem advance (layered : Layered step source layering) (distinct : ∀ node, (step node).Nodup) :
    Layered step source (layering.advance step) := by
  have grown := grown_advance step layered.within
  constructor
  · rw [grown.level]
    exact layered.depth_grown grown
  · rw [grown.level]
    exact layered.frontier_grown grown
  · exact grown.once
  · rw [grown.level]
    exact layered.parents_grown grown
  · exact layered.nodup_parents_grown grown distinct

end Layered

namespace Filled

variable [Std.TransOrd α] {layering : Layering α}

omit [DecidableEq α] in
theorem start (source : α) : (start source).Filled := by
  intro node
  simp [Layering.start]

theorem advance [Std.LawfulEqOrd α] (filled : layering.Filled) (step : α → List α) :
    (layering.advance step).Filled := by
  refine List.foldlRecOn (motive := Filled) layering.frontier _ filled ?_
  intro grown kept node _
  refine List.foldlRecOn (motive := Filled) (step node) _ kept ?_
  intro grown kept neighbor _ other
  rw [parents_reach]
  split
  · simp
  · exact kept other

end Filled

end EntityGraph.Layering
