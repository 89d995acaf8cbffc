import EntityGraph.Proofs.ListingSearch
import EntityGraph.Proofs.Unwinding

/-!
The search for shortest paths between two positions of a store, turn by turn: what it knows after each level is exact,
so reading the paths back ends at the source on every graph, and the levels are never more than the hops allowed.
-/
namespace EntityGraph

namespace Layering

variable {α : Type} [Ord α]

/-- What is known after a level: the distances up to it, the nodes on it, and for every node other than the source and
not beyond the level the nodes one level nearer that lead to it. Neither of the lists has repeats. -/
structure Charts (leads : α → α → Prop) (source : α) (layering : Layering α) : Prop where
  depth : ∀ node distance, layering.depth[node]? = some distance ↔
    distance ≤ layering.level ∧ IsDistance leads source distance node
  frontier : ∀ node, node ∈ layering.frontier ↔ IsDistance leads source layering.level node
  once : layering.frontier.Nodup
  parents : ∀ node distance, distance < layering.level → IsDistance leads source (distance + 1) node →
    ∃ listed, layering.parents[node]? = some listed ∧ listed.Nodup ∧
      ∀ before, before ∈ listed ↔ IsDistance leads source distance before ∧ leads before node
  unlisted : ∀ node, (∀ distance < layering.level, ¬ IsDistance leads source (distance + 1) node) →
    layering.parents[node]? = none
  root : layering.parents[source]? = none

variable {step : α → List α} {source node : α} {layering : Layering α}

theorem parents_cases (layering : Layering α) (node : α) :
    layering.parents[node]? = none ∧ layering.parentsOf node = [] ∨
      layering.parents[node]? = some (layering.parentsOf node) := by
  rw [parentsOf]
  cases layering.parents[node]? with
  | none => exact .inl ⟨rfl, rfl⟩
  | some listed => exact .inr rfl

theorem Filled.parents_eq_none (filled : layering.Filled) (parentless : layering.parentsOf node = []) :
    layering.parents[node]? = none := by
  rcases layering.parents_cases node with ⟨absent, _⟩ | listed
  · exact absent
  · exact absurd (parentless ▸ listed) (filled node)

theorem Layered.charts (layered : Layered step source layering) (filled : layering.Filled) :
    layering.Charts (Listed step) source := by
  have parentless (node : α) (beyond : ∀ distance < layering.level,
      ¬ IsDistance (Listed step) source (distance + 1) node) : layering.parents[node]? = none := by
    apply filled.parents_eq_none
    apply List.eq_nil_iff_forall_not_mem.mpr
    intro before listed
    obtain ⟨distance, within, _, found, _⟩ := (layered.parents node before).mp listed
    exact beyond distance within found
  constructor
  · exact layered.depth
  · exact layered.frontier
  · exact layered.once
  · intro node distance within found
    rcases layering.parents_cases node with ⟨_, none⟩ | listed
    · exact absurd none (layered.parentsOf_ne_nil within found)
    · refine ⟨_, listed, layered.distinct node, ?_⟩
      intro before
      rw [layered.parents]
      constructor
      · intro parent
        obtain ⟨near, _, nearer, here, taken⟩ := parent
        obtain rfl : near = distance := Nat.succ.inj (here.unique found)
        exact ⟨nearer, taken⟩
      · intro parent
        obtain ⟨nearer, taken⟩ := parent
        exact ⟨distance, within, nearer, found, taken⟩
  · exact parentless
  · exact parentless source fun distance _ found => found.ne_start rfl

end Layering

namespace Store

variable {store : Store} {source target : Nat}

/-- Some edge leads from one position to another. -/
def Leads (store : Store) (source target : Nat) : Prop :=
  ∃ handle edge, store.edge? handle = some edge ∧ edge.source = source ∧ edge.target = target

/-- What the search for shortest paths between two positions knows at its end. -/
def layersTo (store : Store) (source target maxHops : Nat) : Layering Nat :=
  Layering.search (store.neighbors .outgoing) target maxHops (Layering.start source)

/-- The turns that the search for shortest paths between two positions completes. -/
abbrev Turns (store : Store) (source target maxHops count : Nat) (layering : Layering Nat) : Prop :=
  Layering.Turns (store.neighbors .outgoing) source target maxHops count layering

/-- How the search for shortest paths between two positions goes. After every turn it has one more level and knows it
exactly; a machine word that holds the bound can count the levels; the search ends after some turn; and if the target
is reached by then, unwinding from it ends at the source. The answer for two ids is what this unwinding finds. -/
structure SearchesByLevel (store : Store) (source target maxHops : Nat) : Prop where
  levels : ∀ count layering, store.Turns source target maxHops count layering →
    layering.level = count ∧ layering.Charts store.Leads source
  words : ∀ count layering, store.Turns source target maxHops (count + 1) layering →
    ∀ level bound : USize, level.toNat = count → bound.toNat = maxHops → (level + 1).toNat = layering.level
  rest : ∀ count layering, store.Turns source target maxHops count layering →
    Layering.search (store.neighbors .outgoing) target (maxHops - count) layering =
      store.layersTo source target maxHops
  last : ∃ count, store.Turns source target maxHops count (store.layersTo source target maxHops) ∧
    ¬ (store.layersTo source target maxHops).Continues target maxHops
  unwinding : (store.layersTo source target maxHops).depth.contains target = true →
    (store.layersTo source target maxHops).EndsAtSource source target maxHops
  answers : ∀ sourceId targetId, store.handle? sourceId = some source → store.handle? targetId = some target →
    source ≠ target → ∃ paths,
      store.shortestPaths sourceId targetId maxHops = .ok (paths.map fun path => path.map store.idAt) ∧
        if (store.layersTo source target maxHops).depth.contains target
        then (store.layersTo source target maxHops).unwind source (maxHops + 1) target [] [] = some paths
        else paths = []

theorem WellFormed.mem_outgoing (valid : store.WellFormed) :
    target ∈ store.neighbors .outgoing source ↔ store.Leads source target := by
  cases live : store.node? source with
  | none =>
    simp only [neighbors, live, List.not_mem_nil, false_iff]
    rintro ⟨handle, edge, found, rfl, -⟩
    obtain ⟨slot, present, _⟩ := valid.ends .source handle edge found
    rw [End.node, live] at present
    cases present
  | some slot =>
    have listed := (valid.lists .source source slot live).exact
    simp only [neighbors, live, List.mem_eraseDups, successors, List.mem_filterMap, Option.map_eq_some_iff]
    constructor
    · rintro ⟨handle, member, edge, found, arrives⟩
      obtain ⟨other, same, leaves⟩ := (listed handle).mp member
      obtain rfl := Option.some.inj (found.symm.trans same)
      exact ⟨handle, edge, found, leaves, arrives⟩
    · rintro ⟨handle, edge, found, leaves, arrives⟩
      exact ⟨handle, (listed handle).mpr ⟨edge, found, leaves⟩, edge, found, arrives⟩

/-- Below another word there is a next one. -/
theorem toNat_add_one {level bound : USize} (below : level.toNat < bound.toNat) :
    (level + 1).toNat = level.toNat + 1 := by
  have fits : level.toNat + 1 < USize.size := Nat.lt_of_le_of_lt below bound.toNat_lt_size
  rw [USize.toNat_add, USize.toNat_one]
  exact Nat.mod_eq_of_lt fits

theorem WellFormed.searchesByLevel (valid : store.WellFormed) (source target maxHops : Nat) :
    store.SearchesByLevel source target maxHops := by
  have steps : Listed (store.neighbors .outgoing) = store.Leads := by
    funext node neighbor
    exact propext valid.mem_outgoing
  have distinct : ∀ node, (store.neighbors .outgoing node).Nodup := nodup_neighbors .outgoing
  have last := Layering.exists_turns distinct source target maxHops
  have unwinding (reached : (store.layersTo source target maxHops).depth.contains target = true) :
      (store.layersTo source target maxHops).EndsAtSource source target maxHops := by
    obtain ⟨count, turns, _⟩ := last
    obtain ⟨layered, _, level, within⟩ := turns.layered distinct
    exact layered.endsAtSource reached (level ▸ within)
  constructor
  · intro count layering turns
    obtain ⟨layered, filled, level, _⟩ := turns.layered distinct
    exact ⟨level, steps ▸ layered.charts filled⟩
  · intro count layering turns level bound counted limit
    obtain ⟨_, _, complete, within⟩ := turns.layered distinct
    have below : level.toNat < bound.toNat := by omega
    rw [toNat_add_one below, complete, counted]
  · intro count layering turns
    exact turns.search_rest distinct
  · exact last
  · exact unwinding
  · intro sourceId targetId sourceKnown targetKnown different
    refine ⟨(store.layersTo source target maxHops).shortestTo source target, ?_, ?_⟩
    · simp [shortestPaths, sourceKnown, targetKnown, different, layersTo]
    · split
      · rename_i reached
        exact (unwinding reached).answer _ (Nat.le_refl _)
      · rename_i unreached
        rw [Layering.shortestTo, if_neg unreached]

/-- After every history, the search for shortest paths between two positions goes level by level, and unwinding ends. -/
theorem shortestPaths_by_level (config : StoreConfig) (commands : List Command) (source target maxHops : Nat) :
    (history config commands).SearchesByLevel source target maxHops :=
  (history_wellFormed config commands).searchesByLevel source target maxHops

/-- Two ways round a ring with a loop at the source: with hops to spare, unwinding ends with both. -/
theorem shortestPaths_by_level_ring :
    let node (id : String) : Command := .edit (.upsert ⟨0, 0⟩ id "Node" .empty none)
    let edge (source target : String) : Command := .edit (.relate ⟨⟨1⟩, ⟨0, 0⟩⟩ source target "knows" .empty 1)
    let commands := [node "a", node "b", node "c", node "d", edge "a" "a", edge "a" "b", edge "a" "c", edge "b" "d",
      edge "c" "d", edge "d" "a"]
    let store := history {} commands
    (store.layersTo 0 3 9).depth.contains 3 = true ∧
      (store.layersTo 0 3 9).unwind 0 10 3 [] [] = some [[0, 1, 3], [0, 2, 3]] := by
  intro node edge commands store
  have reached : (store.layersTo 0 3 9).depth.contains 3 = true := by decide +kernel
  have paths : (store.layersTo 0 3 9).shortestTo 0 3 = [[0, 1, 3], [0, 2, 3]] := by decide +kernel
  have ends := (shortestPaths_by_level {} commands 0 3 9).unwinding reached
  exact ⟨reached, paths ▸ ends.answer 10 (Nat.le_refl 10)⟩

end Store

end EntityGraph
