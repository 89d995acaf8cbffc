import EntityGraph.Proofs.LayeringInvariant
import EntityGraph.Proofs.LevelInvariant

/-!
Searches do not depend on what their nodes are: where names stand for nodes, the results correspond, order included.
-/
namespace EntityGraph

/-- Names for the live nodes of a search: no two share one, steps stay among them, and the steps of the names are the
names of the steps. -/
structure Renames (live : α → Prop) (rename : α → β) (step : α → List α) (renamed : β → List β) : Prop where
  injective : ∀ first second, live first → live second → rename first = rename second → first = second
  closed : ∀ node neighbor, live node → neighbor ∈ step node → live neighbor
  steps : ∀ node, live node → (step node).map rename = renamed (rename node)

namespace Renames

variable {α β : Type} {live : α → Prop} {rename : α → β} {step : α → List α} {renamed : β → List β}

/-- A walk stays among the live nodes. -/
theorem walk (renames : Renames live rename step renamed) (here : live start)
    (walk : Walk (Listed step) start count node) : live node := by
  induction walk with
  | here => exact here
  | next _ taken ih => exact renames.closed _ _ ih taken

section Levels

variable [BEq α] [LawfulBEq α] [BEq β] [LawfulBEq β] {node : α} {visited frontier : List α}

theorem contains (renames : Renames live rename step renamed) {items : List α} (known : ∀ item ∈ items, live item)
    (here : live node) : (items.map rename).contains (rename node) = items.contains node := by
  rw [Bool.eq_iff_iff, List.contains_iff_mem, List.contains_iff_mem, List.mem_map]
  constructor
  · intro listed
    obtain ⟨item, member, same⟩ := listed
    exact renames.injective item node (known item member) here same ▸ member
  · intro member
    exact ⟨node, member, rfl⟩

theorem gather (renames : Renames live rename step renamed) {next : List α} (seen : ∀ node ∈ visited, live node)
    (known : ∀ node ∈ next, live node) (here : live node) : (Search.gather step visited next node).map rename =
      Search.gather renamed (visited.map rename) (next.map rename) (rename node) := by
  rw [Search.gather, Search.gather, List.map_append, ← renames.steps node here, List.filter_map]
  congr 2
  apply List.filter_congr
  intro neighbor taken
  have there := renames.closed node neighbor here taken
  simp only [Function.comp_apply, renames.contains seen there, renames.contains known there]

theorem gathered (renames : Renames live rename step renamed) {next : List α} (seen : ∀ node ∈ visited, live node)
    (last : ∀ node ∈ frontier, live node) (known : ∀ node ∈ next, live node) :
    (frontier.foldl (Search.gather step visited) next).map rename =
      (frontier.map rename).foldl (Search.gather renamed (visited.map rename)) (next.map rename) := by
  induction frontier generalizing next with
  | nil => rfl
  | cons first rest ih =>
    have here := last first (List.mem_cons_self ..)
    rw [List.map_cons, List.foldl_cons, List.foldl_cons, ← renames.gather seen known here]
    apply ih fun node later => last node (List.mem_cons_of_mem _ later)
    intro node member
    rcases List.mem_append.mp member with earlier | added
    · exact known node earlier
    · exact renames.closed first node here (List.mem_filter.mp added).1

theorem levels (renames : Renames live rename step renamed) (depth : Nat) (seen : ∀ node ∈ visited, live node)
    (last : ∀ node ∈ frontier, live node) : (Search.levels step depth visited frontier).map rename =
      Search.levels renamed depth (visited.map rename) (frontier.map rename) := by
  induction depth generalizing visited frontier with
  | zero => rfl
  | succ depth ih =>
    have named : (Search.nextLevel step visited frontier).map rename =
        Search.nextLevel renamed (visited.map rename) (frontier.map rename) :=
      renames.gathered seen last (List.forall_mem_nil _)
    have found : ∀ node ∈ Search.nextLevel step visited frontier, live node := by
      intro node member
      obtain ⟨_, before, listed, taken⟩ := Search.mem_nextLevel.mp member
      exact renames.closed before node (last before listed) taken
    have seenNow : ∀ node ∈ visited ++ Search.nextLevel step visited frontier, live node := by
      intro node member
      rcases List.mem_append.mp member with earlier | later
      · exact seen node earlier
      · exact found node later
    rw [Search.levels, Search.levels, List.map_append, ih seenNow found, List.map_append, named]

end Levels

end Renames

namespace Layering

variable {α β : Type} [Ord α] [Ord β] {live : α → Prop} {rename : α → β} {step : α → List α} {renamed : β → List β}

/-- Two searches that know the same, the second under names. -/
structure Mirrors (live : α → Prop) (rename : α → β) (layering : Layering α) (mirror : Layering β) : Prop where
  depth : ∀ node, live node → mirror.depth[rename node]? = layering.depth[node]?
  parents : ∀ node, live node → mirror.parentsOf (rename node) = (layering.parentsOf node).map rename
  frontier : mirror.frontier = layering.frontier.map rename
  level : mirror.level = layering.level
  last : ∀ node ∈ layering.frontier, live node
  near : ∀ node parent, live node → parent ∈ layering.parentsOf node → live parent

namespace Mirrors

variable {layering : Layering α} {mirror : Layering β} {source node neighbor : α}

theorem deepen (mirrors : Mirrors live rename layering mirror) :
    Mirrors live rename layering.deepen mirror.deepen :=
  { mirrors with
    frontier := rfl
    level := congrArg (· + 1) mirrors.level
    last := by simp [Layering.deepen] }

section Paths

theorem contains [Std.TransOrd α] [Std.TransOrd β] (mirrors : Mirrors live rename layering mirror) (here : live node) :
    mirror.depth.contains (rename node) = layering.depth.contains node := by
  rw [Std.TreeMap.contains_eq_isSome_getElem?, Std.TreeMap.contains_eq_isSome_getElem?, mirrors.depth node here]

variable [DecidableEq α] [DecidableEq β]

theorem pathsTo (renames : Renames live rename step renamed) (mirrors : Mirrors live rename layering mirror)
    (first : live source) (here : live node) (steps : Nat) :
    (layering.pathsTo source steps node).map (List.map rename) =
      mirror.pathsTo (rename source) steps (rename node) := by
  have same (other : α) (known : live other) : rename other = rename source ↔ other = source :=
    ⟨renames.injective other source known first, congrArg rename⟩
  induction steps generalizing node with
  | zero =>
    simp only [Layering.pathsTo, same node here]
    split <;> rfl
  | succ steps ih =>
    simp only [Layering.pathsTo, same node here]
    split
    · rfl
    · rw [mirrors.parents node here, List.map_flatMap, List.flatMap_map]
      apply List.flatMap_congr
      intro parent listed
      rw [← ih (mirrors.near node parent here listed), List.map_map, List.map_map]
      apply List.map_congr_left
      intro path _
      simp

theorem shortestTo [Std.TransOrd α] [Std.TransOrd β] (renames : Renames live rename step renamed)
    (mirrors : Mirrors live rename layering mirror) (first : live source) (here : live target) :
    (layering.shortestTo source target).map (List.map rename) =
      mirror.shortestTo (rename source) (rename target) := by
  unfold Layering.shortestTo
  rw [mirrors.contains here, mirrors.level]
  split
  · exact mirrors.pathsTo renames first here _
  · rfl

end Paths

variable [DecidableEq α] [Std.TransOrd α] [Std.LawfulEqOrd α] [Std.TransOrd β] [Std.LawfulEqOrd β]

theorem start (renames : Renames live rename step renamed) (here : live source) :
    Mirrors live rename (start source) (start (rename source)) := by
  constructor
  · intro node there
    by_cases same : source = node
    · subst same
      simp [Layering.start]
    · have different : rename source ≠ rename node := fun equal => same (renames.injective _ _ here there equal)
      simp [Layering.start, same, different]
  · simp [Layering.start, parentsOf]
  · rfl
  · rfl
  · simpa [Layering.start] using here
  · simp [Layering.start, parentsOf]

variable [DecidableEq β]

theorem reach (renames : Renames live rename step renamed) (mirrors : Mirrors live rename layering mirror)
    (here : live node) (there : live neighbor) :
    Mirrors live rename (layering.reach node neighbor) (mirror.reach (rename node) (rename neighbor)) := by
  have same (other : α) (known : live other) : rename neighbor = rename other ↔ neighbor = other :=
    ⟨renames.injective neighbor other there known, congrArg rename⟩
  constructor
  · intro other known
    simp only [depth_reach, same other known, mirrors.depth neighbor there, mirrors.depth other known, mirrors.level]
  · intro other known
    simp only [parentsOf_reach, same other known, mirrors.depth neighbor there, mirrors.parents other known,
      mirrors.level]
    split <;> simp
  · rw [frontier_reach, frontier_reach, mirrors.depth neighbor there, mirrors.frontier]
    split <;> simp
  · simp [mirrors.level]
  · intro other listed
    rw [frontier_reach] at listed
    split at listed
    · rcases List.mem_append.mp listed with earlier | new
      · exact mirrors.last other earlier
      · exact List.mem_singleton.mp new ▸ there
    · exact mirrors.last other listed
  · intro other parent known listed
    rw [parentsOf_reach] at listed
    split at listed
    · rcases List.mem_append.mp listed with earlier | new
      · exact mirrors.near other parent known earlier
      · exact List.mem_singleton.mp new ▸ here
    · exact mirrors.near other parent known listed

theorem reachAll (renames : Renames live rename step renamed) (mirrors : Mirrors live rename layering mirror)
    (here : live node) {neighbors : List α} (known : ∀ neighbor ∈ neighbors, live neighbor) :
    Mirrors live rename (neighbors.foldl (Layering.reach node) layering)
      ((neighbors.map rename).foldl (Layering.reach (rename node)) mirror) := by
  induction neighbors generalizing layering mirror with
  | nil => exact mirrors
  | cons first rest ih =>
    refine ih (mirrors.reach renames here (known first (List.mem_cons_self ..))) ?_
    intro neighbor later
    exact known neighbor (List.mem_cons_of_mem _ later)

theorem advance (renames : Renames live rename step renamed) (mirrors : Mirrors live rename layering mirror) :
    Mirrors live rename (layering.advance step) (mirror.advance renamed) := by
  have along (frontier : List α) (known : ∀ node ∈ frontier, live node) (grown : Layering α) (image : Layering β)
      (mirrors : Mirrors live rename grown image) :
      Mirrors live rename (frontier.foldl (fun grown node => (step node).foldl (Layering.reach node) grown) grown)
        ((frontier.map rename).foldl (fun grown node => (renamed node).foldl (Layering.reach node) grown) image) := by
    induction frontier generalizing grown image with
    | nil => exact mirrors
    | cons first rest ih =>
      have here := known first (List.mem_cons_self ..)
      have reached := mirrors.reachAll renames here (fun neighbor => renames.closed first neighbor here)
      rw [renames.steps first here] at reached
      exact ih (fun node later => known node (List.mem_cons_of_mem _ later)) _ _ reached
  have built := along layering.frontier mirrors.last layering.deepen mirror.deepen mirrors.deepen
  rwa [← mirrors.frontier] at built

theorem search (renames : Renames live rename step renamed) (mirrors : Mirrors live rename layering mirror)
    (here : live target) (hops : Nat) : Mirrors live rename (Layering.search step target hops layering)
      (Layering.search renamed (rename target) hops mirror) := by
  induction hops generalizing layering mirror with
  | zero => exact mirrors
  | succ hops ih =>
    have stopped : (mirror.frontier.isEmpty || mirror.depth.contains (rename target)) =
        (layering.frontier.isEmpty || layering.depth.contains target) := by
      rw [mirrors.contains here, mirrors.frontier, List.isEmpty_map]
    unfold Layering.search
    rw [stopped]
    split
    · exact mirrors
    · exact ih (mirrors.advance renames)

end Mirrors

end Layering

end EntityGraph
