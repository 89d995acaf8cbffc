import EntityGraph.Proofs.PathEnumeration

/-!
Reading paths back while no bound stops it. On what a search knows after its levels this ends by itself, in spite of
cycles, since every step leads one level nearer to the source.
-/
namespace EntityGraph.Layering

variable {α : Type} [Ord α]

/-- The calls of unwinding from a target: each is about a node, with the nodes after it on the way to the target, and
goes on to all parents unless the node is the source. -/
inductive Unwinds (layering : Layering α) (source target : α) : α → List α → Prop where
  | target : Unwinds layering source target target []
  | parent (call : Unwinds layering source target node trail) (elsewhere : node ≠ source)
      (listed : parent ∈ layering.parentsOf node) : Unwinds layering source target parent (node :: trail)

/-- Unwinding with room for so many more nodes on the trail: at the source the trail is one more path, and from another
node it goes on to all parents. A branch that has not ended when the room is used up leaves no answer. -/
def unwind [DecidableEq α] (layering : Layering α) (source : α) :
    Nat → α → List α → List (List α) → Option (List (List α))
  | 0, _, _, _ => none
  | room + 1, node, trail, paths =>
    if node = source then some (paths ++ [node :: trail])
    else (layering.parentsOf node).foldlM (fun paths parent => unwind layering source room parent (node :: trail) paths)
      paths

/-- Unwinding from a target within some hops. A call away from the source is about a node with parents, and all of them
are one level nearer; no trail has more nodes than a path of that many hops; in room for as many or more there is an
answer, the trails of the calls at the source; and every call leads to one of these. -/
structure EndsAtSource [DecidableEq α] (layering : Layering α) (source target : α) (hops : Nat) : Prop where
  nearer : ∀ node trail, Unwinds layering source target node trail → node ≠ source →
    ∀ parent ∈ layering.parentsOf node, ∃ distance,
      layering.depth[parent]? = some distance ∧ layering.depth[node]? = some (distance + 1)
  further : ∀ node trail, Unwinds layering source target node trail → node ≠ source → layering.parentsOf node ≠ []
  short : ∀ node trail, Unwinds layering source target node trail → (node :: trail).length ≤ hops + 1
  answer : ∀ room, hops + 1 ≤ room → layering.unwind source room target [] [] = some (layering.shortestTo source target)
  trails : ∀ path, path ∈ layering.shortestTo source target ↔
    ∃ trail, Unwinds layering source target source trail ∧ path = source :: trail
  arrives : ∀ node trail, Unwinds layering source target node trail →
    ∃ path ∈ layering.shortestTo source target, (node :: trail).IsSuffix path

namespace Layered

variable {step : α → List α} {source target node : α} {trail : List α} {layering : Layering α}

theorem distance_of_call (layered : Layered step source layering)
    (reached : IsDistance (Listed step) source far target) (call : Unwinds layering source target node trail) :
    ∃ distance, distance + trail.length = far ∧ IsDistance (Listed step) source distance node := by
  induction call with
  | target => exact ⟨far, rfl, reached⟩
  | @parent node trail parent _ elsewhere listed ih =>
    obtain ⟨distance, total, here⟩ := ih
    obtain ⟨distance, rfl⟩ := here.exists_succ elsewhere
    refine ⟨distance, ?_, layered.nearer here listed⟩
    rw [List.length_cons]
    omega

theorem parentsOf_ne_nil (layered : Layered step source layering) (known : distance < layering.level)
    (found : IsDistance (Listed step) source (distance + 1) node) : layering.parentsOf node ≠ [] := by
  obtain ⟨before, nearer, taken⟩ := found.before
  exact List.ne_nil_of_mem ((layered.parents node before).mpr ⟨distance, known, nearer, found, taken⟩)

variable [DecidableEq α]

/-- Unwinding ends in any room for a path of the distance, and adds the paths to a node, each with the nodes after it. -/
theorem unwind_eq (layered : Layered step source layering) (here : IsDistance (Listed step) source distance node)
    (enough : distance < room) (trail : List α) (paths : List (List α)) :
    layering.unwind source room node trail paths =
      some (paths ++ (layering.pathsTo source distance node).map (· ++ trail)) := by
  induction distance generalizing room node trail paths with
  | zero =>
    obtain ⟨room, rfl⟩ := Nat.exists_eq_add_one.mpr enough
    obtain rfl := IsDistance.start_iff.mp here
    rw [unwind, pathsTo_start]
    simp
  | succ distance ih =>
    obtain ⟨room, rfl⟩ := Nat.exists_eq_add_one.mpr (Nat.zero_lt_of_lt enough)
    -- The calls on the parents add to the same paths, one after another.
    have along (parents : List α) (listed : ∀ parent ∈ parents, parent ∈ layering.parentsOf node)
        (paths : List (List α)) :
        parents.foldlM (fun paths parent => layering.unwind source room parent (node :: trail) paths) paths =
          some (paths ++ parents.flatMap fun parent =>
            (layering.pathsTo source distance parent).map (· ++ node :: trail)) := by
      induction parents generalizing paths with
      | nil => simp
      | cons first rest along =>
        have nearer := layered.nearer here (listed first (List.mem_cons_self ..))
        rw [List.foldlM_cons, ih nearer (by omega), Option.bind_eq_bind, Option.bind_some,
          along fun parent later => listed parent (List.mem_cons_of_mem _ later)]
        simp
    rw [unwind, if_neg here.ne_start, along _ fun _ listed => listed, pathsTo_parents here]
    simp [List.map_flatMap, Function.comp_def]

theorem mem_pathsTo_of_call (layered : Layered step source layering)
    (reached : IsDistance (Listed step) source far target) (call : Unwinds layering source target node trail)
    (here : IsDistance (Listed step) source distance node) (front : path ∈ layering.pathsTo source distance node) :
    path ++ trail ∈ layering.pathsTo source far target := by
  induction call generalizing distance path with
  | target =>
    obtain rfl := here.unique reached
    simpa using front
  | @parent node trail parent call elsewhere listed ih =>
    obtain ⟨_, _, there⟩ := layered.distance_of_call reached call
    obtain ⟨_, rfl⟩ := there.exists_succ elsewhere
    obtain rfl := here.unique (layered.nearer there listed)
    have longer : path ++ [node] ∈ layering.pathsTo source (distance + 1) node := by
      rw [pathsTo_parents there]
      exact List.mem_flatMap.mpr ⟨parent, listed, List.mem_map.mpr ⟨path, front, rfl⟩⟩
    simpa using ih there longer

theorem call_of_mem_pathsTo (layered : Layered step source layering) (call : Unwinds layering source target node trail)
    (here : IsDistance (Listed step) source distance node) (front : path ∈ layering.pathsTo source distance node) :
    ∃ rest, Unwinds layering source target source rest ∧ path ++ trail = source :: rest := by
  induction distance generalizing node trail path with
  | zero =>
    obtain rfl := IsDistance.start_iff.mp here
    rw [pathsTo_start, List.mem_singleton] at front
    exact ⟨trail, call, by simp [front]⟩
  | succ distance ih =>
    rw [pathsTo_parents here] at front
    obtain ⟨parent, listed, member⟩ := List.mem_flatMap.mp front
    obtain ⟨shorter, before, rfl⟩ := List.mem_map.mp member
    obtain ⟨rest, arrived, same⟩ := ih (call.parent here.ne_start listed) (layered.nearer here listed) before
    exact ⟨rest, arrived, by simpa using same⟩

theorem mem_pathsTo_iff (layered : Layered step source layering)
    (reached : IsDistance (Listed step) source far target) (path : List α) :
    path ∈ layering.pathsTo source far target ↔
      ∃ trail, Unwinds layering source target source trail ∧ path = source :: trail := by
  constructor
  · intro listed
    obtain ⟨trail, arrived, same⟩ := layered.call_of_mem_pathsTo .target reached listed
    exact ⟨trail, arrived, by simpa using same⟩
  · rintro ⟨trail, arrived, rfl⟩
    have first : [source] ∈ layering.pathsTo source 0 source := by simp [pathsTo_start]
    exact layered.mem_pathsTo_of_call reached arrived (IsDistance.start_iff.mpr rfl) first

theorem exists_path_of_call (layered : Layered step source layering) (known : far ≤ layering.level)
    (reached : IsDistance (Listed step) source far target) (call : Unwinds layering source target node trail) :
    ∃ path ∈ layering.pathsTo source far target, (node :: trail).IsSuffix path := by
  obtain ⟨distance, total, here⟩ := layered.distance_of_call reached call
  obtain ⟨_, whole⟩ := IsPath.exists_of_walk here.walk
  obtain ⟨front, rfl⟩ := List.getLast?_eq_some_iff.mp whole.last
  have listed := (layered.mem_pathsTo (by omega) here _).mpr whole
  refine ⟨_, layered.mem_pathsTo_of_call reached call here listed, ?_⟩
  rw [List.append_assoc]
  exact List.suffix_append front _

theorem endsAtSource [Std.TransOrd α] (layered : Layered step source layering)
    (reached : layering.depth.contains target = true) (within : layering.level ≤ hops) :
    layering.EndsAtSource source target hops := by
  rw [Std.TreeMap.contains_eq_isSome_getElem?] at reached
  obtain ⟨far, known⟩ := Option.isSome_iff_exists.mp reached
  obtain ⟨near, found⟩ := (layered.depth target far).mp known
  have paths := layered.shortestTo_eq known
  constructor
  · intro node trail call elsewhere parent listed
    obtain ⟨_, total, here⟩ := layered.distance_of_call found call
    obtain ⟨distance, rfl⟩ := here.exists_succ elsewhere
    refine ⟨distance, (layered.depth parent distance).mpr ⟨by omega, layered.nearer here listed⟩, ?_⟩
    exact (layered.depth node (distance + 1)).mpr ⟨by omega, here⟩
  · intro node trail call elsewhere
    obtain ⟨_, total, here⟩ := layered.distance_of_call found call
    obtain ⟨distance, rfl⟩ := here.exists_succ elsewhere
    exact layered.parentsOf_ne_nil (by omega) here
  · intro node trail call
    obtain ⟨distance, total, _⟩ := layered.distance_of_call found call
    rw [List.length_cons]
    omega
  · intro room enough
    rw [layered.unwind_eq found (by omega), paths]
    simp
  · rw [paths]
    exact layered.mem_pathsTo_iff found
  · intro node trail call
    rw [paths]
    exact layered.exists_path_of_call near found call

end Layered

end EntityGraph.Layering
