import EntityGraph.Proofs.FilterPipeline
import EntityGraph.Proofs.ShortestPaths
import Mathlib.Order.Bounds.Defs

/-!
Searches that have to agree. One that goes back the way of another finds its start again within the same depth, so being
close to an entity is mutual; and there are shortest paths exactly where a bounded search finds their end, which is as
many steps away as they have.
-/
namespace EntityGraph

/-- The direction of the way back. -/
def Direction.back : Direction → Direction
  | outgoing => incoming
  | incoming => outgoing
  | both => both

namespace Store

variable {store : Store} {source target node neighbor : String} {types : List String} {direction : Direction}
  {depth distance : Nat}

theorem Steps.back (returns : types = [] ∨ direction = .both) (taken : store.Steps types direction node neighbor) :
    store.Steps types direction.back neighbor node := by
  cases direction with
  | outgoing =>
    have all : types = [] := by simpa using returns
    exact ⟨taken.untyped, .inl all⟩
  | incoming =>
    have all : types = [] := by simpa using returns
    subst all
    exact taken.1
  | both => exact taken.symm

theorem WellFormed.mem_findConnected_back (valid : store.WellFormed) (returns : types = [] ∨ direction = .both) :
    target ∈ store.findConnected source depth types direction ↔
      source ∈ store.findConnected target depth types direction.back := by
  have walks {direction : Direction} {source target : String} {count : Nat} (returns : types = [] ∨ direction = .both)
      (walk : Walk (store.Steps types direction) source count target) :
      Walk (store.Steps types direction.back) target count source :=
    walk.back fun _ _ => Steps.back returns
  have twice : direction.back.back = direction := by cases direction <;> rfl
  have returnsBack : types = [] ∨ direction.back = .both := returns.imp_right (congrArg Direction.back)
  rw [(valid.findsConnected source depth types direction).reached,
    (valid.findsConnected target depth types direction.back).reached, ne_comm]
  refine and_congr_right fun _ => exists_congr fun count => and_congr_right fun _ => ?_
  constructor
  · exact walks returns
  · intro walk
    rw [← twice]
    exact walks returnsBack walk

theorem WellFormed.isLeast_findConnected (valid : store.WellFormed) (different : source ≠ target)
    (found : IsDistance (store.Steps types direction) source distance target) :
    IsLeast {depth | target ∈ store.findConnected source depth types direction} distance := by
  have reached (depth : Nat) := (valid.findsConnected source depth types direction).reached target
  constructor
  · exact (reached distance).mpr ⟨different.symm, distance, Nat.le_refl _, found.walk⟩
  · intro depth listed
    obtain ⟨_, count, within, walk⟩ := (reached depth).mp listed
    exact Nat.le_trans (found.le walk) within

/-- Between two different entities there are shortest paths within a bound exactly if some walk is, and they have as many
steps as the distance. -/
theorem WellFormed.shortestPaths_walks (valid : store.WellFormed) (different : source ≠ target)
    (sourceKnown : source ∈ store.ids) (targetKnown : target ∈ store.ids) (bound : Nat) :
    ∃ paths, store.shortestPaths source target bound = .ok paths ∧
      (paths ≠ [] ↔ ∃ count ≤ bound, Walk (store.Joins []) source count target) ∧
      ∀ path ∈ paths, ∃ edges, path.length = edges + 1 ∧ IsDistance (store.Joins []) source edges target := by
  have answers := valid.findsShortest source target
  by_cases joined : ∃ count ≤ bound, Walk (store.Joins []) source count target
  · obtain ⟨count, within, walk⟩ := joined
    obtain ⟨distance, nearer, found⟩ := walk.distance
    obtain ⟨paths, _, all, answer⟩ := answers.within different sourceKnown targetKnown distance found
    obtain ⟨path, along⟩ := IsPath.exists_of_walk found.walk
    refine ⟨paths, answer bound (by omega), ?_, ?_⟩
    · exact iff_of_true (List.ne_nil_of_mem ((all path).mpr along)) ⟨count, within, walk⟩
    · intro path listed
      exact ⟨distance, ((all path).mp listed).length, found⟩
  · have nothing : store.shortestPaths source target bound = .ok [] := by
      by_cases reachable : ∃ count, Walk (store.Joins []) source count target
      · obtain ⟨count, walk⟩ := reachable
        obtain ⟨distance, _, found⟩ := walk.distance
        apply answers.tooFar different sourceKnown targetKnown distance found
        by_contra near
        exact joined ⟨distance, Nat.not_lt.mp near, found.walk⟩
      · exact answers.unreachable different sourceKnown targetKnown (not_exists.mp reachable) bound
    exact ⟨[], nothing, iff_of_false (not_not.mpr rfl) joined, List.forall_mem_nil _⟩

/-- After every history and for two different entities, there are shortest paths within a bound exactly if a search along
relationships finds the target within it, which is exactly if a search against them finds the source; and every path has
as many edges as the least depth at which the target is found. -/
theorem searches_agree (config : StoreConfig) (commands : List Command) (source target : String) (bound : Nat)
    (different : source ≠ target) (sourceKnown : source ∈ (history config commands).ids)
    (targetKnown : target ∈ (history config commands).ids) :
    ∃ paths, (history config commands).shortestPaths source target bound = .ok paths ∧
      (paths ≠ [] ↔ target ∈ (history config commands).findConnected source bound [] .outgoing) ∧
      (target ∈ (history config commands).findConnected source bound [] .outgoing ↔
        source ∈ (history config commands).findConnected target bound [] .incoming) ∧
      ∀ path ∈ paths, ∃ edges, path.length = edges + 1 ∧
        IsLeast {depth | target ∈ (history config commands).findConnected source depth [] .outgoing} edges := by
  have valid := history_wellFormed config commands
  obtain ⟨paths, answer, some, shortest⟩ := valid.shortestPaths_walks different sourceKnown targetKnown bound
  have reached := (valid.findsConnected source bound [] .outgoing).reached target
  refine ⟨paths, answer, ?_, valid.mem_findConnected_back (.inl rfl), ?_⟩
  · rw [some, reached]
    exact (and_iff_right different.symm).symm
  · intro path listed
    obtain ⟨edges, length, found⟩ := shortest path listed
    exact ⟨edges, length, valid.isLeast_findConnected different found⟩

/-- Two ways round a ring with a loop: both paths have two edges, and so far apart the ends are found either way. -/
theorem searches_agree_ring :
    let node (id : String) : Command := .edit (.upsert ⟨0, 0⟩ id "Node" .empty none)
    let edge (source target : String) : Command := .edit (.relate ⟨⟨1⟩, ⟨0, 0⟩⟩ source target "knows" .empty 1)
    let commands := [node "a", node "b", node "c", node "d", edge "a" "a", edge "a" "b", edge "a" "c", edge "b" "d",
      edge "c" "d", edge "d" "a"]
    let store := history {} commands
    store.shortestPaths "a" "d" 2 = .ok [["a", "b", "d"], ["a", "c", "d"]] ∧
      "d" ∈ store.findConnected "a" 2 [] .outgoing ∧ "a" ∈ store.findConnected "d" 2 [] .incoming ∧
      IsLeast {depth | "d" ∈ store.findConnected "a" depth [] .outgoing} 2 := by
  intro node edge commands store
  have found : store.shortestPaths "a" "d" 2 = .ok [["a", "b", "d"], ["a", "c", "d"]] := by decide +kernel
  obtain ⟨paths, answer, some, back, shortest⟩ :=
    searches_agree {} commands "a" "d" 2 (by decide) (by decide +kernel) (by decide +kernel)
  obtain rfl := Except.ok.inj (answer.symm.trans found)
  have reached := some.mp (List.cons_ne_nil _ _)
  obtain ⟨edges, length, least⟩ := shortest _ (List.mem_cons_self ..)
  obtain rfl : 2 = edges := Nat.succ.inj length
  exact ⟨found, reached, back.mp reached, least⟩

end Store

/-- After every history, whatever the depth and the types, those candidates are close to an entity from which a search
in both directions finds it; the entity itself is not one of them, none is if there is no such entity, and all are if
none is given. -/
theorem ConnectivityFilter.apply_mutual (config : StoreConfig) (commands : List Command) (depth : Nat)
    (via : Option (List String)) (candidates : List String) :
    let store := Store.history config commands
    (∀ anchor, apply ⟨some anchor, depth, via⟩ store candidates =
        candidates.filter (fun id => anchor ∈ store.findConnected id depth (via.getD []) .both) ∧
      anchor ∉ apply ⟨some anchor, depth, via⟩ store candidates ∧
      (anchor ∉ store.ids → apply ⟨some anchor, depth, via⟩ store candidates = [])) ∧
    apply ⟨none, depth, via⟩ store candidates = candidates := by
  intro store
  have valid : store.WellFormed := Store.history_wellFormed config commands
  refine ⟨?_, rfl⟩
  intro anchor
  have searched := valid.findsConnected anchor depth (via.getD []) .both
  refine ⟨?_, ?_, ?_⟩
  · apply List.filter_congr
    intro id _
    rw [List.contains_eq_mem, decide_eq_decide]
    exact valid.mem_findConnected_back (.inr rfl)
  · intro kept
    exact searched.elsewhere (List.contains_iff_mem.mp (List.mem_filter.mp kept).2)
  · intro unknown
    apply List.filter_eq_nil_iff.mpr
    intro id _
    rw [searched.unknown unknown]
    exact Bool.false_ne_true

end EntityGraph
