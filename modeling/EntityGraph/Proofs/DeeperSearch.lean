import EntityGraph.Proofs.Reachability

/-!
Bounded searches of different depths. A deeper search finds what a shallower one finds, in the same order, and goes on
from there; as many levels as there are entities are enough for every search.
-/
namespace EntityGraph

namespace Search

variable {α : Type} {maxDepth depth shallow deep : Nat} {search : Search α}

/-- No node waits with more than the largest depth. -/
def Within (maxDepth : Nat) (search : Search α) : Prop := ∀ waiting ∈ search.queue, waiting.2 ≤ maxDepth

theorem Within.start (maxDepth : Nat) (node : α) : Within maxDepth (start node) := by
  intro waiting first
  rw [List.mem_singleton.mp first]
  exact Nat.zero_le maxDepth

variable [BEq α] {step : α → List α}

theorem Within.accept (within : Within maxDepth search) (bound : depth ≤ maxDepth) (neighbor : α) :
    Within maxDepth (search.accept depth neighbor) := by
  unfold Search.accept
  split
  · exact within
  · intro waiting listed
    rcases List.mem_append.mp listed with earlier | last
    · exact within waiting earlier
    · rw [List.mem_singleton.mp last]
      exact bound

/-- Only from nodes below the largest depth is there a next depth, so none is ever counted beyond it. -/
theorem Within.run (within : Within maxDepth search) (step : α → List α) (turns : Nat) :
    Within maxDepth (search.run step maxDepth turns) := by
  induction turns generalizing search with
  | zero => exact within
  | succ turns ih =>
    obtain ⟨visited, queue, found⟩ := search
    cases queue with
    | nil => exact within
    | cons first rest =>
      obtain ⟨node, depth⟩ := first
      have waiting : Within maxDepth ⟨visited, rest, found⟩ := fun later listed =>
        within later (List.mem_cons_of_mem _ listed)
      by_cases below : depth < maxDepth
      · rw [run_below below]
        apply ih
        exact List.foldlRecOn _ _ waiting fun _ kept neighbor _ => kept.accept below neighbor
      · rw [run_deepest (Nat.not_lt.mp below)]
        exact ih waiting

theorem levels_prefix (fewer : shallow ≤ deep) (visited frontier : List α) :
    levels step shallow visited frontier <+: levels step deep visited frontier := by
  induction shallow generalizing deep visited frontier with
  | zero => exact List.nil_prefix
  | succ shallow ih =>
    obtain ⟨deeper, rfl⟩ : ∃ deeper, deep = deeper + 1 := ⟨deep - 1, by omega⟩
    rw [levels, levels, List.prefix_append_right_inj]
    exact ih (by omega) _ _

end Search

namespace Store

variable {store : Store} {start id : String} {types : List String} {direction : Direction}
  {shallow deep depth distance : Nat}

theorem WellFormed.findConnected_prefix (valid : store.WellFormed) (fewer : shallow ≤ deep) :
    store.findConnected start shallow types direction <+: store.findConnected start deep types direction := by
  rw [valid.findConnected_listing, valid.findConnected_listing, Listing.findConnected, Listing.findConnected]
  split
  · exact Search.levels_prefix fewer _ _
  · exact List.prefix_rfl

/-- An entity that some walk leads to is less steps away than there are entities. -/
theorem WellFormed.distance_lt_entityCount (valid : store.WellFormed) (known : start ∈ store.ids)
    (found : IsDistance (store.Steps types direction) start distance id) : distance < store.entityCount := by
  rw [valid.entityCount_eq_length]
  exact found.lt_length fun _ _ walk => valid.walk_mem_ids known walk

theorem WellFormed.findConnected_complete (valid : store.WellFormed) (depth : Nat) :
    store.findConnected start depth types direction ⊆ store.findConnected start store.entityCount types direction := by
  intro id found
  have searched := valid.findsConnected start depth types direction
  have known : start ∈ store.ids := by
    by_contra unknown
    rw [searched.unknown unknown] at found
    exact List.not_mem_nil found
  obtain ⟨elsewhere, _, _, walk⟩ := (searched.reached id).mp found
  obtain ⟨distance, _, nearest⟩ := walk.distance
  have near := valid.distance_lt_entityCount known nearest
  exact ((valid.findsConnected start store.entityCount types direction).reached id).mpr
    ⟨elsewhere, distance, Nat.le_of_lt near, nearest.walk⟩

/-- A search to the depth of the number of entities has found everything. -/
theorem WellFormed.findConnected_saturates (valid : store.WellFormed) (enough : store.entityCount ≤ depth) :
    store.findConnected start depth types direction = store.findConnected start store.entityCount types direction := by
  have distinct := (valid.findsConnected start depth types direction).once
  have fewer := distinct.length_le_of_subset (valid.findConnected_complete depth)
  exact ((valid.findConnected_prefix enough).eq_of_length_le fewer).symm

/-- After every history, what a search finds is a prefix of what a deeper one finds. From the number of entities on
nothing is added, however large the depth is; and no depth is counted beyond the one that is asked for. -/
theorem findConnected_deepens (config : StoreConfig) (commands : List Command) (start : String) (types : List String)
    (direction : Direction) :
    let store := history config commands
    (∀ shallow deep, shallow ≤ deep →
      store.findConnected start shallow types direction <+: store.findConnected start deep types direction) ∧
    (∀ depth, store.entityCount ≤ depth →
      store.findConnected start depth types direction = store.findConnected start store.entityCount types direction) ∧
    ∀ handle maxDepth turns,
      ((Search.start handle).run (store.steps types direction) maxDepth turns).Within maxDepth := by
  intro store
  have valid : store.WellFormed := history_wellFormed config commands
  refine ⟨?_, ?_, ?_⟩
  · intro shallow deep fewer
    exact valid.findConnected_prefix fewer
  · intro depth enough
    exact valid.findConnected_saturates enough
  · intro handle maxDepth turns
    exact (Search.Within.start maxDepth handle).run (store.steps types direction) turns

end Store

end EntityGraph
