import EntityGraph.Proofs.PathEnumeration
import EntityGraph.Proofs.Reachability

/-!
The search between two entities answers with all shortest paths, each once, whatever the history of the store.
-/
namespace EntityGraph.Store

variable {store : Store} {source target : String}

/-- What a search for shortest paths has to answer. Ends that are no entities are named, each once and the source
first; an entity has the one path to itself; otherwise there is no path within fewer hops than the distance, and within
any other bound the answer is one list of all paths of that length. -/
structure FindsShortest (store : Store) (source target : String) : Prop where
  absent : ¬ (source ∈ store.ids ∧ target ∈ store.ids) → ∃ missing : List String, missing.Nodup ∧
    missing.Sublist [source, target] ∧ (∀ id, id ∈ missing ↔ id ∈ [source, target] ∧ id ∉ store.ids) ∧
      ∀ maxHops, store.shortestPaths source target maxHops = .error (.entitiesNotFound missing)
  same : source = target → source ∈ store.ids → ∀ maxHops, store.shortestPaths source target maxHops = .ok [[source]]
  unreachable : source ≠ target → source ∈ store.ids → target ∈ store.ids →
    (∀ count, ¬ Walk (store.Joins []) source count target) →
      ∀ maxHops, store.shortestPaths source target maxHops = .ok []
  tooFar : source ≠ target → source ∈ store.ids → target ∈ store.ids →
    ∀ distance, IsDistance (store.Joins []) source distance target →
      ∀ maxHops < distance, store.shortestPaths source target maxHops = .ok []
  within : source ≠ target → source ∈ store.ids → target ∈ store.ids →
    ∀ distance, IsDistance (store.Joins []) source distance target → ∃ paths : List (List String), paths.Nodup ∧
      (∀ path, path ∈ paths ↔ IsPath (store.Joins []) source target distance path) ∧
        ∀ maxHops, distance ≤ maxHops → store.shortestPaths source target maxHops = .ok paths

theorem WellFormed.shortestPaths_between (valid : store.WellFormed) (different : source ≠ target)
    (sourceKnown : source ∈ store.ids) (targetKnown : target ∈ store.ids) (maxHops : Nat) :
    store.shortestPaths source target maxHops = .ok ((Layering.search (store.listing.neighbors .outgoing) target
      maxHops (Layering.start source)).shortestTo source target) := by
  rw [valid.shortestPaths_listing, Listing.shortestPaths, ← valid.contains_listing, ← valid.contains_listing,
    valid.contains_iff.mpr sourceKnown, valid.contains_iff.mpr targetKnown]
  simp [different]

theorem WellFormed.shortestPaths_same (valid : store.WellFormed) (known : source ∈ store.ids) (maxHops : Nat) :
    store.shortestPaths source source maxHops = .ok [[source]] := by
  rw [valid.shortestPaths_listing, Listing.shortestPaths, ← valid.contains_listing, valid.contains_iff.mpr known]
  simp

theorem WellFormed.shortestPaths_absent (valid : store.WellFormed)
    (absent : ¬ (source ∈ store.ids ∧ target ∈ store.ids)) (maxHops : Nat) :
    store.shortestPaths source target maxHops =
      .error (.entitiesNotFound ([source, target].filter (!store.contains ·)).eraseDups) := by
  have unknown : ¬ ((store.contains source && store.contains target) = true) := by
    rw [Bool.and_eq_true, valid.contains_iff, valid.contains_iff]
    exact absent
  rw [valid.shortestPaths_listing, Listing.shortestPaths, ← valid.contains_listing, ← valid.contains_listing,
    if_neg unknown]
  simp only [valid.contains_listing]

theorem WellFormed.findsShortest (valid : store.WellFormed) (source target : String) :
    store.FindsShortest source target := by
  have steps : Listed (store.listing.neighbors .outgoing) = store.Joins [] := by
    funext node neighbor
    exact propext mem_neighbors
  have distinct (node : String) : (store.listing.neighbors .outgoing node).Nodup := nodup_eraseDups _
  constructor
  · intro absent
    have answers := valid.shortestPaths_absent absent
    refine ⟨_, nodup_eraseDups _, (eraseDups_sublist _).trans List.filter_sublist, ?_, answers⟩
    intro id
    simp [List.mem_eraseDups, List.mem_filter, ← valid.contains_iff]
  · rintro rfl known
    exact valid.shortestPaths_same known
  · intro different sourceKnown targetKnown nowhere maxHops
    rw [valid.shortestPaths_between different sourceKnown targetKnown, Layering.shortestTo_beyond distinct]
    intro distance found
    exact absurd (steps ▸ found.walk) (nowhere distance)
  · intro different sourceKnown targetKnown distance found maxHops fewer
    rw [valid.shortestPaths_between different sourceKnown targetKnown, Layering.shortestTo_beyond distinct]
    intro other reached
    rw [steps] at reached
    rwa [reached.unique found]
  · intro different sourceKnown targetKnown distance found
    rw [← steps] at found
    obtain ⟨paths, once, all, answers⟩ := Layering.shortestTo_within distinct found
    refine ⟨paths, once, steps ▸ all, ?_⟩
    intro maxHops enough
    rw [valid.shortestPaths_between different sourceKnown targetKnown, answers maxHops enough]

/-- After every history, the search between two ids answers as it has to. -/
theorem shortestPaths_exact (config : StoreConfig) (commands : List Command) (source target : String) :
    (history config commands).FindsShortest source target :=
  (history_wellFormed config commands).findsShortest source target

end EntityGraph.Store
