import EntityGraph.Proofs.Reachability
import EntityGraph.Proofs.Redirection

/-!
Reach after a consolidation. A relationship between entities that are not merged into one is still there between what
stands for them now, so every walk has an image among the merged entities that is no longer than itself.
-/
namespace EntityGraph

namespace Consolidation

/-- What stands for an entity when some entities have been merged into a target. -/
def image (sources : List String) (target id : String) : String :=
  if id = target ∨ id ∈ sources then target else id

theorem image_others (sources : List String) (target id : String) :
    image (sources.filter (· != target)) target id = image sources target id := by
  by_cases same : id = target
  · simp [image, same]
  · simp [image, same]

theorem image_source {sources : List String} {target id : String} (merged : id ∈ sources) :
    image sources target id = target := if_pos (.inr merged)

theorem image_other {sources : List String} {target id : String} (kept : id ∉ sources) :
    image sources target id = id := by
  unfold image
  split
  · rename_i merged
    rcases merged with rfl | source
    · rfl
    · exact absurd source kept
  · rfl

end Consolidation

namespace Store.Consolidated

open Consolidation

variable {stamps : Nat → Stamp} {before after : Store} {target : String} {gone : List String} {made : Nat}

theorem redirected_mem (merged : Consolidated stamps before target gone made after) {source : String}
    (member : source ∈ gone) {edge : Relationship}
    (moved : edge ∈ redirected before.relationships gone target source) :
    ∃ stamp, edge.stamped stamp ∈ after.relationships := by
  obtain ⟨marks, -, -, enough, contents⟩ := merged.relationships
  have listed : edge ∈ gone.flatMap (redirected before.relationships gone target) :=
    List.mem_flatMap.mpr ⟨source, member, moved⟩
  obtain ⟨position, inside, rfl⟩ := List.getElem_of_mem listed
  have marked : position < marks.length := by omega
  have stamped : position < (List.zipWith (fun (edge : Relationship) mark => edge.stamped (stamps mark))
      (gone.flatMap (redirected before.relationships gone target)) marks).length := by
    rw [List.length_zipWith]
    omega
  have found := List.getElem_mem stamped
  rw [List.getElem_zipWith] at found
  refine ⟨stamps marks[position], ?_⟩
  rw [contents]
  exact List.mem_append_right _ found

theorem joins (merged : Consolidated stamps before target gone made after) {types : List String}
    {node neighbor : String} (joined : before.Joins types node neighbor)
    (apart : image gone target node ≠ image gone target neighbor) :
    after.Joins types (image gone target node) (image gone target neighbor) := by
  obtain ⟨edge, member, rfl, rfl, typed⟩ := joined
  by_cases leaves : edge.source ∈ gone
  · rw [image_source leaves] at apart ⊢
    by_cases arrives : edge.target ∈ gone
    · exact absurd (image_source arrives).symm apart
    · rw [image_other arrives] at apart ⊢
      have moved : { edge with source := target } ∈ redirected before.relationships gone target edge.source := by
        apply List.mem_append_right
        exact List.mem_map.mpr ⟨edge, List.mem_filter.mpr ⟨member, by simp [arrives, Ne.symm apart]⟩, rfl⟩
      obtain ⟨stamp, present⟩ := merged.redirected_mem leaves moved
      exact ⟨_, present, rfl, rfl, typed⟩
  · rw [image_other leaves] at apart ⊢
    by_cases arrives : edge.target ∈ gone
    · rw [image_source arrives] at apart ⊢
      have moved : { edge with target } ∈ redirected before.relationships gone target edge.target := by
        apply List.mem_append_left
        exact List.mem_map.mpr ⟨edge, List.mem_filter.mpr ⟨member, by simp [leaves, apart]⟩, rfl⟩
      obtain ⟨stamp, present⟩ := merged.redirected_mem arrives moved
      exact ⟨_, present, rfl, rfl, typed⟩
    · rw [image_other arrives]
      obtain ⟨marks, -, -, -, contents⟩ := merged.relationships
      refine ⟨edge, ?_, rfl, rfl, typed⟩
      rw [contents]
      apply List.mem_append_left
      exact List.mem_filter.mpr ⟨member, by simp [Relationship.avoids, leaves, arrives]⟩

theorem steps (merged : Consolidated stamps before target gone made after) {types : List String}
    {direction : Direction} {node neighbor : String} (taken : before.Steps types direction node neighbor)
    (apart : image gone target node ≠ image gone target neighbor) :
    after.Steps types direction (image gone target node) (image gone target neighbor) := by
  cases direction with
  | outgoing => exact merged.joins taken apart
  | incoming => exact ⟨merged.joins taken.1 apart.symm, taken.2.imp_right fun ahead => merged.joins ahead apart⟩
  | both => exact taken.imp (merged.joins · apart) (merged.joins · apart.symm)

end Store.Consolidated

namespace Store

open Consolidation

/-- After any run of changes from an empty store, a consolidation takes no entity out of reach and further away: what a
bounded search finds from an entity, it then finds within the same bound for their images, unless both have been merged
into one. -/
theorem consolidate_keeps_reach (config : StoreConfig) (mutations : List Mutation) (now : Instant)
    (stamps : Nat → Stamp) (request : Consolidation) (report : ConsolidationReport) (after : Store)
    (success : (Mutation.run (empty config) mutations).2.consolidate now stamps request = (.ok report, after))
    (start id : String) (depth : Nat) (types : List String) (direction : Direction)
    (found : id ∈ (Mutation.run (empty config) mutations).2.findConnected start depth types direction)
    (apart : image request.sources report.target start ≠ image request.sources report.target id) :
    image request.sources report.target id ∈
      after.findConnected (image request.sources report.target start) depth types direction := by
  have tidy := run_tidy config mutations
  generalize (Mutation.run (empty config) mutations).2 = before at *
  have merged := tidy.consolidated success
  have afterValid : after.WellFormed := by
    have kept := tidy.valid.consolidate now stamps request
    rwa [success] at kept
  obtain ⟨-, count, bound, walk⟩ := ((tidy.valid.findsConnected start depth types direction).reached id).mp found
  obtain ⟨fewer, fewerBound, shorter⟩ := walk.image fun _ _ taken apart => merged.steps taken apart
  rw [image_others, image_others] at shorter
  apply ((afterValid.findsConnected _ depth types direction).reached _).mpr
  exact ⟨apart.symm, fewer, by omega, shorter⟩

/-- The stamp with a number as its id and as its time. -/
def numbered (n : Nat) : Stamp := ⟨⟨BitVec.ofNat 128 n⟩, ⟨n, 0⟩⟩

/-- Four entities in a chain, whose first relationship points back. -/
def chain : List Mutation := [
  .edit (.upsert ⟨0, 0⟩ "x" "Node" .empty none), .edit (.upsert ⟨0, 0⟩ "a" "Node" .empty none),
  .edit (.upsert ⟨0, 0⟩ "b" "Node" .empty none), .edit (.upsert ⟨0, 0⟩ "y" "Node" .empty none),
  .edit (.relate (numbered 10) "a" "x" "knows" .empty 1), .edit (.relate (numbered 11) "a" "b" "knows" .empty 1),
  .edit (.relate (numbered 12) "b" "y" "knows" .empty 1)]

/-- The last of the chain is three steps from the first, and still is within three once the two between are merged. -/
theorem consolidate_keeps_reach_chain :
    let result := (Mutation.run (empty {}) chain).2.consolidate ⟨1, 0⟩ numbered ⟨["a", "b"], "t", "Node", .empty, none⟩
    (Mutation.run (empty {}) chain).2.findConnected "x" 3 ["knows"] .both = ["a", "b", "y"] ∧
      result.1 = .ok ⟨"t", ["a", "b"], 4⟩ ∧ "y" ∈ result.2.findConnected "x" 3 ["knows"] .both := by
  have found : (Mutation.run (empty {}) chain).2.findConnected "x" 3 ["knows"] .both = ["a", "b", "y"] := by
    decide +kernel
  have reached : "y" ∈ (Mutation.run (empty {}) chain).2.findConnected "x" 3 ["knows"] .both := by simp [found]
  refine ⟨found, rfl, ?_⟩
  exact consolidate_keeps_reach {} chain ⟨1, 0⟩ numbered ⟨["a", "b"], "t", "Node", .empty, none⟩
    ⟨"t", ["a", "b"], 4⟩ _ rfl "x" "y" 3 ["knows"] .both reached (by decide)

end Store

end EntityGraph
