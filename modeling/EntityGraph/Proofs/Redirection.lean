import EntityGraph.Proofs.ConsolidationContents

/-!
What a consolidation does to relationships. While sources are redirected, relationships between two of them, and loops,
are re-created against the target as well; all of these touch a source, so removing the sources takes them away again.
-/
namespace EntityGraph

namespace Consolidation

variable {target : String}

/-- What a source leaves behind: its relationships with entities that stay and are not the target, those that arrive
at it and then those that leave it, with the target in its place. -/
def redirected (relationships : List Relationship) (gone : List String) (target source : String) : List Relationship :=
  let stays (id : String) := id != target && !gone.contains id
  (relationships.filter fun edge => edge.target == source && stays edge.source).map ({ · with target })
    ++ (relationships.filter fun edge => edge.source == source && stays edge.target).map ({ · with source := target })

/-- Whether a moved relationship touches a source is decided by its other end. -/
theorem avoids_put {gone : List String} (kept : target ∉ gone) (side : End) (edge : Relationship) :
    (side.put target edge).avoids gone = !gone.contains (side.other.id edge) := by
  cases side <;> simp [Relationship.avoids, End.put, End.other, End.id, kept]

theorem moves_avoiding {relationships : List Relationship} {gone : List String} {source : String}
    (kept : target ∉ gone) :
    (moves relationships target source).filter (·.avoids gone) = redirected relationships gone target source := by
  have staying (side : End) :
      ((ties side relationships target source).map (side.put target)).filter (·.avoids gone) =
        (relationships.filter fun edge => side.id edge == source &&
          (side.other.id edge != target && !gone.contains (side.other.id edge))).map (side.put target) := by
    simp only [ties, List.filter_map, List.filter_filter, Function.comp_def, avoids_put kept]
    congr 1
    apply List.filter_congr
    intro edge _
    rw [Bool.and_comm, Bool.and_assoc, Bool.and_left_comm]
  rw [moves, List.filter_append, staying .target, staying .source]
  rfl

/-- Of relationships with stamps, those that pass a test of what they join keep the stamps they have. -/
theorem stampedFrom_filter (stamps : Nat → Stamp) (relationships : List Relationship) (gone : List String) :
    ∃ marks : List Nat, marks.Pairwise (· < ·) ∧ (∀ mark ∈ marks, mark < relationships.length) ∧
      marks.length = (relationships.filter (·.avoids gone)).length ∧
      (stampedFrom stamps 0 relationships).filter (·.avoids gone) =
        List.zipWith (fun edge mark => edge.stamped (stamps mark)) (relationships.filter (·.avoids gone)) marks := by
  let chosen := relationships.zipIdx.filter fun numbered => numbered.1.avoids gone
  have edges : chosen.map Prod.fst = relationships.filter (·.avoids gone) := by
    rw [← List.zipIdx_map_fst 0 relationships, List.filter_map]
    rfl
  refine ⟨chosen.map Prod.snd, ?_, ?_, ?_, ?_⟩
  · have ascending : (relationships.zipIdx.map Prod.snd).Pairwise (· < ·) := by
      rw [List.zipIdx_map_snd]
      exact List.pairwise_lt_range'
    exact ascending.sublist (List.filter_sublist.map _)
  · intro mark member
    obtain ⟨numbered, listed, rfl⟩ := List.mem_map.mp member
    have inside := List.snd_lt_of_mem_zipIdx (List.mem_filter.mp listed).1
    omega
  · rw [← edges, List.length_map, List.length_map]
  · rw [← edges, List.zipWith_map, List.zipWith_self, stampedFrom, List.filter_map]
    rfl

theorem recreations_tidy {relationships : List Relationship} {known : String → Bool}
    (tidy : ∀ id, known id = true → IsTidy id) (present : known target = true)
    (ends : ∀ edge ∈ relationships, known edge.source = true ∧ known edge.target = true ∧ edge.type ≠ "")
    (source : String) : recreations known relationships target source = moves relationships target source := by
  have kept (edge : Relationship) (first : known edge.source = true) (second : known edge.target = true)
      (typed : edge.type ≠ "") : added? known edge = some edge := by
    have named {id : String} (here : known id = true) : named? known id = some id := by
      simp [named?, (tidy id here).1, here]
    simp [added?, (tidy _ first).not_blank, (tidy _ second).not_blank, typed, named first, named second]
  have listed {near far : Relationship → Bool} {edge : Relationship}
      (member : edge ∈ (relationships.filter near).filter far) : edge ∈ relationships :=
    (List.mem_filter.mp (List.mem_filter.mp member).1).1
  rw [recreations]
  refine Eq.trans (List.filterMap_congr ?_) List.filterMap_some
  intro edge moved
  rcases List.mem_append.mp moved with arrived | left
  · obtain ⟨old, member, rfl⟩ := List.mem_map.mp arrived
    obtain ⟨first, -, typed⟩ := ends old (listed member)
    exact kept _ first present typed
  · obtain ⟨old, member, rfl⟩ := List.mem_map.mp left
    obtain ⟨-, second, typed⟩ := ends old (listed member)
    exact kept _ present second typed

end Consolidation

namespace Store

variable {store : Store}

/-- A store before and after a consolidation into `target` that took the entities `gone` away. -/
structure Consolidated (stamps : Nat → Stamp) (before : Store) (target : String) (gone : List String) (made : Nat)
    (after : Store) : Prop where
  /-- What touched none of the entities stays as it was, in order. For each of them follow the relationships it had
  with entities that stay, re-created against the target under stamps of their own. -/
  relationships : ∃ marks : List Nat,
    marks.Pairwise (· < ·) ∧ (∀ mark ∈ marks, mark < made) ∧
      marks.length = (gone.flatMap (Consolidation.redirected before.relationships gone target)).length ∧
      after.relationships = before.relationships.filter (·.avoids gone) ++
        List.zipWith (fun edge mark => edge.stamped (stamps mark))
          (gone.flatMap (Consolidation.redirected before.relationships gone target)) marks
  /-- Relationships between the merged entities are lost. -/
  inner : ∀ edge ∈ before.relationships, edge.source ∈ target :: gone → edge.target ∈ target :: gone →
    ¬edge.avoids gone → edge ∉ after.relationships
  untouched : ∀ edge ∈ after.relationships, edge.source ∉ gone ∧ edge.target ∉ gone
  contains : ∀ id, after.contains id ↔ (id = target ∨ before.contains id) ∧ id ∉ gone

/-- In a tidy store everything that a consolidation moves is re-created, and then what touches a source is taken out. -/
theorem Tidy.consolidate_contents (tidy : store.Tidy) {now : Instant} {stamps : Nat → Stamp} {request : Consolidation}
    {report : ConsolidationReport} {after : Store}
    (success : store.consolidate now stamps request = (.ok report, after)) :
    let gone := request.sources.filter (· != report.target)
    let moved := gone.flatMap (Consolidation.moves store.relationships report.target)
    report.removed = gone.eraseDups ∧ report.relationshipsUpdated = moved.length ∧
      after.relationships =
        (store.relationships ++ Consolidation.stampedFrom stamps 0 moved).filter (·.avoids gone) ∧
      ∀ id, after.contains id ↔ (id = report.target ∨ store.contains id) ∧ id ∉ gone := by
  intro gone moved
  obtain ⟨afterValid, outcome⟩ := tidy.valid.consolidate_ok success
  obtain ⟨-, merged, upserted, removed, updated, contents⟩ := Listing.consolidate_ok_iff.mp outcome
  have same := Listing.upsert_relationships upserted
  obtain ⟨-, -, contains⟩ := Listing.upsert_some upserted
  have mergedTidy : merged.Tidy := by
    have put : _ = merged := congrArg Prod.snd upserted
    rw [← put]
    exact Listing.tidy_iff.mpr ((Listing.tidy_iff.mp tidy.contents).upsert (brings_tidy (.upsert ..)))
  have remade : request.remade merged.contains merged.relationships report.target = moved := by
    refine List.flatMap_congr fun source _ => ?_
    rw [same]
    refine Consolidation.recreations_tidy ?_ ((contains _).mpr (.inl rfl)) ?_ source
    · intro id listed
      obtain ⟨entity, member, named⟩ := List.any_eq_true.mp listed
      exact beq_iff_eq.mp named ▸ mergedTidy.ids entity member
    · intro edge member
      have present {id : String} (listed : id ∈ store.ids) : merged.contains id = true := by
        rw [contains, ← tidy.valid.contains_listing, tidy.valid.contains_iff]
        exact .inr listed
      exact ⟨present (tidy.valid.end_mem_ids .source member), present (tidy.valid.end_mem_ids .target member),
        tidy.contents.types edge member⟩
  rw [remade] at updated contents
  refine ⟨removed, updated, ?_, ?_⟩
  · have relationshipsLeft := congrArg Listing.relationships contents
    rwa [Listing.without, Listing.add, same] at relationshipsLeft
  · intro id
    rw [afterValid.contains_listing, tidy.valid.contains_listing, ← contains, contents, Listing.contains_without]
    rfl

theorem Tidy.consolidated (tidy : store.Tidy) {now : Instant} {stamps : Nat → Stamp} {request : Consolidation}
    {report : ConsolidationReport} {after : Store}
    (success : store.consolidate now stamps request = (.ok report, after)) :
    Consolidated stamps store report.target (request.sources.filter (· != report.target))
      report.relationshipsUpdated after := by
  obtain ⟨-, made, relationships, contains⟩ := tidy.consolidate_contents success
  generalize others : request.sources.filter (· != report.target) = gone at made relationships contains ⊢
  have spared : report.target ∉ gone := by simp [← others]
  have staying : (gone.flatMap (Consolidation.moves store.relationships report.target)).filter (·.avoids gone) =
      gone.flatMap (Consolidation.redirected store.relationships gone report.target) := by
    rw [List.filter_flatMap]
    exact List.flatMap_congr fun source _ => Consolidation.moves_avoiding spared
  have untouched : ∀ edge ∈ after.relationships, edge.source ∉ gone ∧ edge.target ∉ gone := by
    intro edge member
    rw [relationships] at member
    simpa [Relationship.avoids] using (List.mem_filter.mp member).2
  refine ⟨?_, ?_, untouched, contains⟩
  · obtain ⟨marks, ascending, bounded, enough, stamped⟩ := Consolidation.stampedFrom_filter stamps
      (gone.flatMap (Consolidation.moves store.relationships report.target)) gone
    rw [staying] at enough stamped
    refine ⟨marks, ascending, ?_, enough, ?_⟩
    · rwa [made]
    · rw [relationships, List.filter_append, stamped]
  · intro edge _ _ _ touching present
    apply touching
    simpa [Relationship.avoids] using untouched edge present

/-- After any run of changes from an empty store, a consolidation that succeeds redirects every outside relationship of
its sources once to the target and takes away nothing else but what touched a source. -/
theorem consolidate_redirects (config : StoreConfig) (mutations : List Mutation) (now : Instant) (stamps : Nat → Stamp)
    (request : Consolidation) (report : ConsolidationReport) (after : Store)
    (success : (Mutation.run (empty config) mutations).2.consolidate now stamps request = (.ok report, after)) :
    Consolidated stamps (Mutation.run (empty config) mutations).2 report.target
      (request.sources.filter (· != report.target)) report.relationshipsUpdated after :=
  (run_tidy config mutations).consolidated success

/-- Two sources, one with a loop, joined to each other and to an entity that stays: of five re-created relationships
one remains. -/
theorem consolidate_redirects_pair :
    let stamps (n : Nat) : Stamp := ⟨⟨BitVec.ofNat 128 n⟩, ⟨n, 0⟩⟩
    let before := (Mutation.run (empty {}) [
      .edit (.upsert ⟨0, 0⟩ "a" "Node" .empty none), .edit (.upsert ⟨0, 0⟩ "b" "Node" .empty none),
      .edit (.upsert ⟨0, 0⟩ "x" "Node" .empty none), .edit (.relate (stamps 10) "a" "a" "loop" .empty 1),
      .edit (.relate (stamps 11) "a" "b" "inner" .empty 1), .edit (.relate (stamps 12) "b" "x" "outer" .empty 1)]).2
    let result := before.consolidate ⟨1, 0⟩ stamps ⟨["a", "b"], "t", "Node", .empty, none⟩
    result.1 = .ok ⟨"t", ["a", "b"], 5⟩ ∧ result.2.relationships.length = 1 ∧
      Consolidated stamps before "t" ["a", "b"] 5 result.2 :=
  ⟨rfl, rfl, consolidate_redirects {} _ ⟨1, 0⟩ _ ⟨["a", "b"], "t", "Node", .empty, none⟩ ⟨"t", ["a", "b"], 5⟩ _ rfl⟩

end Store

end EntityGraph
