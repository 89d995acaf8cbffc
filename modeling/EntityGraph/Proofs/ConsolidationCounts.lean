import EntityGraph.Proofs.Redirection

/-!
What the report of a consolidation counts. Of the relationships it tells to be re-created, those with another source are
taken out again in the end: each relationship between two sources, a loop of one included, counts twice and is lost.
-/
namespace EntityGraph

def Relationship.within (edge : Relationship) (gone : List String) : Bool :=
  gone.contains edge.source && gone.contains edge.target

namespace Consolidation

/-- Relationships that pass a test, counted with one end at an id and with that end at others, are those with that end
at one of them. -/
theorem countP_cons (endOf : Relationship → String) (test : Relationship → Bool) (relationships : List Relationship)
    {id : String} {rest : List String} (fresh : id ∉ rest) :
    (relationships.countP fun edge => (id :: rest).contains (endOf edge) && test edge) =
      (relationships.countP fun edge => endOf edge == id && test edge) +
        relationships.countP fun edge => rest.contains (endOf edge) && test edge := by
  rw [List.countP_eq_countP_filter_add relationships (fun edge => (id :: rest).contains (endOf edge) && test edge)
    (endOf · == id), List.countP_filter, List.countP_filter]
  congr 1
  · apply List.countP_congr
    intro edge _
    by_cases here : endOf edge = id <;> simp [here]
  · apply List.countP_congr
    intro edge _
    by_cases here : endOf edge = id
    · simp [here, fresh]
    · simp [here]

variable {target : String} {gone : List String}

/-- The moves of a source that touch another source or itself. -/
theorem countP_moves (relationships : List Relationship) (kept : target ∉ gone) (source : String) :
    (moves relationships target source).countP (!·.avoids gone) =
      (relationships.countP fun edge => edge.target == source && gone.contains edge.source) +
        relationships.countP fun edge => edge.source == source && gone.contains edge.target := by
  have touching (side : End) :
      ((ties side relationships target source).map (side.put target)).countP (!·.avoids gone) =
        relationships.countP fun edge => side.id edge == source && gone.contains (side.other.id edge) := by
    rw [List.countP_map, ties, List.countP_filter, List.countP_filter]
    apply List.countP_congr
    intro edge _
    rw [Function.comp_apply, avoids_put kept]
    by_cases taken : side.other.id edge ∈ gone
    · simp [taken, ne_of_mem_of_not_mem taken kept]
    · simp [taken]
  rw [moves, List.countP_append, touching .target, touching .source]
  rfl

/-- The moves of some entities that touch a source: what came to one of them from a source, and what went from one of them
to a source. -/
theorem countP_flatMap_moves (relationships : List Relationship) (kept : target ∉ gone) {ids : List String}
    (distinct : ids.Nodup) : (ids.flatMap (moves relationships target)).countP (!·.avoids gone) =
      (relationships.countP fun edge => ids.contains edge.target && gone.contains edge.source) +
        relationships.countP fun edge => ids.contains edge.source && gone.contains edge.target := by
  induction ids with
  | nil => simp
  | cons id rest ih =>
    obtain ⟨fresh, distinctRest⟩ := List.nodup_cons.mp distinct
    rw [List.flatMap_cons, List.countP_append, countP_moves relationships kept, ih distinctRest,
      countP_cons (·.target) (gone.contains ·.source) relationships fresh,
      countP_cons (·.source) (gone.contains ·.target) relationships fresh]
    omega

/-- A relationship between two sources is re-created in vain for both of them. -/
theorem countP_moves_within (relationships : List Relationship) (kept : target ∉ gone) (distinct : gone.Nodup) :
    (gone.flatMap (moves relationships target)).countP (!·.avoids gone) =
      2 * relationships.countP (·.within gone) := by
  have swapped : (relationships.countP fun edge => gone.contains edge.target && gone.contains edge.source) =
      relationships.countP (·.within gone) := by
    simp only [Relationship.within, Bool.and_comm]
  rw [countP_flatMap_moves relationships kept distinct, swapped, Nat.two_mul]
  rfl

theorem length_eq_avoiding (relationships : List Relationship) (gone : List String) :
    relationships.length = relationships.countP (·.avoids gone) + relationships.countP (!·.avoids gone) := by
  rw [List.length_eq_countP_add_countP (·.avoids gone)]
  simp

theorem countP_stampedFrom (stamps : Nat → Stamp) (start : Nat) (relationships : List Relationship) :
    (stampedFrom stamps start relationships).countP (·.avoids gone) = relationships.countP (·.avoids gone) := by
  have same : (stampedFrom stamps start relationships).map (·.avoids gone) = relationships.map (·.avoids gone) :=
    map_stampedFrom (fun _ _ => rfl) start relationships
  have counts := congrArg (List.countP id) same
  rwa [List.countP_map, List.countP_map] at counts

end Consolidation

namespace Store

open Consolidation

variable {store after : Store} {now : Instant} {stamps : Nat → Stamp} {request : Consolidation}
  {report : ConsolidationReport}

theorem Tidy.consolidate_relationshipCount (tidy : store.Tidy) (distinct : request.sources.Nodup)
    (success : store.consolidate now stamps request = (.ok report, after)) :
    let gone := request.sources.filter (· != report.target)
    after.relationshipCount + store.relationships.countP (!·.avoids gone) +
        2 * store.relationships.countP (·.within gone) =
      store.relationshipCount + report.relationshipsUpdated := by
  intro gone
  obtain ⟨afterValid, -⟩ := tidy.valid.consolidate_ok success
  obtain ⟨-, updated, relationships, -⟩ := tidy.consolidate_contents success
  have spared : report.target ∉ gone := by simp [gone]
  let moved := gone.flatMap (moves store.relationships report.target)
  have left : after.relationshipCount =
      store.relationships.countP (·.avoids gone) + moved.countP (·.avoids gone) := by
    rw [afterValid.relationshipCount_eq, relationships, ← List.countP_eq_length_filter, List.countP_append,
      countP_stampedFrom]
  have all : store.relationshipCount =
      store.relationships.countP (·.avoids gone) + store.relationships.countP (!·.avoids gone) :=
    tidy.valid.relationshipCount_eq.trans (length_eq_avoiding store.relationships gone)
  have made : report.relationshipsUpdated = moved.countP (·.avoids gone) + moved.countP (!·.avoids gone) :=
    updated.trans (length_eq_avoiding moved gone)
  have vain : moved.countP (!·.avoids gone) = 2 * store.relationships.countP (·.within gone) :=
    countP_moves_within store.relationships spared (distinct.filter _)
  omega

/-- Taking distinct members out of a list without repeats makes it shorter by as many. -/
theorem length_filter_out {ids gone : List String} (distinct : ids.Nodup) (distinctGone : gone.Nodup)
    (listed : ∀ id ∈ gone, id ∈ ids) : (ids.filter (!gone.contains ·)).length + gone.length = ids.length := by
  have taken : (ids.filter gone.contains).Perm gone := by
    rw [List.perm_ext_iff_of_nodup (distinct.filter _) distinctGone]
    intro id
    simpa using listed id
  have parts := @List.length_eq_length_filter_add _ ids gone.contains
  rw [taken.length_eq] at parts
  omega

theorem Tidy.consolidate_entityCount (tidy : store.Tidy) (distinct : request.sources.Nodup)
    (success : store.consolidate now stamps request = (.ok report, after)) :
    after.entityCount + (request.sources.filter (· != report.target)).length =
      store.entityCount + if store.contains report.target then 0 else 1 := by
  obtain ⟨afterValid, outcome⟩ := tidy.valid.consolidate_ok success
  obtain ⟨accepts, -⟩ := Listing.consolidate_ok_iff.mp outcome
  obtain ⟨-, -, -, contains⟩ := tidy.consolidate_contents success
  generalize others : request.sources.filter (· != report.target) = gone at contains ⊢
  -- the sources are taken out of the ids that there are with the target
  have listed : ∀ id ∈ gone, id ∈ store.ids.insert report.target := by
    intro id member
    rw [List.mem_insert_iff, ← tidy.valid.contains_iff, tidy.valid.contains_listing]
    exact .inr (accepts.known id (List.mem_filter.mp (others ▸ member)).1)
  have distinctMerged : (store.ids.insert report.target).Nodup := tidy.valid.nodup_ids.insert
  have same : after.ids.Perm ((store.ids.insert report.target).filter (!gone.contains ·)) := by
    rw [List.perm_ext_iff_of_nodup afterValid.nodup_ids (distinctMerged.filter _)]
    intro id
    rw [← afterValid.contains_iff, contains, tidy.valid.contains_iff, ← List.mem_insert_iff, List.mem_filter]
    simp
  have parts := length_filter_out distinctMerged (others ▸ distinct.filter _) listed
  rw [List.length_insert] at parts
  rw [afterValid.entityCount_eq_length, same.length_eq, parts, tidy.valid.entityCount_eq_length]
  simp only [tidy.valid.contains_iff]

/-- What a report tells, next to what happened. -/
structure Counts (before : Store) (request : Consolidation) (report : ConsolidationReport) (after : Store) : Prop where
  removed : report.removed = request.sources.filter (· != report.target)
  entities : after.entityCount + report.removed.length =
    before.entityCount + if before.contains report.target then 0 else 1
  /-- Whatever touched a source is gone. What has been re-created for it is there, but for what was re-created for each
  end of a relationship between two sources. -/
  relationships : after.relationshipCount + before.relationships.countP (!·.avoids report.removed) +
    2 * before.relationships.countP (·.within report.removed) = before.relationshipCount + report.relationshipsUpdated
  /-- So the report tells how many relationships are there anew exactly if no two sources were related. -/
  exact : after.relationshipCount + before.relationships.countP (!·.avoids report.removed) =
      before.relationshipCount + report.relationshipsUpdated ↔
    ∀ edge ∈ before.relationships, edge.source ∈ report.removed → edge.target ∉ report.removed

/-- After any run of changes from an empty store, the report of a consolidation of distinct sources counts entities as
they are, and relationships with two more for each that joined two of the sources. -/
theorem consolidate_counts (config : StoreConfig) (mutations : List Mutation) (now : Instant) (stamps : Nat → Stamp)
    (request : Consolidation) (report : ConsolidationReport) (after : Store) (distinct : request.sources.Nodup)
    (success : (Mutation.run (empty config) mutations).2.consolidate now stamps request = (.ok report, after)) :
    Counts (Mutation.run (empty config) mutations).2 request report after := by
  have tidy := run_tidy config mutations
  generalize (Mutation.run (empty config) mutations).2 = before at success tidy ⊢
  have removed : report.removed = request.sources.filter (· != report.target) := by
    obtain ⟨removed, -⟩ := tidy.consolidate_contents success
    rw [removed, eraseDups_of_nodup (distinct.filter _)]
  have relationships := tidy.consolidate_relationshipCount distinct success
  have entities := tidy.consolidate_entityCount distinct success
  simp only [← removed] at relationships entities
  refine ⟨removed, entities, relationships, ?_⟩
  have unrelated : before.relationships.countP (·.within report.removed) = 0 ↔
      ∀ edge ∈ before.relationships, edge.source ∈ report.removed → edge.target ∉ report.removed := by
    simp [List.countP_eq_zero, Relationship.within]
  rw [← unrelated]
  omega

/-- Two sources with a loop and a relationship between them, and one with an entity that stays. -/
theorem consolidate_counts_pair :
    let stamps (n : Nat) : Stamp := ⟨⟨BitVec.ofNat 128 n⟩, ⟨n, 0⟩⟩
    let before := (Mutation.run (empty {}) [
      .edit (.upsert ⟨0, 0⟩ "a" "Node" .empty none), .edit (.upsert ⟨0, 0⟩ "b" "Node" .empty none),
      .edit (.upsert ⟨0, 0⟩ "x" "Node" .empty none), .edit (.relate (stamps 10) "a" "a" "loop" .empty 1),
      .edit (.relate (stamps 11) "a" "b" "inner" .empty 1), .edit (.relate (stamps 12) "b" "x" "outer" .empty 1)]).2
    let request : Consolidation := ⟨["a", "b"], "t", "Node", .empty, none⟩
    let result := before.consolidate ⟨1, 0⟩ stamps request
    request.sources.Nodup ∧ result.1 = .ok ⟨"t", ["a", "b"], 5⟩ ∧ result.2.statistics = ⟨2, 1⟩ ∧
      Counts before request ⟨"t", ["a", "b"], 5⟩ result.2 := by
  intro stamps before request result
  have distinct : request.sources.Nodup := by decide
  have success : result.1 = .ok ⟨"t", ["a", "b"], 5⟩ := by decide +kernel
  refine ⟨distinct, success, by decide +kernel, ?_⟩
  exact consolidate_counts {} _ ⟨1, 0⟩ stamps request _ result.2 distinct (Prod.ext success rfl)

/-- A relationship between two sources is told to be re-created twice, though none is left. -/
theorem consolidate_counts_lost :
    let stamps (n : Nat) : Stamp := ⟨⟨BitVec.ofNat 128 n⟩, ⟨n, 0⟩⟩
    let before := (Mutation.run (empty {}) [
      .edit (.upsert ⟨0, 0⟩ "a" "Node" .empty none), .edit (.upsert ⟨0, 0⟩ "b" "Node" .empty none),
      .edit (.relate (stamps 10) "a" "b" "knows" .empty 1)]).2
    let result := before.consolidate ⟨1, 0⟩ stamps ⟨["a", "b"], "t", "Node", .empty, none⟩
    let touching := before.relationships.countP (!·.avoids ["a", "b"])
    result.1 = .ok ⟨"t", ["a", "b"], 2⟩ ∧ touching = 1 ∧ before.relationshipCount = 1 ∧
      result.2.relationshipCount = 0 ∧ result.2.relationshipCount ≠ before.relationshipCount - touching + 2 := by
  decide +kernel

end Store

end EntityGraph
