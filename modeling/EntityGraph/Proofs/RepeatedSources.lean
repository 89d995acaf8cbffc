import EntityGraph.Proofs.MergedAttributes

/-!
Sources that are listed more than once. A repeat changes no property and removes nobody again, but its description is
joined again and its relationships are re-created again: a list with repeats does the same as its first occurrences
exactly if no repeat has anything to add.
-/
namespace EntityGraph

section Repeats

variable {α β : Type} [DecidableEq α]

theorem eraseDups_filter (keep : α → Bool) (items : List α) :
    (items.filter keep).eraseDups = items.eraseDups.filter keep := by
  induction items using List.reverseRecOn with
  | nil => rfl
  | append_singleton items item ih =>
    rw [List.filter_append, eraseDups_concat, List.filter_append, ← ih, List.filter_singleton]
    cases kept : keep item with
    | false => by_cases listed : item ∈ items <;> simp [listed, kept]
    | true =>
      rw [cond_true, eraseDups_concat]
      by_cases listed : item ∈ items <;> simp [listed, kept]

theorem repeats_concat (items : List α) (item other : α) :
    1 < (items ++ [item]).count other ↔ 1 < items.count other ∨ other = item ∧ item ∈ items := by
  rw [List.count_append, List.count_singleton]
  by_cases here : other = item
  · subst here
    have listed : 0 < items.count other ↔ other ∈ items := List.count_pos_iff
    simp only [beq_self_eq_true, if_true, true_and, ← listed]
    omega
  · simp [here, Ne.symm here]

theorem flatMap_eraseDups_sublist (f : α → List β) (items : List α) :
    (items.eraseDups.flatMap f).Sublist (items.flatMap f) := by
  induction items using List.reverseRecOn with
  | nil => exact .refl []
  | append_singleton items item ih =>
    rw [eraseDups_concat, List.flatMap_append, List.flatMap_append]
    refine ih.append ?_
    by_cases listed : item ∈ items <;> simp [listed]

/-- Going through the first occurrences only is the same exactly if whatever is repeated has nothing to give. -/
theorem flatMap_eraseDups_iff (f : α → List β) (items : List α) :
    items.eraseDups.flatMap f = items.flatMap f ↔ ∀ item, 1 < items.count item → f item = [] := by
  induction items using List.reverseRecOn with
  | nil => simp
  | append_singleton items item ih =>
    rw [eraseDups_concat, List.flatMap_append, List.flatMap_append, List.flatMap_singleton]
    by_cases listed : item ∈ items
    · rw [if_pos listed, List.flatMap_nil, List.append_nil]
      have shorter := (flatMap_eraseDups_sublist f items).length_le
      constructor
      · intro same
        have nothing : f item = [] := by
          have lengths := congrArg List.length same
          rw [List.length_append] at lengths
          exact List.eq_nil_of_length_eq_zero (by omega)
        rw [nothing, List.append_nil, ih] at same
        intro other repeated
        rcases (repeats_concat items item other).mp repeated with earlier | ⟨rfl, -⟩
        · exact same other earlier
        · exact nothing
      · intro idle
        rw [idle item ((repeats_concat items item item).mpr (.inr ⟨rfl, listed⟩)), List.append_nil, ih]
        exact fun other repeated => idle other ((repeats_concat items item other).mpr (.inl repeated))
    · rw [if_neg listed, List.flatMap_singleton, List.append_left_inj, ih]
      simp only [repeats_concat, listed, and_false, or_false]

end Repeats

theorem length_intercalate (separator : String) {texts : List String} (some : texts ≠ []) :
    (separator.intercalate texts).length + separator.length =
      (texts.map (·.length + separator.length)).sum := by
  induction texts with
  | nil => exact absurd rfl some
  | cons text rest ih =>
    cases rest with
    | nil =>
      have alone : separator.intercalate [text] = text := by
        apply String.toList_inj.mp
        simp
      simp [alone]
    | cons next later =>
      have joined := ih (List.cons_ne_nil next later)
      have split : separator.intercalate (text :: next :: later) =
          text ++ separator ++ separator.intercalate (next :: later) := by
        apply String.toList_inj.mp
        simp [String.toList_intercalate]
      rw [split, String.length_append, String.length_append, List.map_cons, List.sum_cons, ← joined]
      omega

theorem sum_of_sublist {weight : α → Nat} (positive : ∀ item, 0 < weight item) {part whole : List α}
    (sublist : part.Sublist whole) :
    (part.map weight).sum + whole.length ≤ (whole.map weight).sum + part.length := by
  induction sublist with
  | slnil => simp
  | cons item _ ih =>
    have something := positive item
    simp only [List.map_cons, List.sum_cons, List.length_cons]
    omega
  | cons_cons item _ ih =>
    simp only [List.map_cons, List.sum_cons, List.length_cons]
    omega

/-- A joined text tells its parts from fewer of them. -/
theorem sublist_eq_of_intercalate {separator : String} (visible : 0 < separator.length) {part whole : List String}
    (sublist : part.Sublist whole) (some : part ≠ []) (same : separator.intercalate part = separator.intercalate whole) :
    part = whole := by
  have full : whole ≠ [] := fun nothing => some (List.sublist_nil.mp (nothing ▸ sublist))
  have shorter := sum_of_sublist (fun text : String => Nat.add_pos_right text.length visible) sublist
  rw [← length_intercalate separator some, ← length_intercalate separator full, same] at shorter
  exact sublist.eq_of_length_le (by omega)

namespace Properties

theorem mergeNew_of_contains {map older : Properties} (known : ∀ entry ∈ older.entries, map.contains entry.1 = true) :
    map.mergeNew older = map :=
  List.foldlRecOn (motive := fun merged => merged = map) older.entries _ rfl fun merged same entry member => by
    rw [same, insertNew, if_pos (known entry member)]

end Properties

namespace Consolidation

/-- The same request with its sources reduced to their first occurrences. -/
def distinct (request : Consolidation) : Consolidation := { request with sources := request.sources.eraseDups }

/-- What a source has to say about itself. -/
def said (store : Store) (source : String) : List String :=
  ((store.get? source).map (·.description)).toList.filter (!·.isEmpty)

theorem descriptions_eq (request : Consolidation) (store : Store) :
    request.descriptions store = request.sources.flatMap (said store) := by
  rw [descriptions, List.map_filterMap, List.filterMap_eq_flatMap_toList, List.filter_flatMap]
  rfl

/-- No source that is repeated has anything to add: nothing of it is re-created, and if descriptions are joined it has
none. -/
structure RepeatsIdle (request : Consolidation) (before : Store) (target : String) : Prop where
  edges : ∀ source, 1 < request.sources.count source → source ≠ target →
    recreations (fun id => id == target || before.contains id) before.relationships target source = []
  descriptions : request.description = none → ∀ source, 1 < request.sources.count source → said before source = []

theorem mergedProperties_distinct (request : Consolidation) (get? : String → Option Entity) :
    request.distinct.mergedProperties (request.distinct.sources.filterMap get?) =
      request.mergedProperties (request.sources.filterMap get?) := by
  simp only [distinct, mergedProperties]
  induction request.sources using List.reverseRecOn with
  | nil => rfl
  | append_singleton sources source ih =>
    rw [eraseDups_concat, List.filterMap_append, List.filterMap_append, List.foldl_append, List.foldl_append, ih]
    by_cases listed : source ∈ sources
    · rw [if_pos listed]
      cases known : get? source with
      | none => simp [known]
      | some entity =>
        -- whatever the repeat has, its first occurrence has put in
        simp only [List.filterMap_cons, known, List.filterMap_nil, List.foldl_nil, List.foldl_cons]
        refine (Properties.mergeNew_of_contains fun entry member => ?_).symm
        have merged : entity ∈ sources.filterMap get? := List.mem_filterMap.mpr ⟨source, listed, known⟩
        have named : (entity.properties.get? entry.1).isSome = true := by
          rw [Properties.get?, List.lookup_isSome_iff]
          exact ⟨entry, member, by simp⟩
        rw [Properties.contains, Properties.get?_foldl_mergeNew, Option.isSome_or, Bool.or_eq_true]
        exact .inr (List.findSome?_isSome_iff.mpr ⟨entity, merged, named⟩)
    · rw [if_neg listed]

/-- First occurrences are joined to the same text only if no repeat has one. -/
theorem silent_of_joined {said : String → List String} {items : List String} {old : String}
    (same : (joined? (items.eraseDups.flatMap said)).getD old = (joined? (items.flatMap said)).getD old) :
    ∀ item, 1 < items.count item → said item = [] := by
  rw [← flatMap_eraseDups_iff]
  have sublist := flatMap_eraseDups_sublist said items
  by_cases nothing : items.eraseDups.flatMap said = []
  · have silent : items.flatMap said = [] := by
      rw [List.flatMap_eq_nil_iff] at nothing ⊢
      exact fun item member => nothing item (List.mem_eraseDups.mpr member)
    rw [nothing, silent]
  · have more : items.flatMap said ≠ [] := fun none => nothing (List.sublist_nil.mp (none ▸ sublist))
    rw [joined?, joined?, if_neg nothing, if_neg more] at same
    exact sublist_eq_of_intercalate (by decide) sublist nothing same

theorem mergedDescription_silent {request : Consolidation} {store : Store}
    (silent : request.description = none → ∀ source, 1 < request.sources.count source → said store source = []) :
    request.distinct.mergedDescription (request.distinct.sources.filterMap store.get?) =
      request.mergedDescription (request.sources.filterMap store.get?) := by
  rw [mergedDescription_eq, mergedDescription_eq, descriptions_eq, descriptions_eq, distinct]
  cases given : request.description with
  | some text => simp
  | none => rw [(flatMap_eraseDups_iff ..).mpr (silent given)]

theorem silent_of_mergedDescription {request : Consolidation} {store : Store} {old : String}
    (same : (request.distinct.mergedDescription (request.distinct.sources.filterMap store.get?)).getD old =
      (request.mergedDescription (request.sources.filterMap store.get?)).getD old)
    (missing : request.description = none) : ∀ source, 1 < request.sources.count source → said store source = [] := by
  rw [mergedDescription_eq, mergedDescription_eq, descriptions_eq, descriptions_eq, distinct] at same
  rw [missing, Option.none_or, Option.none_or] at same
  exact silent_of_joined same

theorem others_distinct (request : Consolidation) (target : String) :
    request.distinct.sources.filter (· != target) = (request.sources.filter (· != target)).eraseDups :=
  (eraseDups_filter ..).symm

/-- First occurrences re-create no more than the list with repeats, and as much exactly if the repeats re-create
nothing. -/
theorem remade_distinct (request : Consolidation) (known : String → Bool) (relationships : List Relationship)
    (target : String) :
    (request.distinct.remade known relationships target).Sublist (request.remade known relationships target) ∧
      (request.distinct.remade known relationships target = request.remade known relationships target ↔
        ∀ source, 1 < request.sources.count source → source ≠ target →
          recreations known relationships target source = []) := by
  have erased : request.distinct.remade known relationships target =
      (request.sources.filter (· != target)).eraseDups.flatMap (recreations known relationships target) := by
    rw [remade, others_distinct]
  rw [erased, remade, flatMap_eraseDups_iff]
  refine ⟨flatMap_eraseDups_sublist .., forall_congr' fun source => ?_⟩
  by_cases here : source = target
  · -- the target is no longer among the sources, however often it is listed
    subst here
    have absent : (request.sources.filter (· != source)).count source = 0 := by simp [List.count_eq_zero]
    simp [absent]
  · have counted : (request.sources.filter (· != target)).count source = request.sources.count source :=
      List.count_filter (bne_iff_ne.mpr here)
    simp [counted, here]

end Consolidation

def Relationship.unstamped (edge : Relationship) : Relationship := edge.stamped ⟨default, default⟩

def Entity.timeless (entity : Entity) : Entity := { entity with createdAt := default, updatedAt := none }

namespace Listing

/-- Contents without what an operation makes up for them: ids of relationships and times. -/
def unstamped (listing : Listing) : Listing :=
  ⟨listing.entities.map Entity.timeless, listing.relationships.map Relationship.unstamped⟩

theorem unstamped_without (listing : Listing) (gone : List String) :
    (listing.without gone).unstamped = listing.unstamped.without gone := by
  simp only [unstamped, without, List.filter_map]
  rfl

theorem unstamped_add (listing : Listing) (relationships : List Relationship) :
    (listing.add relationships).unstamped = listing.unstamped.add (relationships.map Relationship.unstamped) := by
  rw [unstamped, add, List.map_append]
  rfl

theorem get?_unstamped (listing : Listing) (id : String) :
    listing.unstamped.get? id = (listing.get? id).map Entity.timeless := by
  rw [unstamped, get?, List.find?_map]
  rfl

theorem without_eraseDups (listing : Listing) (gone : List String) :
    listing.without gone.eraseDups = listing.without gone := by
  have same (id : String) : gone.eraseDups.contains id = gone.contains id := by
    simp
  simp only [without, Relationship.avoids, same]

variable {listing merged after : Listing} {now : Instant} {id type target : String} {properties : Properties}
  {description : Option String} {stamps : Nat → Stamp} {request : Consolidation} {report : ConsolidationReport}

theorem contains_kept (kept : listing.upsert now id type properties description = (some target, merged)) :
    merged.contains = fun other => other == target || listing.contains other := by
  obtain ⟨-, -, known⟩ := upsert_some kept
  funext other
  rw [Bool.eq_iff_iff, known, Bool.or_eq_true, beq_iff_eq]

theorem upsert_again (kept : listing.upsert now id type properties description = (some target, merged))
    (later : Instant) (others : Properties) (text : Option String) :
    ∃ again, listing.upsert later id type others text = (some target, again) := by
  have answer : (listing.upsert later id type others text).1 = some target := by
    rw [upsert_answer, ← listing.upsert_answer now id type properties description, kept]
  exact ⟨_, Prod.ext answer rfl⟩

theorem upsert_unstamped (listing : Listing) (now later : Instant) (id type : String) (properties : Properties)
    (description : Option String) : (listing.upsert now id type properties description).2.unstamped =
      (listing.upsert later id type properties description).2.unstamped := by
  unfold upsert
  split
  · rfl
  split
  · rfl
  split
  · simp only [unstamped, List.map_map, Listing.mk.injEq, and_true]
    apply List.map_congr_left
    intro entity _
    simp only [Function.comp_apply]
    split <;> rfl
  · simp [unstamped, Entity.timeless]

theorem Accepts.distinct (accepts : listing.Accepts request) : listing.Accepts request.distinct where
  given := by
    obtain ⟨source, member⟩ := List.exists_mem_of_ne_nil _ accepts.given
    exact List.ne_nil_of_mem (List.mem_eraseDups.mpr member)
  known source member := accepts.known source (List.mem_eraseDups.mp member)
  named := accepts.named
  typed := accepts.typed

/-- What a consolidation answers does not depend on the time and the stamps it is given, and neither do its contents but
for these. -/
theorem consolidate_unstamped (success : listing.consolidate now stamps request = (.ok report, after))
    (later : Instant) (others : Nat → Stamp) : ∃ last,
      listing.consolidate later others request = (.ok report, last) ∧ last.unstamped = after.unstamped := by
  obtain ⟨accepts, merged, upserted, removed, updated, contents⟩ := consolidate_ok_iff.mp success
  obtain ⟨again, upsertedAgain⟩ := upsert_again upserted later
    (request.mergedProperties (request.sources.filterMap listing.get?))
    (request.mergedDescription (request.sources.filterMap listing.get?))
  have contains := (contains_kept upsertedAgain).trans (contains_kept upserted).symm
  have relationships := (upsert_relationships upsertedAgain).trans (upsert_relationships upserted).symm
  refine ⟨_, consolidate_ok_iff.mpr ⟨accepts, again, upsertedAgain, removed, ?_, rfl⟩, ?_⟩
  · rw [contains, relationships, updated]
  · have same := listing.upsert_unstamped later now request.target request.type
      (request.mergedProperties (request.sources.filterMap listing.get?))
      (request.mergedDescription (request.sources.filterMap listing.get?))
    rw [upserted, upsertedAgain] at same
    have unmarked (edge : Relationship) (stamp : Stamp) : (edge.stamped stamp).unstamped = edge.unstamped := rfl
    rw [contents, contains, relationships, unstamped_without, unstamped_without, unstamped_add, unstamped_add,
      Consolidation.map_stampedFrom unmarked, Consolidation.map_stampedFrom unmarked, same]

/-- What a consolidation into `target` re-creates. -/
def remade (listing : Listing) (request : Consolidation) (target : String) : List Relationship :=
  request.remade (fun id => id == target || listing.contains id) listing.relationships target

theorem remade_kept (kept : listing.upsert now id type properties description = (some target, merged))
    (request : Consolidation) :
    request.remade merged.contains merged.relationships target = listing.remade request target := by
  rw [contains_kept kept, upsert_relationships kept, remade]

/-- The first occurrences of the sources are accepted with the list itself, have the same target and the same entities
removed, and re-create what they have to. -/
theorem consolidate_distinct (success : listing.consolidate now stamps request = (.ok report, after)) (later : Instant)
    (others : Nat → Stamp) : ∃ last, listing.consolidate later others request.distinct =
      (.ok ⟨report.target, report.removed, (listing.remade request.distinct report.target).length⟩, last) := by
  obtain ⟨accepts, merged, upserted, removed, -, -⟩ := consolidate_ok_iff.mp success
  obtain ⟨again, upsertedAgain⟩ := upsert_again upserted later
    (request.distinct.mergedProperties (request.distinct.sources.filterMap listing.get?))
    (request.distinct.mergedDescription (request.distinct.sources.filterMap listing.get?))
  refine ⟨_, consolidate_ok_iff.mpr ⟨accepts.distinct, again, upsertedAgain, ?_, ?_, rfl⟩⟩
  · rw [Consolidation.others_distinct, eraseDups_of_nodup (nodup_eraseDups _), removed]
  · rw [remade_kept upsertedAgain]

theorem consolidate_updated (success : listing.consolidate now stamps request = (.ok report, after)) :
    report.relationshipsUpdated = (listing.remade request report.target).length := by
  obtain ⟨-, merged, upserted, -, updated, -⟩ := consolidate_ok_iff.mp success
  rw [updated, remade_kept upserted]

/-- Where no repeat has anything to add, the first occurrences do the same. -/
theorem consolidate_idle (success : listing.consolidate now stamps request = (.ok report, after))
    (described : request.distinct.mergedDescription (request.distinct.sources.filterMap listing.get?) =
      request.mergedDescription (request.sources.filterMap listing.get?))
    (idle : listing.remade request.distinct report.target = listing.remade request report.target) :
    listing.consolidate now stamps request.distinct = (.ok report, after) := by
  obtain ⟨accepts, merged, upserted, removed, updated, contents⟩ := consolidate_ok_iff.mp success
  rw [remade_kept upserted] at updated contents
  rw [← described, ← Consolidation.mergedProperties_distinct] at upserted
  refine consolidate_ok_iff.mpr ⟨accepts.distinct, merged, upserted, ?_, ?_, ?_⟩
  · rw [Consolidation.others_distinct, eraseDups_of_nodup (nodup_eraseDups _), removed]
  · rw [remade_kept upserted, idle, updated]
  · rw [remade_kept upserted, idle, contents, Consolidation.others_distinct, without_eraseDups]

end Listing

namespace Store

open Consolidation

variable {store after last : Store} {now later : Instant} {stamps others : Nat → Stamp} {request : Consolidation}
  {report other : ConsolidationReport}

/-- The description of the entity that sources are merged into. -/
theorem WellFormed.consolidate_described (valid : store.WellFormed)
    (success : store.consolidate now stamps request = (.ok report, after)) :
    (after.listing.unstamped.get? report.target).map (·.description) =
      some ((request.mergedDescription (request.sources.filterMap store.get?)).getD
        (((store.get? report.target).map (·.description)).getD "")) := by
  obtain ⟨afterValid, -⟩ := valid.consolidate_ok success
  have found := (valid.consolidate_leaves success).found
  rw [afterValid.get?_listing] at found
  rw [Listing.get?_unstamped, found, Option.map_some, Option.map_some, Option.some.injEq]
  exact Update.outcome_description ..

theorem WellFormed.consolidate_idle (valid : store.WellFormed)
    (success : store.consolidate now stamps request = (.ok report, after))
    (idle : request.RepeatsIdle store report.target) :
    observed (store.consolidate now stamps request.distinct) = (.ok report, after.listing) := by
  have found : store.get? = store.listing.get? := funext valid.get?_listing
  have known : store.contains = store.listing.contains := funext valid.contains_listing
  rw [valid.consolidate_listing]
  apply Listing.consolidate_idle (valid.consolidate_ok success).2
  · rw [← found]
    exact mergedDescription_silent idle.descriptions
  · apply (remade_distinct ..).2.mpr
    have edges := idle.edges
    rw [known] at edges
    exact edges

/-- Two outcomes of a request and of its first occurrences are the same only if no repeat has anything to add. -/
theorem WellFormed.repeatsIdle (valid : store.WellFormed)
    (success : store.consolidate now stamps request = (.ok report, after))
    (again : store.consolidate later others request.distinct = (.ok report, last))
    (contents : last.listing.unstamped = after.listing.unstamped) : request.RepeatsIdle store report.target where
  edges := by
    have lengths := (Listing.consolidate_updated (valid.consolidate_ok again).2).symm.trans
      (Listing.consolidate_updated (valid.consolidate_ok success).2)
    obtain ⟨sublist, same⟩ := remade_distinct request (fun id => id == report.target || store.listing.contains id)
      store.relationships report.target
    have known : store.contains = store.listing.contains := funext valid.contains_listing
    rw [known]
    exact same.mp (sublist.eq_of_length lengths)
  descriptions := by
    have described := valid.consolidate_described success
    have describedAgain := valid.consolidate_described again
    rw [contents, described, Option.some.injEq] at describedAgain
    exact silent_of_mergedDescription describedAgain.symm

theorem WellFormed.consolidate_distinct (valid : store.WellFormed)
    (success : store.consolidate now stamps request = (.ok report, after)) (later : Instant) (others : Nat → Stamp) :
    ∃ other last, store.consolidate later others request.distinct = (.ok other, last) ∧
      other.target = report.target ∧ other.removed = report.removed ∧
      (other = report ∧ last.listing.unstamped = after.listing.unstamped ↔
        request.RepeatsIdle store report.target) := by
  obtain ⟨contents, accepted⟩ := Listing.consolidate_distinct (valid.consolidate_ok success).2 later others
  have again := valid.consolidate_listing later others request.distinct
  rw [accepted] at again
  cases result : store.consolidate later others request.distinct with
  | mk answer last =>
    rw [result] at again
    obtain ⟨rfl, rfl⟩ := Prod.mk.inj again
    refine ⟨_, last, rfl, rfl, rfl, fun same => ?_, fun idle => ?_⟩
    · obtain ⟨told, same⟩ := same
      rw [told] at result
      exact valid.repeatsIdle success result same
    · -- the first occurrences do the same under the same stamps, and other stamps make no other difference
      have equal := valid.consolidate_idle success idle
      rw [valid.consolidate_listing] at equal
      obtain ⟨final, finished, same⟩ := Listing.consolidate_unstamped equal later others
      obtain ⟨told, rfl⟩ := Prod.mk.inj (accepted.symm.trans finished)
      exact ⟨Except.ok.inj told, same⟩

/-- After any history, wherever a consolidation succeeds it also does with the first occurrences of its sources, under
any time and stamps; the outcomes are the same but for these exactly if no repeated source has anything to add. Then
under the same time and stamps there is no difference at all. -/
theorem consolidate_repeats (config : StoreConfig) (commands : List Command) (now : Instant) (stamps : Nat → Stamp)
    (request : Consolidation) (report : ConsolidationReport) (after : Store)
    (success : (history config commands).consolidate now stamps request = (.ok report, after)) :
    (∀ later others, ∃ other last,
      (history config commands).consolidate later others request.distinct = (.ok other, last) ∧
      other.target = report.target ∧ other.removed = report.removed ∧
      (other = report ∧ last.listing.unstamped = after.listing.unstamped ↔
        request.RepeatsIdle (history config commands) report.target)) ∧
    (request.RepeatsIdle (history config commands) report.target →
      observed ((history config commands).consolidate now stamps request.distinct) = (.ok report, after.listing)) := by
  have valid := history_wellFormed config commands
  refine ⟨fun later others => valid.consolidate_distinct success later others, fun idle => ?_⟩
  exact valid.consolidate_idle success idle

/-- The repeated source has no description, and its only relationship leads to the target; the other source has both a
description and a relationship with somebody else. -/
theorem consolidate_repeats_idle :
    let stamps (n : Nat) : Stamp := ⟨⟨BitVec.ofNat 128 n⟩, ⟨n, 0⟩⟩
    let before := history {} [.edit (.upsert ⟨0, 0⟩ "a" "Node" .empty none),
      .edit (.upsert ⟨0, 0⟩ "b" "Node" .empty (some "two")), .edit (.upsert ⟨0, 0⟩ "t" "Node" .empty none),
      .edit (.upsert ⟨0, 0⟩ "x" "Node" .empty none), .edit (.relate (stamps 10) "a" "t" "alias" .empty 1),
      .edit (.relate (stamps 11) "b" "x" "knows" .empty 1)]
    let request : Consolidation := ⟨["a", "b", "a"], "t", "Node", .empty, none⟩
    let result := before.consolidate ⟨1, 0⟩ stamps request
    result.1 = .ok ⟨"t", ["a", "b"], 1⟩ ∧ request.RepeatsIdle before "t" ∧
      observed (before.consolidate ⟨1, 0⟩ stamps request.distinct) = (.ok ⟨"t", ["a", "b"], 1⟩, result.2.listing) := by
  intro stamps before request result
  have only (source : String) (repeated : 1 < request.sources.count source) : source = "a" := by
    have member : source ∈ ["a", "b", "a"] := List.count_pos_iff.mp (Nat.lt_of_succ_lt repeated)
    simp only [List.mem_cons, List.not_mem_nil, or_false] at member
    rcases member with here | rfl | here
    · exact here
    · exact absurd repeated (by decide)
    · exact here
  have idle : request.RepeatsIdle before "t" := by
    refine ⟨fun source repeated _ => ?_, fun _ source repeated => ?_⟩
    · rw [only source repeated]
      decide +kernel
    · rw [only source repeated]
      decide +kernel
  have success : result.1 = .ok ⟨"t", ["a", "b"], 1⟩ := by decide +kernel
  refine ⟨success, idle, ?_⟩
  exact (consolidate_repeats {} _ ⟨1, 0⟩ stamps request _ result.2 (Prod.ext success rfl)).2 idle

/-- A source given twice is described twice and has its relationship re-created twice. -/
theorem consolidate_twice :
    let stamps (n : Nat) : Stamp := ⟨⟨BitVec.ofNat 128 n⟩, ⟨n, 0⟩⟩
    let before := history {} [.edit (.upsert ⟨0, 0⟩ "a" "Node" .empty (some "d")),
      .edit (.upsert ⟨0, 0⟩ "x" "Node" .empty none), .edit (.relate (stamps 10) "a" "x" "knows" .empty 1)]
    let request : Consolidation := ⟨["a", "a"], "t", "Node", .empty, none⟩
    let twice := before.consolidate ⟨1, 0⟩ stamps request
    let once := before.consolidate ⟨1, 0⟩ stamps request.distinct
    let told (result : Except StoreError ConsolidationReport × Store) :=
      (result.1, result.2.relationshipCount, (result.2.get? "t").map (·.description))
    told twice = (.ok ⟨"t", ["a"], 2⟩, 2, some "d | d") ∧ told once = (.ok ⟨"t", ["a"], 1⟩, 1, some "d") ∧
      ∀ later others other last, before.consolidate later others request.distinct = (.ok other, last) →
        ¬ (other = ⟨"t", ["a"], 2⟩ ∧ last.listing.unstamped = twice.2.listing.unstamped) := by
  intro stamps before request twice once told
  have success : twice.1 = .ok ⟨"t", ["a"], 2⟩ := by decide +kernel
  refine ⟨by decide +kernel, by decide +kernel, ?_⟩
  rintro later others other last again ⟨rfl, same⟩
  have idle := (history_wellFormed {} _).repeatsIdle (Prod.ext success rfl) again same
  exact absurd (idle.descriptions rfl "a" (by decide)) (by decide +kernel)

end Store

end EntityGraph
