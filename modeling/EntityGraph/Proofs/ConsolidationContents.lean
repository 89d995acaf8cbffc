import EntityGraph.Proofs.TidyContents

/-!
A consolidation of two lists, in one step. While sources are redirected, whatever is re-created has the target at one end
and so is not moved again: each source is redirected by the relationships it had in the beginning. A store is
consolidated as the lists of its contents are.
-/
namespace EntityGraph

namespace Relationship

def stamped (relationship : Relationship) (stamp : Stamp) : Relationship :=
  { relationship with id := stamp.id, createdAt := stamp.time }

/-- Neither end is one of the given entities. -/
def avoids (relationship : Relationship) (gone : List String) : Bool :=
  !gone.contains relationship.source && !gone.contains relationship.target

end Relationship

namespace End

def other : End → End
  | source => target
  | target => source

/-- A relationship with another entity at one end. -/
def put : End → String → Relationship → Relationship
  | source, id, relationship => { relationship with source := id }
  | target, id, relationship => { relationship with target := id }

theorem id_put (side : End) (id : String) (relationship : Relationship) : side.id (side.put id relationship) = id := by
  cases side <;> rfl

theorem id_stamped (side : End) (relationship : Relationship) (stamp : Stamp) :
    side.id (relationship.stamped stamp) = side.id relationship := by
  cases side <;> rfl

end End

namespace Consolidation

/-- Relationships with stamps from a position on. -/
def stampedFrom (stamps : Nat → Stamp) (start : Nat) (relationships : List Relationship) : List Relationship :=
  (relationships.zipIdx start).map fun (relationship, position) => relationship.stamped (stamps position)

/-- The relationships with a source at one end, except those with `target` at the other. -/
def ties (side : End) (relationships : List Relationship) (target source : String) : List Relationship :=
  (relationships.filter (side.id · == source)).filter (side.other.id · != target)

/-- What is re-created for a source: what arrives at it, then what leaves it, with `target` in its place. -/
def moves (relationships : List Relationship) (target source : String) : List Relationship :=
  (ties .target relationships target source).map (End.target.put target)
    ++ (ties .source relationships target source).map (End.source.put target)

/-- The known id that the end of a relationship names: itself without blanks, else without brackets. -/
def named? (known : String → Bool) (id : String) : Option String :=
  if known (trim id) then some (trim id)
  else if known (stripBrackets (trim id)) then some (stripBrackets (trim id))
  else none

/-- What becomes of a relationship that is added among known ids: its ends are the ids they name. Nothing is added
without a type, or if an end is blank or names no known id. -/
def added? (known : String → Bool) (edge : Relationship) : Option Relationship :=
  if isBlankText edge.source ∨ isBlankText edge.target ∨ edge.type.isEmpty then none
  else match named? known edge.source, named? known edge.target with
    | some source, some target => some { edge with source, target }
    | _, _ => none

/-- The moves of a source as they are added among known ids. -/
def recreations (known : String → Bool) (relationships : List Relationship) (target source : String) :
    List Relationship := (moves relationships target source).filterMap (added? known)

/-- What is re-created for all sources but the target, one after the other. -/
def remade (request : Consolidation) (known : String → Bool) (relationships : List Relationship) (target : String) :
    List Relationship := (request.sources.filter (· != target)).flatMap (recreations known relationships target)

variable {stamps : Nat → Stamp} {target : String}

theorem stampedFrom_append (start : Nat) (first second : List Relationship) :
    stampedFrom stamps start (first ++ second) =
      stampedFrom stamps start first ++ stampedFrom stamps (start + first.length) second := by
  simp [stampedFrom, List.zipIdx_append]

theorem map_stampedFrom {read : Relationship → α} (unmarked : ∀ edge stamp, read (edge.stamped stamp) = read edge)
    (start : Nat) (relationships : List Relationship) :
    (stampedFrom stamps start relationships).map read = relationships.map read := by
  simp only [stampedFrom, List.map_map, Function.comp_def, unmarked]
  conv_rhs => rw [← List.zipIdx_map_fst start relationships, List.map_map]
  rfl

/-- A relationship starts or ends at the target. -/
def Anchored (target : String) (edge : Relationship) : Prop := ∃ side : End, side.id edge = target

/-- Relationships that are anchored at the target are no ties of another entity. -/
theorem ties_append (side : End) {before made : List Relationship} (anchored : ∀ edge ∈ made, Anchored target edge)
    {source : String} (other : source ≠ target) :
    ties side (before ++ made) target source = ties side before target source := by
  have none : (made.filter (side.id · == source)).filter (side.other.id · != target) = [] := by
    simp only [List.filter_eq_nil_iff, List.mem_filter]
    rintro edge ⟨member, here⟩ away
    have apart : side.id edge ≠ target := (beq_iff_eq.mp here).trans_ne other
    have elsewhere : side.other.id edge ≠ target := bne_iff_ne.mp away
    obtain ⟨anchor, same⟩ := anchored edge member
    cases side <;> cases anchor <;> contradiction
  simp only [ties, List.filter_append, none, List.append_nil]

theorem stampedFrom_anchored {start : Nat} {relationships : List Relationship}
    (anchored : ∀ edge ∈ relationships, Anchored target edge) :
    ∀ edge ∈ stampedFrom stamps start relationships, Anchored target edge := by
  intro edge member
  obtain ⟨⟨old, position⟩, listed, rfl⟩ := List.mem_map.mp member
  obtain ⟨anchor, same⟩ := anchored old (List.fst_mem_of_mem_zipIdx listed)
  exact ⟨anchor, (anchor.id_stamped old (stamps position)).trans same⟩

theorem added?_anchored {known : String → Bool} (itself : named? known target = some target) {edges : List Relationship}
    (anchored : ∀ edge ∈ edges, Anchored target edge) :
    ∀ edge ∈ edges.filterMap (added? known), Anchored target edge := by
  intro edge member
  obtain ⟨old, listed, added⟩ := List.mem_filterMap.mp member
  unfold added? at added
  split at added
  · cases added
  split at added
  · rename_i source other sourceNamed targetNamed
    cases added
    obtain ⟨anchor, same⟩ := anchored old listed
    refine ⟨anchor, ?_⟩
    cases anchor with
    | source =>
      replace same : old.source = target := same
      rw [same, itself] at sourceNamed
      exact (Option.some.inj sourceNamed).symm
    | target =>
      replace same : old.target = target := same
      rw [same, itself] at targetNamed
      exact (Option.some.inj targetNamed).symm
  · cases added

theorem put_anchored (side : End) (relationships : List Relationship) :
    ∀ edge ∈ relationships.map (side.put target), Anchored target edge := by
  intro edge moved
  obtain ⟨old, _, rfl⟩ := List.mem_map.mp moved
  exact ⟨side, side.id_put target old⟩

theorem recreations_anchored {known : String → Bool} (itself : named? known target = some target)
    {relationships : List Relationship} {source : String} :
    ∀ edge ∈ recreations known relationships target source, Anchored target edge := by
  apply added?_anchored itself
  intro edge moved
  rcases List.mem_append.mp moved with arrived | left
  · exact put_anchored .target _ edge arrived
  · exact put_anchored .source _ edge left

end Consolidation

namespace Listing

open Consolidation

theorem endpoint?_eq (listing : Listing) (id : String) : listing.endpoint? id = named? listing.contains id := rfl

/-- Further relationships, at the end. -/
def add (listing : Listing) (relationships : List Relationship) : Listing :=
  { listing with relationships := listing.relationships ++ relationships }

theorem add_append (listing : Listing) (first second : List Relationship) :
    listing.add (first ++ second) = (listing.add first).add second := by
  rw [add, add, add, List.append_assoc]

theorem relate_eq (listing : Listing) (stamp : Stamp) (edge : Relationship) :
    listing.relate stamp edge.source edge.target edge.type edge.properties edge.weight =
      match added? listing.contains edge with
      | some edge => (true, listing.add [edge.stamped stamp])
      | none => (false, listing) := by
  unfold relate added?
  simp only [endpoint?_eq]
  split
  · rfl
  · cases named? listing.contains edge.source <;> cases named? listing.contains edge.target <;> rfl

/-- What an accepted upsert does: it updates the entity with the normal id in its place, or appends a new one. -/
theorem upsert_some {listing merged : Listing} {now : Instant} {id type name : String} {properties : Properties}
    {description : Option String}
    (kept : listing.upsert now id type properties description = (some name, merged)) :
    Store.normalId? id type = some name ∧
    merged = (if listing.contains name then
        { listing with entities := listing.entities.map fun entity =>
          if entity.id = name then Store.updated entity now type properties description else entity }
      else { listing with entities :=
        listing.entities ++ [⟨name, type, description.getD "", properties, now, none⟩] }) ∧
    ∀ other, merged.contains other = true ↔ other = name ∨ listing.contains other = true := by
  unfold upsert at kept
  split at kept
  · cases kept
  split at kept
  · cases kept
  rename_i normal named
  by_cases present : listing.contains normal = true
  · rw [if_pos present] at kept
    cases kept
    refine ⟨named, (if_pos present).symm, ?_⟩
    intro other
    have same : (listing.entities.map fun entity => if entity.id = name
        then Store.updated entity now type properties description else entity).any (·.id == other) =
          listing.contains other := by
      rw [List.any_map, contains]
      congr 1
      funext entity
      by_cases here : entity.id = name <;> simp [here, Store.updated]
    rw [contains, same]
    refine ⟨.inr, ?_⟩
    rintro (rfl | known)
    · exact present
    · exact known
  · rw [if_neg present] at kept
    cases kept
    refine ⟨named, (if_neg present).symm, ?_⟩
    intro other
    simp only [contains, List.any_append, List.any_cons, List.any_nil, Bool.or_false, Bool.or_eq_true, beq_iff_eq]
    rw [or_comm, eq_comm]

theorem upsert_relationships {listing merged : Listing} {now : Instant} {id type name : String}
    {properties : Properties} {description : Option String}
    (kept : listing.upsert now id type properties description = (some name, merged)) :
    merged.relationships = listing.relationships := by
  obtain ⟨-, contents, -⟩ := upsert_some kept
  rw [contents]
  split <;> rfl

/-- The entities that are not among those given, and the relationships that avoid these. -/
def without (listing : Listing) (gone : List String) : Listing :=
  ⟨listing.entities.filter fun entity => !gone.contains entity.id, listing.relationships.filter (·.avoids gone)⟩

theorem contains_without (listing : Listing) (gone : List String) (id : String) :
    (listing.without gone).contains id = true ↔ listing.contains id = true ∧ id ∉ gone := by
  simp only [contains, without, List.any_filter, List.any_eq_true, Bool.and_eq_true, beq_iff_eq]
  constructor
  · rintro ⟨entity, member, left, rfl⟩
    exact ⟨⟨entity, member, rfl⟩, by simpa using left⟩
  · rintro ⟨⟨entity, member, rfl⟩, left⟩
    exact ⟨entity, member, by simpa using left, rfl⟩

/-- A consolidation in one step: the target is put in, what is re-created for the other sources is appended, and these
are taken out. -/
def consolidate (listing : Listing) (now : Instant) (stamps : Nat → Stamp) (request : Consolidation) :
    Except StoreError ConsolidationReport × Listing :=
  if request.sources.isEmpty ∨ isBlankText request.target then (.error .emptyId, listing)
  else if isBlankText request.type then (.error .emptyType, listing)
  else
    let missing := request.sources.filter (!listing.contains ·)
    if !missing.isEmpty then (.error (.entitiesNotFound missing), listing)
    else
      let sources := request.sources.filterMap listing.get?
      match listing.upsert now request.target request.type (request.mergedProperties sources)
          (request.mergedDescription sources) with
      | (none, left) => (.error .emptyId, left)
      | (some target, merged) =>
        let others := request.sources.filter (· != target)
        let made := request.remade merged.contains merged.relationships target
        (.ok ⟨target, others.eraseDups, made.length⟩,
          (merged.add (stampedFrom stamps 0 made)).without others)

/-- A request that is not refused at sight: it has sources, all of them known, and neither its target nor its type is
blank. -/
structure Accepts (listing : Listing) (request : Consolidation) : Prop where
  given : request.sources ≠ []
  known : ∀ source ∈ request.sources, listing.contains source = true
  named : isBlankText request.target = false
  typed : isBlankText request.type = false

/-- What comes out of a consolidation into a target, which has been put into `merged`. -/
structure ConsolidatesTo (stamps : Nat → Stamp) (request : Consolidation) (merged : Listing)
    (report : ConsolidationReport) (after : Listing) : Prop where
  removed : report.removed = (request.sources.filter (· != report.target)).eraseDups
  updated : report.relationshipsUpdated =
    (request.remade merged.contains merged.relationships report.target).length
  contents : after =
    (merged.add (stampedFrom stamps 0 (request.remade merged.contains merged.relationships report.target))).without
      (request.sources.filter (· != report.target))

variable {listing after : Listing} {now : Instant} {stamps : Nat → Stamp} {request : Consolidation}
  {report : ConsolidationReport}

theorem consolidate_ok_iff : listing.consolidate now stamps request = (.ok report, after) ↔
    listing.Accepts request ∧ ∃ merged,
      listing.upsert now request.target request.type (request.mergedProperties (request.sources.filterMap listing.get?))
        (request.mergedDescription (request.sources.filterMap listing.get?)) = (some report.target, merged) ∧
      ConsolidatesTo stamps request merged report after := by
  constructor
  · intro success
    simp only [consolidate] at success
    split at success
    · cases success
    rename_i full
    split at success
    · cases success
    rename_i typed
    split at success
    · cases success
    rename_i complete
    split at success
    · cases success
    rename_i target merged upserted
    cases success
    simp only [not_or, Bool.not_eq_true, List.isEmpty_eq_false_iff] at full typed
    refine ⟨⟨full.1, ?_, full.2, typed⟩, merged, upserted, rfl, rfl, rfl⟩
    intro source member
    simp only [Bool.not_eq_true', Bool.not_eq_false, List.isEmpty_iff, List.filter_eq_nil_iff] at complete
    simpa using complete source member
  · rintro ⟨accepted, merged, upserted, removed, updated, rfl⟩
    have complete : request.sources.filter (!listing.contains ·) = [] := by
      apply List.filter_eq_nil_iff.mpr
      intro source member
      simp [accepted.known source member]
    have full : ¬ (request.sources.isEmpty = true ∨ isBlankText request.target = true) := by
      simp [accepted.given, accepted.named]
    obtain ⟨target, gone, count⟩ := report
    simp only at removed updated upserted
    simp only [consolidate, if_neg full, accepted.typed, complete, upserted, Bool.false_eq_true, List.isEmpty_nil,
      Bool.not_true, if_false, removed, updated]

end Listing

namespace Consolidation.Redirection

/-- A state of a redirection: to some contents so much has been added, under stamps in a row. -/
structure Holds (stamps : Nat → Stamp) (state : Redirection) (base : Listing) (made : List Relationship) : Prop where
  valid : state.store.WellFormed
  contents : state.store.listing = base.add (stampedFrom stamps 0 made)
  made : state.made = made.length

variable {stamps : Nat → Stamp} {state : Redirection} {base : Listing} {made : List Relationship} {target : String}

theorem Holds.recreate (holds : state.Holds stamps base made) (edge : Relationship) (source target : String) :
    (state.recreate stamps edge source target).Holds stamps base
      (made ++ (added? base.contains { edge with source, target }).toList) := by
  have related := holds.valid.relate_listing (stamps state.made) source target edge.type edge.properties edge.weight
  have kept := holds.valid.addRelationship (stamps state.made) source target edge.type edge.properties edge.weight
  have same : state.store.listing.contains = base.contains := by
    rw [holds.contents]
    rfl
  rw [state.store.listing.relate_eq (stamps state.made) { edge with source, target }, same] at related
  have answer := congrArg Prod.fst related
  have contents := congrArg Prod.snd related
  simp only [Store.observed] at answer contents
  cases added : added? base.contains { edge with source, target } with
  | none =>
    rw [added] at answer contents
    simp only [Redirection.recreate, answer, Bool.false_eq_true, if_false, Option.toList_none, List.append_nil]
    exact ⟨kept, contents.trans holds.contents, holds.made⟩
  | some new =>
    rw [added] at answer contents
    have appended : stampedFrom stamps 0 (made ++ [new]) =
        stampedFrom stamps 0 made ++ [new.stamped (stamps state.made)] := by
      rw [stampedFrom_append, Nat.zero_add, holds.made]
      rfl
    simp only [Redirection.recreate, answer, if_true, Option.toList_some]
    refine ⟨kept, ?_, by rw [List.length_append, holds.made, List.length_singleton]⟩
    rw [appended, contents, holds.contents, Listing.add_append]

theorem Holds.recreateAll (holds : state.Holds stamps base made) (ends : Relationship → String × String)
    (edges : List Relationship) :
    (edges.foldl (fun state edge => state.recreate stamps edge (ends edge).1 (ends edge).2) state).Holds stamps base
      (made ++ (edges.map fun edge => { edge with source := (ends edge).1, target := (ends edge).2 }).filterMap
        (added? base.contains)) := by
  induction edges generalizing state made with
  | nil => simpa using holds
  | cons edge rest ih =>
    have next := ih (holds.recreate edge (ends edge).1 (ends edge).2)
    rw [List.foldl_cons, List.map_cons, List.filterMap_cons]
    cases added : added? base.contains { edge with source := (ends edge).1, target := (ends edge).2 } with
    | none => simpa [added] using next
    | some new => simpa [added] using next

theorem Holds.relationships (holds : state.Holds stamps base made) :
    state.store.relationships = base.relationships ++ stampedFrom stamps 0 made :=
  congrArg Listing.relationships holds.contents

theorem Holds.redirect (holds : state.Holds stamps base made) (itself : named? base.contains target = some target)
    (anchored : ∀ edge ∈ made, Anchored target edge) {source : String} (other : source ≠ target) :
    (state.redirect stamps target source).Holds stamps base
      (made ++ recreations base.contains base.relationships target source) := by
  have incoming : (state.store.incoming source).filter (·.source != target) =
      ties .target base.relationships target source := by
    rw [holds.valid.incoming_listing, holds.relationships]
    exact ties_append .target (stampedFrom_anchored anchored) other
  have arrived := holds.recreateAll (fun edge => (edge.source, target)) (ties .target base.relationships target source)
  simp only [Redirection.redirect, incoming]
  generalize (ties .target base.relationships target source).foldl
    (fun state edge => state.recreate stamps edge edge.source target) state = next at arrived ⊢
  -- what arrived ends at the target now, so nothing of it leaves for elsewhere
  have staying := added?_anchored itself (put_anchored .target (ties .target base.relationships target source))
  have outgoing : (next.store.outgoing source).filter (·.target != target) =
      ties .source base.relationships target source := by
    rw [arrived.valid.outgoing_listing, arrived.relationships]
    refine ties_append .source (stampedFrom_anchored fun edge member => ?_) other
    exact (List.mem_append.mp member).elim (anchored edge) (staying edge)
  have left := arrived.recreateAll (fun edge => (target, edge.target)) (ties .source base.relationships target source)
  rw [outgoing, recreations, moves, List.filterMap_append, ← List.append_assoc]
  exact left

theorem Holds.redirectAll (holds : state.Holds stamps base made) (itself : named? base.contains target = some target)
    (anchored : ∀ edge ∈ made, Anchored target edge) (sources : List String)
    (others : ∀ source ∈ sources, source ≠ target) :
    (sources.foldl (Redirection.redirect stamps target) state).Holds stamps base
      (made ++ sources.flatMap (recreations base.contains base.relationships target)) := by
  induction sources generalizing state made with
  | nil => simpa using holds
  | cons source rest ih =>
    have redirected := holds.redirect itself anchored (others source (List.mem_cons_self ..))
    rw [List.foldl_cons, List.flatMap_cons, ← List.append_assoc]
    refine ih redirected ?_ fun other later => others other (List.mem_cons_of_mem _ later)
    intro edge member
    rcases List.mem_append.mp member with old | new
    · exact anchored edge old
    · exact recreations_anchored itself edge new

end Consolidation.Redirection

namespace Store

open Consolidation

variable {store : Store}

theorem WellFormed.remove_contents (valid : store.WellFormed) (id : String) :
    (store.remove id).2.listing =
      { entities := store.entities.filter (·.id ≠ id)
        relationships := store.relationships.filter fun edge => edge.source ≠ id ∧ edge.target ≠ id } := by
  have contents := congrArg Prod.snd (valid.remove_listing id)
  simp only [observed] at contents
  rw [contents, Listing.remove]
  split
  · rename_i absent
    have unlisted {other : String} (listed : other ∈ store.ids) : other ≠ id := by
      obtain ⟨entity, member, rfl⟩ := List.mem_map.mp listed
      simpa using List.find?_eq_none.mp absent entity member
    have allEntities : store.entities.filter (·.id ≠ id) = store.entities := by
      apply List.filter_eq_self.mpr
      intro entity member
      simpa using unlisted (List.mem_map.mpr ⟨entity, member, rfl⟩)
    have allRelationships : (store.relationships.filter fun edge => edge.source ≠ id ∧ edge.target ≠ id) =
        store.relationships := by
      apply List.filter_eq_self.mpr
      intro edge member
      exact decide_eq_true ⟨unlisted (valid.end_mem_ids .source member), unlisted (valid.end_mem_ids .target member)⟩
    rw [allEntities, allRelationships]
    rfl
  · rfl

theorem WellFormed.contains_remove (valid : store.WellFormed) (id other : String) :
    (store.remove id).2.contains other = (store.contains other && !other == id) := by
  have entitiesLeft := congrArg Listing.entities (valid.remove_contents id)
  simp only [listing] at entitiesLeft
  rw [Bool.eq_iff_iff, Bool.and_eq_true, (valid.remove id).contains_iff, valid.contains_iff, ids, entitiesLeft, ids]
  simp only [List.mem_map, List.mem_filter]
  constructor
  · rintro ⟨entity, ⟨member, kept⟩, rfl⟩
    exact ⟨⟨entity, member, rfl⟩, by simpa using kept⟩
  · rintro ⟨⟨entity, member, rfl⟩, kept⟩
    exact ⟨entity, ⟨member, by simpa using kept⟩, rfl⟩

theorem WellFormed.remove_isSome (valid : store.WellFormed) (id : String) :
    (store.remove id).1.isSome = store.contains id := by
  cases known : store.handle? id with
  | none => simp [remove_unknown known, contains, known]
  | some handle =>
    obtain ⟨slot, _, _, removed⟩ := valid.remove_known known
    simp [removed, contains, known]

theorem WellFormed.removeAll_contents (valid : store.WellFormed) (gone : List String) :
    (Consolidation.removeAll store gone).2.listing = store.listing.without gone := by
  induction gone generalizing store with
  | nil => simp [Consolidation.removeAll, Relationship.avoids, listing, Listing.without]
  | cons id rest ih =>
    rw [removeAll_cons]
    simp only
    rw [ih (valid.remove id), valid.remove_contents, Listing.without, Listing.without, List.filter_filter,
      List.filter_filter]
    congr 1
    · apply List.filter_congr
      intro entity _
      by_cases here : entity.id = id <;> simp [here]
    · apply List.filter_congr
      intro edge _
      by_cases source : edge.source = id <;> by_cases target : edge.target = id <;>
        simp [Relationship.avoids, source, target]

/-- Each entity is removed once. -/
theorem WellFormed.removeAll_removed (valid : store.WellFormed) (gone : List String) :
    (Consolidation.removeAll store gone).1 = (gone.filter store.contains).eraseDups := by
  induction gone generalizing store with
  | nil => rfl
  | cons id rest ih =>
    have left : rest.filter (store.remove id).2.contains =
        (rest.filter store.contains).filter fun other => !other == id := by
      rw [List.filter_filter]
      apply List.filter_congr
      intro other _
      rw [valid.contains_remove, Bool.and_comm]
    have removed := valid.remove_isSome id
    rw [removeAll_cons]
    simp only
    rw [ih (valid.remove id), left]
    cases known : store.contains id with
    | true =>
      rw [known] at removed
      obtain ⟨entity, answer⟩ := Option.isSome_iff_exists.mp removed
      rw [answer, List.filter_cons_of_pos known, List.eraseDups_cons]
      rfl
    | false =>
      rw [known, Option.isSome_eq_false_iff, Option.isNone_iff_eq_none] at removed
      have untouched : ((rest.filter store.contains).filter fun other => !other == id) = rest.filter store.contains := by
        apply List.filter_eq_self.mpr
        intro other member
        by_contra same
        simp only [Bool.not_eq_true, Bool.not_eq_false', beq_iff_eq] at same
        have present := (List.mem_filter.mp member).2
        rw [same, known] at present
        cases present
      rw [removed, untouched, List.filter_cons_of_neg (by simp [known])]
      rfl

theorem WellFormed.consolidate_listing (valid : store.WellFormed) (now : Instant) (stamps : Nat → Stamp)
    (request : Consolidation) :
    observed (store.consolidate now stamps request) = store.listing.consolidate now stamps request := by
  have known : store.contains = store.listing.contains := funext valid.contains_listing
  have found : store.get? = store.listing.get? := funext valid.get?_listing
  simp only [Store.consolidate, Listing.consolidate, known, found]
  split
  · rfl
  split
  · rfl
  split
  · rfl
  rename_i complete
  have upserted := valid.upsert_listing now request.target request.type
    (request.mergedProperties (request.sources.filterMap store.listing.get?))
    (request.mergedDescription (request.sources.filterMap store.listing.get?))
  have mergedValid := valid.upsert now request.target request.type
    (request.mergedProperties (request.sources.filterMap store.listing.get?))
    (request.mergedDescription (request.sources.filterMap store.listing.get?))
  rw [← upserted]
  generalize store.upsert now request.target request.type
    (request.mergedProperties (request.sources.filterMap store.listing.get?))
    (request.mergedDescription (request.sources.filterMap store.listing.get?)) = result at upserted mergedValid ⊢
  obtain ⟨answer, merged⟩ := result
  cases answer with
  | none => rfl
  | some target =>
    obtain ⟨named, -, contains⟩ := Listing.upsert_some upserted.symm
    have itself : named? merged.listing.contains target = some target :=
      Listing.endpoint?_tidy (isTidy_normalId named) ((contains target).mpr (.inl rfl))
    have start : Redirection.Holds stamps ⟨merged, 0⟩ merged.listing [] :=
      ⟨mergedValid, by simp [stampedFrom, Listing.add], rfl⟩
    have moved := start.redirectAll itself (List.forall_mem_nil _) (request.sources.filter (· != target)) (by simp)
    rw [List.nil_append] at moved
    simp only [observed]
    generalize (request.sources.filter (· != target)).foldl (Redirection.redirect stamps target) ⟨merged, 0⟩ = last
      at moved ⊢
    have present : (request.sources.filter (· != target)).filter last.store.contains =
        request.sources.filter (· != target) := by
      apply List.filter_eq_self.mpr
      intro source member
      rw [moved.valid.contains_listing, moved.contents]
      refine (contains source).mpr (.inr ?_)
      simp only [Bool.not_eq_true', Bool.not_eq_false, List.isEmpty_iff, List.filter_eq_nil_iff] at complete
      simpa using complete source (List.mem_filter.mp member).1
    rw [moved.valid.removeAll_removed, moved.valid.removeAll_contents, moved.contents, moved.made, present]
    rfl

theorem WellFormed.consolidate_ok (valid : store.WellFormed) {now : Instant} {stamps : Nat → Stamp}
    {request : Consolidation} {report : ConsolidationReport} {after : Store}
    (success : store.consolidate now stamps request = (.ok report, after)) :
    after.WellFormed ∧ store.listing.consolidate now stamps request = (.ok report, after.listing) := by
  have outcome := valid.consolidate_listing now stamps request
  have kept := valid.consolidate now stamps request
  rw [success] at outcome kept
  exact ⟨kept, outcome.symm⟩

end Store

end EntityGraph
