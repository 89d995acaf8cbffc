import EntityGraph.Proofs.ConsolidationContents
import EntityGraph.Proofs.EntityUpdates

/-!
The entities after a consolidation. The target gets what the request says, then what the first of the sources says, and
keeps what it had otherwise; it stays in its place, and nobody else changes.
-/
namespace EntityGraph

namespace Properties

theorem get?_insertNew (map : Properties) (name wanted : String) (value : Value) :
    (map.insertNew name value).get? wanted = (map.get? wanted).or (if wanted = name then some value else none) := by
  unfold insertNew
  split
  · rename_i present
    by_cases here : wanted = name
    · subst here
      obtain ⟨old, found⟩ := Option.isSome_iff_exists.mp present
      simp [found]
    · simp [here]
  · rename_i absent
    rw [get?_insert]
    by_cases here : wanted = name
    · subst here
      rw [contains, Option.not_isSome_iff_eq_none] at absent
      simp [absent]
    · simp [here]

theorem get?_mergeNew (map older : Properties) (key : String) :
    (map.mergeNew older).get? key = (map.get? key).or (older.get? key) := by
  have along (entries : PropertyList) (map : Properties) :
      (entries.foldl (fun done entry => done.insertNew entry.1 entry.2) map).get? key =
        (map.get? key).or (entries.lookup key) := by
    induction entries generalizing map with
    | nil => simp
    | cons entry rest ih =>
      rw [List.foldl_cons, ih, get?_insertNew, PropertyList.lookup_cons, Option.or_assoc]
      by_cases here : key = entry.1 <;> simp [here]
  exact along older.entries map

theorem get?_foldl_mergeNew (map : Properties) (entities : List Entity) (key : String) :
    (entities.foldl (fun merged entity => merged.mergeNew entity.properties) map).get? key =
      (map.get? key).or (entities.findSome? (·.properties.get? key)) := by
  induction entities generalizing map with
  | nil => simp
  | cons entity rest ih =>
    rw [List.foldl_cons, ih, get?_mergeNew, List.findSome?_cons, Option.or_assoc]
    cases entity.properties.get? key <;> rfl

end Properties

namespace Consolidation

/-- The descriptions of the sources that have one, in order. -/
def descriptions (request : Consolidation) (store : Store) : List String :=
  ((request.sources.filterMap store.get?).map (·.description)).filter (!·.isEmpty)

/-- What the entity that sources are merged into is like, by what the store was before: what the request says comes
first, then what the first source says that says something, and last what the entity was itself. -/
structure Merges (request : Consolidation) (before : Store) (target : String) (entity : Entity) : Prop where
  id : entity.id = target
  type : entity.type = request.type
  properties : ∀ key, entity.properties.get? key = ((request.properties.get? key).or
    (request.sources.findSome? fun source => (before.get? source).bind (·.properties.get? key))).or
      ((before.get? target).bind (·.properties.get? key))
  described : ∀ text, request.description = some text → entity.description = text
  joined : request.description = none → request.descriptions before ≠ [] →
    entity.description = " | ".intercalate (request.descriptions before)
  kept : request.description = none → request.descriptions before = [] →
    entity.description = ((before.get? target).map (·.description)).getD ""

/-- Who is there after sources have been merged into an entity. -/
structure Leaves (request : Consolidation) (before : Store) (target : String) (entity : Entity) (after : Store) :
    Prop where
  found : after.get? target = some entity
  /-- The entity takes the place that it had before. -/
  inPlace : ∀ front old back, before.entities = front ++ old :: back → old.id = target →
    after.entities = front.filter (!request.sources.contains ·.id) ++ entity ::
      back.filter (!request.sources.contains ·.id)
  /-- A new entity is the last one. -/
  atEnd : before.contains target = false →
    after.entities = before.entities.filter (!request.sources.contains ·.id) ++ [entity]
  others : after.entities.filter (·.id ≠ target) =
    before.entities.filter fun other => other.id ≠ target ∧ other.id ∉ request.sources
  gone : ∀ source ∈ request.sources, source ≠ target → after.contains source = false

end Consolidation

namespace Update

/-- What an update makes of an entity that may be there. -/
def outcome (update : Update) (id : String) (entity? : Option Entity) : Entity :=
  (entity?.map update.applyTo).getD (update.create id)

variable (update : Update) (entity? : Option Entity) {id : String}

theorem outcome_id (named : ∀ entity, entity? = some entity → entity.id = id) :
    (update.outcome id entity?).id = id := by
  cases entity? with
  | none => rfl
  | some entity => exact named entity rfl

theorem outcome_type : (update.outcome id entity?).type = update.type := by
  cases entity? <;> rfl

theorem outcome_properties (key : String) : (update.outcome id entity?).properties.get? key =
    (update.properties.get? key).or (entity?.bind (·.properties.get? key)) := by
  cases entity? with
  | none => exact (Option.or_none ..).symm
  | some entity => exact entity.properties.get?_merge update.properties key

theorem outcome_description : (update.outcome id entity?).description =
    update.description.getD ((entity?.map (·.description)).getD "") := by
  cases entity? <;> rfl

end Update

namespace Consolidation

/-- The update of its target that a consolidation makes. -/
def update (request : Consolidation) (now : Instant) (sources : List Entity) : Update :=
  ⟨now, request.type, request.mergedProperties sources, request.mergedDescription sources⟩

/-- Texts in one, if there are any. -/
def joined? (texts : List String) : Option String := if texts = [] then none else some (" | ".intercalate texts)

theorem mergedDescription_eq (request : Consolidation) (before : Store) :
    request.mergedDescription (request.sources.filterMap before.get?) =
      request.description.or (joined? (request.descriptions before)) := by
  rw [mergedDescription, ← descriptions]
  cases request.descriptions before <;> rfl

theorem get?_mergedProperties (request : Consolidation) (before : Store) (key : String) :
    (request.mergedProperties (request.sources.filterMap before.get?)).get? key =
      (request.properties.get? key).or
        (request.sources.findSome? fun source => (before.get? source).bind (·.properties.get? key)) := by
  rw [mergedProperties, Properties.get?_foldl_mergeNew]
  congr 1
  induction request.sources with
  | nil => rfl
  | cons source rest ih =>
    rw [List.findSome?_cons, ← ih]
    cases known : before.get? source <;> simp [known, List.findSome?_cons]

theorem merges_outcome (request : Consolidation) (before : Store) (now : Instant) {target : String}
    (named : ∀ entity, before.get? target = some entity → entity.id = target) :
    request.Merges before target
      ((request.update now (request.sources.filterMap before.get?)).outcome target (before.get? target)) where
  id := Update.outcome_id _ _ named
  type := Update.outcome_type ..
  properties key := by
    rw [Update.outcome_properties, update, get?_mergedProperties]
  described text said := by
    rw [Update.outcome_description, update, mergedDescription_eq, said]
    rfl
  joined silent said := by
    rw [Update.outcome_description, update, mergedDescription_eq, silent, joined?, if_neg said]
    rfl
  kept silent nothing := by
    rw [Update.outcome_description, update, mergedDescription_eq, silent, joined?, if_pos nothing]
    rfl

end Consolidation

namespace Listing

variable {listing merged : Listing} {now : Instant} {id type target : String} {properties : Properties}
  {description : Option String}

/-- Around an entity of distinct ids there is no other with its id. -/
theorem others_of_nodup {entities front back : List Entity} {old : Entity}
    (distinct : (entities.map (·.id)).Nodup) (placed : entities = front ++ old :: back) :
    ∀ entity ∈ front ++ back, entity.id ≠ old.id := by
  rw [placed, List.map_append, List.map_cons, List.nodup_middle, List.nodup_cons, ← List.map_append] at distinct
  exact fun entity member same => distinct.1 (same ▸ List.mem_map_of_mem member)

theorem get?_placed {front back : List Entity} {old : Entity} (placed : listing.entities = front ++ old :: back)
    (others : ∀ entity ∈ front, entity.id ≠ old.id) : listing.get? old.id = some old := by
  have passed : front.find? (·.id == old.id) = none := by
    apply List.find?_eq_none.mpr
    intro entity member
    simpa using others entity member
  rw [get?, placed, List.find?_append, passed, Option.none_or, List.find?_cons_of_pos (by simp)]

theorem get?_kept (kept : listing.upsert now id type properties description = (some target, merged)) :
    merged.get? target =
      some ((Update.mk now type properties description).outcome target (listing.get? target)) := by
  have answer := listing.upsert_answer now id type properties description
  have same := listing.get?_upsert now id type properties description target
  rw [kept] at answer same
  have made : (Edit.upsert now id type properties description).updateOf? target =
      some ⟨now, type, properties, description⟩ := by
    split at answer
    · cases answer
    · rename_i typed
      exact if_pos ⟨Bool.eq_false_iff.mpr typed, answer.symm⟩
  rw [made] at same
  exact same

theorem map_others {entities : List Entity} (change : Entity → Entity)
    (others : ∀ entity ∈ entities, entity.id ≠ target) :
    (entities.map fun entity => if entity.id = target then change entity else entity) = entities :=
  (List.map_congr_left fun entity member => if_neg (others entity member)).trans (List.map_id' entities)

theorem upsert_inPlace {front back : List Entity} {old : Entity}
    (kept : listing.upsert now id type properties description = (some old.id, merged))
    (placed : listing.entities = front ++ old :: back) (others : ∀ entity ∈ front ++ back, entity.id ≠ old.id) :
    merged.entities = front ++ Store.updated old now type properties description :: back := by
  obtain ⟨-, contents, -⟩ := upsert_some kept
  have listed : listing.contains old.id = true := by simp [contains, placed]
  rw [contents, if_pos listed, placed, List.map_append, List.map_cons, if_pos rfl,
    map_others _ fun entity member => others entity (List.mem_append_left back member),
    map_others _ fun entity member => others entity (List.mem_append_right front member)]

/-- A new entity is appended. -/
theorem upsert_atEnd (kept : listing.upsert now id type properties description = (some target, merged))
    (absent : listing.contains target = false) :
    merged.entities = listing.entities ++ [(Update.mk now type properties description).create target] := by
  obtain ⟨-, contents, -⟩ := upsert_some kept
  rw [contents, absent]
  rfl

theorem upsert_others (kept : listing.upsert now id type properties description = (some target, merged)) :
    merged.entities.filter (·.id ≠ target) = listing.entities.filter (·.id ≠ target) := by
  obtain ⟨-, contents, -⟩ := upsert_some kept
  rw [contents]
  split
  · have named : ((fun entity => decide (entity.id ≠ target)) ∘ fun entity : Entity =>
        if entity.id = target then Store.updated entity now type properties description else entity) =
        fun entity => decide (entity.id ≠ target) := by
      funext entity
      by_cases here : entity.id = target <;> simp [here, Store.updated]
    rw [List.filter_map, named, map_others]
    intro entity member
    simpa using (List.mem_filter.mp member).2
  · simp

theorem get?_without (listing : Listing) {gone : List String} {id : String} (left : id ∉ gone) :
    (listing.without gone).get? id = listing.get? id := by
  rw [get?, without, List.find?_filter, get?]
  congr 1
  funext entity
  by_cases named : entity.id = id <;> simp [named, left]

end Listing

namespace Store

variable {store after : Store} {now : Instant} {stamps : Nat → Stamp} {request : Consolidation}
  {report : ConsolidationReport}

/-- Among entities without the target, the sources other than the target are all of the sources. -/
theorem filter_sources {entities : List Entity} {target : String} (sources : List String)
    (others : ∀ entity ∈ entities, entity.id ≠ target) :
    (entities.filter fun entity => !(sources.filter (· != target)).contains entity.id) =
      entities.filter (!sources.contains ·.id) := by
  apply List.filter_congr
  intro entity member
  simp [others entity member]

theorem WellFormed.consolidate_leaves (valid : store.WellFormed)
    (success : store.consolidate now stamps request = (.ok report, after)) :
    request.Leaves store report.target
      ((request.update now (request.sources.filterMap store.get?)).outcome report.target (store.get? report.target))
      after := by
  obtain ⟨afterValid, outcome⟩ := valid.consolidate_ok success
  obtain ⟨-, merged, upserted, -, -, contents⟩ := Listing.consolidate_ok_iff.mp outcome
  have found : store.get? = store.listing.get? := funext valid.get?_listing
  rw [← found] at upserted
  have left : after.entities = merged.entities.filter fun entity =>
    !(request.sources.filter (· != report.target)).contains entity.id := congrArg Listing.entities contents
  refine ⟨?found, ?inPlace, ?atEnd, ?others, ?gone⟩
  case found =>
    have kept := Listing.get?_kept upserted
    rw [afterValid.get?_listing, contents, Listing.get?_without _ (by simp), found]
    rw [found] at kept
    exact kept
  case inPlace =>
    intro front old back placed named
    have others := Listing.others_of_nodup valid.nodup_ids placed
    have present : store.listing.get? old.id = some old :=
      Listing.get?_placed placed fun entity member => others entity (List.mem_append_left back member)
    rw [← named] at upserted left ⊢
    rw [left, Listing.upsert_inPlace upserted placed others, found, present, List.filter_append,
      List.filter_cons_of_pos (by simp [updated]),
      filter_sources _ fun entity member => others entity (List.mem_append_left back member),
      filter_sources _ fun entity member => others entity (List.mem_append_right front member), ← found]
    rfl
  case atEnd =>
    intro absent
    rw [valid.contains_listing] at absent
    have unknown : store.get? report.target = none := by
      rwa [found, ← Option.not_isSome_iff_eq_none, ← Listing.contains_eq_isSome, Bool.not_eq_true]
    have others : ∀ entity ∈ store.listing.entities, entity.id ≠ report.target := by
      simpa [Listing.contains] using absent
    rw [left, Listing.upsert_atEnd upserted absent, unknown, List.filter_append, filter_sources _ others,
      List.filter_cons_of_pos (by simp [Update.create])]
    rfl
  case others =>
    have away : ∀ entity ∈ merged.entities.filter (·.id ≠ report.target), entity.id ≠ report.target := by simp
    calc after.entities.filter (·.id ≠ report.target)
      _ = (merged.entities.filter (·.id ≠ report.target)).filter (!request.sources.contains ·.id) := by
        rw [left, List.filter_comm, filter_sources _ away]
      _ = (store.entities.filter (·.id ≠ report.target)).filter (!request.sources.contains ·.id) := by
        rw [Listing.upsert_others upserted]
        rfl
      _ = _ := by
        rw [List.filter_filter]
        simp [Bool.and_comm]
  case gone =>
    intro source member other
    rw [afterValid.contains_listing, contents, Bool.eq_false_iff, ne_eq, Listing.contains_without]
    simp [member, other]

/-- After any history, a consolidation that succeeds merges what its request and its sources say into the target, by a
fixed priority, and takes the other sources out; the target keeps its place, and everybody else is as before. -/
theorem consolidate_merges (config : StoreConfig) (commands : List Command) (now : Instant) (stamps : Nat → Stamp)
    (request : Consolidation) (report : ConsolidationReport) (after : Store)
    (success : (history config commands).consolidate now stamps request = (.ok report, after)) :
    ∃ entity, request.Merges (history config commands) report.target entity ∧
      request.Leaves (history config commands) report.target entity after := by
  have valid := history_wellFormed config commands
  refine ⟨_, request.merges_outcome _ now fun entity found => ?_, valid.consolidate_leaves success⟩
  exact (valid.get?_eq_some_iff.mp found).2

/-- The target is named with brackets and is the second source: it gets the first source's birthday. -/
theorem consolidate_merges_nickname :
    let stamps (n : Nat) : Stamp := ⟨⟨BitVec.ofNat 128 n⟩, ⟨n, 0⟩⟩
    let commands := [
      Command.edit (.upsert ⟨0, 0⟩ "x" "Node" .empty none),
      .edit (.upsert ⟨0, 0⟩ "Ann" "Person" (.ofList [("born", .integer 1)]) (some "writer")),
      .edit (.upsert ⟨0, 0⟩ "y" "Node" .empty none),
      .edit (.upsert ⟨0, 0⟩ "Annie" "Person" (.ofList [("born", .integer 2), ("home", .string "Rome")]) (some "poet"))]
    let request : Consolidation := ⟨["Annie", "Ann"], " [Ann] ", "Person", .ofList [("club", .string "PEN")], none⟩
    let result := (history {} commands).consolidate ⟨1, 0⟩ stamps request
    result.1 = .ok ⟨"Ann", ["Annie"], 0⟩ ∧ result.2.entities.map (·.id) = ["x", "Ann", "y"] ∧
      (result.2.get? "Ann").map (fun entity => (entity.properties.entries, entity.description)) =
        some ([("born", .integer 2), ("club", .string "PEN"), ("home", .string "Rome")], "poet | writer") ∧
      ∃ entity, request.Merges (history {} commands) "Ann" entity ∧
        request.Leaves (history {} commands) "Ann" entity result.2 := by
  intro stamps commands request result
  have success : result.1 = .ok ⟨"Ann", ["Annie"], 0⟩ := by decide +kernel
  refine ⟨success, by decide +kernel, by decide +kernel, ?_⟩
  exact consolidate_merges {} commands ⟨1, 0⟩ stamps request ⟨"Ann", ["Annie"], 0⟩ result.2 (Prod.ext success rfl)

end Store

end EntityGraph
