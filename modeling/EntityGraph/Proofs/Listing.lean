import EntityGraph.Proofs.StoreHistory
import EntityGraph.Store.Search
import EntityGraph.Store.View

/-!
A graph as two plain lists, with the edits and observers that a store has, and the contents of a store as such lists.
-/
namespace EntityGraph

/-- Induction along the way repeats are erased: after an item, the rest without it. -/
private theorem distinct_induction [BEq α] {motive : List α → Prop} (nil : motive [])
    (cons : ∀ head tail, motive (tail.filter fun item => !item == head) → motive (head :: tail)) (items : List α) :
    motive items := by
  induction bound : items.length using Nat.strong_induction_on generalizing items with
  | _ length ih =>
    cases items with
    | nil => exact nil
    | cons head tail =>
      have shorter := List.length_filter_le (fun item => !item == head) tail
      simp only [List.length_cons] at bound
      exact cons head tail (ih _ (by omega) _ rfl)

theorem nodup_eraseDups [BEq α] [LawfulBEq α] (items : List α) : items.eraseDups.Nodup := by
  induction items using distinct_induction with
  | nil => simp
  | cons head tail ih =>
    rw [List.eraseDups_cons, List.nodup_cons]
    exact ⟨by simp, ih⟩

theorem eraseDups_sublist [BEq α] [LawfulBEq α] (items : List α) : items.eraseDups.Sublist items := by
  induction items using distinct_induction with
  | nil => simp
  | cons head tail ih =>
    rw [List.eraseDups_cons]
    exact (ih.trans List.filter_sublist).cons_cons head

theorem eraseDups_of_nodup [BEq α] [LawfulBEq α] {items : List α} (distinct : items.Nodup) : items.eraseDups = items :=
  (eraseDups_sublist items).eq_of_length_le
    (distinct.length_le_of_subset fun _ member => List.mem_eraseDups.mpr member)

theorem eraseDups_concat [BEq α] [LawfulBEq α] [DecidableEq α] (items : List α) (item : α) :
    (items ++ [item]).eraseDups = items.eraseDups ++ if item ∈ items then [] else [item] := by
  rw [List.eraseDups_append]
  congr 1
  by_cases listed : item ∈ items
  · rw [if_pos listed, List.removeAll, List.filter_cons_of_neg (by simpa using listed)]
    rfl
  · rw [if_neg listed, List.removeAll, List.filter_cons_of_pos (by simpa using listed)]
    rfl

theorem map_eraseDups [BEq α] [LawfulBEq α] [BEq β] [LawfulBEq β] {rename : α → β} (items : List α)
    (injective : ∀ first ∈ items, ∀ second ∈ items, rename first = rename second → first = second) :
    items.eraseDups.map rename = (items.map rename).eraseDups := by
  induction items using distinct_induction with
  | nil => simp
  | cons head tail ih =>
    have others : (tail.filter fun item => !item == head).map rename =
        (tail.map rename).filter fun item => !item == rename head := by
      rw [List.filter_map]
      congr 1
      apply List.filter_congr
      intro item member
      have same : rename item = rename head ↔ item = head :=
        ⟨injective item (List.mem_cons_of_mem _ member) head (List.mem_cons_self ..), congrArg rename⟩
      simp [same]
    rw [List.eraseDups_cons, List.map_cons, List.map_cons, List.eraseDups_cons, ← others]
    congr 1
    apply ih
    intro first one second two
    exact injective first (List.mem_cons_of_mem _ (List.mem_filter.mp one).1) second
      (List.mem_cons_of_mem _ (List.mem_filter.mp two).1)

/-- The entities and the relationships of a graph, each in the order of their insertion. -/
structure Listing where
  entities : List Entity
  relationships : List Relationship

namespace Listing

def empty : Listing := ⟨[], []⟩

def contains (listing : Listing) (id : String) : Bool := listing.entities.any (·.id == id)

def get? (listing : Listing) (id : String) : Option Entity := listing.entities.find? (·.id == id)

/-- An entity whose id is listed is updated in its place, another one is appended. -/
def upsert (listing : Listing) (now : Instant) (id type : String) (properties : Properties)
    (description : Option String) : Option String × Listing :=
  if isBlankText type then (none, listing)
  else match Store.normalId? id type with
    | none => (none, listing)
    | some id =>
      if listing.contains id then
        (some id, { listing with entities := listing.entities.map fun entity =>
          if entity.id = id then Store.updated entity now type properties description else entity })
      else
        (some id, { listing with entities :=
          listing.entities ++ [⟨id, type, description.getD "", properties, now, none⟩] })

/-- The id without blanks if it is listed, else the id without brackets if that is. -/
def endpoint? (listing : Listing) (id : String) : Option String :=
  if listing.contains (trim id) then some (trim id)
  else if listing.contains (stripBrackets (trim id)) then some (stripBrackets (trim id))
  else none

/-- Appends one relationship if its type is not empty and both ends are not blank and name entities. -/
def relate (listing : Listing) (stamp : Stamp) (source target type : String) (properties : Properties)
    (weight : Double) : Bool × Listing :=
  if isBlankText source ∨ isBlankText target ∨ type.isEmpty then (false, listing)
  else match listing.endpoint? source, listing.endpoint? target with
    | some source, some target =>
      (true, { listing with relationships :=
        listing.relationships ++ [⟨stamp.id, source, target, type, weight, properties, stamp.time⟩] })
    | _, _ => (false, listing)

def remove (listing : Listing) (id : String) : Option Entity × Listing :=
  match listing.get? id with
  | none => (none, listing)
  | some entity => (some entity,
      { entities := listing.entities.filter (·.id ≠ id)
        relationships := listing.relationships.filter fun relationship =>
          relationship.source ≠ id ∧ relationship.target ≠ id })

end Listing

def Edit.applyTo (listing : Listing) : Edit → Answer × Listing
  | upsert now name type properties description =>
    (listing.upsert now name type properties description).map .keptUnder id
  | relate stamp source target type properties weight =>
    (listing.relate stamp source target type properties weight).map .related id
  | remove name => (listing.remove name).map .removed id
  | clear => (.cleared, .empty)

/-- The answers to a sequence of edits and the state after them. -/
def Edit.run (apply : State → Edit → Answer × State) (state : State) : List Edit → List Answer × State
  | [] => ([], state)
  | edit :: rest =>
    let (answer, next) := apply state edit
    let (answers, last) := run apply next rest
    (answer :: answers, last)

theorem Edit.run_cons (apply : State → Edit → Answer × State) (state : State) (first : Edit) (rest : List Edit) :
    run apply state (first :: rest) = ((apply state first).1 :: (run apply (apply state first).2 rest).1,
      (run apply (apply state first).2 rest).2) := rfl

namespace Store

def listing (store : Store) : Listing := ⟨store.entities, store.relationships⟩

theorem listing_empty (config : StoreConfig) : (empty config).listing = Listing.empty := by
  simp [listing, empty, entities, relationships, Listing.empty]

/-- An answer with the contents of the store after it. -/
def observed (result : α × Store) : α × Listing := (result.1, result.2.listing)

variable {store : Store}

theorem entities_append (entity : Entity) : (store.append entity).entities = store.entities ++ [entity] := by
  have grown : (store.append entity).nodes.size = store.nodes.size + 1 := Array.size_push _
  rw [entities_eq, grown, List.range_succ, List.filterMap_append, entities_eq]
  congr 1
  · apply List.filterMap_congr
    intro handle inside
    rw [entityAt?_append, if_neg (Nat.ne_of_lt (List.mem_range.mp inside))]
  · simp [entityAt?_append]

theorem WellFormed.entities_modify (valid : store.WellFormed) {id : String} {handle : Nat}
    (known : store.handle? id = some handle) (update : Entity → Entity) :
    (store.modifyNode handle fun slot => { slot with entity := update slot.entity }).entities =
      store.entities.map fun entity => if entity.id = id then update entity else entity := by
  rw [entities_eq, entities_eq, List.map_filterMap, nodes_size_modifyNode]
  apply List.filterMap_congr
  intro position _
  rw [entityAt?_modifyNode update (fun _ => rfl)]
  cases present : store.entityAt? position with
  | none => simp
  | some entity => by_cases here : handle = position <;> simp [valid.id_iff known present, here]

theorem relationships_attach (relationship : Relationship) (source target : Nat) :
    (store.attach relationship source target).relationships = store.relationships ++ [relationship] := by
  have grown : (store.attach relationship source target).edges.size = store.edges.size + 1 := Array.size_push _
  rw [relationships_eq, grown, List.range_succ, List.filterMap_append, relationships_eq]
  congr 1
  · apply List.filterMap_congr
    intro handle inside
    rw [relationshipAt?, edge?_attach, if_neg (Nat.ne_of_lt (List.mem_range.mp inside)), relationshipAt?]
  · simp [relationshipAt?, edge?_attach]

theorem entities_attach (relationship : Relationship) (source target : Nat) :
    (store.attach relationship source target).entities = store.entities := by
  have same : (store.attach relationship source target).nodes.size = store.nodes.size := by
    simp [attach]
  rw [entities_eq, same, entityAt?_attach, entities_eq]

theorem sizes_dropEdge (store : Store) (dropped : Nat) : (store.dropEdge dropped).nodes.size = store.nodes.size ∧
    (store.dropEdge dropped).edges.size = store.edges.size := by
  unfold dropEdge
  split
  · exact ⟨rfl, rfl⟩
  · simp [modifyNode]

theorem sizes_dropEdges (store : Store) (dropped : List Nat) :
    (dropped.foldl dropEdge store).nodes.size = store.nodes.size ∧
      (dropped.foldl dropEdge store).edges.size = store.edges.size := by
  induction dropped generalizing store with
  | nil => exact ⟨rfl, rfl⟩
  | cons first rest ih =>
    obtain ⟨nodes, edges⟩ := sizes_dropEdge store first
    obtain ⟨laterNodes, laterEdges⟩ := ih (store.dropEdge first)
    exact ⟨laterNodes.trans nodes, laterEdges.trans edges⟩

theorem WellFormed.listing_vacated (valid : store.WellFormed) {id : String} {handle : Nat} {slot : NodeSlot}
    (known : store.handle? id = some handle) (live : store.node? handle = some slot) :
    ((slot.outgoing ++ slot.incoming).foldl dropEdge (store.vacate id handle)).listing =
      { entities := store.entities.filter (·.id ≠ id)
        relationships := store.relationships.filter fun relationship =>
          relationship.source ≠ id ∧ relationship.target ≠ id } := by
  have sizes := sizes_dropEdges (store.vacate id handle) (slot.outgoing ++ slot.incoming)
  have nodes : (store.vacate id handle).nodes.size = store.nodes.size := by simp [vacate]
  rw [listing, Listing.mk.injEq]
  constructor
  · rw [entities_eq, sizes.1, nodes, entities_eq, List.filter_filterMap]
    apply List.filterMap_congr
    intro position _
    rw [((valid.vacate id handle).dropEdges _).2, entityAt?_vacate]
    cases present : store.entityAt? position with
    | none => simp
    | some entity => by_cases here : handle = position <;> simp [Option.filter, valid.id_iff known present, here]
  · rw [relationships_eq, sizes.2, relationships_eq, List.filter_filterMap]
    apply List.filterMap_congr
    intro position _
    rw [relationshipAt?, edge?_dropEdges, edge?_vacate, relationshipAt?]
    cases found : store.edge? position with
    | none => simp
    | some edge =>
      have dropped : position ∈ slot.outgoing ++ slot.incoming ↔
          edge.relationship.source = id ∨ edge.relationship.target = id :=
        (valid.mem_dropped live found).trans
          (or_congr (valid.end_iff .source known found) (valid.end_iff .target known found)).symm
      by_cases gone : edge.relationship.source = id ∨ edge.relationship.target = id
      · rw [if_pos (dropped.mpr gone)]
        rcases gone with same | same <;> simp [Option.filter, same]
      · rw [if_neg (mt dropped.mp gone)]
        rw [not_or] at gone
        simp [Option.filter, gone]

end Store

end EntityGraph
