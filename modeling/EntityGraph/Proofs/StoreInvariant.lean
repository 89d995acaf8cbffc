import EntityGraph.Proofs.SlotLookup
import Mathlib.Data.List.Sort

/-!
The representation invariant of a store, kept by every change of its slots. A removal works on a store whose vacated
slot still has edges, so what holds in between is stated apart.
-/
namespace EntityGraph

inductive End where
  | source
  | target

namespace End

def node : End → EdgeSlot → Nat
  | source, edge => edge.source
  | target, edge => edge.target

def id : End → Relationship → String
  | source, relationship => relationship.source
  | target, relationship => relationship.target

def edges : End → NodeSlot → List Nat
  | source, slot => slot.outgoing
  | target, slot => slot.incoming

end End

namespace Store

variable {store after : Store}

/-- A list of positions holds exactly the live edges that have one end at a node, in ascending order. -/
structure Lists (store : Store) (side : End) (node : Nat) (handles : List Nat) : Prop where
  ascending : handles.Pairwise (· < ·)
  exact : ∀ handle, handle ∈ handles ↔ ∃ edge, store.edge? handle = some edge ∧ side.node edge = node

/-- Both lists of every live entity slot and the count agree with the live edges. -/
structure Linked (store : Store) : Prop where
  lists : ∀ side handle slot, store.node? handle = some slot → store.Lists side handle (side.edges slot)
  edgeCount : store.edgeCount = store.edges.countP (·.isSome)

/-- The index leads to a slot exactly if it is live and has the id, and both ends of a live edge are live slots with
the ids that its relationship names. -/
structure WellFormed (store : Store) : Prop extends Linked store where
  index : ∀ id handle, store.handle? id = some handle ↔
    ∃ slot, store.node? handle = some slot ∧ slot.entity.id = id
  ends : ∀ (side : End) handle edge, store.edge? handle = some edge →
    ∃ slot, store.node? (side.node edge) = some slot ∧ slot.entity.id = side.id edge.relationship

theorem Lists.congr {side : End} {node : Nat} {handles : List Nat} (listed : store.Lists side node handles)
    (same : after.edge? = store.edge?) : after.Lists side node handles :=
  ⟨listed.ascending, by simpa only [same] using listed.exact⟩

theorem Lists.attach {side : End} {node : Nat} {handles : List Nat} (listed : store.Lists side node handles)
    (relationship : Relationship) (source target : Nat) :
    (store.attach relationship source target).Lists side node
      (if side.node ⟨relationship, source, target⟩ = node then handles ++ [store.edges.size] else handles) := by
  have bounded : ∀ handle ∈ handles, handle < store.edges.size := by
    intro handle member
    obtain ⟨edge, live, _⟩ := (listed.exact handle).mp member
    exact lt_size_of_edge live
  have fresh : store.edges.size ∉ handles := fun member => Nat.lt_irrefl _ (bounded _ member)
  constructor
  · split
    · refine List.pairwise_append.mpr ⟨listed.ascending, List.pairwise_singleton _ _, ?_⟩
      intro handle member last same
      rw [List.mem_singleton.mp same]
      exact bounded handle member
    · exact listed.ascending
  · intro handle
    rw [edge?_attach]
    by_cases last : handle = store.edges.size
    · subst last
      split <;> simp_all
    · split <;> simp [last, listed.exact handle]

theorem Lists.dropEdge {side : End} {node dropped : Nat} {handles : List Nat}
    (listed : store.Lists side node handles) :
    (store.dropEdge dropped).Lists side node (handles.filter (· != dropped)) := by
  constructor
  · exact listed.ascending.filter _
  · intro handle
    rw [List.mem_filter, edge?_dropEdge, listed.exact handle]
    by_cases same : dropped = handle
    · simp [same]
    · simp [same, Ne.symm same]

theorem Lists.eq_filter {side : End} {node : Nat} {handles : List Nat} (listed : store.Lists side node handles) :
    handles = (List.range store.edges.size).filter fun handle => (store.edge? handle).any (side.node · == node) := by
  apply listed.ascending.eq_of_mem_iff (List.pairwise_lt_range.filter _)
  intro handle
  rw [listed.exact handle, List.mem_filter, List.mem_range, Option.any_eq_true]
  constructor
  · intro listed
    obtain ⟨edge, live, same⟩ := listed
    exact ⟨lt_size_of_edge live, edge, live, beq_iff_eq.mpr same⟩
  · intro listed
    obtain ⟨_, edge, live, same⟩ := listed
    exact ⟨edge, live, beq_iff_eq.mp same⟩

private theorem countP_drop {slots : Array (Option α)} {dropped : Nat} {item : α}
    (live : slots[dropped]?.join = some item) :
    (slots.setIfInBounds dropped none).countP (·.isSome) + 1 = slots.countP (·.isSome) := by
  obtain ⟨inside, found⟩ := Array.getElem?_eq_some_iff.mp (Option.join_eq_some_iff.mp live)
  have present : 0 < slots.countP (·.isSome) :=
    Array.countP_pos_iff.mpr ⟨some item, Array.mem_of_getElem found, rfl⟩
  rw [Array.setIfInBounds_def, dif_pos inside, Array.countP_set, found]
  simp
  omega

theorem Linked.edgeCount_pos (linked : store.Linked) {handle : Nat} {edge : EdgeSlot}
    (live : store.edge? handle = some edge) : 0 < store.edgeCount := by
  have counted := countP_drop live
  rw [linked.edgeCount]
  omega

theorem WellFormed.index_iff (valid : store.WellFormed) {id : String} {handle : Nat} :
    store.handle? id = some handle ↔ store.idAt? handle = some id :=
  (valid.index id handle).trans idAt?_eq_some.symm

theorem WellFormed.end_id (valid : store.WellFormed) (side : End) {handle : Nat} {edge : EdgeSlot}
    (live : store.edge? handle = some edge) :
    store.handle? (side.id edge.relationship) = some (side.node edge) :=
  (valid.index _ _).mpr (valid.ends side handle edge live)

theorem WellFormed.end_idAt (valid : store.WellFormed) (side : End) {handle : Nat} {edge : EdgeSlot}
    (live : store.edge? handle = some edge) :
    store.idAt? (side.node edge) = some (side.id edge.relationship) :=
  valid.index_iff.mp (valid.end_id side live)

theorem WellFormed.handle_inj (valid : store.WellFormed) {first second : String} {handle : Nat}
    (one : store.handle? first = some handle) (two : store.handle? second = some handle) : first = second := by
  rw [valid.index_iff] at one two
  exact Option.some.inj (one.symm.trans two)

theorem WellFormed.id_iff (valid : store.WellFormed) {id : String} {handle position : Nat} {entity : Entity}
    (known : store.handle? id = some handle) (present : store.entityAt? position = some entity) :
    entity.id = id ↔ handle = position := by
  have named : store.handle? entity.id = some position := valid.index_iff.mpr (by simp [idAt?, present])
  constructor
  · intro same
    rw [same, known] at named
    exact Option.some.inj named
  · intro here
    subst here
    exact valid.handle_inj named known

theorem WellFormed.end_iff (valid : store.WellFormed) (side : End) {id : String} {handle position : Nat}
    {edge : EdgeSlot} (known : store.handle? id = some handle) (found : store.edge? position = some edge) :
    side.id edge.relationship = id ↔ side.node edge = handle := by
  have named := valid.end_id side found
  constructor
  · intro same
    rw [same, known] at named
    exact (Option.some.inj named).symm
  · intro here
    rw [here] at named
    exact valid.handle_inj named known

/-- Ids of positions in place of slots. -/
theorem Linked.wellFormed (linked : store.Linked)
    (index : ∀ id handle, store.handle? id = some handle ↔ store.idAt? handle = some id)
    (ends : ∀ (side : End) handle edge, store.edge? handle = some edge →
      store.idAt? (side.node edge) = some (side.id edge.relationship)) : store.WellFormed :=
  { linked with
    index := fun id handle => (index id handle).trans idAt?_eq_some
    ends := fun side handle edge live => idAt?_eq_some.mp (ends side handle edge live) }

theorem WellFormed.empty (config : StoreConfig) : (empty config).WellFormed := by
  have noNode (handle : Nat) : (Store.empty config).node? handle = none := by simp [Store.empty, node?]
  have noEdge (handle : Nat) : (Store.empty config).edge? handle = none := by simp [Store.empty, edge?]
  have noIndex (id : String) : (Store.empty config).handle? id = none := by simp [Store.empty, handle?]
  constructor
  · constructor
    · simp [noNode]
    · simp [Store.empty]
  · simp [noNode, noIndex]
  · simp [noEdge]

/-- A new entity has a slot of its own, to which no edge leads yet. -/
theorem WellFormed.append (valid : store.WellFormed) {entity : Entity}
    (fresh : store.handle? entity.id = none) : (store.append entity).WellFormed := by
  have sameEdges : (store.append entity).edge? = store.edge? := rfl
  have bounded {handle : Nat} {id : String} (named : store.idAt? handle = some id) : handle ≠ store.nodes.size := by
    obtain ⟨slot, live, _⟩ := idAt?_eq_some.mp named
    exact Nat.ne_of_lt (lt_size_of_node live)
  refine Linked.wellFormed ⟨?_, valid.edgeCount⟩ ?_ ?_
  · intro side handle slot live
    rw [node?_append] at live
    split at live
    · rename_i last
      cases live
      have none : side.edges ⟨entity, [], []⟩ = [] := by cases side <;> rfl
      rw [none]
      refine ⟨List.Pairwise.nil, fun edge => ⟨fun member => by simp at member, ?_⟩⟩
      intro listed
      obtain ⟨slot, found, beyond⟩ := listed
      exact absurd (beyond.trans last) (bounded (valid.end_idAt side found))
    · exact (valid.lists side handle slot live).congr sameEdges
  · intro id handle
    rw [handle?_append, idAt?, entityAt?_append]
    by_cases last : handle = store.nodes.size
    · have unused : store.handle? id ≠ some handle := fun found => bounded (valid.index_iff.mp found) last
      by_cases named : entity.id = id <;> simp_all
    · rw [if_neg last, ← idAt?, ← valid.index_iff]
      by_cases named : entity.id = id
      · subst named
        simp [fresh, Ne.symm last]
      · simp [named]
  · intro side handle edge found
    have named := valid.end_idAt side (sameEdges ▸ found)
    rw [idAt?, entityAt?_append, if_neg (bounded named)]
    exact named

/-- A change of one slot that leaves its id and its lists as they are. -/
theorem WellFormed.modifyNode (valid : store.WellFormed) {target : Nat} {change : NodeSlot → NodeSlot}
    (sameId : (store.modifyNode target change).idAt? = store.idAt?)
    (sameLists : ∀ slot (side : End), side.edges (change slot) = side.edges slot) :
    (store.modifyNode target change).WellFormed := by
  refine Linked.wellFormed ⟨?_, valid.edgeCount⟩ ?_ ?_
  · intro side handle slot live
    rw [node?_modifyNode] at live
    split at live
    · obtain ⟨old, found, rfl⟩ := Option.map_eq_some_iff.mp live
      rw [sameLists]
      exact (valid.lists side handle old found).congr rfl
    · exact (valid.lists side handle slot live).congr rfl
  · intro id handle
    rw [sameId]
    exact valid.index_iff
  · intro side handle edge found
    rw [sameId]
    exact valid.end_idAt side found

/-- A new edge between the positions of the ids that its relationship names. -/
theorem WellFormed.attach (valid : store.WellFormed) {relationship : Relationship} {source target : Nat}
    (sourceFound : store.handle? relationship.source = some source)
    (targetFound : store.handle? relationship.target = some target) :
    (store.attach relationship source target).WellFormed := by
  have sameIds : (store.attach relationship source target).idAt? = store.idAt? := by
    funext handle
    simp [idAt?]
  refine Linked.wellFormed ⟨?_, ?_⟩ ?_ ?_
  · intro side handle slot live
    rw [node?_attach] at live
    obtain ⟨old, found, rfl⟩ := Option.map_eq_some_iff.mp live
    have listed := (valid.lists side handle old found).attach relationship source target
    cases side <;> exact listed
  · change store.edgeCount + 1 = (store.edges.push _).countP _
    rw [Array.countP_push, valid.edgeCount]
    simp
  · intro id handle
    rw [handle?_attach, sameIds]
    exact valid.index_iff
  · intro side handle edge found
    rw [sameIds]
    rw [edge?_attach] at found
    split at found
    · cases found
      cases side
      · exact valid.index_iff.mp sourceFound
      · exact valid.index_iff.mp targetFound
    · exact valid.end_idAt side found

@[simp] theorem detach_edges (slot : NodeSlot) (side : End) (dropped : Nat) :
    side.edges (slot.detach dropped) = (side.edges slot).filter (· != dropped) := by
  cases side <;> rfl

private theorem detach_unlisted {slot : NodeSlot} {dropped : Nat}
    (unlisted : ∀ side : End, dropped ∉ side.edges slot) : slot.detach dropped = slot := by
  have kept (side : End) : (side.edges slot).filter (· != dropped) = side.edges slot := by
    apply List.filter_eq_self.mpr
    intro handle member
    simpa using fun same : handle = dropped => unlisted side (same ▸ member)
  have outgoing := kept .source
  have incoming := kept .target
  simp only [End.edges] at outgoing incoming
  rw [NodeSlot.detach, outgoing, incoming]

private theorem detach_twice (slot : NodeSlot) (dropped : Nat) :
    (slot.detach dropped).detach dropped = slot.detach dropped := by
  simp [NodeSlot.detach]

theorem Linked.node?_dropEdge (linked : store.Linked) {dropped handle : Nat} :
    (store.dropEdge dropped).node? handle = (store.node? handle).map (·.detach dropped) := by
  -- A slot that is not at an end of the edge does not list it.
  have away (elsewhere : ∀ edge, store.edge? dropped = some edge → ∀ side : End, side.node edge ≠ handle) :
      store.node? handle = (store.node? handle).map (·.detach dropped) := by
    cases live : store.node? handle with
    | none => rfl
    | some slot =>
      rw [Option.map_some, detach_unlisted]
      intro side member
      obtain ⟨edge, found, here⟩ := ((linked.lists side handle slot live).exact dropped).mp member
      exact elsewhere edge found side here
  unfold dropEdge
  split
  · rename_i empty
    exact away fun edge found => by rw [empty] at found; cases found
  · rename_i edge found
    simp only [node?_modifyNode]
    change (if _ then Option.map _ (if _ then Option.map _ (store.node? handle) else store.node? handle)
      else if _ then Option.map _ (store.node? handle) else store.node? handle) = _
    by_cases atTarget : edge.target = handle <;> by_cases atSource : edge.source = handle
    · simp [atTarget, atSource, Option.map_map, Function.comp_def, detach_twice]
    · simp [atTarget, atSource]
    · simp [atTarget, atSource]
    · rw [if_neg atTarget, if_neg atSource]
      apply away
      intro other same side
      rw [found] at same
      cases same
      cases side
      · exact atSource
      · exact atTarget

theorem Linked.entityAt?_dropEdge (linked : store.Linked) {dropped : Nat} :
    (store.dropEdge dropped).entityAt? = store.entityAt? := by
  funext handle
  simp [entityAt?, linked.node?_dropEdge, Option.map_map, Function.comp_def, NodeSlot.detach]

theorem Linked.dropEdge (linked : store.Linked) (dropped : Nat) : (store.dropEdge dropped).Linked := by
  constructor
  · intro side handle slot live
    rw [linked.node?_dropEdge] at live
    obtain ⟨old, found, rfl⟩ := Option.map_eq_some_iff.mp live
    rw [detach_edges]
    exact (linked.lists side handle old found).dropEdge
  · unfold Store.dropEdge
    split
    · exact linked.edgeCount
    · rename_i edge found
      have counted := countP_drop found
      change store.edgeCount - 1 = (store.edges.setIfInBounds dropped none).countP (·.isSome)
      rw [linked.edgeCount]
      omega

theorem Linked.dropEdges (linked : store.Linked) (dropped : List Nat) :
    (dropped.foldl Store.dropEdge store).Linked ∧
      (dropped.foldl Store.dropEdge store).entityAt? = store.entityAt? := by
  induction dropped generalizing store with
  | nil => exact ⟨linked, rfl⟩
  | cons first rest ih =>
    obtain ⟨kept, same⟩ := ih (linked.dropEdge first)
    exact ⟨kept, same.trans linked.entityAt?_dropEdge⟩

theorem edge?_dropEdges (dropped : List Nat) {handle : Nat} :
    (dropped.foldl Store.dropEdge store).edge? handle = if handle ∈ dropped then none else store.edge? handle := by
  induction dropped generalizing store with
  | nil => rfl
  | cons first rest ih =>
    rw [List.foldl_cons, ih, edge?_dropEdge]
    by_cases here : handle = first
    · simp [here]
    · simp [here, Ne.symm here]

theorem handle?_dropEdges (dropped : List Nat) :
    (dropped.foldl Store.dropEdge store).handle? = store.handle? := by
  induction dropped generalizing store with
  | nil => rfl
  | cons first rest ih => rw [List.foldl_cons, ih, handle?_dropEdge]

theorem Linked.vacate (linked : store.Linked) (id : String) (emptied : Nat) : (store.vacate id emptied).Linked := by
  refine ⟨?_, linked.edgeCount⟩
  intro side handle slot live
  rw [node?_vacate] at live
  split at live
  · cases live
  · exact (linked.lists side handle slot live).congr rfl

theorem WellFormed.mem_dropped (valid : store.WellFormed) {handle edgeHandle : Nat} {slot : NodeSlot}
    {edge : EdgeSlot} (live : store.node? handle = some slot) (found : store.edge? edgeHandle = some edge) :
    edgeHandle ∈ slot.outgoing ++ slot.incoming ↔ edge.source = handle ∨ edge.target = handle := by
  have listed (side : End) : edgeHandle ∈ side.edges slot ↔ side.node edge = handle := by
    rw [(valid.lists side handle slot live).exact, found]
    simp
  rw [List.mem_append]
  exact or_congr (listed .source) (listed .target)

theorem WellFormed.vacated (valid : store.WellFormed) {id : String} {handle : Nat} {slot : NodeSlot}
    (known : store.handle? id = some handle) (live : store.node? handle = some slot) :
    ((slot.outgoing ++ slot.incoming).foldl Store.dropEdge (store.vacate id handle)).WellFormed := by
  obtain ⟨linked, sameEntities⟩ := (valid.vacate id handle).dropEdges (slot.outgoing ++ slot.incoming)
  have ids {other : Nat} :
      ((slot.outgoing ++ slot.incoming).foldl Store.dropEdge (store.vacate id handle)).idAt? other =
      if handle = other then none else store.idAt? other := by
    rw [idAt?, sameEntities, entityAt?_vacate]
    split <;> rfl
  refine linked.wellFormed ?_ ?_
  · intro other position
    rw [handle?_dropEdges, handle?_vacate, ids]
    by_cases same : id = other
    · subst same
      by_cases here : handle = position
      · simp [here]
      · rw [if_pos rfl, if_neg here, ← valid.index_iff, known]
        simp [here]
    · by_cases here : handle = position
      · subst here
        rw [if_neg same, if_pos rfl]
        have unnamed : store.handle? other ≠ some handle := fun named => same (valid.handle_inj known named)
        simp [unnamed]
      · rw [if_neg same, if_neg here]
        exact valid.index_iff
  · intro side edgeHandle edge found
    rw [edge?_dropEdges, edge?_vacate] at found
    split at found
    · cases found
    · rename_i kept
      rw [valid.mem_dropped live found, not_or] at kept
      have elsewhere : handle ≠ side.node edge := by
        cases side
        · exact Ne.symm kept.1
        · exact Ne.symm kept.2
      rw [ids, if_neg elsewhere]
      exact valid.end_idAt side found

/-- Whenever a removal takes an edge away there is one to count. -/
def CountsRemovals (store : Store) : Prop :=
  ∀ id handle slot, store.handle? id = some handle → store.node? handle = some slot →
    ∀ earlier edge later, slot.outgoing ++ slot.incoming = earlier ++ edge :: later →
      ((earlier.foldl Store.dropEdge (store.vacate id handle)).edge? edge).isSome →
        0 < (earlier.foldl Store.dropEdge (store.vacate id handle)).edgeCount

theorem WellFormed.countsRemovals (valid : store.WellFormed) : store.CountsRemovals := by
  intro id handle slot _ _ earlier edge later _ present
  obtain ⟨found, live⟩ := Option.isSome_iff_exists.mp present
  exact ((valid.vacate id handle).dropEdges earlier).1.edgeCount_pos live

/-- The ids of all entities in the order of their insertion. -/
def ids (store : Store) : List String := store.entities.map (·.id)

theorem ids_eq : store.ids = (List.range store.nodes.size).filterMap store.idAt? := by
  rw [ids, entities_eq, List.map_filterMap]
  rfl

theorem WellFormed.mem_ids (valid : store.WellFormed) {id : String} :
    id ∈ store.ids ↔ ∃ handle, store.handle? id = some handle := by
  rw [ids_eq, List.mem_filterMap]
  constructor
  · intro listed
    obtain ⟨handle, _, named⟩ := listed
    exact ⟨handle, valid.index_iff.mpr named⟩
  · intro known
    obtain ⟨handle, found⟩ := known
    obtain ⟨slot, live, _⟩ := (valid.index id handle).mp found
    exact ⟨handle, List.mem_range.mpr (lt_size_of_node live), valid.index_iff.mp found⟩

theorem WellFormed.contains_iff (valid : store.WellFormed) {id : String} :
    store.contains id = true ↔ id ∈ store.ids := by
  rw [valid.mem_ids, contains, Option.isSome_iff_exists]

theorem WellFormed.nodup_ids (valid : store.WellFormed) : store.ids.Nodup := by
  rw [ids_eq]
  apply List.Nodup.filterMap _ List.nodup_range
  intro first second id one two
  have same := (valid.index_iff.mpr one).symm.trans (valid.index_iff.mpr two)
  exact Option.some.inj same

theorem WellFormed.entityCount_eq_length (valid : store.WellFormed) : store.entityCount = store.ids.length := by
  have keys : store.index.keys.Perm store.ids := by
    rw [List.perm_ext_iff_of_nodup Std.TreeMap.nodup_keys valid.nodup_ids]
    intro id
    rw [valid.mem_ids, Std.TreeMap.mem_keys, Std.TreeMap.mem_iff_isSome_getElem?, Option.isSome_iff_exists]
    rfl
  rw [entityCount, ← Std.TreeMap.length_keys, keys.length_eq]

theorem WellFormed.entityCount_eq (valid : store.WellFormed) :
    store.entityCount = store.nodes.countP (·.isSome) := by
  rw [valid.entityCount_eq_length, ids, List.length_map, entities, List.length_filterMap_eq_countP,
    ← Array.countP_toList]
  simp only [Option.isSome_map]

theorem Linked.relationshipCount_eq (linked : store.Linked) :
    store.relationshipCount = store.relationships.length := by
  rw [relationshipCount, linked.edgeCount, relationships, List.length_filterMap_eq_countP, ← Array.countP_toList]
  simp only [Option.isSome_map]

end Store

end EntityGraph
