import EntityGraph.Store.Basic
import Mathlib.Data.List.Nodup

/-!
Look-ups of slots and ids after each change of a store, and its contents as images of its positions.
-/
namespace EntityGraph.Store

variable {store : Store} {handle : Nat}

def entityAt? (store : Store) (handle : Nat) : Option Entity := (store.node? handle).map (·.entity)

def idAt? (store : Store) (handle : Nat) : Option String := (store.entityAt? handle).map (·.id)

def relationshipAt? (store : Store) (handle : Nat) : Option Relationship :=
  (store.edge? handle).map (·.relationship)

theorem idAt?_eq_some {id : String} :
    store.idAt? handle = some id ↔ ∃ slot, store.node? handle = some slot ∧ slot.entity.id = id := by
  simp [idAt?, entityAt?, Option.map_map]

theorem idAt_of_idAt? {id : String} (named : store.idAt? handle = some id) : store.idAt handle = id := by
  obtain ⟨slot, live, same⟩ := idAt?_eq_some.mp named
  simp [idAt, live, same]

theorem lt_size_of_node {slot : NodeSlot} (live : store.node? handle = some slot) : handle < store.nodes.size :=
  (Array.getElem?_eq_some_iff.mp (Option.join_eq_some_iff.mp live)).1

theorem lt_size_of_edge {edge : EdgeSlot} (live : store.edge? handle = some edge) : handle < store.edges.size :=
  (Array.getElem?_eq_some_iff.mp (Option.join_eq_some_iff.mp live)).1

private theorem filterMap_positions (items : List α) (read : α → Option β) :
    items.filterMap read = (List.range items.length).filterMap fun i => items[i]?.bind read := by
  induction items with
  | nil => rfl
  | cons head tail ih =>
    rw [List.length_cons, List.range_succ_eq_map, List.filterMap_cons, List.filterMap_cons, List.filterMap_map]
    simp only [Function.comp_def, List.getElem?_cons_succ, List.getElem?_cons_zero, Option.bind_some, ih]

private theorem slots_filterMap (slots : Array (Option α)) (read : α → β) :
    slots.toList.filterMap (Option.map read) =
      (List.range slots.size).filterMap fun i => (slots[i]?.join).map read := by
  rw [filterMap_positions, Array.length_toList]
  apply List.filterMap_congr
  intro i _
  rw [Array.getElem?_toList]
  cases slots[i]? <;> rfl

theorem entities_eq : store.entities = (List.range store.nodes.size).filterMap store.entityAt? :=
  slots_filterMap store.nodes (·.entity)

theorem relationships_eq : store.relationships = (List.range store.edges.size).filterMap store.relationshipAt? :=
  slots_filterMap store.edges (·.relationship)

theorem mem_entities {entity : Entity} : entity ∈ store.entities ↔ ∃ handle, store.entityAt? handle = some entity := by
  rw [entities_eq, List.mem_filterMap]
  constructor
  · intro listed
    obtain ⟨handle, _, found⟩ := listed
    exact ⟨handle, found⟩
  · intro present
    obtain ⟨handle, found⟩ := present
    obtain ⟨slot, live, _⟩ := Option.map_eq_some_iff.mp found
    exact ⟨handle, List.mem_range.mpr (lt_size_of_node live), found⟩

theorem mem_relationships {relationship : Relationship} :
    relationship ∈ store.relationships ↔ ∃ handle, store.relationshipAt? handle = some relationship := by
  rw [relationships_eq, List.mem_filterMap]
  constructor
  · intro listed
    obtain ⟨handle, _, found⟩ := listed
    exact ⟨handle, found⟩
  · intro present
    obtain ⟨handle, found⟩ := present
    obtain ⟨edge, live, _⟩ := Option.map_eq_some_iff.mp found
    exact ⟨handle, List.mem_range.mpr (lt_size_of_edge live), found⟩

theorem node?_modifyNode {target : Nat} {change : NodeSlot → NodeSlot} :
    (store.modifyNode target change).node? handle =
      if target = handle then (store.node? handle).map change else store.node? handle := by
  simp only [node?, modifyNode, Array.getElem?_modify]
  split
  · cases store.nodes[handle]? with
    | none => rfl
    | some slot => cases slot <;> rfl
  · rfl

theorem entityAt?_modifyNode {target : Nat} {change : NodeSlot → NodeSlot} (update : Entity → Entity)
    (inside : ∀ slot, (change slot).entity = update slot.entity) :
    (store.modifyNode target change).entityAt? handle =
      if target = handle then (store.entityAt? handle).map update else store.entityAt? handle := by
  simp only [entityAt?, node?_modifyNode]
  split
  · simp [Option.map_map, Function.comp_def, inside]
  · rfl

/-- A change of entity slots leaves the edges alone. -/
@[simp] theorem edge?_modifyNode {target : Nat} {change : NodeSlot → NodeSlot} :
    (store.modifyNode target change).edge? = store.edge? := rfl

@[simp] theorem handle?_modifyNode {target : Nat} {change : NodeSlot → NodeSlot} :
    (store.modifyNode target change).handle? = store.handle? := rfl

@[simp] theorem nodes_size_modifyNode {target : Nat} {change : NodeSlot → NodeSlot} :
    (store.modifyNode target change).nodes.size = store.nodes.size := Array.size_modify

/-- A store with one more entity slot. -/
def append (store : Store) (entity : Entity) : Store :=
  { store with
    index := store.index.insert entity.id store.nodes.size
    nodes := store.nodes.push (some ⟨entity, [], []⟩) }

theorem node?_append {entity : Entity} :
    (store.append entity).node? handle =
      if handle = store.nodes.size then some ⟨entity, [], []⟩ else store.node? handle := by
  simp only [node?, append, Array.getElem?_push]
  split <;> rfl

theorem entityAt?_append {entity : Entity} :
    (store.append entity).entityAt? handle =
      if handle = store.nodes.size then some entity else store.entityAt? handle := by
  simp only [entityAt?, node?_append]
  split <;> rfl

theorem handle?_append {entity : Entity} {id : String} :
    (store.append entity).handle? id = if entity.id = id then some store.nodes.size else store.handle? id := by
  simp only [handle?, append, Std.TreeMap.getElem?_insert, Std.LawfulEqCmp.compare_eq_iff_eq]

theorem edge?_attach {relationship : Relationship} {source target : Nat} :
    (store.attach relationship source target).edge? handle =
      if handle = store.edges.size then some ⟨relationship, source, target⟩ else store.edge? handle := by
  change (store.edges.push _)[handle]?.join = _
  rw [Array.getElem?_push]
  split <;> rfl

theorem node?_attach {relationship : Relationship} {source target : Nat} :
    (store.attach relationship source target).node? handle =
      (store.node? handle).map fun slot =>
        { slot with
          outgoing := if source = handle then slot.outgoing ++ [store.edges.size] else slot.outgoing
          incoming := if target = handle then slot.incoming ++ [store.edges.size] else slot.incoming } := by
  simp only [attach, node?_modifyNode]
  change (if _ then Option.map _ (if _ then Option.map _ (store.node? handle) else store.node? handle)
    else if _ then Option.map _ (store.node? handle) else store.node? handle) = _
  by_cases leaving : source = handle <;> by_cases arriving : target = handle <;>
    simp [leaving, arriving, Option.map_map, Function.comp_def]

@[simp] theorem entityAt?_attach {relationship : Relationship} {source target : Nat} :
    (store.attach relationship source target).entityAt? = store.entityAt? := by
  funext handle
  simp [entityAt?, node?_attach, Option.map_map, Function.comp_def]

@[simp] theorem handle?_attach {relationship : Relationship} {source target : Nat} :
    (store.attach relationship source target).handle? = store.handle? := rfl

theorem node?_vacate {id : String} {emptied : Nat} :
    (store.vacate id emptied).node? handle = if emptied = handle then none else store.node? handle := by
  simp only [node?, vacate, Array.getElem?_setIfInBounds]
  split
  · split <;> rfl
  · rfl

theorem entityAt?_vacate {id : String} {emptied : Nat} :
    (store.vacate id emptied).entityAt? handle = if emptied = handle then none else store.entityAt? handle := by
  simp only [entityAt?, node?_vacate]
  split <;> rfl

@[simp] theorem edge?_vacate {id : String} {emptied : Nat} : (store.vacate id emptied).edge? = store.edge? := rfl

theorem handle?_vacate {id other : String} {emptied : Nat} :
    (store.vacate id emptied).handle? other = if id = other then none else store.handle? other := by
  simp only [handle?, vacate, Std.TreeMap.getElem?_erase, Std.LawfulEqCmp.compare_eq_iff_eq]

theorem edge?_dropEdge {dropped : Nat} :
    (store.dropEdge dropped).edge? handle = if dropped = handle then none else store.edge? handle := by
  unfold dropEdge
  split
  · rename_i empty
    split
    · rename_i same
      rw [← same]
      exact empty
    · rfl
  · simp only [edge?_modifyNode]
    change (store.edges.setIfInBounds dropped none)[handle]?.join = _
    rw [Array.getElem?_setIfInBounds]
    split
    · split <;> rfl
    · rfl

@[simp] theorem handle?_dropEdge {dropped : Nat} : (store.dropEdge dropped).handle? = store.handle? := by
  unfold dropEdge
  split <;> rfl

end EntityGraph.Store
