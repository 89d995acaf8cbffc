import EntityGraph.Proofs.Listing

/-!
A store refines the two lists of its contents: edits commute with reading the contents off, and every observer answers
what the lists say.
-/
namespace EntityGraph.Store

variable {store : Store}

theorem WellFormed.contains_listing (valid : store.WellFormed) (id : String) :
    store.contains id = store.listing.contains id := by
  rw [Bool.eq_iff_iff, valid.contains_iff]
  simp [ids, listing, Listing.contains]

theorem WellFormed.get?_id (valid : store.WellFormed) {entity : Entity} (member : entity ∈ store.entities) :
    store.get? entity.id = some entity := by
  obtain ⟨handle, present⟩ := mem_entities.mp member
  obtain ⟨slot, live, rfl⟩ := Option.map_eq_some_iff.mp present
  have known := valid.index_iff.mpr (idAt?_eq_some.mpr ⟨slot, live, rfl⟩)
  simp [get?, slot?, known, live]

theorem WellFormed.get?_listing (valid : store.WellFormed) (id : String) :
    store.get? id = store.listing.get? id := by
  cases known : store.handle? id with
  | none =>
    have absent : id ∉ store.ids := by
      rw [valid.mem_ids]
      simp [known]
    have missing : store.listing.get? id = none := by
      apply List.find?_eq_none.mpr
      intro entity member same
      exact absent (List.mem_map.mpr ⟨entity, member, beq_iff_eq.mp same⟩)
    simp [get?, slot?, known, missing]
  | some handle =>
    obtain ⟨slot, live, named⟩ := (valid.index _ _).mp known
    have member : slot.entity ∈ store.entities := mem_entities.mpr ⟨handle, by simp [entityAt?, live]⟩
    have found : store.get? id = some slot.entity := by simp [get?, slot?, known, live]
    rw [found]
    cases listed : store.listing.get? id with
    | none => exact absurd (beq_iff_eq.mpr named) (List.find?_eq_none.mp listed slot.entity member)
    | some other =>
      have same : other.id = id := by simpa using List.find?_some listed
      have unique := List.inj_on_of_nodup_map valid.nodup_ids member (List.mem_of_find?_eq_some listed)
      rw [unique (named.trans same.symm)]

theorem WellFormed.get?_eq_some_iff (valid : store.WellFormed) {id : String} {entity : Entity} :
    store.get? id = some entity ↔ entity ∈ store.entities ∧ entity.id = id := by
  constructor
  · intro found
    rw [valid.get?_listing] at found
    exact ⟨List.mem_of_find?_eq_some found, by simpa using List.find?_some found⟩
  · rintro ⟨member, rfl⟩
    exact valid.get?_id member

theorem WellFormed.endpoint?_listing (valid : store.WellFormed) (id : String) :
    store.endpoint? id = store.listing.endpoint? id := by
  unfold endpoint? Listing.endpoint?
  simp only [valid.contains_listing]
  by_cases plain : store.listing.contains (trim id) = true
  · simp [plain]
  · by_cases same : stripBrackets (trim id) = trim id
    · simp [plain, same]
    · simp [plain, same]

theorem handle?_of_endpoint {id name : String} (found : store.endpoint? id = some name) :
    ∃ handle, store.handle? name = some handle := by
  simp only [endpoint?] at found
  split at found
  · rename_i present
    cases found
    exact Option.isSome_iff_exists.mp present
  · split at found
    · rename_i present
      cases found
      exact Option.isSome_iff_exists.mp present.2
    · cases found

/-- The types in use, each once and in ascending order. -/
theorem allTypes_ascending : store.allTypes.Pairwise (· < ·) := by
  have sorted : store.allTypes.Pairwise fun a b => decide (a ≤ b) = true := by
    apply List.pairwise_mergeSort
    · intro a b c first second
      exact decide_eq_true (String.le_trans (of_decide_eq_true first) (of_decide_eq_true second))
    · intro a b
      simpa using String.le_total a b
  have distinct : store.allTypes.Nodup := (List.mergeSort_perm _ _).nodup_iff.mpr (nodup_eraseDups _)
  refine (sorted.and distinct).imp ?_
  rintro a b ⟨ordered, different⟩
  exact Std.lt_of_le_of_ne (of_decide_eq_true ordered) different

theorem mem_allTypes {type : String} :
    type ∈ store.allTypes ↔ type ≠ "" ∧ ∃ entity ∈ store.entities, entity.type = type := by
  simp [allTypes, and_comm]

/-- The edges listed at a node are the relationships that name its id, in the order of all relationships. -/
theorem WellFormed.relationshipsAt_listing (valid : store.WellFormed) (side : End) {id : String} {handle : Nat}
    {slot : NodeSlot} (known : store.handle? id = some handle) (live : store.node? handle = some slot) :
    store.relationshipsAt (side.edges slot) = store.relationships.filter (side.id · == id) := by
  rw [(valid.lists side handle slot live).eq_filter, relationshipsAt, List.filterMap_filter, relationships_eq,
    List.filter_filterMap]
  apply List.filterMap_congr
  intro position _
  rw [relationshipAt?]
  cases found : store.edge? position with
  | none => simp
  | some edge =>
    by_cases here : side.node edge = handle <;> simp [Option.filter, valid.end_iff side known found, here]

theorem WellFormed.no_relationships (valid : store.WellFormed) (side : End) {id : String}
    (unknown : store.handle? id = none) : store.relationships.filter (side.id · == id) = [] := by
  apply List.filter_eq_nil_iff.mpr
  intro relationship member same
  obtain ⟨position, found⟩ := mem_relationships.mp member
  obtain ⟨edge, present, rfl⟩ := Option.map_eq_some_iff.mp found
  have named := valid.end_id side present
  rw [beq_iff_eq.mp same, unknown] at named
  cases named

theorem WellFormed.incident_listing (valid : store.WellFormed) (side : End) (id : String) :
    ((store.slot? id).map fun slot => store.relationshipsAt (side.edges slot)).getD [] =
      store.relationships.filter (side.id · == id) := by
  cases known : store.handle? id with
  | none => simp [slot?, known, valid.no_relationships side known]
  | some handle =>
    obtain ⟨slot, live, _⟩ := (valid.index _ _).mp known
    simp [slot?, known, live, valid.relationshipsAt_listing side known live]

theorem WellFormed.outgoing_listing (valid : store.WellFormed) (id : String) :
    store.outgoing id = store.relationships.filter (·.source == id) := valid.incident_listing .source id

theorem WellFormed.incoming_listing (valid : store.WellFormed) (id : String) :
    store.incoming id = store.relationships.filter (·.target == id) := valid.incident_listing .target id

theorem WellFormed.end_mem_ids (valid : store.WellFormed) (side : End) {relationship : Relationship}
    (member : relationship ∈ store.relationships) : side.id relationship ∈ store.ids := by
  obtain ⟨position, found⟩ := mem_relationships.mp member
  obtain ⟨edge, present, rfl⟩ := Option.map_eq_some_iff.mp found
  exact valid.mem_ids.mpr ⟨_, valid.end_id side present⟩

theorem WellFormed.upsert_listing (valid : store.WellFormed) (now : Instant) (id type : String)
    (properties : Properties) (description : Option String) :
    observed (store.upsert now id type properties description) =
      store.listing.upsert now id type properties description := by
  cases typed : isBlankText type with
  | true => simp [observed, Store.upsert, Listing.upsert, typed]
  | false =>
    cases named : normalId? id type with
    | none => simp [observed, Store.upsert, Listing.upsert, typed, named]
    | some normal =>
      have listed := valid.contains_listing normal
      cases known : store.handle? normal with
      | none =>
        have absent : store.listing.contains normal = false := by simpa [contains, known] using listed.symm
        rw [upsert_fresh typed named known, observed, listing, entities_append]
        simp only [Listing.upsert, typed, named, absent]
        rfl
      | some handle =>
        have present : store.listing.contains normal = true := by simpa [contains, known] using listed.symm
        rw [valid.upsert_known typed named known, observed, listing,
          valid.entities_modify known (updated · now type properties description)]
        simp only [Listing.upsert, typed, named, present]
        rfl

theorem WellFormed.relate_listing (valid : store.WellFormed) (stamp : Stamp) (source target type : String)
    (properties : Properties) (weight : Double) :
    observed (store.addRelationship stamp source target type properties weight) =
      store.listing.relate stamp source target type properties weight := by
  unfold Store.addRelationship Listing.relate
  rw [← valid.endpoint?_listing, ← valid.endpoint?_listing]
  split
  · rfl
  · cases sourceNamed : store.endpoint? source with
    | none => rfl
    | some sourceId =>
      cases targetNamed : store.endpoint? target with
      | none => rfl
      | some targetId =>
        obtain ⟨sourceHandle, sourceKnown⟩ := handle?_of_endpoint sourceNamed
        obtain ⟨targetHandle, targetKnown⟩ := handle?_of_endpoint targetNamed
        simp only [Store.insertRelationship, sourceKnown, targetKnown, observed]
        rw [listing, relationships_attach, entities_attach]
        rfl

theorem WellFormed.remove_listing (valid : store.WellFormed) (id : String) :
    observed (store.remove id) = store.listing.remove id := by
  unfold Listing.remove
  rw [← valid.get?_listing]
  cases known : store.handle? id with
  | none => simp [remove_unknown known, get?, slot?, known, observed]
  | some handle =>
    obtain ⟨slot, live, _, removed⟩ := valid.remove_known known
    have found : store.get? id = some slot.entity := by simp [get?, slot?, known, live]
    rw [removed, found, observed, valid.listing_vacated known live]
    rfl

theorem WellFormed.edit_listing (valid : store.WellFormed) (change : Edit) :
    observed (change.apply store) = change.applyTo store.listing := by
  cases change with
  | upsert now id type properties description =>
    have same := valid.upsert_listing now id type properties description
    simp only [Edit.apply, Edit.applyTo, ← same]
    rfl
  | relate stamp source target type properties weight =>
    have same := valid.relate_listing stamp source target type properties weight
    simp only [Edit.apply, Edit.applyTo, ← same]
    rfl
  | remove id =>
    simp only [Edit.apply, Edit.applyTo, ← valid.remove_listing id]
    rfl
  | clear => rfl

/-- Every observer of a store answers what two lists say, the first of which has no id twice. -/
structure Agrees (store : Store) (listing : Listing) : Prop where
  distinct : (listing.entities.map (·.id)).Nodup
  entities : store.entities = listing.entities
  relationships : store.relationships = listing.relationships
  get? : ∀ id, store.get? id = listing.get? id
  contains : ∀ id, store.contains id = listing.contains id
  outgoing : ∀ id, store.outgoing id = listing.relationships.filter (·.source == id)
  incoming : ∀ id, store.incoming id = listing.relationships.filter (·.target == id)
  between : ∀ source target, store.between source target =
    listing.relationships.filter fun relationship => relationship.source == source && relationship.target == target
  entitiesOfType : ∀ type, store.entitiesOfType type = listing.entities.filter (·.type == type)
  allTypes : store.allTypes.Pairwise (· < ·) ∧
    ∀ type, type ∈ store.allTypes ↔ type ≠ "" ∧ ∃ entity ∈ listing.entities, entity.type = type
  textSearch : ∀ query, store.textSearch query = listing.entities.filter fun entity =>
    containsText (lower entity.id) (lower query) || containsText (lower entity.description) (lower query)
  entityCount : store.entityCount = listing.entities.length
  relationshipCount : store.relationshipCount = listing.relationships.length
  statistics : store.statistics = ⟨listing.entities.length, listing.relationships.length⟩
  inducedSubgraph : ∀ ids, store.inducedSubgraph ids =
    { nodes := listing.entities.filter fun entity => ids.contains entity.id
      edges := listing.relationships.filter fun relationship =>
        ids.contains relationship.source && ids.contains relationship.target }

/-- As every listed entity and both ends of every relationship are known, only the given ids decide. -/
theorem WellFormed.inducedSubgraph_eq (valid : store.WellFormed) (ids : List String) :
    store.inducedSubgraph ids =
      { nodes := store.entities.filter fun entity => ids.contains entity.id
        edges := store.relationships.filter fun relationship =>
          ids.contains relationship.source && ids.contains relationship.target } := by
  have present {id : String} (member : id ∈ store.ids) : store.contains id = true := valid.contains_iff.mpr member
  simp only [Store.inducedSubgraph, GraphView.mk.injEq]
  constructor
  · apply List.filter_congr
    intro entity member
    rw [present (List.mem_map.mpr ⟨entity, member, rfl⟩), Bool.and_true]
  · apply List.filter_congr
    intro relationship member
    have source := present (valid.end_mem_ids .source member)
    have target := present (valid.end_mem_ids .target member)
    simp only [End.id] at source target
    rw [source, target, Bool.and_true, Bool.and_true]

theorem WellFormed.agrees (valid : store.WellFormed) : store.Agrees store.listing where
  distinct := valid.nodup_ids
  entities := rfl
  relationships := rfl
  get? := valid.get?_listing
  contains := valid.contains_listing
  outgoing := valid.outgoing_listing
  incoming := valid.incoming_listing
  between source target := by
    rw [Store.between, valid.outgoing_listing, List.filter_filter]
    apply List.filter_congr
    intro relationship _
    exact Bool.and_comm _ _
  entitiesOfType _ := rfl
  allTypes := ⟨allTypes_ascending, fun _ => mem_allTypes⟩
  textSearch _ := rfl
  entityCount := by rw [valid.entityCount_eq_length, ids, List.length_map]; rfl
  relationshipCount := valid.relationshipCount_eq
  statistics := by
    rw [Store.statistics, valid.entityCount_eq_length, valid.relationshipCount_eq, ids, List.length_map]
    rfl
  inducedSubgraph := valid.inducedSubgraph_eq

theorem WellFormed.run (valid : store.WellFormed) (edits : List Edit) :
    (Edit.run Edit.apply store edits).2.WellFormed ∧
      observed (Edit.run Edit.apply store edits) = Edit.run Edit.applyTo store.listing edits := by
  induction edits generalizing store with
  | nil => exact ⟨valid, rfl⟩
  | cons first rest ih =>
    have same := valid.edit_listing first
    obtain ⟨kept, answers⟩ := ih (valid.edit first)
    refine ⟨kept, ?_⟩
    rw [Edit.run_cons, Edit.run_cons, ← same]
    have later := congrArg Prod.fst answers
    have last := congrArg Prod.snd answers
    exact Prod.ext (congrArg (List.cons _) later) last

end EntityGraph.Store
