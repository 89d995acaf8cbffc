import EntityGraph.Proofs.Addressing

/-!
What an entity has become. The updates of an id since there was no such entity determine all of it: the last one gives
the type, the last one that says something about a property or the description gives that, and the times tell when the
type was last given and when it was last confirmed. Other edits leave the entity alone.
-/
namespace EntityGraph

/-- What an edit says about an entity, and when. -/
structure Update where
  time : Instant
  type : String
  properties : Properties
  description : Option String

namespace Update

/-- The entity that an update brings into being. -/
def create (id : String) (update : Update) : Entity :=
  ⟨id, update.type, update.description.getD "", update.properties, update.time, none⟩

def applyTo (update : Update) (entity : Entity) : Entity :=
  Store.updated entity update.time update.type update.properties update.description

/-- What the last update says that says something. -/
def latest? (read : Update → Option α) (updates : List Update) : Option α := updates.reverse.findSome? read

/-- An update that creates the entity, or gives it another type than the update before. -/
def Renews (updates : List Update) (i : Nat) : Prop :=
  i = 0 ∨ updates[i - 1]?.map (·.type) ≠ updates[i]?.map (·.type)

instance (updates : List Update) (i : Nat) : Decidable (Renews updates i) := inferInstanceAs (Decidable (_ ∨ _))

end Update

/-- An entity as a sequence of updates of its id leaves it. -/
structure Entity.OutcomeOf (id : String) (updates : List Update) (entity : Entity) : Prop where
  id : entity.id = id
  type : updates.getLast?.map (·.type) = some entity.type
  properties : ∀ key, entity.properties.get? key = Update.latest? (·.properties.get? key) updates
  description : entity.description = (Update.latest? (·.description) updates).getD ""
  createdAt : ∃ i update, updates[i]? = some update ∧ entity.createdAt = update.time ∧ Update.Renews updates i ∧
    ∀ later, i < later → later < updates.length → ¬ Update.Renews updates later
  updatedAt : ∃ last, updates.getLast? = some last ∧
    entity.updatedAt = if Update.Renews updates (updates.length - 1) then none else some last.time

namespace Edit

/-- The update of an id that an edit makes: it gives a type, and the id it names is kept as this one. -/
def updateOf? (id : String) : Edit → Option Update
  | upsert now name type properties description =>
    if isBlankText type = false ∧ Store.normalId? name type = some id then
      some ⟨now, type, properties, description⟩
    else none
  | _ => none

/-- After the edit there is no entity with an id. -/
def ends (id : String) : Edit → Bool
  | remove name => name == id
  | clear => true
  | _ => false

end Edit

theorem Properties.get?_insertAll (map : Properties) {entries : PropertyList} (sorted : entries.Sorted) (key : String) :
    (map.insertAll entries).get? key = (entries.lookup key).or (map.get? key) := by
  induction entries generalizing map with
  | nil => rfl
  | cons entry rest ih =>
    obtain ⟨before, sortedRest⟩ := List.pairwise_cons.mp sorted
    have next : (map.insertAll (entry :: rest)).get? key =
        (rest.lookup key).or ((map.insert entry.1 entry.2).get? key) := ih (map.insert entry.1 entry.2) sortedRest
    rw [next, get?_insert, PropertyList.lookup_cons]
    by_cases here : key = entry.1
    · have absent : rest.lookup key = none := by
        apply List.lookup_eq_none_iff.mpr
        intro other member
        exact bne_iff_ne.mpr (here ▸ String.ne_of_lt (before other member))
      rw [absent, if_pos here, if_pos here, Option.none_or, Option.some_or]
    · rw [if_neg here, if_neg here]

theorem Properties.get?_merge (map newer : Properties) (key : String) :
    (map.merge newer).get? key = (newer.get? key).or (map.get? key) :=
  map.get?_insertAll newer.sorted key

namespace Update

variable {updates : List Update}

theorem latest?_concat (read : Update → Option α) (updates : List Update) (update : Update) :
    latest? read (updates ++ [update]) = (read update).or (latest? read updates) := by
  rw [latest?, List.reverse_concat, List.findSome?_cons, latest?]
  cases read update <;> rfl

theorem renews_concat {i : Nat} (inside : i < updates.length) (update : Update) :
    Renews (updates ++ [update]) i ↔ Renews updates i := by
  rw [Renews, Renews, List.getElem?_append_left inside, List.getElem?_append_left (by omega)]

/-- The last update renews the entity if its type is not the one so far. -/
theorem renews_last {type : String} (last : updates.getLast?.map (·.type) = some type) (update : Update) :
    Renews (updates ++ [update]) updates.length ↔ type ≠ update.type := by
  obtain ⟨previous, present, rfl⟩ := Option.map_eq_some_iff.mp last
  obtain ⟨front, rfl⟩ := List.getLast?_eq_some_iff.mp present
  simp [Renews]

end Update

namespace Entity

theorem outcomeOf_create (id : String) (update : Update) : (update.create id).OutcomeOf id [update] where
  id := rfl
  type := rfl
  properties key := by simp [Update.create, Update.latest?]
  description := by simp [Update.create, Update.latest?]
  createdAt := ⟨0, update, rfl, rfl, .inl rfl, by simp; omega⟩
  updatedAt := ⟨update, rfl, (if_pos (.inl rfl)).symm⟩

theorem OutcomeOf.update {id : String} {updates : List Update} {entity : Entity}
    (outcome : entity.OutcomeOf id updates) (update : Update) :
    (update.applyTo entity).OutcomeOf id (updates ++ [update]) where
  id := outcome.id
  type := by simp [Update.applyTo, Store.updated]
  properties key := by
    rw [Update.latest?_concat, ← outcome.properties]
    exact entity.properties.get?_merge update.properties key
  description := by
    rw [Update.latest?_concat]
    have same := outcome.description
    cases said : update.description <;> simp [Update.applyTo, Store.updated, said, same]
  createdAt := by
    have renewed := Update.renews_last outcome.type update
    by_cases same : entity.type = update.type
    · obtain ⟨i, origin, found, created, renews, lasts⟩ := outcome.createdAt
      have inside : i < updates.length := (List.getElem?_eq_some_iff.mp found).1
      refine ⟨i, origin, by rw [List.getElem?_append_left inside, found], ?_,
        (Update.renews_concat inside update).mpr renews, ?_⟩
      · simp [Update.applyTo, Store.updated, same, created]
      · intro later after within
        rw [List.length_append, List.length_singleton] at within
        by_cases last : later = updates.length
        · subst last
          exact fun renews => renewed.mp renews same
        · rw [Update.renews_concat (by omega)]
          exact lasts later after (by omega)
    · refine ⟨updates.length, update, by simp, ?_, renewed.mpr same, ?_⟩
      · simp [Update.applyTo, Store.updated, same]
      · intro later after within
        rw [List.length_append, List.length_singleton] at within
        omega
  updatedAt := by
    have renewed := Update.renews_last outcome.type update
    refine ⟨update, by simp, ?_⟩
    simp only [List.length_append, List.length_singleton, Nat.add_sub_cancel, renewed]
    by_cases same : entity.type = update.type <;> simp [Update.applyTo, Store.updated, same]

end Entity

namespace Listing

variable {listing : Listing}

theorem get?_append (entities : List Entity) (entity : Entity) (relationships : List Relationship) (id : String) :
    get? ⟨entities ++ [entity], relationships⟩ id =
      (get? ⟨entities, relationships⟩ id).or (if entity.id = id then some entity else none) := by
  rw [get?, List.find?_append, List.find?_singleton]
  simp [get?]

theorem get?_modify (change : Entity → Entity) (sameId : ∀ entity, (change entity).id = entity.id)
    (entities : List Entity) (relationships : List Relationship) (changed id : String) :
    get? ⟨entities.map fun entity => if entity.id = changed then change entity else entity, relationships⟩ id =
      (get? ⟨entities, relationships⟩ id).map fun entity => if id = changed then change entity else entity := by
  have asked : ((·.id == id) : Entity → Bool) ∘ (fun entity => if entity.id = changed then change entity else entity) =
      (·.id == id) := by
    funext entity
    by_cases here : entity.id = changed <;> simp [here, sameId]
  rw [get?, List.find?_map, asked, get?]
  cases found : entities.find? (·.id == id) with
  | none => rfl
  | some entity =>
    have named : entity.id = id := by simpa using List.find?_some found
    simp [named]

theorem get?_filter (entities : List Entity) (relationships : List Relationship) (removed id : String) :
    get? ⟨entities.filter (·.id ≠ removed), relationships⟩ id =
      if id = removed then none else get? ⟨entities, relationships⟩ id := by
  rw [get?, List.find?_filter, get?]
  split
  · rename_i here
    apply List.find?_eq_none.mpr
    simp +contextual [here]
  · rename_i elsewhere
    congr 1
    funext entity
    by_cases named : entity.id = id <;> simp [named, elsewhere]

theorem contains_eq_isSome (listing : Listing) (id : String) : listing.contains id = (listing.get? id).isSome := by
  rw [Bool.eq_iff_iff, contains, get?, List.find?_isSome, List.any_eq_true]

theorem get?_upsert (listing : Listing) (now : Instant) (name type : String) (properties : Properties)
    (description : Option String) (id : String) :
    (listing.upsert now name type properties description).2.get? id =
      match (Edit.upsert now name type properties description).updateOf? id with
      | some update => some (((listing.get? id).map update.applyTo).getD (update.create id))
      | none => listing.get? id := by
  cases typed : isBlankText type with
  | true => simp [upsert, Edit.updateOf?, typed]
  | false =>
    cases named : Store.normalId? name type with
    | none => simp [upsert, Edit.updateOf?, typed, named]
    | some normal =>
      let update : Update := ⟨now, type, properties, description⟩
      have made : (Edit.upsert now name type properties description).updateOf? id =
          if normal = id then some update else none := by
        simp [Edit.updateOf?, typed, named, update]
      rw [made]
      by_cases known : listing.contains normal = true
      · have after : (listing.upsert now name type properties description).2 = ⟨listing.entities.map fun entity =>
            if entity.id = normal then update.applyTo entity else entity, listing.relationships⟩ := by
          simp only [upsert, typed, named, known, if_true, Bool.false_eq_true, if_false]
          rfl
        rw [after, get?_modify update.applyTo fun _ => rfl]
        by_cases here : normal = id
        · subst here
          obtain ⟨entity, present⟩ := Option.isSome_iff_exists.mp (listing.contains_eq_isSome normal ▸ known)
          simp [present]
        · simp [here, Ne.symm here]
      · have after : (listing.upsert now name type properties description).2 =
            ⟨listing.entities ++ [update.create normal], listing.relationships⟩ := by
          simp only [upsert, typed, named, known, Bool.false_eq_true, if_false]
          rfl
        have absent : listing.get? normal = none := by
          rw [contains_eq_isSome, Option.not_isSome_iff_eq_none] at known
          exact known
        rw [after, get?_append]
        by_cases here : normal = id
        · subst here
          simp [absent, Update.create]
        · simp [here, Update.create]

/-- An edit updates or creates the entity with an id, or ends it, or leaves it alone. -/
theorem get?_edit (listing : Listing) (edit : Edit) (id : String) :
    (edit.applyTo listing).2.get? id =
      match edit.updateOf? id with
      | some update => some (((listing.get? id).map update.applyTo).getD (update.create id))
      | none => if edit.ends id then none else listing.get? id := by
  cases edit with
  | upsert now name type properties description =>
    have same := listing.get?_upsert now name type properties description id
    simpa [Edit.ends, Edit.applyTo] using same
  | relate stamp source target type properties weight =>
    have same : (listing.relate stamp source target type properties weight).2.get? id = listing.get? id := by
      unfold relate
      split
      · rfl
      · split <;> rfl
    simpa [Edit.ends, Edit.applyTo, Edit.updateOf?] using same
  | remove name =>
    simp only [Edit.applyTo, Edit.updateOf?, Edit.ends, beq_iff_eq, Prod.map_snd, id_eq, remove]
    cases present : listing.get? name with
    | none =>
      by_cases here : name = id
      · simp [← here, present]
      · simp [here]
    | some entity =>
      dsimp only
      rw [get?_filter]
      by_cases here : name = id
      · simp [here]
      · rw [if_neg here, if_neg (Ne.symm here)]
        rfl
  | clear => rfl

end Listing

namespace Store

variable {store : Store}

theorem WellFormed.get?_edit (valid : store.WellFormed) (edit : Edit) (id : String) :
    (edit.apply store).2.get? id =
      match edit.updateOf? id with
      | some update => some (((store.get? id).map update.applyTo).getD (update.create id))
      | none => if edit.ends id then none else store.get? id := by
  have same : (edit.apply store).2.listing = (edit.applyTo store.listing).2 :=
    congrArg Prod.snd (valid.edit_listing edit)
  rw [(valid.edit edit).get?_listing, same, Listing.get?_edit, valid.get?_listing]

/-- An edit updates an entity exactly if it answers that something is kept under its id. -/
theorem WellFormed.answers_update (valid : store.WellFormed) (edit : Edit) (id : String) :
    (edit.apply store).1 = .keptUnder (some id) ↔ (edit.updateOf? id).isSome = true := by
  have same : (edit.apply store).1 = (edit.applyTo store.listing).1 := congrArg Prod.fst (valid.edit_listing edit)
  rw [same]
  cases edit with
  | upsert now name type properties description =>
    simp only [Edit.applyTo, Prod.map_fst, Answer.keptUnder.injEq, Listing.upsert_answer, Edit.updateOf?]
    cases isBlankText type <;> simp
  | relate | remove | clear => simp [Edit.applyTo, Edit.updateOf?]

def edited (config : StoreConfig) (edits : List Edit) : Store := history config (edits.map .edit)

theorem edited_concat (config : StoreConfig) (edits : List Edit) (edit : Edit) :
    edited config (edits ++ [edit]) = (edit.apply (edited config edits)).2 := by
  simp [edited, history, Command.apply]

theorem edited_wellFormed (config : StoreConfig) (edits : List Edit) : (edited config edits).WellFormed :=
  history_wellFormed config _

theorem get?_edited_concat (config : StoreConfig) (edits : List Edit) (edit : Edit) (id : String) :
    (edited config (edits ++ [edit])).get? id =
      match edit.updateOf? id with
      | some update => some ((((edited config edits).get? id).map update.applyTo).getD (update.create id))
      | none => if edit.ends id then none else (edited config edits).get? id := by
  rw [edited_concat, (edited_wellFormed config edits).get?_edit]

/-- The edits since there was no entity with an id: there was none before them, and has been one after each of them. -/
structure Since (config : StoreConfig) (id : String) (edits before during : List Edit) : Prop where
  split : edits = before ++ during
  absent : (edited config before).get? id = none
  present : ∀ n, 0 < n → n ≤ during.length → ((edited config (before ++ during.take n)).get? id).isSome = true

section Since

variable {config : StoreConfig} {id : String} {edits before during : List Edit} {edit : Edit} {entity : Entity}

theorem Since.start (absent : (edited config edits).get? id = none)
    (present : (edited config (edits ++ [edit])).get? id = some entity) :
    Since config id (edits ++ [edit]) edits [edit] where
  split := rfl
  absent := absent
  present n positive within := by
    obtain rfl : n = 1 := Nat.le_antisymm within positive
    rw [List.take_one, List.head?_cons, Option.toList_some, present, Option.isSome_some]

theorem Since.concat (since : Since config id edits before during)
    (present : (edited config (edits ++ [edit])).get? id = some entity) :
    Since config id (edits ++ [edit]) before (during ++ [edit]) where
  split := by rw [since.split, List.append_assoc]
  absent := since.absent
  present n positive within := by
    by_cases last : n ≤ during.length
    · rw [List.take_append_of_le_length last]
      exact since.present n positive last
    · rw [List.take_of_length_le (by simp; omega), ← List.append_assoc, ← since.split, present, Option.isSome_some]

/-- Whatever entity there is after a sequence of edits is what the updates of its id have made of it since there was
none. -/
theorem edited_outcome (config : StoreConfig) (edits : List Edit)
    (found : (edited config edits).get? id = some entity) : ∃ before during, Since config id edits before during ∧
      entity.OutcomeOf id (during.filterMap (Edit.updateOf? id)) := by
  induction edits using List.reverseRecOn generalizing entity with
  | nil =>
    have nothing : (edited config []).get? id = none := by simp [edited, history, empty, get?, slot?, handle?]
    rw [nothing] at found
    cases found
  | append_singleton edits edit ih =>
    have step := get?_edited_concat config edits edit id
    rw [found] at step
    cases known : (edited config edits).get? id with
    | none =>
      -- only an update can have created the entity
      refine ⟨edits, [edit], .start known found, ?_⟩
      cases made : edit.updateOf? id with
      | none => simp [known, made] at step
      | some update =>
        simp only [made, known, Option.map_none, Option.getD_none, Option.some.injEq] at step
        simpa [made, step] using Entity.outcomeOf_create id update
    | some old =>
      obtain ⟨before, during, since, outcome⟩ := ih known
      refine ⟨before, during ++ [edit], since.concat found, ?_⟩
      rw [List.filterMap_append]
      cases made : edit.updateOf? id with
      | none =>
        have kept : entity = old := by
          rw [made, known] at step
          dsimp only at step
          split at step
          · cases step
          · exact Option.some.inj step
        simpa [made, kept] using outcome
      | some update =>
        simp only [made, known, Option.map_some, Option.getD_some, Option.some.injEq] at step
        simpa [made, step] using outcome.update update

end Since

/-- After every sequence of edits, an entity is what the updates of its id have made of it since there was none. An
update of an id is an edit that answers that something is kept under it; an edit that neither updates nor ends an
entity, as every edit of other ids and every relationship, has no effect on it. -/
theorem entity_told_by_updates (config : StoreConfig) (edits : List Edit) (id : String) :
    (∀ entity, (edited config edits).get? id = some entity → ∃ before during, Since config id edits before during ∧
      entity.OutcomeOf id (during.filterMap (Edit.updateOf? id))) ∧
    (∀ edit : Edit, (edit.apply (edited config edits)).1 = .keptUnder (some id) ↔ (edit.updateOf? id).isSome = true) ∧
    ∀ edit : Edit, edit.updateOf? id = none → edit.ends id = false →
      (edited config (edits ++ [edit])).get? id = (edited config edits).get? id := by
  refine ⟨fun entity found => edited_outcome config edits found, ?_, ?_⟩
  · intro edit
    exact (edited_wellFormed config edits).answers_update edit id
  · intro edit notUpdated notEnded
    rw [get?_edited_concat, notUpdated, notEnded]
    rfl

end Store

end EntityGraph
