import EntityGraph.Proofs.JsonReading
import EntityGraph.Proofs.TimestampText
import EntityGraph.Snapshot.Files

/-!
Decoding undoes encoding. Values, property maps, entities, relationships and snapshots are read from what they are
written as, tree or text; only a weight that is not finite is written as something that is not read.
-/
namespace EntityGraph

theorem PropertyList.insert_last {entries : PropertyList} {name : String} (value : Value)
    (last : ∀ entry ∈ entries, entry.1 < name) : insert name value entries = entries ++ [(name, value)] := by
  induction entries with
  | nil => rfl
  | cons head rest ih =>
    have before := last head List.mem_cons_self
    have different : name ≠ head.1 := (String.ne_of_lt before).symm
    rw [insert, if_neg (String.lt_asymm before), if_neg different, ih fun entry member =>
      last entry (List.mem_cons_of_mem head member), List.cons_append]

theorem Properties.insertAll_sorted (map : Properties) (entries : PropertyList)
    (sorted : (map.entries ++ entries).Sorted) : (map.insertAll entries).entries = map.entries ++ entries := by
  induction entries generalizing map with
  | nil => rw [List.append_nil]; rfl
  | cons head rest ih =>
    have inserted : (map.insert head.1 head.2).entries = map.entries ++ [head] := by
      apply PropertyList.insert_last
      intro entry member
      exact (List.pairwise_append.mp sorted).2.2 entry member head List.mem_cons_self
    have grown := ih (map.insert head.1 head.2) (by rwa [inserted, List.append_assoc])
    rw [inserted, List.append_assoc] at grown
    exact grown

theorem Properties.eq_of_entries {one two : Properties} (same : one.entries = two.entries) : one = two := by
  cases one
  cases two
  cases same
  rfl

theorem Properties.ofList_entries (map : Properties) : ofList map.entries = map :=
  eq_of_entries (insertAll_sorted empty map.entries map.sorted)

/-- The value that is read for a written one, when finite doubles come back through `again`. -/
def Value.readBack (again : Double → Double) : Value → Value
  | double d => if d.isFinite then double (again d) else null
  | other => other

theorem Properties.sorted_map (map : Properties) (change : Value → Value) :
    PropertyList.Sorted (map.entries.map fun entry => (entry.1, change entry.2)) := by
  rw [PropertyList.Sorted, List.pairwise_map]
  exact map.sorted

/-- The property map that is read for a written one. -/
def Properties.readBack (again : Double → Double) (map : Properties) : Properties :=
  ⟨_, map.sorted_map (Value.readBack again)⟩

def Entity.readBack (again : Double → Double) (entity : Entity) : Entity :=
  { entity with properties := entity.properties.readBack again }

def Relationship.readBack (again : Double → Double) (relationship : Relationship) : Relationship :=
  { relationship with
    weight := again relationship.weight
    properties := relationship.properties.readBack again }

def Snapshot.readBack (again : Double → Double) (snapshot : Snapshot) : Snapshot :=
  { snapshot with
    entities := snapshot.entities.map (Entity.readBack again)
    relationships := snapshot.relationships.map (Relationship.readBack again) }

/-- Both times of an entity are moments that a clock can show. -/
structure Entity.Timely (entity : Entity) : Prop where
  created : entity.createdAt.Valid
  updated : ∀ time ∈ entity.updatedAt, time.Valid

instance (entity : Entity) : Decidable entity.Timely :=
  decidable_of_iff (entity.createdAt.Valid ∧ ∀ time ∈ entity.updatedAt, time.Valid)
    ⟨fun ⟨created, updated⟩ => ⟨created, updated⟩, fun timely => ⟨timely.created, timely.updated⟩⟩

def Relationship.Timely (relationship : Relationship) : Prop := relationship.createdAt.Valid

instance (relationship : Relationship) : Decidable relationship.Timely :=
  inferInstanceAs (Decidable relationship.createdAt.Valid)

/-- The times of all entities and relationships are moments that a clock can show. -/
structure Snapshot.Timely (snapshot : Snapshot) : Prop where
  entities : ∀ entity ∈ snapshot.entities, entity.Timely
  relationships : ∀ relationship ∈ snapshot.relationships, relationship.Timely

instance (snapshot : Snapshot) : Decidable snapshot.Timely :=
  decidable_of_iff ((∀ entity ∈ snapshot.entities, entity.Timely) ∧
      ∀ relationship ∈ snapshot.relationships, relationship.Timely)
    ⟨fun ⟨entities, relationships⟩ => ⟨entities, relationships⟩,
      fun timely => ⟨timely.entities, timely.relationships⟩⟩

theorem Instant.ofJson?_text {time : Instant} (valid : time.Valid) : ofJson? (.string time.text) = some time := by
  rw [ofJson?, Json.asString?, Option.bind_some, ofLenientText?_text valid]

section Reading

variable {f : Double → Json} {again : Double → Double} (finite : ∀ d, d.isFinite = true → f d = .double (again d))

include finite

theorem Value.ofScalar?_toJson (v : Value) : ofScalar? (v.toJson.mapDouble f) = some (v.readBack again) := by
  cases v with
  | integer n =>
    have inside : -0x8000_0000_0000_0000 ≤ n.toInt ∧ n.toInt < 0x8000_0000_0000_0000 := ⟨n.le_toInt, n.toInt_lt⟩
    simp [toJson, Json.mapDouble, ofScalar?, ofInt, inside, readBack]
  | double d =>
    by_cases whole : d.isFinite = true
    · simp [toJson, whole, Json.mapDouble, finite d whole, ofScalar?, readBack]
    · simp [toJson, whole, Json.mapDouble, ofScalar?, readBack]
  | null | bool | string => rfl

theorem Properties.ofJson?_toJson (map : Properties) :
    ofJson? (map.toJson.mapDouble f) = some (map.readBack again) := by
  have read : (map.entries.map fun entry => (entry.1, entry.2.toJson.mapDouble f)).mapM
      (fun member => (Value.ofScalar? member.2).map fun value => (member.1, value)) =
        some (map.readBack again).entries := by
    have each : (fun entry : String × Value => (Value.ofScalar? (entry.2.toJson.mapDouble f)).map fun value =>
        (entry.1, value)) = fun entry => pure (entry.1, entry.2.readBack again) := by
      funext entry
      rw [Value.ofScalar?_toJson finite]
      rfl
    rw [List.mapM_map]
    exact (congrArg (fun read => map.entries.mapM read) each).trans List.mapM_pure
  have written : map.toJson.mapDouble f =
      .object (map.entries.map fun entry => (entry.1, entry.2.toJson.mapDouble f)) := by
    simp [toJson, Json.mapDouble, Json.mapDoubleMembers_eq]
  rw [written, ofJson?, read]
  exact congrArg some (ofList_entries _)

theorem Entity.ofJson?_toJson {entity : Entity} (timely : entity.Timely) :
    ofJson? (entity.toJson.mapDouble f) = some (entity.readBack again) := by
  obtain ⟨id, type, description, properties, createdAt, updatedAt⟩ := entity
  have map := Properties.ofJson?_toJson finite properties
  have created : Instant.ofJson? (.string createdAt.text) = some createdAt := Instant.ofJson?_text timely.created
  have five : ["id", "type", "description", "properties", "created_at"].eraseDups.length = 5 := by decide
  have six : ["id", "type", "description", "properties", "created_at", "updated_at"].eraseDups.length = 6 := by decide
  cases updatedAt with
  | none =>
    simp [toJson, Json.mapDouble, Json.mapDoubleMembers, ofJson?, Json.record?, fieldNames, five, Json.field?,
      Json.fieldOr?, Json.optional?, Members.get?, List.lookup_cons, Json.asString?, map, created, readBack]
  | some time =>
    have updated := Instant.ofJson?_text (timely.updated time rfl)
    simp [toJson, Json.mapDouble, Json.mapDoubleMembers, ofJson?, Json.record?, fieldNames, six, Json.field?,
      Json.fieldOr?, Json.optional?, Members.get?, List.lookup_cons, Json.asString?, map, created, updated, readBack]

theorem Relationship.ofJson?_toJson {relationship : Relationship} (timely : relationship.Timely)
    (fresh : RelationshipId) :
    ofJson? fresh (relationship.toJson.mapDouble f) =
      if relationship.weight.isFinite then some (relationship.readBack again) else none := by
  obtain ⟨id, source, target, type, weight, properties, createdAt⟩ := relationship
  have map := Properties.ofJson?_toJson finite properties
  have created : Instant.ofJson? (.string createdAt.text) = some createdAt := Instant.ofJson?_text timely
  have named := RelationshipId.ofText?_text id
  have seven : ["id", "source_id", "target_id", "type", "weight", "properties", "created_at"].eraseDups.length = 7 := by
    decide
  by_cases whole : weight.isFinite = true
  · simp [toJson, Json.mapDouble, Json.mapDoubleMembers, ofJson?, Json.record?, fieldNames, seven, Json.field?,
      Json.fieldOr?, Members.get?, List.lookup_cons, Json.asString?, map, created, readBack, named, Value.toJson, whole,
      finite weight whole, Json.asDouble?]
  · simp [toJson, Json.mapDouble, Json.mapDoubleMembers, ofJson?, Json.record?, fieldNames, seven, Json.field?,
      Json.fieldOr?, Members.get?, List.lookup_cons, Json.asString?, map, created, named, Value.toJson, whole,
      Json.asDouble?]

theorem Entity.mapM_toJson {entities : List Entity} (timely : ∀ entity ∈ entities, entity.Timely) :
    (entities.map fun entity => entity.toJson.mapDouble f).mapM ofJson? = some (entities.map (readBack again)) := by
  induction entities with
  | nil => rfl
  | cons entity rest ih =>
    have first := ofJson?_toJson finite (timely entity List.mem_cons_self)
    have others := ih fun entity member => timely entity (List.mem_cons_of_mem _ member)
    simp [first, others]

theorem Relationship.listOfJson?_toJson {relationships : List Relationship} (fresh : Nat → RelationshipId)
    (timely : ∀ relationship ∈ relationships, relationship.Timely) :
    listOfJson? fresh (.array (relationships.map fun relationship => relationship.toJson.mapDouble f)) =
      if ∀ relationship ∈ relationships, relationship.weight.isFinite = true then
        some (relationships.map (readBack again))
      else none := by
  -- fresh ids count on from any position, so the induction is about all of them
  have positioned (position : Nat) :
      ((relationships.map fun relationship => relationship.toJson.mapDouble f).zipIdx position).mapM
          (fun entry => ofJson? (fresh entry.2) entry.1) =
        if ∀ relationship ∈ relationships, relationship.weight.isFinite = true then
          some (relationships.map (readBack again))
        else none := by
    induction relationships generalizing position with
    | nil => rfl
    | cons relationship rest ih =>
      have first := ofJson?_toJson finite (timely relationship List.mem_cons_self) (fresh position)
      have others := ih (fun relationship member => timely relationship (List.mem_cons_of_mem _ member)) (position + 1)
      simp only [List.map_cons, List.zipIdx_cons, List.mapM_cons, first, others]
      simp only [List.forall_mem_cons]
      by_cases whole : relationship.weight.isFinite = true
      · simp only [whole, true_and, if_true]
        split <;> rfl
      · simp [whole]
  exact positioned 0

theorem Snapshot.ofJson?_toJson {snapshot : Snapshot} (timely : snapshot.Timely) (fresh : Nat → RelationshipId)
    (version : snapshot.version < 0x1_0000_0000) :
    ofJson? fresh (snapshot.toJson.mapDouble f) =
      if ∀ relationship ∈ snapshot.relationships, relationship.weight.isFinite = true then
        some (snapshot.readBack again)
      else none := by
  have entities := Entity.mapM_toJson finite timely.entities
  have relationships := Relationship.listOfJson?_toJson finite fresh timely.relationships
  have numbered : version? (.integer snapshot.version) = some snapshot.version := by
    have count : Json.asCount? (.integer snapshot.version) =
        if snapshot.version < 0x1_0000_0000_0000_0000 then some snapshot.version else none := rfl
    rw [version?, count, if_pos (by omega)]
    simp [version]
  have three : ["version", "entities", "relationships"].eraseDups.length = 3 := by decide
  have written : snapshot.toJson.mapDouble f = .object
      [("version", .integer snapshot.version),
       ("entities", .array (snapshot.entities.map fun entity => entity.toJson.mapDouble f)),
       ("relationships", .array (snapshot.relationships.map fun relationship => relationship.toJson.mapDouble f))] := by
    simp [toJson, Json.mapDouble, Json.mapDoubleMembers, Json.mapDoubleItems_eq]
  rw [written]
  split
  · rename_i whole
    rw [if_pos whole] at relationships
    simp [ofJson?, Json.record?, three, Json.field?, Json.fieldOr?, Members.get?, List.lookup_cons, numbered,
      Json.list?, entities, relationships, readBack]
  · rename_i notWhole
    rw [if_neg notWhole] at relationships
    simp [ofJson?, Json.record?, three, Json.field?, Json.fieldOr?, Members.get?, List.lookup_cons, numbered,
      Json.list?, entities, relationships]

end Reading

theorem Value.fits (v : Value) (room : Nat) : v.toJson.Fits room := by
  cases v with
  | integer n =>
    have low : -0x8000_0000_0000_0000 ≤ n.toInt := n.le_toInt
    have high : n.toInt < 0x8000_0000_0000_0000 := n.toInt_lt
    exact ⟨low, by omega⟩
  | double d =>
    rw [toJson]
    split <;> trivial
  | null | bool | string => trivial

theorem Properties.fits (map : Properties) (room : Nat) : map.toJson.Fits (room + 1) := by
  refine ⟨Nat.succ_pos room, Json.membersFit_iff.mpr ?_⟩
  intro member written
  obtain ⟨entry, -, rfl⟩ := List.mem_map.mp written
  exact entry.2.fits room

theorem Entity.fits (entity : Entity) (room : Nat) : entity.toJson.Fits (room + 2) := by
  have properties := entity.properties.fits room
  cases updatedAt : entity.updatedAt <;>
    simp [toJson, updatedAt, Json.Fits, Json.MembersFit, properties]

theorem Relationship.fits (relationship : Relationship) (room : Nat) : relationship.toJson.Fits (room + 2) := by
  have properties := relationship.properties.fits room
  have weight := (Value.double relationship.weight).fits (room + 1)
  simp [toJson, Json.Fits, Json.MembersFit, properties, weight]

theorem Snapshot.fits {snapshot : Snapshot} (version : snapshot.version < 0x1_0000_0000) :
    snapshot.toJson.Fits Json.maxNesting := by
  have entities : Json.ItemsFit 125 (snapshot.entities.map Entity.toJson) := by
    refine Json.itemsFit_iff.mpr fun item written => ?_
    obtain ⟨entity, -, rfl⟩ := List.mem_map.mp written
    exact entity.fits 123
  have relationships : Json.ItemsFit 125 (snapshot.relationships.map Relationship.toJson) := by
    refine Json.itemsFit_iff.mpr fun item written => ?_
    obtain ⟨relationship, -, rfl⟩ := List.mem_map.mp written
    exact relationship.fits 123
  refine ⟨by decide, ⟨by omega, by omega⟩, ⟨by decide, entities⟩, ⟨by decide, relationships⟩, trivial⟩

theorem Snapshot.read?_text {snapshot : Snapshot} (version : snapshot.version < 0x1_0000_0000) (pretty : Bool) :
    Json.read? (snapshot.text pretty) = some snapshot.toJson.readBack := by
  cases pretty with
  | false => exact Json.read?_compact (fits version)
  | true => exact Json.read?_pretty (fits version)

theorem Snapshot.ofText?_text {snapshot : Snapshot} (timely : snapshot.Timely) (fresh : Nat → RelationshipId)
    (version : snapshot.version < 0x1_0000_0000) (pretty : Bool) :
    ofText? fresh (snapshot.text pretty) =
      if ∀ relationship ∈ snapshot.relationships, relationship.weight.isFinite = true then
        some (snapshot.readBack Double.reread)
      else none := by
  rw [ofText?, read?_text version, Option.bind_some]
  exact ofJson?_toJson (fun d whole => if_pos whole) timely fresh version

theorem exists_of_mapM {read? : α → Option β} {items : List α} {found : List β} (read : items.mapM read? = some found) :
    ∀ value ∈ found, ∃ item ∈ items, read? item = some value := by
  induction items generalizing found with
  | nil =>
    cases read
    simp
  | cons item rest ih =>
    simp only [List.mapM_cons, Option.bind_eq_bind, Option.bind_eq_some_iff] at read
    obtain ⟨first, accepted, others, later, done⟩ := read
    cases done
    intro value member
    rcases List.mem_cons.mp member with rfl | member
    · exact ⟨item, List.mem_cons_self, accepted⟩
    · obtain ⟨source, listed, origin⟩ := ih later value member
      exact ⟨source, List.mem_cons_of_mem item listed, origin⟩

section Names

variable {f : Double → Json}

/-- Whatever else is lost on the way, an entity that is read for a written one has its id and its type. -/
theorem Entity.ofJson?_names {written read : Entity} (decoded : ofJson? (written.toJson.mapDouble f) = some read) :
    read.id = written.id ∧ read.type = written.type := by
  obtain ⟨id, type, description, properties, createdAt, updatedAt⟩ := written
  have five : ["id", "type", "description", "properties", "created_at"].eraseDups.length = 5 := by decide
  have six : ["id", "type", "description", "properties", "created_at", "updated_at"].eraseDups.length = 6 := by decide
  obtain ⟨map, created, updated, rfl⟩ : ∃ map created updated,
      Entity.mk id type description map created updated = read := by
    cases updatedAt with
    | none =>
      obtain ⟨map, -, created, -, same⟩ : ∃ map, Properties.ofJson? (properties.toJson.mapDouble f) = some map ∧
          ∃ created, Instant.ofJson? (.string createdAt.text) = some created ∧
            Entity.mk id type description map created none = read := by
        simpa [toJson, Json.mapDouble, Json.mapDoubleMembers, ofJson?, Json.record?, fieldNames, five, Json.field?,
          Json.fieldOr?, Json.optional?, Members.get?, List.lookup_cons, Json.asString?,
          Option.bind_eq_some_iff] using decoded
      exact ⟨map, created, none, same⟩
    | some time =>
      obtain ⟨map, -, created, -, updated, -, same⟩ : ∃ map,
          Properties.ofJson? (properties.toJson.mapDouble f) = some map ∧
          ∃ created, Instant.ofJson? (.string createdAt.text) = some created ∧
            ∃ updated, Instant.ofJson? (.string time.text) = some updated ∧
              Entity.mk id type description map created (some updated) = read := by
        simpa [toJson, Json.mapDouble, Json.mapDoubleMembers, ofJson?, Json.record?, fieldNames, six, Json.field?,
          Json.fieldOr?, Json.optional?, Members.get?, List.lookup_cons, Json.asString?,
          Option.bind_eq_some_iff] using decoded
      exact ⟨map, created, some updated, same⟩
  exact ⟨rfl, rfl⟩

theorem Relationship.ofJson?_names {fresh : RelationshipId} {written read : Relationship}
    (decoded : ofJson? fresh (written.toJson.mapDouble f) = some read) : read.type = written.type := by
  obtain ⟨id, source, target, type, weight, properties, createdAt⟩ := written
  have seven : ["id", "source_id", "target_id", "type", "weight", "properties", "created_at"].eraseDups.length = 7 := by
    decide
  obtain ⟨number, -, heavy, -, map, -, created, -, rfl⟩ : ∃ number, RelationshipId.ofText? id.text = some number ∧
      ∃ heavy, Json.asDouble? ((Value.double weight).toJson.mapDouble f) = some heavy ∧
        ∃ map, Properties.ofJson? (properties.toJson.mapDouble f) = some map ∧
          ∃ created, Instant.ofJson? (.string createdAt.text) = some created ∧
            Relationship.mk number source target type heavy map created = read := by
    simpa [toJson, Json.mapDouble, Json.mapDoubleMembers, ofJson?, Json.record?, fieldNames, seven, Json.field?,
      Json.fieldOr?, Members.get?, List.lookup_cons, Json.asString?, Option.bind_eq_some_iff] using decoded
  rfl

theorem Snapshot.ofJson?_names {fresh : Nat → RelationshipId} {written read : Snapshot}
    (decoded : ofJson? fresh (written.toJson.mapDouble f) = some read) :
    (∀ entity ∈ read.entities, ∃ origin ∈ written.entities, entity.id = origin.id ∧ entity.type = origin.type) ∧
      ∀ edge ∈ read.relationships, ∃ origin ∈ written.relationships, edge.type = origin.type := by
  have three : ["version", "entities", "relationships"].eraseDups.length = 3 := by decide
  obtain ⟨entities, relationships, entitiesRead, relationshipsRead, rfl, rfl⟩ : ∃ entities relationships,
      (written.entities.map fun entity => entity.toJson.mapDouble f).mapM Entity.ofJson? = some entities ∧
      ((written.relationships.map fun edge => edge.toJson.mapDouble f).zipIdx).mapM
        (fun entry => Relationship.ofJson? (fresh entry.2) entry.1) = some relationships ∧
      entities = read.entities ∧ relationships = read.relationships := by
    simp [toJson, Json.mapDouble, Json.mapDoubleMembers, Json.mapDoubleItems_eq, ofJson?, Json.record?, three,
      Json.field?, Json.fieldOr?, Members.get?, List.lookup_cons, Json.list?, Relationship.listOfJson?,
      Option.bind_eq_some_iff] at decoded
    obtain ⟨_, -, entities, entitiesRead, relationships, relationshipsRead, rfl⟩ := decoded
    exact ⟨entities, relationships, List.mapM_map.trans entitiesRead, relationshipsRead, rfl, rfl⟩
  constructor
  · intro entity listed
    obtain ⟨item, member, accepted⟩ := exists_of_mapM entitiesRead entity listed
    obtain ⟨origin, held, rfl⟩ := List.mem_map.mp member
    exact ⟨origin, held, Entity.ofJson?_names accepted⟩
  · intro edge listed
    obtain ⟨⟨item, position⟩, member, accepted⟩ := exists_of_mapM relationshipsRead edge listed
    obtain ⟨origin, held, rfl⟩ := List.mem_map.mp (List.fst_mem_of_mem_zipIdx member)
    exact ⟨origin, held, Relationship.ofJson?_names accepted⟩

end Names

/-- Ids and types in a snapshot that is read from the text of another one are those of the other one. -/
theorem Snapshot.ofText?_names {fresh : Nat → RelationshipId} {written read : Snapshot} {pretty : Bool}
    (version : written.version < 0x1_0000_0000) (decoded : ofText? fresh (written.text pretty) = some read) :
    (∀ entity ∈ read.entities, ∃ origin ∈ written.entities, entity.id = origin.id ∧ entity.type = origin.type) ∧
      ∀ edge ∈ read.relationships, ∃ origin ∈ written.relationships, edge.type = origin.type := by
  rw [ofText?, read?_text version, Option.bind_some] at decoded
  exact ofJson?_names decoded

end EntityGraph
