import EntityGraph.Proofs.HistoryContents
import EntityGraph.Proofs.SnapshotDecoding

/-!
Every moment in a store is one that a clock can show, as long as its callers pass such moments: what is read from a
snapshot is one in any case.
-/
namespace EntityGraph

namespace TimeFields

variable {fields next : TimeFields}

/-- A fraction is less than a second. -/
theorem takeFraction?_lt {text rest : List Char} {nano : Nat} (taken : takeFraction? text = some (nano, rest)) :
    nano < 1_000_000_000 := by
  simp only [takeFraction?] at taken
  split at taken
  · cases taken
  · cases taken
    have digits : ∀ c ∈ (text.takeWhile Char.isDigit).take 9, c.isDigit = true :=
      fun c member => List.mem_takeWhile_imp (List.mem_of_mem_take member)
    have few : ((text.takeWhile Char.isDigit).take 9).length ≤ 9 := by simp
    have bound := Nat.mul_lt_mul_of_pos_right (Decimal.ofDigits_lt digits)
      (Nat.pow_pos (n := 9 - ((text.takeWhile Char.isDigit).take 9).length) (show 0 < 10 by decide))
    rw [← Nat.pow_add, Nat.add_sub_cancel' few] at bound
    exact bound

theorem set?_nano {field : TimeField} {negative : Bool} {value : Nat}
    (set : fields.set? field negative value = some next) : next.nano = fields.nano := by
  cases field <;> simp only [set?] at set
  case year =>
    cases set
    rfl
  all_goals
    split at set
    · cases set
      rfl
    · cases set

theorem readItem?_fine (fine : fields.nano < 1_000_000_000) {text rest : List Char} {item : LayoutItem}
    (taken : fields.readItem? text item = some (next, rest)) : next.nano < 1_000_000_000 := by
  cases item with
  | digits field count =>
    simp only [readItem?, Option.bind_eq_bind, Option.bind_eq_some_iff] at taken
    obtain ⟨number, -, after, set, done⟩ := taken
    cases done
    rwa [set?_nano set]
  | number field most =>
    simp only [readItem?, Option.bind_eq_bind, Option.bind_eq_some_iff] at taken
    obtain ⟨number, -, after, set, done⟩ := taken
    cases done
    rwa [set?_nano set]
  | mark allowed =>
    simp only [readItem?] at taken
    split at taken
    · split at taken
      · cases taken
        exact fine
      · cases taken
    · cases taken
  | blanks =>
    cases taken
    exact fine
  | fraction =>
    simp only [readItem?] at taken
    split at taken
    · simp only [Option.bind_eq_bind, Option.bind_eq_some_iff] at taken
      obtain ⟨fraction, scanned, done⟩ := taken
      cases done
      exact takeFraction?_lt scanned
    · cases taken
      exact fine

theorem read?_fine {layout : Layout} {text rest : List Char} (fine : fields.nano < 1_000_000_000)
    (taken : read? layout fields text = some (next, rest)) : next.nano < 1_000_000_000 := by
  induction layout generalizing fields text with
  | nil =>
    cases taken
    exact fine
  | cons item more ih =>
    simp only [read?, Option.bind_eq_bind, Option.bind_eq_some_iff] at taken
    obtain ⟨step, first, others⟩ := taken
    exact ih (readItem?_fine fine first) others

/-- Offsets are whole minutes. -/
theorem takeOffset?_minutes {separator? : List Char → Option (List Char)} {text rest : List Char} {offset : Int}
    (taken : takeOffset? separator? text = some (offset, rest)) : offset % 60 = 0 := by
  unfold takeOffset? at taken
  split at taken
  · cases taken
    rfl
  · cases taken
    rfl
  · -- without a sign there is no offset
    split_ifs at taken
    all_goals
      simp only [Option.bind_eq_bind, Option.bind_some, Option.bind_none, Option.bind_eq_some_iff,
        reduceCtorEq] at taken
    all_goals
      obtain ⟨hours, -, between, -, minutes, -, -, -, -, -, done⟩ := taken
      cases done
      simp only [if_true, if_false]
      omega
  · cases taken

theorem instant?_valid {offset : Int} {time : Instant} (fine : fields.nano < 1_000_000_000)
    (minutes : offset % 60 = 0) (named : fields.instant? offset = some time) : time.Valid := by
  simp only [instant?, Option.ite_none_right_eq_some, Option.some.injEq] at named
  obtain ⟨-, ranged, rfl⟩ := named
  refine ⟨ranged, ?_⟩
  by_cases leap : fields.second = 60
  · right
    simp only [leap, if_true]
    omega
  · left
    simpa only [leap, if_false] using fine

end TimeFields

theorem Instant.ofLenientText?_valid {text : String} {time : Instant} (read : ofLenientText? text = some time) :
    time.Valid := by
  simp only [ofLenientText?, Option.bind_eq_bind, Option.bind_eq_some_iff] at read
  obtain ⟨⟨fields, rest⟩, scanned, named⟩ := read
  have fine := TimeFields.read?_fine (by decide) scanned
  split_ifs at named
  · simp only [Option.bind_some, Option.bind_eq_some_iff] at named
    obtain ⟨-, -, named⟩ := named
    exact TimeFields.instant?_valid fine rfl named
  · simp only [Option.bind_eq_some_iff] at named
    obtain ⟨offset, taken, -, -, named⟩ := named
    exact TimeFields.instant?_valid fine (TimeFields.takeOffset?_minutes taken) named

theorem Instant.ofJson?_valid {json : Json} {time : Instant} (read : ofJson? json = some time) : time.Valid := by
  obtain ⟨text, -, named⟩ := Option.bind_eq_some_iff.mp read
  exact ofLenientText?_valid named

section Fields

variable {read? : Json → Option α} {P : α → Prop} (sound : ∀ {json found}, read? json = some found → P found)

include sound

theorem Json.field?_property {members : Members} {name : String} {found : α}
    (read : field? members name read? = some found) : P found := by
  obtain ⟨json, -, accepted⟩ := Option.bind_eq_some_iff.mp read
  exact sound accepted

theorem Json.fieldOr?_property {members : Members} {name : String} {missing found : α} (otherwise : P missing)
    (read : fieldOr? members name read? missing = some found) : P found := by
  unfold fieldOr? at read
  split at read
  · exact sound read
  · cases read
    exact otherwise

theorem Json.optional?_property {members : Members} {name : String} {found : Option α}
    (read : optional? members name read? = some found) : ∀ value ∈ found, P value := by
  unfold optional? at read
  split at read
  · cases read
    simp
  · obtain ⟨value, accepted, rfl⟩ := Option.map_eq_some_iff.mp read
    simpa using sound accepted
  · cases read
    simp

end Fields

theorem Json.list?_property {read? : Json → Option α} {P : α → Prop}
    (sound : ∀ {json found}, read? json = some found → P found) {json : Json} {found : List α}
    (read : list? read? json = some found) : ∀ value ∈ found, P value := by
  unfold list? at read
  split at read
  · intro value member
    obtain ⟨item, -, accepted⟩ := exists_of_mapM read value member
    exact sound accepted
  · cases read

theorem Entity.ofJson?_timely {json : Json} {entity : Entity} (read : ofJson? json = some entity) : entity.Timely := by
  simp only [ofJson?, Option.bind_eq_bind, Option.bind_eq_some_iff, Option.some.injEq] at read
  obtain ⟨_, -, _, -, _, -, _, -, _, -, created, createdRead, updated, updatedRead, rfl⟩ := read
  exact ⟨Json.field?_property Instant.ofJson?_valid createdRead,
    Json.optional?_property Instant.ofJson?_valid updatedRead⟩

theorem Relationship.ofJson?_timely {fresh : RelationshipId} {json : Json} {relationship : Relationship}
    (read : ofJson? fresh json = some relationship) : relationship.Timely := by
  simp only [ofJson?, Option.bind_eq_bind, Option.bind_eq_some_iff, Option.some.injEq] at read
  obtain ⟨_, -, _, -, _, -, _, -, _, -, _, -, _, -, created, createdRead, rfl⟩ := read
  exact Json.field?_property Instant.ofJson?_valid createdRead

theorem Relationship.listOfJson?_timely {fresh : Nat → RelationshipId} {json : Json} {relationships : List Relationship}
    (read : listOfJson? fresh json = some relationships) : ∀ relationship ∈ relationships, relationship.Timely := by
  unfold listOfJson? at read
  split at read
  · intro relationship member
    obtain ⟨item, -, accepted⟩ := exists_of_mapM read relationship member
    exact ofJson?_timely accepted
  · cases read

/-- Whatever text a snapshot is read from, its moments are ones that a clock can show. -/
theorem Snapshot.ofText?_timely {fresh : Nat → RelationshipId} {text : String} {snapshot : Snapshot}
    (read : ofText? fresh text = some snapshot) : snapshot.Timely := by
  obtain ⟨json, -, decoded⟩ := Option.bind_eq_some_iff.mp read
  simp only [ofJson?, Option.bind_eq_bind, Option.bind_eq_some_iff, Option.some.injEq] at decoded
  obtain ⟨_, -, _, -, entities, entitiesRead, relationships, relationshipsRead, rfl⟩ := decoded
  exact ⟨Json.fieldOr?_property (Json.list?_property Entity.ofJson?_timely) (by simp) entitiesRead,
    Json.fieldOr?_property Relationship.listOfJson?_timely (by simp) relationshipsRead⟩

/-- The moments that a command is given are ones that a clock can show. -/
def Command.Timely : Command → Prop
  | edit (.upsert now ..) => now.Valid
  | edit (.relate stamp ..) => stamp.time.Valid
  | edit _ => True
  | consolidate now stamps _ => now.Valid ∧ ∀ i, (stamps i).time.Valid
  | restore snapshot => snapshot.Timely
  | load .. => True
  | rebuild snapshot => snapshot.Timely

theorem Edit.brings_upsert_timely {now : Instant} (valid : now.Valid) (id type : String) (properties : Properties)
    (description : Option String) :
    (upsert now id type properties description).Brings Entity.Timely Relationship.Timely := by
  intro _ normal _
  refine ⟨⟨valid, by simp⟩, ?_⟩
  intro entity _ timely
  by_cases same : entity.type = type
  · exact ⟨by simpa only [Store.updated, same, if_true] using timely.created,
      by simpa [Store.updated, same] using valid⟩
  · exact ⟨by simpa only [Store.updated, same, if_false] using valid, by simp [Store.updated, same]⟩

theorem Edit.brings_relate_timely {stamp : Stamp} (valid : stamp.time.Valid) (source target type : String)
    (properties : Properties) (weight : Double) :
    (relate stamp source target type properties weight).Brings Entity.Timely Relationship.Timely :=
  fun _ _ _ => valid

theorem Command.brings_timely {command : Command} (timely : command.Timely) :
    command.Brings Entity.Timely Relationship.Timely := by
  cases command with
  | edit change =>
    cases change with
    | upsert now id type properties description => exact Edit.brings_upsert_timely timely id type properties description
    | relate stamp source target type properties weight =>
      exact Edit.brings_relate_timely timely source target type properties weight
    | remove | clear => trivial
  | consolidate now stamps request =>
    exact ⟨Edit.brings_upsert_timely timely.1, fun i => Edit.brings_relate_timely (timely.2 i), fun _ => trivial⟩
  | restore snapshot => exact ⟨timely.entities, timely.relationships⟩
  | load fresh tree path =>
    intro text snapshot _ read
    have timely := Snapshot.ofText?_timely read
    exact ⟨timely.entities, timely.relationships⟩
  | rebuild snapshot => exact ⟨timely.entities, timely.relationships⟩

/-- Whatever commands with such moments lead to, its snapshot has only such moments. -/
theorem Store.history_timely {config : StoreConfig} {commands : List Command}
    (timely : ∀ command ∈ commands, command.Timely) : (history config commands).toSnapshot.Timely := by
  have holds := history_holds config fun command member => Command.brings_timely (timely command member)
  exact ⟨holds.contents.entities, holds.contents.relationships⟩

end EntityGraph
