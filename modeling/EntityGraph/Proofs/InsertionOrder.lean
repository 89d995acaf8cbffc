import EntityGraph.Proofs.SortOrder

/-!
Two stores with the same contents. Whatever the order in which they were filled, the same ids are within reach, every
filter keeps the same ids, and a list of matches has the same rows; the rows come in the same order if the sort fields
decide it.
-/
namespace EntityGraph

/-- A relationship but for its id. -/
def Relationship.unnumbered (relationship : Relationship) : Relationship := { relationship with id := ⟨0⟩ }

/-- The stores have the same entities and the same relationships, but for their order and the ids of relationships. -/
structure Store.SameContents (one two : Store) : Prop where
  entities : one.entities.Perm two.entities
  relationships : (one.relationships.map Relationship.unnumbered).Perm (two.relationships.map Relationship.unnumbered)

namespace Store

variable {one two : Store}

theorem SameContents.symm (same : one.SameContents two) : two.SameContents one :=
  ⟨same.entities.symm, same.relationships.symm⟩

theorem SameContents.joins (same : one.SameContents two) {types : List String} {source target : String}
    (joined : one.Joins types source target) : two.Joins types source target := by
  obtain ⟨relationship, member, rfl, rfl, typed⟩ := joined
  obtain ⟨other, listed, alike⟩ := List.mem_map.mp
    (same.relationships.mem_iff.mp (List.mem_map_of_mem member))
  obtain ⟨-, source, target, type, -⟩ := Relationship.mk.inj alike
  exact ⟨other, listed, source, target, type ▸ typed⟩

theorem SameContents.steps_eq (same : one.SameContents two) (types : List String) (direction : Direction) :
    one.Steps types direction = two.Steps types direction := by
  have joins (types : List String) (source target : String) :
      one.Joins types source target ↔ two.Joins types source target :=
    ⟨same.joins, same.symm.joins⟩
  funext node neighbor
  cases direction <;> simp only [Steps, joins]

theorem SameContents.mem_findConnected (same : one.SameContents two) (first : one.WellFormed) (second : two.WellFormed)
    (start : String) (depth : Nat) (types : List String) (direction : Direction) (id : String) :
    id ∈ one.findConnected start depth types direction ↔ id ∈ two.findConnected start depth types direction := by
  rw [(first.findsConnected start depth types direction).reached, same.steps_eq,
    (second.findsConnected start depth types direction).reached]

theorem SameContents.get?_eq (same : one.SameContents two) (first : one.WellFormed) (second : two.WellFormed) :
    one.get? = two.get? := by
  funext id
  ext entity
  rw [first.get?_eq_some_iff, second.get?_eq_some_iff, same.entities.mem_iff]

end Store

variable {one two : Store} {provider : Option EmbeddingProvider}

theorem FilterStage.admits_eq (same : one.SameContents two) (first : one.WellFormed) (second : two.WellFormed)
    (stage : FilterStage) (id : String) : stage.admits ⟨one, provider⟩ id = stage.admits ⟨two, provider⟩ id := by
  have passes (test : Entity → Bool) : one.passes test id = two.passes test id := by
    rw [Store.passes, Store.passes, same.get?_eq first second]
  cases stage with
  | type | properties | semantic | fieldSpec | fields | meets => exact passes _
  | name => rfl
  | connectedTo filter =>
    simp only [admits, ConnectivityFilter.admits]
    congr 1
    funext entity
    rw [Bool.eq_iff_iff, List.contains_iff_mem, List.contains_iff_mem]
    exact same.mem_findConnected first second ..

namespace NodePlan

/-- The rows of the matches before they are sorted and limited. -/
def matchingRows (plan : NodePlan) (context : QueryContext) : List Row :=
  context.store.rowsOf (plan.candidates context) plan.returnFields

theorem execute_list {plan : NodePlan} (listed : plan.mode = .list) (context : QueryContext) :
    plan.execute context =
      .rows (plan.finish.apply (attributeOf context.store) (plan.matchingRows context)) := by
  rw [execute, listed]
  rfl

theorem matchingRows_eq (plan : NodePlan) {context : QueryContext} (valid : context.store.WellFormed) :
    plan.matchingRows context = (context.store.entities.filter fun entity => plan.admits context entity.id).map
      (·.toRow plan.returnFields) := by
  rw [matchingRows, candidates_eq, valid.rowsOf_filter]

theorem matchingRows_perm (same : one.SameContents two) (first : one.WellFormed) (second : two.WellFormed)
    (plan : NodePlan) : (plan.matchingRows ⟨one, provider⟩).Perm (plan.matchingRows ⟨two, provider⟩) := by
  have admits (id : String) : plan.admits ⟨one, provider⟩ id = plan.admits ⟨two, provider⟩ id := by
    simp only [NodePlan.admits, FilterStage.admits_eq same first second]
  rw [plan.matchingRows_eq first, plan.matchingRows_eq second]
  simp only [admits]
  exact (same.entities.filter _).map _

theorem attributeOf_eq (same : one.SameContents two) (first : one.WellFormed) (second : two.WellFormed) :
    attributeOf one = attributeOf two := by
  funext row field
  rw [attributeOf, attributeOf, same.get?_eq first second]

end NodePlan

theorem Members.mem_put {members : Members} {key : String} {value : Json} {member : String × Json}
    (listed : member ∈ members.put key value) : member = (key, value) ∨ member ∈ members := by
  unfold put at listed
  split at listed
  · obtain ⟨older, here, rfl⟩ := List.mem_map.mp listed
    split
    · exact .inl rfl
    · exact .inr here
  · rcases List.mem_append.mp listed with here | last
    · exact .inr here
    · exact .inl (List.mem_singleton.mp last)

theorem Members.mem_of_get? {members : Members} {key : String} {value : Json}
    (found : members.get? key = some value) : (key, value) ∈ members := by
  obtain ⟨before, after, rfl, -⟩ := List.lookup_eq_some_iff.mp found
  simp

/-- A value is not a "not a number". -/
def Json.Orderable (value : Json) : Prop := ∀ d, value = .double d → d.key?.isSome = true

theorem SortKey.orderable_ofJson? {value? : Option Json} (orderable : ∀ value, value? = some value → value.Orderable) :
    (ofJson? value?).Orderable := by
  unfold ofJson?
  split
  case h_3 s =>
    unfold ofString
    split <;> nofun
  case h_4 n =>
    rintro _ ⟨⟩
    exact Double.key?_ofInt n
  case h_5 d =>
    rintro _ ⟨⟩
    exact orderable _ rfl d rfl
  case h_6 b =>
    rintro _ ⟨⟩
    cases b
    · exact Double.key?_ofInt 0
    · exact Double.key?_ofInt 1
  case h_7 items =>
    rintro _ ⟨⟩
    exact Double.key?_ofInt items.length
  all_goals nofun

theorem Value.orderable_toJson (value : Value) : value.toJson.Orderable := by
  rintro d shown
  cases value with
  | double e =>
    by_cases finite : e.isFinite = true
    · rw [toJson, if_pos finite] at shown
      cases shown
      exact Double.key?_of_isFinite finite
    · rw [toJson, if_neg finite] at shown
      cases shown
  | _ => cases shown

namespace Entity

theorem orderable_fieldJson (entity : Entity) (field : String) : (entity.fieldJson field).Orderable := by
  unfold fieldJson
  split
  · nofun
  · cases entity.attribute? field with
    | none => nofun
    | some value => exact value.orderable_toJson

theorem orderable_toRow (entity : Entity) (fields : List String) :
    ∀ member ∈ entity.toRow fields, member.2.Orderable := by
  refine List.foldlRecOn (motive := fun row : Row => ∀ member ∈ row, member.2.Orderable) _ _ ?_ ?_
  · simp [Json.Orderable]
  · intro row shown field _ member listed
    rcases Members.mem_put listed with rfl | older
    · exact entity.orderable_fieldJson field
    · exact shown member older

end Entity

namespace NodePlan

theorem orderable_attributeOf (store : Store) (row : Row) (field : String) {value : Json}
    (found : attributeOf store row field = some value) : value.Orderable := by
  simp only [attributeOf, Option.bind_eq_bind, Option.bind_eq_some_iff, Option.pure_def, Option.some.injEq] at found
  obtain ⟨_, _, _, _, _, _, shown, _, rfl⟩ := found
  exact shown.orderable_toJson

theorem uniform_matchingRows (plan : NodePlan) (context : QueryContext) {fields : List SortField}
    (valid : context.store.WellFormed)
    (oneKind : SortSpec.OneKind (attributeOf context.store) fields (plan.matchingRows context)) :
    SortSpec.Uniform (attributeOf context.store) fields (plan.matchingRows context) := by
  have orderable {row : Row} (member : row ∈ plan.matchingRows context) (field : SortField) :
      (SortSpec.keyAt (attributeOf context.store) row field).Orderable := by
    rw [plan.matchingRows_eq valid] at member
    obtain ⟨entity, -, rfl⟩ := List.mem_map.mp member
    refine SortKey.orderable_ofJson? fun value found => ?_
    rcases Option.or_eq_some_iff.mp found with shown | ⟨-, read⟩
    · exact entity.orderable_toRow plan.returnFields _ (Members.mem_of_get? shown)
    · exact orderable_attributeOf context.store _ field.field read
  intro one first two second field listed
  exact ⟨oneKind one first two second field listed, orderable first field, orderable second field⟩

/-- What a search lists does not tell in which order the store was filled. In two histories that end with the same
contents, and with the same provider, it lists the same rows up to their order unless a limit takes some away; and where
every sort field has keys of one kind, and these keys tell all matches apart, it lists the same rows in the same order,
limited or not. -/
theorem list_ignores_insertion {config otherConfig : StoreConfig} {commands otherCommands : List Command}
    (provider : Option EmbeddingProvider) {plan : NodePlan} (listed : plan.mode = .list)
    (same : (Store.history config commands).SameContents (Store.history otherConfig otherCommands)) :
    let one : QueryContext := ⟨Store.history config commands, provider⟩
    let two : QueryContext := ⟨Store.history otherConfig otherCommands, provider⟩
    let fallback := attributeOf one.store
    ∃ rows others, plan.execute one = .rows rows ∧ plan.execute two = .rows others ∧
      (plan.finish.limit = none → rows.Perm others) ∧
      (SortSpec.OneKind fallback plan.finish.sortFields (plan.matchingRows one) →
        SortSpec.TellsApart fallback plan.finish.sortFields (plan.matchingRows one) → rows = others) := by
  intro one two fallback
  have first : one.store.WellFormed := Store.history_wellFormed config commands
  have second : two.store.WellFormed := Store.history_wellFormed otherConfig otherCommands
  have rowsAlike : (plan.matchingRows one).Perm (plan.matchingRows two) := matchingRows_perm same first second plan
  have attributes : fallback = attributeOf two.store := attributeOf_eq same first second
  refine ⟨_, _, execute_list listed one, execute_list listed two, ?_, ?_⟩
  · intro unlimited
    exact (Finish.apply_perm unlimited _ _).trans (rowsAlike.trans (Finish.apply_perm unlimited _ _).symm)
  · intro oneKind apart
    rw [← attributes]
    exact Finish.apply_of_perm (plan.uniform_matchingRows one first oneKind) apart rowsAlike

/-- Two files in a folder, and the same inserted the other way round: the searches come upon the files in different
orders, but sorted by size and with a limit of one they list the same file. -/
theorem list_ignores_insertion_files :
    let file (name : String) (size : Int64) : Command :=
      .edit (.upsert ⟨0, 0⟩ name "File" (.ofList [("size", .integer size)]) none)
    let folder : Command := .edit (.upsert ⟨0, 0⟩ "home" "Folder" .empty none)
    let holds (id : BitVec 128) (name : String) : Command :=
      .edit (.relate ⟨⟨id⟩, ⟨0, 0⟩⟩ "home" name "holds" .empty 1)
    let one := Store.history {} [folder, file "a" 2, file "b" 1, holds 1 "a", holds 2 "b"]
    let two := Store.history {} [file "b" 1, file "a" 2, folder, holds 3 "b", holds 4 "a"]
    let plan : NodePlan :=
      ⟨[.connectedTo ⟨some "home", 1, none⟩], .list, ["size"], ⟨some ⟨[⟨"size", false⟩]⟩, some 1⟩⟩
    one.ids ≠ two.ids ∧ plan.candidates ⟨one, none⟩ ≠ plan.candidates ⟨two, none⟩ ∧
      ∃ row, plan.execute ⟨one, none⟩ = .rows [row] ∧ plan.execute ⟨two, none⟩ = .rows [row] := by
  intro file folder holds one two plan
  have same : one.SameContents two := ⟨by decide +kernel, by decide +kernel⟩
  have listed : plan.mode = .list := rfl
  obtain ⟨rows, others, found, alike, -, sorted⟩ := list_ignores_insertion none listed same
  have equal := sorted (by decide +kernel) (by decide +kernel)
  have single : rows.length = 1 := by
    have matching : (plan.matchingRows ⟨one, none⟩).length = 2 := by decide +kernel
    have shown := Results.rows.inj ((execute_list listed _).symm.trans found)
    rw [← shown, Finish.apply_eq, Finish.cut, List.length_take, (Finish.apply_uncut_perm ..).length_eq, matching]
    rfl
  obtain ⟨row, rfl⟩ := List.length_eq_one_iff.mp single
  exact ⟨by decide +kernel, by decide +kernel, row, found, equal ▸ alike⟩

end NodePlan

end EntityGraph
