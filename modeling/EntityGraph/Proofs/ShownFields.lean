import EntityGraph.Proofs.SortedItems

/-!
Which fields a search returns decides what its rows show, and nothing else. A row is sorted by what the entity is,
whether it shows the field or not, so the same entities come in the same order and the same of them stay within a limit.
The field of all properties is the exception: its value is there for rows that show it alone.
-/
namespace EntityGraph

namespace Entity

/-- What an entity is sorted by at a field: its id, or the attribute of that name. -/
def sortValue? (entity : Entity) (field : String) : Option Json :=
  if field = "name" then some (.string entity.id) else (entity.attribute? field).map Value.toJson

def sortKeys (spec : SortSpec) (entity : Entity) : List SortKey :=
  spec.fields.map fun field => SortKey.ofJson? (entity.sortValue? field.field)

/-- A field that a row shows is sorted by as the attribute that it is read from; missing and null attributes are the
same to it. -/
theorem ofJson?_fieldJson (entity : Entity) {field : String} (plain : field ≠ "properties") :
    SortKey.ofJson? (some (entity.fieldJson field)) = SortKey.ofJson? ((entity.attribute? field).map Value.toJson) := by
  rw [fieldJson, if_neg plain]
  cases entity.attribute? field <;> rfl

end Entity

namespace NodePlan

variable {store : Store} {entity : Entity}

/-- What a row does not show of an entity in the store is read from the entity. -/
theorem attributeOf_toRow (found : store.get? entity.id = some entity) (fields : List String) (field : String) :
    attributeOf store (entity.toRow fields) field = (entity.attribute? field).map Value.toJson := by
  simp only [attributeOf, entity.name_toRow, Json.asString?, found, Option.bind_eq_bind, Option.bind_some]
  cases entity.attribute? field <;> rfl

/-- A row is sorted by what its entity is, whatever it shows. -/
theorem keys_toRow {spec : SortSpec} (plain : ∀ field ∈ spec.fields, field.field ≠ "properties")
    (found : store.get? entity.id = some entity) (fields : List String) :
    spec.keys (attributeOf store) (entity.toRow fields) = entity.sortKeys spec := by
  rw [SortSpec.keys, Entity.sortKeys]
  apply List.map_congr_left
  intro field listed
  rw [attributeOf_toRow found, Entity.sortValue?]
  by_cases name : field.field = "name"
  · rw [name, if_pos rfl, entity.name_toRow, Option.some_or]
  · rw [if_neg name, entity.get?_toRow fields name]
    -- what the row shows comes first, and a null that it shows counts like an attribute that is missing
    split
    · rw [Option.some_or, entity.ofJson?_fieldJson (plain field listed)]
    · rw [Option.none_or]

end NodePlan

namespace Results

/-- The rows of matches. -/
def nodes : Results → List Row
  | .rows shown => shown
  | .subgraph found => found.nodes

/-- What the rows of matches are called. -/
def names (results : Results) : List (Option Json) := results.nodes.map (·.get? "name")

/-- The results with other rows of matches. -/
def withNodes (results : Results) (nodes : List Row) : Results :=
  match results with
  | .rows _ => .rows nodes
  | .subgraph found => .subgraph { found with nodes }

theorem nodes_withNodes (results : Results) (nodes : List Row) : (results.withNodes nodes).nodes = nodes := by
  cases results <;> rfl

end Results

namespace NodePlan

variable {plan : NodePlan} {context : QueryContext}

/-- The same search with other fields to return. -/
def returning (plan : NodePlan) (fields : List String) : NodePlan := { plan with returnFields := fields }

/-- The entities with some ids, sorted and limited as a search has it. -/
def shown (plan : NodePlan) (store : Store) (ids : List String) : List Entity :=
  plan.finish.keep (plan.finish.order Entity.sortKeys (ids.filterMap store.get?))

theorem finishedRows_returning (valid : context.store.WellFormed)
    (plain : ∀ field ∈ plan.finish.sortFields, field.field ≠ "properties") (fields ids : List String) :
    (plan.returning fields).finishedRows context.store ids =
      (plan.shown context.store ids).map (·.toRow fields) := by
  apply Finish.apply_map
  intro spec sorts entity listed
  obtain ⟨id, -, found⟩ := List.mem_filterMap.mp listed
  obtain ⟨-, rfl⟩ := valid.get?_eq_some_iff.mp found
  refine keys_toRow (fun field member => plain field ?_) found fields
  have sorting : plan.finish.sort = some spec := sorts
  rw [Finish.sortFields, sorting]
  exact member

/-- Whatever fields are returned, there are rows of the same entities, and everything else that is found stays the
same. -/
theorem execute_withNodes (valid : context.store.WellFormed)
    (plain : ∀ field ∈ plan.finish.sortFields, field.field ≠ "properties") :
    ∃ ids, ∀ fields, (plan.returning fields).execute context =
      (plan.execute context).withNodes ((plan.shown context.store ids).map (·.toRow fields)) := by
  have rows := finishedRows_returning valid plain
  have matched (fields : List String) : (plan.returning fields).candidates context = plan.candidates context := rfl
  cases mode : plan.mode with
  | list =>
    have listed (fields : List String) : (plan.returning fields).mode = .list := mode
    refine ⟨plan.candidates context, fun fields => ?_⟩
    rw [← rows fields, execute_list mode, execute_list (listed fields)]
    rfl
  | expand relations depth =>
    -- there is a row for each entity shown, so the fields do not change how many rows are counted
    have count (fields ids : List String) : ((plan.returning fields).finishedRows context.store ids).length =
        (plan.finishedRows context.store ids).length := by
      have own : plan.finishedRows context.store ids = _ := rows plan.returnFields ids
      rw [own, rows, List.length_map, List.length_map]
    refine ⟨plan.candidates context ++
      (connected context.store relations depth (plan.candidates context)).filter
        (!(plan.candidates context).contains ·), fun fields => ?_⟩
    rw [← rows fields, (plan.returning fields).execute_expand mode, plan.execute_expand mode, matched,
      expand_eq, expand_eq]
    simp only [Results.withNodes, count]

/-- In every store and with every provider, whatever the filters, the limit and the sort fields other than the one of
all properties: the fields to return change what the rows show of the entities, and neither which entities there are
rows of nor their order, nor anything else that is found. -/
theorem execute_returning (config : StoreConfig) (commands : List Command) (provider : Option EmbeddingProvider)
    (plan : NodePlan) (plain : ∀ field ∈ plan.finish.sortFields, field.field ≠ "properties") :
    let context : QueryContext := ⟨Store.history config commands, provider⟩
    (∀ one two : List String,
      ((plan.returning one).execute context).names = ((plan.returning two).execute context).names) ∧
    ∃ shown : List Entity, (∀ entity ∈ shown, entity ∈ context.store.entities) ∧ ∀ fields,
      (plan.returning fields).execute context = (plan.execute context).withNodes (shown.map (·.toRow fields)) := by
  intro context
  have valid : context.store.WellFormed := Store.history_wellFormed config commands
  obtain ⟨ids, same⟩ := execute_withNodes valid plain
  refine ⟨?_, plan.shown context.store ids, ?_, same⟩
  · intro one two
    have names (fields : List String) : ((plan.returning fields).execute context).names =
        (plan.shown context.store ids).map fun entity => some (.string entity.id) := by
      rw [same, Results.names, Results.nodes_withNodes, List.map_map]
      exact List.map_congr_left fun entity _ => entity.name_toRow fields
    rw [names, names]
  · intro entity listed
    have ordered := (plan.finish.keep_prefix _).subset listed
    obtain ⟨id, -, found⟩ := List.mem_filterMap.mp ((plan.finish.order_perm ..).mem_iff.mp ordered)
    exact (valid.get?_eq_some_iff.mp found).1

/-- Files by falling size, two at most, with the sizes and without. One with a size that is no finite number has a key
of another kind, and nothing is sorted. -/
theorem execute_returning_sizes :
    let file (name : String) (size : Value) : Command :=
      .edit (.upsert ⟨0, 0⟩ name "File" (.ofList [("size", size)]) none)
    let sized := [file "a" (.integer 1), file "b" (.double 9), file "c" (.bool true), file "d" (.integer 20)]
    let endless := sized ++ [file "e" (.double (.infinity false))]
    let plan : NodePlan := ⟨[.type "File"], .list, [], ⟨some ⟨[⟨"size", true⟩]⟩, some 2⟩⟩
    let listed (commands : List Command) (fields : List String) : List String :=
      ((plan.returning fields).execute ⟨Store.history {} commands, none⟩).names.filterMap (·.bind Json.asString?)
    (∀ field ∈ plan.finish.sortFields, field.field ≠ "properties") ∧
      listed sized [] = ["d", "b"] ∧ listed sized ["size"] = ["d", "b"] ∧
      listed endless [] = ["a", "b"] ∧ listed endless ["size"] = ["a", "b"] := by
  intro file sized endless plan listed
  have plain : ∀ field ∈ plan.finish.sortFields, field.field ≠ "properties" := by decide
  have same (commands : List Command) : listed commands ["size"] = listed commands [] :=
    congrArg (List.filterMap _) ((execute_returning {} commands none plan plain).1 ["size"] [])
  have first : listed sized [] = ["d", "b"] := by
    let context : QueryContext := ⟨Store.history {} sized, none⟩
    have uniform : SortSpec.Uniform (attributeOf context.store) [⟨"size", true⟩] (plan.matchingRows context) :=
      plan.uniform_matchingRows context (Store.history_wellFormed {} sized) (by decide +kernel)
    have sorted : SortSpec.sort ⟨[⟨"size", true⟩]⟩ (attributeOf context.store) (plan.matchingRows context) =
        [3, 1, 0, 2].filterMap ((plan.matchingRows context)[·]?) :=
      SortSpec.sort_of_arranges uniform ⟨by decide, by decide +kernel⟩
    have found : plan.execute context = .rows
        ((SortSpec.sort ⟨[⟨"size", true⟩]⟩ (attributeOf context.store) (plan.matchingRows context)).take 2) := rfl
    change (plan.execute context).names.filterMap (·.bind Json.asString?) = ["d", "b"]
    rw [found, sorted]
    decide +kernel
  have second : listed endless [] = ["a", "b"] := by decide +kernel
  exact ⟨plain, first, (same sized).trans first, second, (same endless).trans second⟩

end NodePlan

end EntityGraph
