import EntityGraph.Query.Filter

/-!
Clauses with one field: a condition, a property clause and a filter clause, each as the test that it puts an attribute to.
-/
namespace EntityGraph

/-- The keys of a condition that combine other conditions; every other key is a field. -/
def Condition.combinators : List String := ["all", "any", "not"]

namespace Condition

variable {key : String} {members : Members}

theorem partsAt_absent (absent : ∀ member ∈ members, member.1 ≠ key) : partsAt key members = none := by
  induction members with
  | nil => rfl
  | cons member rest ih =>
    obtain ⟨name, spec⟩ := member
    have other : name ≠ key := absent _ List.mem_cons_self
    have later := ih fun member listed => absent member (List.mem_cons_of_mem _ listed)
    cases spec <;> simp [partsAt, other, later]

theorem partAt_absent (absent : ∀ member ∈ members, member.1 ≠ key) : partAt key members = none := by
  induction members with
  | nil => rfl
  | cons member rest ih =>
    have other : member.1 ≠ key := absent _ List.mem_cons_self
    rw [partAt, if_neg other]
    exact ih fun member listed => absent member (List.mem_cons_of_mem _ listed)

theorem ofJson_fields (plain : ∀ member ∈ members, member.1 ∉ combinators) :
    ofJson (.object members) = fieldsOf members := by
  have absent {key : String} (combines : key ∈ combinators) : ∀ member ∈ members, member.1 ≠ key := by
    rintro member listed rfl
    exact plain member listed combines
  rw [ofJson, partsAt_absent (absent (by decide)), partsAt_absent (absent (by decide)),
    partAt_absent (absent (by decide))]

theorem ofJson_field {field : String} (plain : field ∉ combinators) (spec : Json) :
    ofJson (.object [(field, spec)]) = .fields (FieldCondition.ofEntry field spec) := by
  rw [ofJson_fields (by simpa using plain)]
  simp [fieldsOf]

end Condition

/-- A value that is written as a number, a text or a truth value is what a clause reads. -/
theorem Value.ofJson_toJson {v : Value} (finite : ∀ d, v = .double d → d.isFinite = true) : ofJson v.toJson = v := by
  cases v with
  | integer n =>
    have inside : -0x8000_0000_0000_0000 ≤ n.toInt ∧ n.toInt < 0x8000_0000_0000_0000 := ⟨n.le_toInt, n.toInt_lt⟩
    simp [ofJson, toJson, ofScalar?, ofInt, inside]
  | double d => simp [ofJson, toJson, finite d rfl, ofScalar?]
  | _ => rfl

namespace Entity

variable {entity : Entity} {field : String}

/-- An entity meets a condition on one field. -/
def meetsCondition (entity : Entity) (field : String) (spec : Json) : Bool :=
  (Condition.ofJson (.object [(field, spec)])).evaluate entity

/-- An entity passes a property clause for one field. -/
def passesProperties (entity : Entity) (field : String) (spec : Json) : Bool :=
  (PropertyFilter.ofMembers [(field, spec)]).accepts entity

/-- An entity passes a filter clause for one field. -/
def passesFilter (entity : Entity) (field : String) (entry : Json) : Bool :=
  (FieldFilter.ofMembers [(field, entry)]).accepts entity

theorem meetsCondition_eq (plain : field ∉ Condition.combinators) (spec : Json) :
    entity.meetsCondition field spec = (FieldCondition.ofEntry field spec).all (·.evaluate entity) := by
  rw [meetsCondition, Condition.ofJson_field plain, Condition.evaluate]

theorem passesProperties_eq (spec : Json) :
    entity.passesProperties field spec = (FieldCondition.ofEntry field spec).any (·.evaluate entity) := by
  simp [passesProperties, PropertyFilter.ofMembers, PropertyFilter.accepts]

theorem passesFilter_eq (entry : Json) :
    entity.passesFilter field entry = FieldSpec.evaluate ⟨field, FieldMatch.ofFilterEntry entry⟩ entity := by
  simp [passesFilter, FieldFilter.ofMembers, FieldFilter.accepts]

/-- Where there is one test only, it makes no difference whether all of them or any of them has to hold. -/
theorem meets_clauses {spec : Json} {test : FieldCondition} (single : FieldCondition.ofEntry field spec = [test]) :
    (field ∉ Condition.combinators → entity.meetsCondition field spec = test.evaluate entity) ∧
      entity.passesProperties field spec = test.evaluate entity := by
  refine ⟨fun plain => ?_, ?_⟩
  · simp [meetsCondition_eq plain, single]
  · simp [passesProperties_eq, single]

end Entity

theorem FieldCondition.ofEntry_named {field name : String} {operator : Operator}
    (known : Operator.ofText? name = some operator) (operand : Json) :
    ofEntry field (.object [(name, operand)]) = [.compare ⟨field, operator, Value.ofJson operand⟩] := by
  simp [ofEntry, ofOperator, known]

end EntityGraph
