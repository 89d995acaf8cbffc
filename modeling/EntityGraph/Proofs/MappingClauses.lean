import EntityGraph.Proofs.FieldClauses

/-!
One mapping of fields, read as a condition and as a property clause. Both make the same tests of every field; the condition
asks for all of them and the clause for one. So the clause accepts what the condition does as long as every field has a
test, and they accept the same if none has more than one.
-/
namespace EntityGraph

namespace FieldCondition

variable {field : String} {spec : Json}

theorem ofEntry_eq_nil_iff : ofEntry field spec = [] ↔ spec = .object [] := by
  cases spec <;> simp [ofEntry]

/-- A mapping with one operator makes one test, as does everything that is no mapping. -/
theorem exists_ofEntry_single (field : String) (single : ∀ operators, spec = .object operators → operators.length = 1) :
    ∃ test, ofEntry field spec = [test] := by
  cases spec with
  | object operators =>
    obtain ⟨operator, only⟩ := List.length_eq_one_iff.mp (single operators rfl)
    exact ⟨_, by rw [ofEntry, only, List.map_singleton]⟩
  | _ => exact ⟨_, rfl⟩

end FieldCondition

namespace Entity

variable {entity : Entity} {members : Members}

/-- An entity meets the condition that a mapping describes. -/
def meetsMapping (entity : Entity) (members : Members) : Bool := (Condition.ofJson (.object members)).evaluate entity

/-- An entity passes the property clause that a mapping describes. -/
def passesMapping (entity : Entity) (members : Members) : Bool := (PropertyFilter.ofMembers members).accepts entity

theorem meetsMapping_iff (plain : ∀ member ∈ members, member.1 ∉ Condition.combinators) :
    entity.meetsMapping members = true ↔
      ∀ member ∈ members, ∀ test ∈ FieldCondition.ofEntry member.1 member.2, test.evaluate entity = true := by
  rw [meetsMapping, Condition.ofJson_fields plain, Condition.fieldsOf, Condition.evaluate, List.all_flatMap]
  simp only [List.all_eq_true]

theorem passesMapping_iff : entity.passesMapping members = true ↔
    ∀ member ∈ members, ∃ test ∈ FieldCondition.ofEntry member.1 member.2, test.evaluate entity = true := by
  rw [passesMapping, PropertyFilter.ofMembers, PropertyFilter.accepts, List.all_map]
  simp only [List.all_eq_true, List.any_eq_true, Function.comp_apply]

theorem passes_of_meets (plain : ∀ member ∈ members, member.1 ∉ Condition.combinators)
    (tested : ∀ member ∈ members, member.2 ≠ .object []) (meets : entity.meetsMapping members = true) :
    entity.passesMapping members = true := by
  apply passesMapping_iff.mpr
  intro member listed
  obtain ⟨test, made⟩ := List.exists_mem_of_ne_nil _ (mt FieldCondition.ofEntry_eq_nil_iff.mp (tested member listed))
  exact ⟨test, made, (meetsMapping_iff plain).mp meets member listed test made⟩

theorem passes_iff_meets (plain : ∀ member ∈ members, member.1 ∉ Condition.combinators)
    (single : ∀ member ∈ members, ∀ operators, member.2 = .object operators → operators.length = 1) :
    entity.passesMapping members = true ↔ entity.meetsMapping members = true := by
  rw [passesMapping_iff, meetsMapping_iff plain]
  apply forall₂_congr
  intro member listed
  obtain ⟨test, only⟩ := FieldCondition.exists_ofEntry_single member.1 (single member listed)
  simp only [only, List.mem_singleton, exists_eq_left, forall_eq]

/-- A field without a test is one that a clause never finds to be right, and a condition never finds to be wrong. -/
theorem untested_field (plain : ∀ member ∈ members, member.1 ∉ Condition.combinators) {before after : Members}
    {field : String} (split : members = before ++ (field, .object []) :: after) :
    entity.passesMapping members = false ∧ entity.meetsMapping members = entity.meetsMapping (before ++ after) := by
  have untested : FieldCondition.ofEntry field (.object []) = [] := FieldCondition.ofEntry_eq_nil_iff.mpr rfl
  constructor
  · rw [← Bool.not_eq_true, passesMapping_iff]
    intro passed
    have listed : (field, .object []) ∈ members := split ▸ List.mem_append_right before List.mem_cons_self
    obtain ⟨test, made, -⟩ := passed _ listed
    simp [untested] at made
  · have others : ∀ member ∈ before ++ after, member.1 ∉ Condition.combinators := by
      intro member listed
      refine plain member (split ▸ ?_)
      exact List.mem_append.mpr ((List.mem_append.mp listed).imp_right (List.mem_cons_of_mem _))
    rw [Bool.eq_iff_iff, meetsMapping_iff plain, meetsMapping_iff others, split]
    simp [or_imp, forall_and, untested]

/-- Of every mapping that combines no conditions: if no field is given an empty mapping, the entities that meet it as a
condition also pass it as a property clause; if moreover no field is given more than one operator, it makes no difference
as which of them it is read. A field with an empty mapping keeps every entity from passing the clause, and makes no
difference to the condition. -/
theorem condition_within_clause (plain : ∀ member ∈ members, member.1 ∉ Condition.combinators) (entity : Entity) :
    ((∀ member ∈ members, member.2 ≠ .object []) →
      entity.meetsMapping members = true → entity.passesMapping members = true) ∧
    ((∀ member ∈ members, ∀ operators, member.2 = .object operators → operators.length = 1) →
      (entity.passesMapping members = true ↔ entity.meetsMapping members = true)) ∧
    ∀ before after field, members = before ++ (field, .object []) :: after →
      entity.passesMapping members = false ∧ entity.meetsMapping members = entity.meetsMapping (before ++ after) :=
  ⟨passes_of_meets plain, passes_iff_meets plain, fun _ _ _ => untested_field plain⟩

/-- An age between two bounds, and a city; without the bounds the city alone decides the condition. -/
theorem condition_within_clause_bounds :
    let entity : Entity :=
      ⟨"Ann", "Person", "", .ofList [("age", .integer 41), ("city", .string "Paris")], ⟨0, 0⟩, none⟩
    let bounded : Members := [("age", .object [("gte", .integer 18), ("lt", .integer 65)]), ("city", .string "Paris")]
    let single : Members := [("age", .object [(">", .integer 41)]), ("city", .string "Paris")]
    let unbounded : Members := [("age", .object []), ("city", .string "Paris")]
    (entity.meetsMapping bounded = true ∧ entity.passesMapping bounded = true) ∧
      (entity.meetsMapping single = false ∧ entity.passesMapping single = false) ∧
      entity.meetsMapping unbounded = true ∧ entity.passesMapping unbounded = false := by
  intro entity bounded single unbounded
  have met : entity.meetsMapping bounded = true := by decide +kernel
  have unmet : entity.meetsMapping single = false := by decide +kernel
  have rest : entity.meetsMapping [("city", .string "Paris")] = true := by decide +kernel
  have plain (age : Json) :
      ∀ member ∈ [("age", age), ("city", Json.string "Paris")], member.1 ∉ Condition.combinators := by
    simp [Condition.combinators]
  have passed : entity.passesMapping bounded = true :=
    (condition_within_clause (plain _) entity).1 (by simp) met
  have same : entity.passesMapping single = true ↔ entity.meetsMapping single = true :=
    (condition_within_clause (plain _) entity).2.1 (by simp)
  obtain ⟨refused, ignored⟩ := (condition_within_clause (plain (.object [])) entity).2.2 [] _ "age" rfl
  refine ⟨⟨met, passed⟩, ⟨unmet, ?_⟩, ignored.trans rest, refused⟩
  rw [← Bool.not_eq_true, same, unmet]
  decide

end Entity

end EntityGraph
