import EntityGraph.Proofs.ComparisonLaws
import EntityGraph.Proofs.FieldClauses
import EntityGraph.Proofs.NumberStyles

/-!
Values that are looked for under themselves. A condition reads its operand as a value again, so it finds every value. A
filter clause compares texts, the attribute's as values are shown and the operand's as it is written in a query; those are
the same for strings, truth values and integers, but not for every double.
-/
namespace EntityGraph

/-- The names of the attributes that every entity has. -/
def Entity.reserved : List String := ["type", "description", "created_at", "updated_at"]

theorem Entity.attribute?_property {entity : Entity} {name : String} (free : name ∉ reserved) :
    entity.attribute? name = entity.properties.get? name := by
  simp only [reserved, List.mem_cons, List.not_mem_nil, or_false, not_or] at free
  obtain ⟨notType, notDescription, notCreated, notUpdated⟩ := free
  rw [attribute?, if_neg notType, if_neg notDescription, if_neg notCreated, if_neg notUpdated]

namespace FieldMatch

variable {test text : String} {operand : Json}

/-- The names of the tests that compare texts. -/
def textTests : List String := ["equals", "contains", "startswith", "endswith"]

theorem ofFilterEntry_single (member : test ∈ textTests) :
    ofFilterEntry (.object [(test, operand)]) = ofEntry test operand := by
  simp only [textTests, List.mem_cons, List.not_mem_nil, or_false] at member
  rcases member with rfl | rfl | rfl | rfl <;> rfl

theorem accepts_same (member : test ∈ textTests) (present : text ≠ "") (same : lower text = lower operand.asText) :
    (ofEntry test operand).accepts text = true := by
  have nonempty : text.isEmpty = false := by simpa using present
  simp only [textTests, List.mem_cons, List.not_mem_nil, or_false] at member
  rcases member with rfl | rfl | rfl | rfl
  all_goals
    simp only [ofEntry, accepts, nonempty, same, Bool.false_eq_true, if_false]
  case inl => exact beq_self_eq_true _
  case inr.inl => exact containsText_iff.mpr (List.infix_refl _)
  case inr.inr.inl => exact List.isPrefixOf_iff_prefix.mpr (List.prefix_refl _)
  case inr.inr.inr => exact List.isSuffixOf_iff_suffix.mpr (List.suffix_refl _)

theorem standsIn_of_accepts (member : test ∈ textTests) (accepted : (ofEntry test operand).accepts text = true) :
    StandsIn (lower operand.asText) (lower text) := by
  have nonempty : text.isEmpty = false := by
    by_contra empty
    rw [Bool.not_eq_false] at empty
    simp [accepts, empty] at accepted
  simp only [textTests, List.mem_cons, List.not_mem_nil, or_false] at member
  rcases member with rfl | rfl | rfl | rfl
  all_goals
    simp only [ofEntry, accepts, nonempty, Bool.false_eq_true, if_false] at accepted
  case inl => exact eq_of_beq accepted ▸ List.infix_refl _
  case inr.inl => exact containsText_iff.mp accepted
  case inr.inr.inl => exact (List.isPrefixOf_iff_prefix.mp accepted).isInfix
  case inr.inr.inr => exact (List.isSuffixOf_iff_suffix.mp accepted).isInfix

end FieldMatch

namespace Value

variable {v : Value}

theorem asText_ne_empty (truthy : v.isTruthy = true) : v.asText ≠ "" := by
  cases v with
  | null => cases truthy
  | bool b => cases b <;> simp [asText]
  | integer n =>
    rw [asText, ne_eq, ← String.toList_eq_nil_iff, Json.toList_toString]
    exact NumberStyle.signed_ne_nil (Decimal.digitsOf_ne_nil _) _
  | double d => exact Double.text_plain_ne_empty d
  | string s => simpa [isTruthy, asText] using truthy

theorem asText_toJson_double {d : Double} (finite : d.isFinite = true) :
    (double d).toJson.asText = d.text .structured := by
  simp [toJson, finite, Json.asText, Json.compact, Json.scalarText, Json.doubleText]

/-- What is shown is what is written, of every value that says something but a double with two texts. -/
theorem asText_toJson (truthy : v.isTruthy = true) (one : ∀ d, v = .double d → d.OneText) :
    v.toJson.asText = v.asText := by
  cases v with
  | null => cases truthy
  | bool b => cases b <;> rfl
  | integer n => rfl
  | double d =>
    rw [asText_toJson_double (one d rfl).isFinite, asText, (one d rfl).text_eq]
  | string s => rfl

end Value

namespace Entity

variable {entity : Entity} {name : String} {value : Value}

/-- A test for the value itself accepts it unless it is a double with two texts; of those, no test accepts one. -/
theorem passesFilter_iff (found : entity.attribute? name = some value) (truthy : value.isTruthy = true)
    (finite : ∀ d, value = .double d → d.isFinite = true) {test : String} (member : test ∈ FieldMatch.textTests) :
    entity.passesFilter name (.object [(test, value.toJson)]) = true ↔ ∀ d, value = .double d → d.OneText := by
  have reads : entity.passesFilter name (.object [(test, value.toJson)]) =
      (FieldMatch.ofEntry test value.toJson).accepts value.asText := by
    rw [passesFilter_eq, FieldMatch.ofFilterEntry_single member]
    simp [FieldSpec.evaluate, found, truthy]
  rw [reads]
  constructor
  · rintro accepted d rfl
    have part := FieldMatch.standsIn_of_accepts member accepted
    rw [Value.asText_toJson_double (finite d rfl)] at part
    exact Double.oneText_of_standsIn (finite d rfl) part
  · intro one
    exact FieldMatch.accepts_same member (Value.asText_ne_empty truthy) (by rw [Value.asText_toJson truthy one])

theorem meetsCondition_self (found : entity.attribute? name = some value) (truthy : value.isTruthy = true)
    (finite : ∀ d, value = .double d → d.isFinite = true) (plain : name ∉ Condition.combinators) :
    entity.meetsCondition name (.object [("equals", value.toJson)]) = true := by
  have present : value ≠ .null := by
    rintro rfl
    cases truthy
  have named : Operator.ofText? "equals" = some .equals := by decide +kernel
  have single : FieldCondition.ofEntry name (.object [("equals", value.toJson)]) = [.compare ⟨name, .equals, value⟩] := by
    rw [FieldCondition.ofEntry_named named, Value.ofJson_toJson finite]
  calc entity.meetsCondition name (.object [("equals", value.toJson)])
    _ = entity.meets name .equals value := (meets_clauses single).1 plain
    _ = value.looseEq value := meets_eq found present ..
    _ = true := Value.looseEq_self_iff.mpr fun d same => Double.isNaN_of_isFinite (finite d same)

/-- A property that says something passes every filter test for its own value exactly if that is not a double with two
texts; it always meets the condition that asks for its value. -/
theorem matches_itself (stored : entity.properties.get? name = some value) (free : name ∉ reserved)
    (truthy : value.isTruthy = true) (finite : ∀ d, value = .double d → d.isFinite = true) :
    (∀ test ∈ FieldMatch.textTests, entity.passesFilter name (.object [(test, value.toJson)]) = true ↔
      ∀ d, value = .double d → d.OneText) ∧
    (name ∉ Condition.combinators → entity.meetsCondition name (.object [("equals", value.toJson)]) = true) := by
  have found := (attribute?_property free).trans stored
  exact ⟨fun _ => passesFilter_iff found truthy finite, meetsCondition_self found truthy finite⟩

/-- A double with digits after the point matches itself. -/
theorem matches_itself_fraction :
    let score : Double := ⟨0x4004000000000000⟩
    let entity : Entity := ⟨"Ann", "Person", "", .ofList [("score", .double score)], ⟨0, 0⟩, none⟩
    entity.properties.get? "score" = some (.double score) ∧ "score" ∉ reserved ∧ (Value.double score).isTruthy = true ∧
      (∀ d, Value.double score = .double d → d.isFinite = true) ∧ score.OneText ∧
      (∀ test ∈ FieldMatch.textTests,
        entity.passesFilter "score" (.object [(test, (Value.double score).toJson)]) = true) ∧
      entity.meetsCondition "score" (.object [("equals", (Value.double score).toJson)]) = true := by
  intro score entity
  have stored : entity.properties.get? "score" = some (.double score) := by decide +kernel
  have free : "score" ∉ reserved := by decide
  have truthy : (Value.double score).isTruthy = true := by decide +kernel
  have finite : ∀ d, Value.double score = .double d → d.isFinite = true := by
    rintro _ ⟨⟩
    decide +kernel
  have one : score.OneText := by decide +kernel
  have both := matches_itself stored free truthy finite
  refine ⟨stored, free, truthy, finite, one, fun test member => (both.1 test member).mpr ?_, both.2 (by decide)⟩
  rintro _ ⟨⟩
  exact one

/-- Two is shown as `2` and written as `2.0`: no filter test for it accepts it, and the condition does. -/
theorem whole_double_unmatched :
    let two : Double := ⟨0x4000000000000000⟩
    let entity : Entity := ⟨"Ann", "Person", "", .ofList [("score", .double two)], ⟨0, 0⟩, none⟩
    entity.properties.get? "score" = some (.double two) ∧ "score" ∉ reserved ∧ (Value.double two).isTruthy = true ∧
      two.isFinite = true ∧
      (∀ test ∈ FieldMatch.textTests,
        entity.passesFilter "score" (.object [(test, (Value.double two).toJson)]) = false) ∧
      entity.meetsCondition "score" (.object [("equals", (Value.double two).toJson)]) = true := by
  decide +kernel

end Entity

end EntityGraph
