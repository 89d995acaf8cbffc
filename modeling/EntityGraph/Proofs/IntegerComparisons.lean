import EntityGraph.Proofs.FieldClauses
import EntityGraph.Proofs.IntegerOrder

/-!
Comparisons of integer attributes with integer operands. They go through the nearest doubles, so they are those of the
integers themselves as long as these have different doubles, and two integers with one double are compared as equal.
-/
namespace EntityGraph

namespace Operator

/-- The operators that compare whole numbers. -/
def comparisons : List Operator := [equals, notEquals, gt, lt, gte, lte]

/-- What an operator asks of two whole numbers. -/
def relates (operator : Operator) (a b : Int) : Bool :=
  match operator with
  | equals => a = b
  | notEquals => a ≠ b
  | gt => a > b
  | lt => a < b
  | gte => a ≥ b
  | lte => a ≤ b
  | _ => false

/-- The operand as far as a comparison with `a` can tell: an integer with the same nearest double is taken for `a`. -/
def seenFrom (a b : Int) : Int := if Double.ofInt a = Double.ofInt b then a else b

theorem compare_seenFrom (a b : Int) : (Double.ofInt a).compare? (Double.ofInt b) = some (compare a (seenFrom a b)) := by
  rw [Double.compare?_ofInt, seenFrom]
  split
  · rw [compare_eq_iff_eq.mpr rfl]
  · rfl

theorem holds_integers {operator : Operator} (member : operator ∈ comparisons) (a b : Int64) :
    operator.holds (.integer a) (.integer b) = operator.relates a.toInt (seenFrom a.toInt b.toInt) := by
  have order := compare_seenFrom a.toInt b.toInt
  have placed : Value.compare? (.integer a) (.integer b) = some (compare a.toInt (seenFrom a.toInt b.toInt)) := order
  have same : Value.looseEq (.integer a) (.integer b) = decide (a.toInt = seenFrom a.toInt b.toInt) := by
    simp [Value.looseEq, Value.asNumber?, Double.equals, order]
  simp only [comparisons, List.mem_cons, List.not_mem_nil, or_false] at member
  rcases member with rfl | rfl | rfl | rfl | rfl | rfl
  case inl => exact same
  case inr.inl => simp [holds, same, relates]
  all_goals
    simp only [holds, placed, relates, Option.some.injEq, compare_lt_iff_lt, compare_gt_iff_gt, compare_eq_iff_eq,
      ← Bool.decide_or, decide_eq_decide]
  case inr.inr.inr.inr.inl => exact le_iff_lt_or_eq'.symm
  case inr.inr.inr.inr.inr => exact le_iff_lt_or_eq.symm

end Operator

namespace Entity

variable {entity : Entity} {field : String} {a b : Int64}

/-- A clause compares an integer attribute with integers as their nearest doubles are compared: under every spelling of an
operator, and with a bare integer for equality. -/
structure ComparesIntegers (accepts : Json → Bool) (a b : Int64) : Prop where
  named : ∀ operator ∈ Operator.comparisons, ∀ name, Operator.ofText? name = some operator →
    accepts (.object [(name, .integer b.toInt)]) = operator.relates a.toInt (Operator.seenFrom a.toInt b.toInt)
  scalar : accepts (.integer b.toInt) = Operator.equals.relates a.toInt (Operator.seenFrom a.toInt b.toInt)

theorem compares_integers {accepts : Json → Bool} (found : entity.attribute? field = some (.integer a))
    (single : ∀ spec test, FieldCondition.ofEntry field spec = [test] → accepts spec = test.evaluate entity) :
    ComparesIntegers accepts a b := by
  have operand : Value.ofJson (.integer b.toInt) = .integer b := Value.ofJson_toJson (v := .integer b) nofun
  constructor
  case named =>
    intro operator member name known
    rw [single _ _ (FieldCondition.ofEntry_named known _), operand, ← Operator.holds_integers member]
    simp [FieldCondition.evaluate, OperatorCondition.evaluate, found, Value.isNull]
  case scalar =>
    rw [single _ _ rfl, operand, ← Operator.holds_integers (by decide)]
    simp [FieldCondition.evaluate, found, Operator.holds]

/-- In conditions and in property clauses an integer attribute is compared with an integer exactly, unless the two are
different and share their nearest double, which takes both of them to be at least `2 ^ 53` in magnitude: then they are
compared as equal. -/
theorem integers_compared (found : entity.attribute? field = some (.integer a)) (b : Int64) :
    (field ∉ Condition.combinators → ComparesIntegers (entity.meetsCondition field) a b) ∧
    ComparesIntegers (entity.passesProperties field) a b ∧
    (a.toInt.natAbs < 2 ^ 53 ∨ b.toInt.natAbs < 2 ^ 53 → Operator.seenFrom a.toInt b.toInt = b.toInt) := by
  refine ⟨fun plain => ?_, ?_, fun small => ?_⟩
  · exact compares_integers found fun _ _ single => (meets_clauses single).1 plain
  · exact compares_integers found fun _ _ single => (meets_clauses single).2
  · unfold Operator.seenFrom
    split
    · rename_i same
      exact (Double.ofInt_inj small).mp same
    · rfl

/-- An integer of 53 digits is told from the integer after it. -/
theorem integers_compared_adjacent :
    let entity : Entity := ⟨"Ann", "Person", "", .ofList [("serial", .integer 9007199254740991)], ⟨0, 0⟩, none⟩
    entity.attribute? "serial" = some (.integer 9007199254740991) ∧ "serial" ∉ Condition.combinators ∧
      (9007199254740991 : Int64).toInt.natAbs < 2 ^ 53 ∧
      (ComparesIntegers (entity.meetsCondition "serial") 9007199254740991 9007199254740992 ∧
        ComparesIntegers (entity.passesProperties "serial") 9007199254740991 9007199254740992 ∧
        Operator.seenFrom 9007199254740991 9007199254740992 = 9007199254740992) ∧
      entity.meetsCondition "serial" (.object [("<", .integer 9007199254740992)]) = true := by
  intro entity
  have found : entity.attribute? "serial" = some (.integer 9007199254740991) := by decide +kernel
  have plain : "serial" ∉ Condition.combinators := by decide
  have small : (9007199254740991 : Int64).toInt.natAbs < 2 ^ 53 := by decide
  obtain ⟨condition, clause, told⟩ := integers_compared found 9007199254740992
  exact ⟨found, plain, small, ⟨condition plain, clause, told (.inl small)⟩, by decide +kernel⟩

/-- Two integers after `2 ^ 53` are not told apart: the larger one equals the smaller one, and is not greater. -/
theorem integers_confused :
    let entity : Entity := ⟨"Ann", "Person", "", .ofList [("serial", .integer 9007199254740993)], ⟨0, 0⟩, none⟩
    let operand : Json := .integer 9007199254740992
    (9007199254740993 : Int) > 9007199254740992 ∧
      [("equals", true), ("not_equals", false), ("gt", false), ("lt", false), ("gte", true), ("lte", true)].all
        (fun (name, answer) => entity.meetsCondition "serial" (.object [(name, operand)]) == answer &&
          entity.passesProperties "serial" (.object [(name, operand)]) == answer) = true ∧
      entity.meetsCondition "serial" operand = true ∧ entity.passesProperties "serial" operand = true := by
  decide +kernel

end Entity

end EntityGraph
