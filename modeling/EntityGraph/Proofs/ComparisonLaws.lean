import EntityGraph.Condition.Operator
import EntityGraph.Proofs.NumberOrder

/-!
The laws of named comparisons. Equality goes by kinds and order by numeric readings, so a string is never the same as a
number, yet it may be neither less nor greater than one. Within these two rules the comparisons cohere: equality is an
equivalence apart from "not a number", and the orders are opposites, mirror images and alternatives of each other wherever
two values can be ordered at all.
-/
namespace EntityGraph

namespace Value

variable {a b c : Value}

/-- The place that equality goes by: numbers and truth values have one, strings do not, even if they spell a number. -/
def equalityKey? : Value → Option Int
  | null | string _ => none
  | other => other.asNumber?.bind Double.key?

theorem looseEq_iff : a.looseEq b = true ↔
    a = .null ∧ b = .null ∨ (∃ s, a = .string s ∧ b = .string s) ∨
      ∃ key, a.equalityKey? = some key ∧ b.equalityKey? = some key := by
  cases a <;> cases b <;> simp [looseEq, equalityKey?, asNumber?, Double.equals_iff, @eq_comm String]

theorem looseEq_symm (same : a.looseEq b = true) : b.looseEq a = true := by
  rcases looseEq_iff.mp same with ⟨first, second⟩ | ⟨s, first, second⟩ | ⟨key, first, second⟩
  · exact looseEq_iff.mpr (.inl ⟨second, first⟩)
  · exact looseEq_iff.mpr (.inr (.inl ⟨s, second, first⟩))
  · exact looseEq_iff.mpr (.inr (.inr ⟨key, second, first⟩))

theorem looseEq_trans (first : a.looseEq b = true) (second : b.looseEq c = true) : a.looseEq c = true := by
  rw [looseEq_iff] at first second ⊢
  rcases first with ⟨rfl, rfl⟩ | ⟨s, rfl, rfl⟩ | ⟨key, known, shared⟩
  · simpa [equalityKey?] using second
  · simpa [equalityKey?] using second
  · rcases second with ⟨rfl, -⟩ | ⟨s, rfl, -⟩ | ⟨other, again, last⟩
    · cases shared
    · cases shared
    · have same : key = other := Option.some.inj (shared.symm.trans again)
      exact .inr (.inr ⟨key, known, same ▸ last⟩)

/-- Only "not a number" differs from itself. -/
theorem looseEq_self_iff : a.looseEq a = true ↔ ∀ d, a = .double d → d.isNaN = false := by
  cases a with
  | null => simp [looseEq]
  | string s => simp [looseEq]
  | bool b =>
    have placed : (if b then 1 else 0 : Double).key?.isSome = true := by
      cases b <;> exact Double.key?_ofInt _
    simpa [looseEq_iff, equalityKey?, asNumber?, Option.isSome_iff_exists] using placed
  | integer n =>
    simpa [looseEq_iff, equalityKey?, asNumber?, Option.isSome_iff_exists] using Double.key?_ofInt n.toInt
  | double d => simp [looseEq_iff, equalityKey?, asNumber?, ← Option.isSome_iff_exists, Double.key?_isSome_iff]

/-- Equality is an equivalence of all values but "not a number". -/
structure EqualityLaws : Prop where
  symmetric : ∀ a b : Value, a.looseEq b = b.looseEq a
  transitive : ∀ a b c : Value, a.looseEq b = true → b.looseEq c = true → a.looseEq c = true
  reflexive : ∀ a : Value, a.looseEq a = true ↔ ∀ d, a = .double d → d.isNaN = false

theorem equality_laws : EqualityLaws where
  symmetric _ _ := Bool.eq_iff_iff.mpr ⟨looseEq_symm, looseEq_symm⟩
  transitive _ _ _ := looseEq_trans
  reflexive _ := looseEq_self_iff

/-- Both values have a numeric reading, and one of the readings is not a number. -/
def Unordered (a b : Value) : Prop :=
  ∃ x y, a.asNumber? = some x ∧ b.asNumber? = some y ∧ (x.isNaN = true ∨ y.isNaN = true)

theorem compare?_eq_none_iff : a.compare? b = none ↔ a.Unordered b := by
  unfold compare? Unordered
  cases a.asNumber? <;> cases b.asNumber? <;> simp [Double.compare?_eq_none_iff]

theorem compare?_swap (a b : Value) : b.compare? a = (a.compare? b).map Ordering.swap := by
  unfold compare?
  rcases a.asNumber? with _ | x <;> rcases b.asNumber? with _ | y
  case some.some => exact Double.compare?_swap x y
  all_goals exact congrArg some Std.OrientedOrd.eq_swap

/-- What equals has the same place in the order. -/
theorem compare?_of_looseEq (ordered : ¬ a.Unordered b) (same : a.looseEq b = true) : a.compare? b = some .eq := by
  obtain ⟨ordering, known⟩ := Option.ne_none_iff_exists'.mp (mt compare?_eq_none_iff.mp ordered)
  rcases looseEq_iff.mp same with ⟨rfl, rfl⟩ | ⟨s, rfl, rfl⟩ | ⟨key, first, second⟩
  · rfl
  · have swapped := compare?_swap (.string s) (.string s)
    rw [known] at swapped ⊢
    cases ordering <;> first | rfl | cases swapped
  · have numeric {v : Value} (placed : v.equalityKey? = some key) :
        ∃ x, v.asNumber? = some x ∧ x.key? = some key := by
      cases v <;> first | cases placed | exact Option.bind_eq_some_iff.mp placed
    obtain ⟨x, one, placed⟩ := numeric first
    obtain ⟨y, two, alike⟩ := numeric second
    simp [compare?, one, two, Double.compare?, placed, alike]

end Value

namespace Entity

variable {entity : Entity} {field : String} {actual operand : Value}

/-- An attribute meets a named comparison with an operand. -/
def meets (entity : Entity) (field : String) (operator : Operator) (operand : Value) : Bool :=
  OperatorCondition.evaluate ⟨field, operator, operand⟩ entity

theorem meets_eq (found : entity.attribute? field = some actual) (present : actual ≠ .null) (operator : Operator)
    (operand : Value) : entity.meets field operator operand = operator.holds actual operand := by
  have notNull : actual.isNull = false := by cases actual <;> first | rfl | exact absurd rfl present
  rw [meets, OperatorCondition.evaluate, found]
  simp [notNull]

/-- What the comparisons of an attribute with an operand have to do with each other. -/
structure ComparisonsCohere (entity : Entity) (field : String) (actual operand : Value) : Prop where
  equals : entity.meets field .equals operand = actual.looseEq operand
  notEquals : entity.meets field .notEquals operand = !entity.meets field .equals operand
  /-- Of less, greater and neither exactly one holds. -/
  trichotomy : ¬ actual.Unordered operand →
    [entity.meets field .lt operand, entity.meets field .gt operand,
      entity.meets field .gte operand && entity.meets field .lte operand].count true = 1
  opposites : ¬ actual.Unordered operand →
    entity.meets field .gte operand = !entity.meets field .lt operand ∧
    entity.meets field .lte operand = !entity.meets field .gt operand
  /-- Any entity whose attribute is the operand makes the mirror image of every order. -/
  mirrored : operand ≠ .null → ∀ (other : Entity) (place : String), other.attribute? place = some operand →
    entity.meets field .lt operand = other.meets place .gt actual ∧
    entity.meets field .gt operand = other.meets place .lt actual ∧
    entity.meets field .gte operand = other.meets place .lte actual ∧
    entity.meets field .lte operand = other.meets place .gte actual
  level : ¬ actual.Unordered operand → entity.meets field .equals operand = true →
    entity.meets field .gte operand = true ∧ entity.meets field .lte operand = true
  /-- Beside "not a number" no order holds. -/
  unordered : actual.Unordered operand →
    ∀ operator ∈ [Operator.lt, .gt, .gte, .lte], entity.meets field operator operand = false

/-- The comparisons of an attribute that is there and not null cohere, with every operand; and equality, which they share
with all other clauses, is an equivalence of all values but "not a number". -/
theorem comparisons_cohere (found : entity.attribute? field = some actual) (present : actual ≠ .null)
    (operand : Value) : Value.EqualityLaws ∧ entity.ComparisonsCohere field actual operand := by
  refine ⟨Value.equality_laws, ?_⟩
  have ordering (ordered : ¬ actual.Unordered operand) : ∃ order, actual.compare? operand = some order :=
    Option.ne_none_iff_exists'.mp (mt Value.compare?_eq_none_iff.mp ordered)
  constructor
  case equals => exact meets_eq found present ..
  case notEquals =>
    rw [meets_eq found present, meets_eq found present]
    rfl
  case trichotomy =>
    intro ordered
    obtain ⟨order, known⟩ := ordering ordered
    simp only [meets_eq found present, Operator.holds, known]
    cases order <;> rfl
  case opposites =>
    intro ordered
    obtain ⟨order, known⟩ := ordering ordered
    simp only [meets_eq found present, Operator.holds, known]
    cases order <;> exact ⟨rfl, rfl⟩
  case mirrored =>
    intro valued other place stored
    simp only [meets_eq found present, meets_eq stored valued, Operator.holds, Value.compare?_swap actual operand]
    rcases actual.compare? operand with _ | _ | _ | _ <;> exact ⟨rfl, rfl, rfl, rfl⟩
  case level =>
    intro ordered same
    rw [meets_eq found present] at same
    have known := Value.compare?_of_looseEq ordered same
    simp only [meets_eq found present, Operator.holds, known]
    exact ⟨rfl, rfl⟩
  case unordered =>
    intro unordered operator member
    have unknown := Value.compare?_eq_none_iff.mpr unordered
    rw [meets_eq found present]
    simp only [List.mem_cons, List.not_mem_nil, or_false] at member
    rcases member with rfl | rfl | rfl | rfl <;> simp [Operator.holds, unknown]

/-- A string that spells a number is neither less nor greater than that number, and not the same. -/
theorem comparisons_cohere_spelled :
    let entity : Entity := ⟨"Ann", "Person", "", .ofList [("score", .string " 1e2 ")], ⟨0, 0⟩, none⟩
    entity.attribute? "score" = some (.string " 1e2 ") ∧ Value.string " 1e2 " ≠ .null ∧
      (Value.EqualityLaws ∧ entity.ComparisonsCohere "score" (.string " 1e2 ") (.integer 100)) ∧
      [Operator.equals, .notEquals, .lt, .gt, .gte, .lte].map (entity.meets "score" · (.integer 100)) =
        [false, true, false, false, true, true] := by
  intro entity
  have found : entity.attribute? "score" = some (.string " 1e2 ") := by decide +kernel
  have present : Value.string " 1e2 " ≠ .null := by decide
  exact ⟨found, present, comparisons_cohere found present (.integer 100), by decide +kernel⟩

end Entity

end EntityGraph
