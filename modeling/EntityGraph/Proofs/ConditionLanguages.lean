import EntityGraph.Condition.Expression
import EntityGraph.Condition.Operator

/-!
The two languages of conditions: a comparison with a text that is written on a line, and the same comparison under its
name. They agree on parts of texts, on the order of numbers, and on strings unless two numbers are asked to be the same.
They differ beyond that: only named comparisons order texts, and only written ones take a text for a number, or an
attribute for a text, when they ask whether the two are the same.
-/
namespace EntityGraph

/-- Both values have a numeric reading. -/
def Value.BothNumeric (one two : Value) : Prop := ∃ a b, one.asNumber? = some a ∧ two.asNumber? = some b

/-- The comparisons that ask for an order, as they are written and under their names, with the orders they allow. -/
def orderings : List (ExpressionOperator × Operator × List Ordering) :=
  [(.gt, .gt, [.gt]), (.lt, .lt, [.lt]), (.gte, .gte, [.gt, .eq]), (.lte, .lte, [.lt, .eq])]

section Orderings

variable {written : ExpressionOperator} {named : Operator} {allowed : List Ordering}

theorem Expression.compareNumbers_ordering (member : (written, named, allowed) ∈ orderings) (a b : Double) :
    compareNumbers written a b = (a.compare? b).any allowed.contains := by
  simp only [orderings, List.mem_cons, Prod.mk.injEq, List.not_mem_nil, or_false] at member
  rcases member with ⟨rfl, rfl, rfl⟩ | ⟨rfl, rfl, rfl⟩ | ⟨rfl, rfl, rfl⟩ | ⟨rfl, rfl, rfl⟩
  all_goals
    unfold compareNumbers
    rcases a.compare? b with _ | _ | _ | _ <;> rfl

theorem Operator.holds_ordering (member : (written, named, allowed) ∈ orderings) (actual expected : Value) :
    named.holds actual expected = (actual.compare? expected).any allowed.contains := by
  simp only [orderings, List.mem_cons, Prod.mk.injEq, List.not_mem_nil, or_false] at member
  rcases member with ⟨rfl, rfl, rfl⟩ | ⟨rfl, rfl, rfl⟩ | ⟨rfl, rfl, rfl⟩ | ⟨rfl, rfl, rfl⟩
  all_goals
    unfold holds
    rcases actual.compare? expected with _ | _ | _ | _ <;> rfl

theorem ordering_signs (member : (written, named, allowed) ∈ orderings) : written ≠ .contains := by
  rintro rfl
  simp [orderings] at member

end Orderings

variable {actual : Value} {field text : String} {a b : Double}

namespace Expression

variable {operator : ExpressionOperator}

theorem holds_numeric (signs : operator ≠ .contains) (first : actual.asNumber? = some a)
    (second : (Value.string text).asNumber? = some b) :
    holds ⟨field, operator, text⟩ actual = compareNumbers operator a b := by
  have read : Double.ofText? (trim text) = some b := second
  rw [holds, if_neg signs, first, read]

def compareTexts (operator : ExpressionOperator) (one two : String) : Bool :=
  match operator with
  | .eq => one == two
  | .ne => one != two
  | _ => false

theorem holds_textual (signs : operator ≠ .contains) (textual : ¬ actual.BothNumeric (.string text)) :
    holds ⟨field, operator, text⟩ actual = compareTexts operator actual.asText text := by
  rw [holds, if_neg signs]
  split
  · rename_i a b first second
    exact absurd ⟨a, b, first, second⟩ textual
  · cases operator <;> rfl

theorem compareTexts_ordering {named : Operator} {allowed : List Ordering}
    (member : (operator, named, allowed) ∈ orderings) (one two : String) : compareTexts operator one two = false := by
  cases operator with
  | eq | ne => simp [orderings] at member
  | _ => rfl

theorem holds_ne : holds ⟨field, .ne, text⟩ actual = !holds ⟨field, .eq, text⟩ actual := by
  have signs : ExpressionOperator.eq ≠ .contains ∧ ExpressionOperator.ne ≠ .contains := by decide
  by_cases numeric : actual.BothNumeric (.string text)
  · obtain ⟨a, b, first, second⟩ := numeric
    rw [holds_numeric signs.1 first second, holds_numeric signs.2 first second]
    rfl
  · rw [holds_textual signs.1 numeric, holds_textual signs.2 numeric]
    rfl

end Expression

/-- Texts are put in order only if one of the values has no numeric reading. -/
theorem Value.compare?_textual {expected : Value} (textual : ¬ actual.BothNumeric expected) :
    actual.compare? expected = some (compare actual.asText expected.asText) := by
  unfold compare?
  split
  · rename_i a b first second
    exact absurd ⟨a, b, first, second⟩ textual
  · rfl

theorem Value.compare?_numeric {expected : Value} (first : actual.asNumber? = some a)
    (second : expected.asNumber? = some b) : actual.compare? expected = a.compare? b := by
  rw [compare?, first, second]

/-- Only the string itself is the same as a string. -/
theorem Value.looseEq_string_iff : actual.looseEq (.string text) = true ↔ actual = .string text := by
  cases actual <;> simp [looseEq]

namespace Entity

variable {entity : Entity}

/-- An attribute meets a written comparison with a text. -/
def meetsWritten (entity : Entity) (field text : String) (operator : ExpressionOperator) : Bool :=
  Expression.evaluate ⟨field, operator, text⟩ entity

/-- An attribute meets a named comparison with a text. -/
def meetsNamed (entity : Entity) (field text : String) (operator : Operator) : Bool :=
  OperatorCondition.evaluate ⟨field, operator, .string text⟩ entity

/-- What the languages make of an attribute and a text. -/
structure LanguagesAgree (entity : Entity) (field text : String) : Prop where
  contains : entity.meetsWritten field text .contains = entity.meetsNamed field text .contains
  /-- Numbers are put in the same order. -/
  ordered : ∀ actual, entity.attribute? field = some actual → actual ≠ .null → actual.BothNumeric (.string text) →
    ∀ written named allowed, (written, named, allowed) ∈ orderings →
      entity.meetsWritten field text written = entity.meetsNamed field text named
  /-- Other attributes have an order as texts for named comparisons alone. -/
  unordered : ∀ actual, entity.attribute? field = some actual → actual ≠ .null → ¬ actual.BothNumeric (.string text) →
    ∀ written named allowed, (written, named, allowed) ∈ orderings →
      entity.meetsWritten field text written = false ∧
      (entity.meetsNamed field text named = true ↔ compare actual.asText text ∈ allowed)
  /-- Strings that are not two numbers are the same if they are written the same. -/
  textual : ∀ actual, entity.attribute? field = some (.string actual) →
    ¬ (Value.string actual).BothNumeric (.string text) →
      entity.meetsWritten field text .eq = entity.meetsNamed field text .equals ∧
      entity.meetsWritten field text .ne = entity.meetsNamed field text .notEquals
  /-- The same under its name is the string alone; as it is written, the number if both are numbers, else what reads the
  same as a text. -/
  same : ∀ actual, entity.attribute? field = some actual → actual ≠ .null →
    (entity.meetsNamed field text .equals = true ↔ actual = .string text) ∧
    entity.meetsNamed field text .notEquals = !entity.meetsNamed field text .equals ∧
    (∀ a b, actual.asNumber? = some a → (Value.string text).asNumber? = some b →
      entity.meetsWritten field text .eq = a.equals b) ∧
    (¬ actual.BothNumeric (.string text) → entity.meetsWritten field text .eq = (actual.asText == text)) ∧
    entity.meetsWritten field text .ne = !entity.meetsWritten field text .eq
  absent : entity.attribute? field = none ∨ entity.attribute? field = some .null →
    (∀ written, entity.meetsWritten field text written = false) ∧ ∀ named, entity.meetsNamed field text named = false

theorem meetsWritten_eq (found : entity.attribute? field = some actual) (present : actual ≠ .null)
    (text : String) (operator : ExpressionOperator) :
    entity.meetsWritten field text operator = Expression.holds ⟨field, operator, text⟩ actual := by
  have notNull : actual.isNull = false := by cases actual <;> first | rfl | exact absurd rfl present
  rw [meetsWritten, Expression.evaluate, found]
  simp [notNull]

theorem meetsNamed_eq (found : entity.attribute? field = some actual) (present : actual ≠ .null)
    (text : String) (operator : Operator) :
    entity.meetsNamed field text operator = operator.holds actual (.string text) := by
  have notNull : actual.isNull = false := by cases actual <;> first | rfl | exact absurd rfl present
  rw [meetsNamed, OperatorCondition.evaluate, found]
  simp [notNull]

/-- The two languages agree on parts of texts, on the order of numbers, and on strings that are not both numbers; what
they make of every other attribute follows from its number and its text. -/
theorem agrees_on_text (entity : Entity) (field text : String) : entity.LanguagesAgree field text := by
  constructor
  case contains =>
    simp only [meetsWritten, meetsNamed, Expression.evaluate, OperatorCondition.evaluate]
    cases entity.attribute? field <;> rfl
  case ordered =>
    intro actual found present numeric written named allowed member
    obtain ⟨a, b, first, second⟩ := numeric
    rw [meetsWritten_eq found present, meetsNamed_eq found present, Operator.holds_ordering member,
      Expression.holds_numeric (ordering_signs member) first second, Value.compare?_numeric first second,
      Expression.compareNumbers_ordering member]
  case unordered =>
    intro actual found present textual written named allowed member
    rw [meetsWritten_eq found present, meetsNamed_eq found present, Operator.holds_ordering member,
      Expression.holds_textual (ordering_signs member) textual, Value.compare?_textual textual]
    exact ⟨Expression.compareTexts_ordering member .., List.contains_iff_mem⟩
  case textual =>
    intro actual found textual
    have present : Value.string actual ≠ .null := by simp
    rw [meetsWritten_eq found present, meetsWritten_eq found present, meetsNamed_eq found present,
      meetsNamed_eq found present, Expression.holds_ne, Expression.holds_textual (by decide) textual]
    exact ⟨rfl, rfl⟩
  case same =>
    intro actual found present
    simp only [meetsWritten_eq found present, meetsNamed_eq found present]
    refine ⟨Value.looseEq_string_iff, rfl, ?_, Expression.holds_textual (by decide), Expression.holds_ne⟩
    intro a b first second
    exact Expression.holds_numeric (by decide) first second
  case absent =>
    intro absent
    simp only [meetsWritten, meetsNamed, Expression.evaluate, OperatorCondition.evaluate]
    rcases absent with none | null
    · simp [none]
    · simp [null, Value.isNull]

/-- On a line the number 41 is the same as a text of its value, and under the name it is not. Under the name its text
comes before a word, and on a line it does not. -/
example :
    let entity : Entity := ⟨"Ann", "Person", "41", .ofList [("age", .integer 41)], ⟨0, 0⟩, none⟩
    entity.meetsWritten "age" "41.0" .eq = true ∧ entity.meetsNamed "age" "41.0" .equals = false ∧
      entity.meetsWritten "age" "nine" .lt = false ∧ entity.meetsNamed "age" "nine" .lt = true := by
  decide +kernel

end Entity

end EntityGraph
