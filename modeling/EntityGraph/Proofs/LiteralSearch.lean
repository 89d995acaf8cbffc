import EntityGraph.Condition.Expression
import EntityGraph.Condition.FieldMatch
import EntityGraph.Proofs.CaseContext
import EntityGraph.Proofs.ComparisonLaws
import EntityGraph.Proofs.StoreHistory
import EntityGraph.Store.Search

/-!
Which texts are found wherever they stand, exactly as they are written. Searches and tests for parts of texts put both
sides in lower case first, so they find all literal occurrences of a text exactly if its lower-case form does not depend on
what stands around it; that is so of every text without a capital sigma.
-/
namespace EntityGraph

/-- The lower-case form of a text does not depend on what stands around the text. -/
def CaseSettled (text : String) : Prop := Case.Settled text.toList

instance (text : String) : Decidable (CaseSettled text) := inferInstanceAs (Decidable (Case.Settled _))

theorem CaseSettled.found {query text : String} (settled : CaseSettled query) (stands : StandsIn query text) :
    containsText (lower text) (lower query) = true := by
  rw [containsText_iff, StandsIn, toList_lower, toList_lower]
  exact Case.Settled.found settled stands

/-- A text that is not settled stands in some text without being found there; a text without small sigmas does not matter. -/
theorem exists_not_found {query : String} (unsettled : ¬ CaseSettled query) : ∃ text, StandsIn query text ∧ text ≠ "" ∧
    containsText (lower text) (lower query) = false ∧ containsText (lower "x") (lower query) = false := by
  obtain ⟨text, letter, stands, sigma, fewer⟩ := Case.exists_missed unsettled
  have missed {other : String} (few : (lower other).toList.count letter < (lower query).toList.count letter) :
      containsText (lower other) (lower query) = false := by
    rw [← Bool.not_eq_true, containsText_iff]
    exact fun found => absurd (found.sublist.count_le letter) (not_le.mpr few)
  refine ⟨String.ofList text, ?_, ?_, missed ?_, missed ?_⟩
  · rwa [StandsIn, String.toList_ofList]
  · rintro empty
    obtain rfl : text = [] := String.ofList_eq_empty_iff.mp empty
    have nothing : query.toList = [] := List.infix_nil.mp stands
    simp [nothing, lowerChars, Case.lowerFrom] at fewer
  · rw [toList_lower, toList_lower, String.toList_ofList]
    exact fewer
  · have none : (lower "x").toList.count letter = 0 := by
      rcases sigma with rfl | rfl <;> decide +kernel
    rw [none, toList_lower]
    omega

/-- A test of an attribute finds a text in every non-empty string that the text stands in. -/
def FindsStanding (query : String) (test : Entity → String → Bool) : Prop :=
  ∀ entity field text, entity.attribute? field = some (.string text) → text ≠ "" → StandsIn query text →
    test entity field = true

/-- An entity that is nothing but a description. -/
def described (text : String) : Entity := ⟨"x", "Node", text, .empty, ⟨0, 0⟩, none⟩

theorem findsStanding_iff {query : String} {test : Entity → String → Bool}
    (reads : ∀ entity field text, entity.attribute? field = some (.string text) → text ≠ "" →
      test entity field = containsText (lower text) (lower query)) : FindsStanding query test ↔ CaseSettled query := by
  constructor
  · intro finds
    by_contra unsettled
    obtain ⟨text, stands, present, missed, -⟩ := exists_not_found unsettled
    have read := reads (described text) "description" text rfl present
    rw [finds _ _ _ rfl present stands, missed] at read
    cases read
  · intro settled entity field text found present stands
    rw [reads entity field text found present]
    exact settled.found stands

/-- The field tests that look for a text: of a field clause, and of a filter entry that names the test or only the text. -/
def FieldMatch.containsTests (query : String) : List FieldMatch :=
  [ofFieldSpec [("contains", .string query)], ofFilterEntry (.object [("contains", .string query)]),
    ofFilterEntry (.string query)]

theorem FieldMatch.eq_of_mem_containsTests {query : String} {test : FieldMatch} (member : test ∈ containsTests query) :
    test = .contains (lower query) := by
  simp only [containsTests, List.mem_cons, List.not_mem_nil, or_false] at member
  rcases member with rfl | rfl | rfl <;> rfl

namespace Store

theorem entities_described (text : String) :
    (history {} [.edit (.upsert ⟨0, 0⟩ "x" "Node" .empty (some text))]).entities = [described text] := by
  have typed : isBlankText "Node" = false := by decide
  have named : normalId? "x" "Node" = some "x" := by decide +kernel
  have added : (empty {}).upsert ⟨0, 0⟩ "x" "Node" .empty (some text) = (some "x", (empty {}).append (described text)) :=
    upsert_fresh typed named rfl
  simp only [history, List.foldl_cons, List.foldl_nil, Command.apply, Edit.apply, added, Prod.map]
  rfl

/-- The searches and tests that look for a text find it wherever it stands exactly if the text is settled. -/
structure LiteralSearch (query : String) : Prop where
  search : (∀ (config : StoreConfig) (commands : List Command), ∀ entity ∈ (history config commands).entities,
      StandsIn query entity.id ∨ StandsIn query entity.description →
      entity ∈ (history config commands).textSearch query) ↔ CaseSettled query
  operator : (FindsStanding query fun entity field => entity.meets field .contains (.string query)) ↔ CaseSettled query
  expression : (FindsStanding query fun entity field => Expression.evaluate ⟨field, .contains, query⟩ entity) ↔
    CaseSettled query
  fieldTests : ∀ test ∈ FieldMatch.containsTests query,
    (FindsStanding query fun entity field => FieldSpec.evaluate ⟨field, test⟩ entity) ↔ CaseSettled query
  plain : Case.capitalSigma ∉ query.toList → CaseSettled query

/-- A text is found by every search, comparison, expression and field test that looks for it, wherever it stands, exactly
if its lower-case form is the same there as alone; without a capital sigma it always is. -/
theorem literal_search (query : String) : LiteralSearch query := by
  constructor
  case search =>
    constructor
    · intro finds
      by_contra unsettled
      obtain ⟨text, stands, -, missed, unnamed⟩ := exists_not_found unsettled
      have found := finds {} [.edit (.upsert ⟨0, 0⟩ "x" "Node" .empty (some text))] (described text)
        (by rw [entities_described]; exact List.mem_singleton_self _) (.inr stands)
      simp [textSearch, described, missed, unnamed] at found
    · intro settled config commands entity member stands
      refine List.mem_filter.mpr ⟨member, Bool.or_eq_true_iff.mpr ?_⟩
      exact stands.imp settled.found settled.found
  case operator =>
    refine findsStanding_iff fun entity field text found present => ?_
    rw [Entity.meets_eq found (by simp)]
    rfl
  case expression =>
    refine findsStanding_iff fun entity field text found present => ?_
    simp [Expression.evaluate, Expression.holds, found, Value.isNull, Value.asText]
  case fieldTests =>
    intro test member
    rw [FieldMatch.eq_of_mem_containsTests member]
    refine findsStanding_iff fun entity field text found present => ?_
    simp [FieldSpec.evaluate, FieldMatch.accepts, found, Value.isTruthy, Value.asText, present]
  case plain => exact Case.settled_of_not_mem

/-- What decides is the last word: a sigma at its end looks beyond the text, unless the word is ended within the text. -/
example : ¬ CaseSettled "ΟΔΟΣ" ∧ CaseSettled "ΣΤΟΑ" ∧ CaseSettled "ΟΔΟΣ, ΑΘΗΝΑ" := by
  decide +kernel

/-- A sigma that ends the text to look for is final there, and an inner one where the word goes on. -/
theorem literal_search_missed :
    let store := history {} [.edit (.upsert ⟨0, 0⟩ "ΟΔΟΣΑ" "Node" .empty none)]
    store.entities.map (·.id) = ["ΟΔΟΣΑ"] ∧ StandsIn "ΟΔΟΣ" "ΟΔΟΣΑ" ∧ store.textSearch "ΟΔΟΣ" = [] := by
  refine ⟨by decide +kernel, ⟨[], ['Α'], by decide +kernel⟩, by decide +kernel⟩

end Store

end EntityGraph
