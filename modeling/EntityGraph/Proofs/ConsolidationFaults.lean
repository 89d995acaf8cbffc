import EntityGraph.Proofs.BracketedNames

/-!
Which consolidations fail. A request is refused for its first fault alone; once the target has been put in nothing can
fail any more, so a consolidation that fails has changed nothing.
-/
namespace EntityGraph

/-- Those of some ids that no entity has, as they are listed, with repeats. -/
def Store.unknown (store : Store) (ids : List String) : List String := ids.filter (· ∉ store.ids)

/-- What is wrong with a request to consolidate entities of a store. Of several faults the first one counts. -/
inductive Consolidation.Fault (store : Store) (request : Consolidation) : StoreError → Prop where
  | unnamed (missing : request.sources = [] ∨ isBlankText request.target = true) : Fault store request .emptyId
  | untyped (given : request.sources ≠ []) (named : isBlankText request.target = false)
      (blank : isBlankText request.type = true) : Fault store request .emptyType
  | unknown (given : request.sources ≠ []) (named : isBlankText request.target = false)
      (typed : isBlankText request.type = false) (absent : store.unknown request.sources ≠ []) :
      Fault store request (.entitiesNotFound (store.unknown request.sources))
  /-- Nothing is left of the name of a person without brackets. -/
  | nameless (given : request.sources ≠ []) (named : isBlankText request.target = false)
      (typed : isBlankText request.type = false) (known : store.unknown request.sources = [])
      (person : request.type = personType) (bare : stripBrackets request.target = "") : Fault store request .emptyId

theorem Consolidation.Fault.unique {store : Store} {request : Consolidation} {error other : StoreError}
    (one : request.Fault store error) (two : request.Fault store other) : error = other := by
  cases one <;> cases two <;> simp_all

namespace Store

variable {store : Store} {now : Instant} {stamps : Nat → Stamp} {id type normal : String} {properties : Properties}
  {description : Option String} {request : Consolidation} {error : StoreError}

theorem normalId?_eq_none_iff :
    normalId? id type = none ↔ isBlankText id = true ∨ type = personType ∧ stripBrackets id = "" := by
  by_cases person : type = personType
  · simp [normalId?, person, stripBrackets_trim, trim_eq_empty_iff, or_iff_not_imp_left]
  · simp [normalId?, person, trim_eq_empty_iff]

theorem upsert_nameless (nameless : normalId? id type = none) :
    store.upsert now id type properties description = (none, store) := by
  simp [upsert, nameless]

/-- An entity with a type is put in under its normal id: the index leads to no empty slot that could prevent it. -/
theorem WellFormed.upsert_named (valid : store.WellFormed) (now : Instant) (typed : isBlankText type = false)
    (named : normalId? id type = some normal) (properties : Properties) (description : Option String) :
    ∃ after, store.upsert now id type properties description = (some normal, after) := by
  cases known : store.handle? normal with
  | none => exact ⟨_, upsert_fresh typed named known⟩
  | some handle => exact ⟨_, valid.upsert_known typed named known⟩

theorem WellFormed.filter_missing (valid : store.WellFormed) (ids : List String) :
    ids.filter (!store.contains ·) = store.unknown ids := by
  apply List.filter_congr
  intro id _
  rw [Bool.eq_iff_iff, Bool.not_eq_true', ← Bool.not_eq_true, valid.contains_iff, decide_eq_true_iff]

theorem WellFormed.consolidate_fault (valid : store.WellFormed) (fault : request.Fault store error) :
    store.consolidate now stamps request = (.error error, store) := by
  unfold Store.consolidate
  rw [valid.filter_missing]
  cases fault with
  | unnamed missing => simp [missing]
  | untyped given named blank => simp [given, named, blank]
  | unknown given named typed absent => simp [given, named, typed, absent]
  | nameless given named typed known person bare =>
    have nameless : normalId? request.target request.type = none := normalId?_eq_none_iff.mpr (.inr ⟨person, bare⟩)
    simp [given, named, typed, known, upsert_nameless nameless]

theorem WellFormed.consolidate_faultless (valid : store.WellFormed) (faultless : ∀ error, ¬ request.Fault store error) :
    ∃ report after, store.consolidate now stamps request = (.ok report, after) := by
  have full : ¬ (request.sources = [] ∨ isBlankText request.target = true) := fun missing =>
    faultless _ (.unnamed missing)
  obtain ⟨given, named⟩ := not_or.mp full
  rw [Bool.not_eq_true] at named
  have typed : isBlankText request.type = false := Bool.eq_false_iff.mpr fun blank =>
    faultless _ (.untyped given named blank)
  have known : store.unknown request.sources = [] := by
    by_contra absent
    exact faultless _ (.unknown given named typed absent)
  have kept : normalId? request.target request.type ≠ none := by
    intro nameless
    rcases normalId?_eq_none_iff.mp nameless with blank | ⟨person, bare⟩
    · exact full (.inr blank)
    · exact faultless _ (.nameless given named typed known person bare)
  obtain ⟨target, normal⟩ := Option.ne_none_iff_exists'.mp kept
  obtain ⟨merged, upserted⟩ := valid.upsert_named now typed normal
    (request.mergedProperties (request.sources.filterMap store.get?))
    (request.mergedDescription (request.sources.filterMap store.get?))
  unfold Store.consolidate
  rw [valid.filter_missing]
  simp [given, named, typed, known, upserted]

/-- After every history, a consolidation fails exactly with the fault of its request and succeeds exactly if there is
none; and whenever it fails, the store is what it was before. -/
theorem consolidate_refuses (config : StoreConfig) (commands : List Command) (now : Instant) (stamps : Nat → Stamp)
    (request : Consolidation) :
    let store := history config commands
    let result := store.consolidate now stamps request
    (∀ error, result.1 = .error error ↔ request.Fault store error) ∧
    ((∃ report, result.1 = .ok report) ↔ ∀ error, ¬ request.Fault store error) ∧
    ∀ error, result.1 = .error error → result.2 = store := by
  intro store result
  have valid : store.WellFormed := history_wellFormed config commands
  by_cases faulty : ∃ error, request.Fault store error
  · obtain ⟨error, fault⟩ := faulty
    have refused : result = (.error error, store) := valid.consolidate_fault fault
    rw [refused]
    refine ⟨?_, iff_of_false (by simp) fun faultless => faultless error fault, fun _ _ => rfl⟩
    intro other
    rw [Except.error.injEq]
    constructor
    · rintro rfl
      exact fault
    · exact fault.unique
  · have faultless := not_exists.mp faulty
    obtain ⟨report, after, success⟩ : ∃ report after, result = (.ok report, after) :=
      valid.consolidate_faultless faultless
    rw [success]
    refine ⟨?_, iff_of_true ⟨report, rfl⟩ faultless, ?_⟩
    · intro error
      exact iff_of_false (by simp) (faultless error)
    · intro error failed
      cases failed

/-- Unknown sources are told as often as they are given. -/
example : ((history {} [.edit (.upsert ⟨0, 0⟩ "a" "Node" .empty none)]).consolidate ⟨1, 0⟩ (fun _ => ⟨⟨1⟩, ⟨1, 0⟩⟩)
    ⟨["x", "a", "x"], "[ ]", "Person", .empty, none⟩).1 = .error (.entitiesNotFound ["x", "x"]) := by
  decide +kernel

end Store

end EntityGraph
