import EntityGraph.Proofs.Addressing

/-!
Wrapped names of people. Whatever blanks and pairs of brackets are put around the name of a person, the person is kept
under the same id, and relationships are attached to that person, unless the wrapped name is a name in its own right.
-/
namespace EntityGraph

variable {core text : String}

/-- A text with nothing left to strip: no blanks at its ends, and no pair of brackets around it. -/
structure IsStripped (text : String) : Prop where
  trimmed : trim text = text
  unbracketed : ∀ inner, text ≠ "[" ++ inner ++ "]"
  settled : stripBrackets text = text

theorem isStripped_stripBrackets (text : String) : IsStripped (stripBrackets text) where
  trimmed := trim_stripBrackets text
  unbracketed := by
    intro inner bracketed
    have whole := congrArg String.toList bracketed
    rw [stripBrackets, String.toList_ofList, Brackets.toList_bracketed] at whole
    have nothing := Brackets.inside?_stripChars text.toList
    rw [whole, Brackets.inside?_bracketed] at nothing
    cases nothing
  settled := stripBrackets_idempotent text

theorem stripBrackets_blank (blank : isBlankText text = true) : stripBrackets text = "" := by
  rw [← stripBrackets_trim, trim_eq_empty_iff.mpr blank]
  decide +kernel

/-- A person is kept under what is left of the given id, if anything is. -/
theorem Store.normalId?_person (id : String) :
    normalId? id personType = if stripBrackets id = "" then none else some (stripBrackets id) := by
  have covered : trim id = "" → stripBrackets id = "" :=
    fun nothing => stripBrackets_blank (trim_eq_empty_iff.mp nothing)
  simp only [normalId?, if_true, stripBrackets_trim, String.isEmpty_iff, or_iff_right_of_imp covered]

theorem Wraps.upsert_eq (wraps : Wraps core text) (store : Store) (now : Instant) (properties : Properties)
    (description : Option String) :
    store.upsert now text personType properties description =
      store.upsert now core personType properties description := by
  have same : Store.normalId? text personType = Store.normalId? core personType := by
    rw [Store.normalId?_person, Store.normalId?_person, wraps.stripBrackets_eq]
  simp only [Store.upsert, same]

namespace Store

variable {store : Store}

/-- A text that is given for an end of a relationship leads to an entity. -/
def Names (store : Store) (text id : String) : Prop := isBlankText text = false ∧ store.endpoint? text = some id

/-- Whoever relates two texts gets a relationship between two ids, for any type that is not empty. -/
def Relates (store : Store) (source target sourceId targetId : String) : Prop :=
  ∀ stamp type properties weight, type ≠ "" → ∃ after,
    store.addRelationship stamp source target type properties weight = (true, after) ∧
    after.entities = store.entities ∧ after.relationships = store.relationships ++
      [⟨stamp.id, sourceId, targetId, type, weight, properties, stamp.time⟩]

theorem WellFormed.relates (valid : store.WellFormed) {source target sourceId targetId : String}
    (sourceNamed : store.Names source sourceId) (targetNamed : store.Names target targetId) :
    store.Relates source target sourceId targetId := by
  intro stamp type properties weight typed
  have contents := valid.relate_listing stamp source target type properties weight
  obtain ⟨sourceShown, sourceFound⟩ := sourceNamed
  obtain ⟨targetShown, targetFound⟩ := targetNamed
  rw [valid.endpoint?_listing] at sourceFound targetFound
  simp only [Listing.relate, sourceShown, targetShown, sourceFound, targetFound, String.isEmpty_iff, typed,
    Bool.false_eq_true, or_self, if_false] at contents
  obtain ⟨answer, after⟩ := Prod.mk.inj contents
  exact ⟨_, Prod.ext answer rfl, congrArg Listing.entities after, congrArg Listing.relationships after⟩

/-- A wrapped name leads to the entity of that very name if there is one, and else to the entity that is wrapped. -/
theorem names_of_wraps (wraps : Wraps core text) (bare : stripBrackets core = core) (full : core ≠ "")
    (known : store.contains core = true) :
    store.Names text (if store.contains (trim text) then trim text else core) := by
  have stripped : stripBrackets text = core := wraps.stripBrackets_eq.trans bare
  constructor
  · rw [Bool.eq_false_iff]
    intro blank
    exact full (stripped.symm.trans (stripBrackets_blank blank))
  · simp only [endpoint?, stripBrackets_trim, stripped]
    split
    · rfl
    · rename_i unknown
      have different : core ≠ trim text := by
        rintro rfl
        exact unknown known
      rw [if_pos ⟨different, known⟩]

/-- Wrapping is transparent. A wrapped text is stripped to the same as the text itself, and has nothing left to strip
then. So every store keeps a person under the one id as under the other, and does the same with both. And wherever
changes lead to, a relationship with the wrapped id of a person at one end, and with whatever names an entity at the
other, is attached to that person, unless the wrapped id without the blanks around it is the id of an entity. -/
theorem wrapping_transparent (wraps : Wraps core text) :
    stripBrackets text = stripBrackets core ∧ IsStripped (stripBrackets text) ∧
    (∀ (store : Store) now properties description, store.upsert now text personType properties description =
      store.upsert now core personType properties description) ∧
    ∀ store : Store, store.Grown → ∀ person ∈ store.entities, person.type = personType → person.id = core →
      ∀ other name, store.Names other name →
        store.Relates text other (if store.contains (trim text) then trim text else person.id) name ∧
        store.Relates other text name (if store.contains (trim text) then trim text else person.id) := by
  refine ⟨wraps.stripBrackets_eq, isStripped_stripBrackets text, wraps.upsert_eq, ?_⟩
  rintro store grown person listed kind rfl other name named
  have names := grown.holdsNames
  have wellNamed : person.WellNamed := names.contents.entities person listed
  have known : store.contains person.id = true := names.valid.contains_iff.mpr (List.mem_map_of_mem listed)
  have attached := names_of_wraps wraps (wellNamed.bare kind) wellNamed.tidy.2 known
  exact ⟨names.valid.relates attached named, names.valid.relates named attached⟩

/-- A document with a bracketed id, and a person who is given with the same id. -/
def namesakes : List Mutation :=
  [.edit (.upsert ⟨0, 0⟩ "[x]" "Document" .empty none), .edit (.upsert ⟨1, 0⟩ "[x]" "Person" .empty none)]

/-- In one pair of brackets the name of the person is that of the document, in two pairs it is not. -/
theorem wrapping_transparent_namesakes :
    let store := (Mutation.run (empty {}) namesakes).2
    (Wraps "x" " [x]" ∧ Wraps "x" "[[ x ]]") ∧ store.Grown ∧
      store.entities.map (fun entity => (entity.id, entity.type)) = [("[x]", "Document"), ("x", "Person")] ∧
      (store.Names "x" "x" ∧ store.Relates " [x]" "x" "[x]" "x" ∧ store.Relates "x" "[[ x ]]" "x" "x") ∧
      (store.upsert ⟨2, 0⟩ "[[ x ]]" personType .empty none).1 = some "x" := by
  intro store
  have once : Wraps "x" " [x]" := Wraps.bare.bracketed.spaced " " "" (by decide +kernel) (by decide +kernel)
  have spaced : Wraps "x" " x " := Wraps.bare.spaced " " " " (by decide +kernel) (by decide +kernel)
  have twice : Wraps "x" "[[ x ]]" := spaced.bracketed.bracketed
  have grown : store.Grown := (Grown.empty {}).run namesakes
  have named : store.Names "x" "x" := ⟨by decide +kernel, by decide +kernel⟩
  have listed : ⟨"x", "Person", "", .empty, ⟨1, 0⟩, none⟩ ∈ store.entities := by decide +kernel
  obtain ⟨-, -, -, document⟩ := wrapping_transparent once
  obtain ⟨-, -, kept, person⟩ := wrapping_transparent twice
  have first := (document store grown _ listed rfl rfl "x" "x" named).1
  have second := (person store grown _ listed rfl rfl "x" "x" named).2
  rw [if_pos (by decide +kernel)] at first
  rw [if_neg (by decide +kernel)] at second
  refine ⟨⟨once, twice⟩, grown, by decide +kernel, ⟨named, first, second⟩, ?_⟩
  rw [kept]
  decide +kernel

end Store

end EntityGraph
