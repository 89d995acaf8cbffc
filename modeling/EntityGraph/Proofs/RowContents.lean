import EntityGraph.Results.Row
import Mathlib.Data.List.Forall2

/-!
What the rows of results show. The row of an entity has its id and the fields asked for, whichever the entity has; the
row of a relationship has its ends, its type, its weight and its properties.
-/
namespace EntityGraph

theorem Members.get?_put_ne {members : Members} {key other : String} (different : key ≠ other) (value : Json) :
    (members.put other value).get? key = members.get? key := by
  have unequal : (key == other) = false := beq_false_of_ne different
  unfold Members.put
  split
  · clear * - different unequal
    induction members with
    | nil => rfl
    | cons member rest ih =>
      simp only [Members.get?] at ih ⊢
      rw [List.map_cons, List.lookup_cons, List.lookup_cons, ih]
      by_cases here : member.1 = other
      · simp [here, unequal]
      · simp [here]
  · simp [Members.get?, List.lookup_append, List.lookup_cons, unequal]

theorem Members.get?_put_self (members : Members) (key : String) (value : Json) :
    (members.put key value).get? key = some value := by
  unfold put get?
  split
  · rename_i known
    induction members with
    | nil => cases known
    | cons member rest ih =>
      rw [List.map_cons, List.lookup_cons]
      by_cases here : member.1 = key
      · simp [here]
      · have other : (key == member.1) = false := beq_false_of_ne (Ne.symm here)
        have later : Members.hasKey rest key = true := by simpa [hasKey, here] using known
        rw [if_neg (by simpa using here), other, ih later]
  · rename_i fresh
    have absent : members.lookup key = none := by
      rw [List.lookup_eq_none_iff]
      intro member listed
      rw [bne_iff_ne]
      rintro rfl
      exact fresh (List.any_eq_true.mpr ⟨member, listed, beq_self_eq_true _⟩)
    rw [List.lookup_append, absent, Option.none_or, List.lookup_cons, beq_self_eq_true]

/-- What a property value is shown as: itself, and null for a double that is no number or infinite. -/
inductive Value.ShownAs : Value → Json → Prop where
  | null : ShownAs .null .null
  | bool {b : Bool} : ShownAs (.bool b) (.bool b)
  | integer {n : Int64} : ShownAs (.integer n) (.integer n.toInt)
  | finite {d : Double} (finite : d.isFinite = true) : ShownAs (.double d) (.double d)
  | notFinite {d : Double} (notFinite : d.isFinite = false) : ShownAs (.double d) .null
  | string {s : String} : ShownAs (.string s) (.string s)

theorem Value.shownAs_toJson (v : Value) : v.ShownAs v.toJson := by
  cases v with
  | null => exact .null
  | bool => exact .bool
  | integer => exact .integer
  | string => exact .string
  | double d =>
    cases finite : d.isFinite with
    | true =>
      rw [toJson, if_pos finite]
      exact .finite finite
    | false =>
      rw [toJson, if_neg (Bool.eq_false_iff.mp finite)]
      exact .notFinite finite

/-- The members that show the properties of a map, in the order of their names. -/
def Properties.ShownAs (map : Properties) (members : Members) : Prop :=
  List.Forall₂ (fun entry member => member.1 = entry.1 ∧ entry.2.ShownAs member.2) map.entries members

theorem Properties.shownAs_toJson (map : Properties) :
    map.ShownAs (map.entries.map fun entry => (entry.1, entry.2.toJson)) := by
  rw [ShownAs, List.forall₂_map_right_iff]
  exact List.forall₂_same.mpr fun entry _ => ⟨rfl, entry.2.shownAs_toJson⟩

namespace Entity

theorem name_toRow (entity : Entity) (fields : List String) :
    Members.get? (entity.toRow fields) "name" = some (.string entity.id) := by
  refine List.foldlRecOn (motive := fun row : Row => Members.get? row "name" = some (.string entity.id)) _ _ rfl ?_
  intro row named field member
  have other : "name" ≠ field := Ne.symm (of_decide_eq_true (List.mem_filter.mp member).2)
  rw [Members.get?_put_ne other, named]

theorem get?_toRow (entity : Entity) (fields : List String) {key : String} (other : key ≠ "name") :
    Members.get? (entity.toRow fields) key = if key ∈ fields then some (entity.fieldJson key) else none := by
  have shown (row : Row) (listed : List String) :
      Members.get? (listed.foldl (fun row field => Members.put row field (entity.fieldJson field)) row) key =
        if key ∈ listed then some (entity.fieldJson key) else Members.get? row key := by
    induction listed generalizing row with
    | nil => rfl
    | cons field rest ih =>
      rw [List.foldl_cons, ih]
      by_cases later : key ∈ rest
      · rw [if_pos later, if_pos (List.mem_cons_of_mem _ later)]
      · rw [if_neg later]
        by_cases here : key = field
        · subst here
          rw [if_pos List.mem_cons_self, Members.get?_put_self]
        · rw [if_neg (by simp [here, later]), Members.get?_put_ne here]
  have start : Members.get? [("name", .string entity.id)] key = none := by
    simp [Members.get?, List.lookup_cons, beq_false_of_ne other]
  rw [toRow, shown, start]
  simp [List.mem_filter, other]

/-- What the row of an entity has to show: its id, the fields asked for, with null for those that it does not have, and
nothing else. -/
structure ShownAs (entity : Entity) (fields : List String) (row : Row) : Prop where
  name : row.get? "name" = some (.string entity.id)
  properties : "properties" ∈ fields →
    ∃ members, row.get? "properties" = some (.object members) ∧ entity.properties.ShownAs members
  present : ∀ field ∈ fields, field ≠ "name" → field ≠ "properties" → ∀ value, entity.attribute? field = some value →
    ∃ shown, row.get? field = some shown ∧ value.ShownAs shown
  missing : ∀ field ∈ fields, field ≠ "name" → field ≠ "properties" → entity.attribute? field = none →
    row.get? field = some .null
  others : ∀ key, key ≠ "name" → key ∉ fields → row.get? key = none

theorem shownAs_toRow (entity : Entity) (fields : List String) : entity.ShownAs fields (entity.toRow fields) where
  name := entity.name_toRow fields
  properties asked := by
    rw [entity.get?_toRow fields (by decide), if_pos asked]
    exact ⟨_, rfl, entity.properties.shownAs_toJson⟩
  present field asked other plain value held := by
    rw [entity.get?_toRow fields other, if_pos asked, fieldJson, if_neg plain, held]
    exact ⟨_, rfl, value.shownAs_toJson⟩
  missing field asked other plain absent := by
    rw [entity.get?_toRow fields other, if_pos asked, fieldJson, if_neg plain, absent]
    rfl
  others key other unasked := by
    rw [entity.get?_toRow fields other, if_neg unasked]

end Entity

namespace Relationship

/-- What the row of an edge has to show: the ends of the relationship, its type and its weight, then its properties if
there are any, and nothing else. -/
structure ShownAs (relationship : Relationship) (row : Row) : Prop where
  source : row.get? "source" = some (.string relationship.source)
  target : row.get? "target" = some (.string relationship.target)
  type : row.get? "type" = some (.string relationship.type)
  weight : ∃ shown, row.get? "weight" = some shown ∧ (Value.double relationship.weight).ShownAs shown
  bare : relationship.properties.entries = [] → row.map Prod.fst = ["source", "target", "type", "weight"]
  properties : relationship.properties.entries ≠ [] →
    row.map Prod.fst = ["source", "target", "type", "weight", "properties"] ∧
      ∃ members, row.get? "properties" = some (.object members) ∧ relationship.properties.ShownAs members

theorem shownAs_toRow (relationship : Relationship) : relationship.ShownAs relationship.toRow where
  source := rfl
  target := rfl
  type := rfl
  weight := ⟨_, rfl, Value.shownAs_toJson _⟩
  bare nothing := by
    rw [toRow, nothing]
    rfl
  properties some_ := by
    have full : relationship.properties.entries.isEmpty = false := List.isEmpty_eq_false_iff.mpr some_
    rw [toRow, full]
    exact ⟨rfl, _, rfl, relationship.properties.shownAs_toJson⟩

end Relationship

end EntityGraph
