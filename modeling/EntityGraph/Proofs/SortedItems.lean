import EntityGraph.Proofs.StableSort

/-!
Rows are sorted as what they are about is, by the keys that the rows have. So whatever is known of the order of the
items is known of the rows; in particular items whose rows all have the same keys stay as they come.
-/
namespace EntityGraph

variable {α : Type} {items : List α}

namespace SortKey

theorem compare_self (key : SortKey) : key.compare key = .eq := by
  cases key with
  | text value => simp [compare]
  | number value => cases known : value.key? <;> simp [compare, Double.compare?, known]
  | time value => simp [compare, Instant.compare]

end SortKey

namespace SortSpec

variable {spec : SortSpec} {keys : α → List SortKey} {fallback : Fallback} {row : α → Row}

theorem compareKeys_self (fields : List SortField) (keys : List SortKey) : compareKeys fields keys keys = .eq := by
  induction fields generalizing keys with
  | nil => rfl
  | cons field fields ih =>
    cases keys with
    | nil => rfl
    | cons key keys =>
      rw [compareKeys, key.compare_self, ih]
      cases field.descending <;> rfl

/-- Items in the order of their keys, or as they come if there are keys of different kinds. -/
def arrange (spec : SortSpec) (keys : α → List SortKey) (items : List α) : List α :=
  if isUniform (items.map keys) then items.mergeSort fun a b => compareKeys spec.fields (keys a) (keys b) ≠ .gt
  else items

theorem arrange_perm (spec : SortSpec) (keys : α → List SortKey) (items : List α) :
    (spec.arrange keys items).Perm items := by
  unfold arrange
  split
  · exact List.mergeSort_perm ..
  · exact .refl items

theorem arrange_of_same_keys (same : ∀ one ∈ items, ∀ two ∈ items, keys one = keys two) :
    spec.arrange keys items = items := by
  unfold arrange
  split
  · apply List.mergeSort_of_pairwise
    refine List.pairwise_of_forall_mem_list fun one first two second => ?_
    rw [same one first two second, compareKeys_self]
    rfl
  · rfl

theorem sort_map (keyed : ∀ item ∈ items, spec.keys fallback (row item) = keys item) :
    spec.sort fallback (items.map row) = (spec.arrange keys items).map row := by
  have paired : (items.map row).map (fun row => (spec.keys fallback row, row)) =
      items.map fun item => (keys item, row item) := by
    rw [List.map_map]
    exact List.map_congr_left fun item member => congrArg (·, row item) (keyed item member)
  have keysOnly : (items.map fun item => (keys item, row item)).map Prod.fst = items.map keys := List.map_map
  rw [sort, paired, keysOnly, arrange]
  split
  · rw [← List.map_mergeSort (f := fun item => (keys item, row item)) fun _ _ _ _ => rfl, List.map_map]
    rfl
  · rfl

end SortSpec

namespace Finish

variable {finish : Finish} {keys : SortSpec → α → List SortKey} {fallback : SortSpec.Fallback} {row : α → Row}

/-- Sorting items without limiting them. -/
def order (finish : Finish) (keys : SortSpec → α → List SortKey) (items : List α) : List α :=
  match finish.sort with
  | some spec => spec.arrange (keys spec) items
  | none => items

theorem order_perm (finish : Finish) (keys : SortSpec → α → List SortKey) (items : List α) :
    (finish.order keys items).Perm items := by
  unfold order
  split
  · exact SortSpec.arrange_perm ..
  · exact .refl items

theorem order_of_same_keys (same : ∀ spec, finish.sort = some spec →
    ∀ one ∈ items, ∀ two ∈ items, keys spec one = keys spec two) : finish.order keys items = items := by
  unfold order
  split
  · rename_i spec sort
    exact SortSpec.arrange_of_same_keys (same spec sort)
  · rfl

/-- Limiting items without sorting them. -/
def keep (finish : Finish) (items : List α) : List α :=
  match finish.limit with
  | some limit => items.take limit
  | none => items

theorem keep_prefix (finish : Finish) (items : List α) : finish.keep items <+: items := by
  unfold keep
  split
  · exact List.take_prefix ..
  · exact List.prefix_rfl

theorem keep_map (finish : Finish) (row : α → Row) (items : List α) :
    (finish.keep items).map row = finish.cut (items.map row) := by
  unfold keep cut
  cases finish.limit with
  | none => rfl
  | some limit => exact List.map_take

theorem apply_map (keyed : ∀ spec, finish.sort = some spec →
    ∀ item ∈ items, spec.keys fallback (row item) = keys spec item) :
    finish.apply fallback (items.map row) = (finish.keep (finish.order keys items)).map row := by
  unfold apply keep order
  cases sort : finish.sort with
  | none => cases finish.limit <;> simp only [List.map_take]
  | some spec => cases finish.limit <;> simp only [SortSpec.sort_map (keyed spec sort), List.map_take]

end Finish

end EntityGraph
