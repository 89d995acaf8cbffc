import EntityGraph.Proofs.Expansion
import EntityGraph.Proofs.NumberOrder
import Mathlib.Data.List.Sort

/-!
The order of sorted rows. As long as the keys at every field are of one kind, and none is "not a number", rows are
compared by a linear order up to equal keys, and sorted rows ascend in it. Where the keys tell all rows apart, sorting
forgets in which order the rows came.
-/
namespace EntityGraph

namespace SortKey

/-- The keys are the same, numbers by their value. -/
def agrees : SortKey → SortKey → Bool
  | text s, text t => s == t
  | number x, number y => x.equals y
  | time moment, time other => moment == other
  | _, _ => false

theorem agrees_symm {a b : SortKey} (same : a.agrees b = true) : b.agrees a = true := by
  cases a <;> cases b <;> try cases same
  case text s t => exact beq_iff_eq.mpr (beq_iff_eq.mp same).symm
  case number x y => exact Double.equals_iff.mpr ((Double.equals_iff.mp same).imp fun _ keys => keys.symm)
  case time t u => exact beq_iff_eq.mpr (beq_iff_eq.mp same).symm

/-- A key is not a "not a number". -/
def Orderable (key : SortKey) : Prop := ∀ d, key = .number d → d.key?.isSome = true

/-- The whole number that a key is placed by; all texts share theirs. -/
def whole : SortKey → Int
  | text _ => 0
  | number d => d.key?.getD 0
  | time moment => moment.second

/-- The place of a key among those with the same whole number. -/
def fraction : SortKey → Nat
  | time moment => moment.nano
  | _ => 0

/-- The place of a text. -/
def word : SortKey → String
  | text s => s
  | _ => ""

/-- A comparison that is linear on all keys. The one that rows are sorted by is not transitive: keys of two kinds count as
equal, and so does "not a number" with every number. -/
def comparePlaces : SortKey → SortKey → Ordering :=
  compareLex (compareOn whole) (compareLex (compareOn fraction) (compareOn word))

instance : Std.TransCmp comparePlaces :=
  inferInstanceAs (Std.TransCmp (compareLex (compareOn whole) (compareLex (compareOn fraction) (compareOn word))))

theorem comparePlaces_swap (a b : SortKey) : a.comparePlaces b = (b.comparePlaces a).swap :=
  Std.OrientedCmp.eq_swap

variable {a b : SortKey}

theorem compare_eq (alike : a.sameKind b = true) (first : a.Orderable) (second : b.Orderable) :
    a.compare b = a.comparePlaces b := by
  cases a <;> cases b <;> cases alike
  case text s t => simp [compare, comparePlaces, compareLex, compareOn, whole, fraction, word]
  case number x y =>
    obtain ⟨m, known⟩ := Option.isSome_iff_exists.mp (first x rfl)
    obtain ⟨n, other⟩ := Option.isSome_iff_exists.mp (second y rfl)
    simp [compare, Double.compare?, known, other, comparePlaces, compareLex, compareOn, whole, fraction, word]
  case time t u => simp [compare, Instant.compare, comparePlaces, compareLex, compareOn, whole, fraction, word]

theorem agrees_of_compare (alike : a.sameKind b = true) (first : a.Orderable) (second : b.Orderable)
    (level : a.compare b = .eq) : a.agrees b = true := by
  cases a <;> cases b <;> cases alike
  case text s t =>
    exact beq_iff_eq.mpr (Std.LawfulEqOrd.eq_of_compare level)
  case number x y =>
    obtain ⟨m, known⟩ := Option.isSome_iff_exists.mp (first x rfl)
    obtain ⟨n, other⟩ := Option.isSome_iff_exists.mp (second y rfl)
    simpa [compare, agrees, Double.equals, Double.compare?, known, other] using level
  case time t u =>
    obtain ⟨seconds, nanos⟩ := Ordering.then_eq_eq.mp level
    rw [agrees, beq_iff_eq, Instant.mk.injEq]
    exact ⟨Std.LawfulEqOrd.eq_of_compare seconds, Std.LawfulEqOrd.eq_of_compare nanos⟩

end SortKey

namespace SortSpec

variable {fallback : Fallback} {fields : List SortField}

def keyAt (fallback : Fallback) (row : Row) (sortField : SortField) : SortKey :=
  SortKey.ofJson? ((row.get? sortField.field).or (fallback row sortField.field))

theorem keys_eq (spec : SortSpec) (fallback : Fallback) (row : Row) :
    spec.keys fallback row = spec.fields.map (keyAt fallback row) := rfl

/-- Rows by the places of their keys, each field in its direction. -/
def compareRows (fallback : Fallback) : List SortField → Row → Row → Ordering
  | [] => fun _ _ => .eq
  | field :: fields =>
    let ahead (a b : Row) := (keyAt fallback a field).comparePlaces (keyAt fallback b field)
    compareLex (if field.descending then fun a b => ahead b a else ahead) (compareRows fallback fields)

instance transCmp_compareRows : Std.TransCmp (compareRows fallback fields) := by
  induction fields with
  | nil => exact { eq_swap := rfl, isLE_trans := fun _ _ => rfl }
  | cons field fields ih =>
    have places : Std.TransCmp fun a b : Row =>
        (keyAt fallback a field).comparePlaces (keyAt fallback b field) :=
      { eq_swap := SortKey.comparePlaces_swap _ _
        isLE_trans := fun {_ _ _} => @Std.TransCmp.isLE_trans _ SortKey.comparePlaces _ _ _ _ }
    have first : Std.TransCmp (if field.descending
        then fun a b : Row => (keyAt fallback b field).comparePlaces (keyAt fallback a field)
        else fun a b : Row => (keyAt fallback a field).comparePlaces (keyAt fallback b field)) := by
      split
      · exact @Std.TransCmp.opposite _ _ places
      · exact places
    exact inferInstanceAs (Std.TransCmp (compareLex _ (compareRows fallback fields)))

/-- Two rows have keys of one kind at a field, and they can be ordered. -/
structure Comparable (fallback : Fallback) (field : SortField) (one two : Row) : Prop where
  alike : (keyAt fallback one field).sameKind (keyAt fallback two field) = true
  first : (keyAt fallback one field).Orderable
  second : (keyAt fallback two field).Orderable

theorem compareKeys_eq {one two : Row} (comparable : ∀ field ∈ fields, Comparable fallback field one two) :
    compareKeys fields (fields.map (keyAt fallback one)) (fields.map (keyAt fallback two)) =
      compareRows fallback fields one two := by
  induction fields with
  | nil => rfl
  | cons field fields ih =>
    obtain ⟨⟨alike, first, second⟩, rest⟩ := List.forall_mem_cons.mp comparable
    have places := SortKey.compare_eq alike first second
    rw [List.map_cons, List.map_cons, compareKeys, ih rest, places, compareRows, compareLex]
    by_cases descending : field.descending = true
    · rw [if_pos descending, if_pos descending, ← SortKey.comparePlaces_swap]
    · rw [if_neg descending, if_neg descending]

theorem agrees_of_compareRows {one two : Row} (comparable : ∀ field ∈ fields, Comparable fallback field one two)
    (level : compareRows fallback fields one two = .eq) :
    ∀ field ∈ fields, (keyAt fallback one field).agrees (keyAt fallback two field) = true := by
  induction fields with
  | nil => simp
  | cons field fields ih =>
    obtain ⟨⟨alike, first, second⟩, rest⟩ := List.forall_mem_cons.mp comparable
    rw [compareRows, compareLex, Ordering.then_eq_eq] at level
    refine List.forall_mem_cons.mpr ⟨SortKey.agrees_of_compare alike first second ?_, ih rest level.2⟩
    rw [SortKey.compare_eq alike first second]
    by_cases descending : field.descending = true
    · rw [if_pos descending] at level
      rw [SortKey.comparePlaces_swap]
      exact congrArg Ordering.swap level.1
    · rw [if_neg descending] at level
      exact level.1

/-- Any two rows have keys of one kind at every field. -/
def OneKind (fallback : Fallback) (fields : List SortField) (rows : List Row) : Prop :=
  ∀ one ∈ rows, ∀ two ∈ rows, ∀ field ∈ fields,
    (keyAt fallback one field).sameKind (keyAt fallback two field) = true

/-- Any two rows have keys of one kind at every field, and they can be ordered. -/
def Uniform (fallback : Fallback) (fields : List SortField) (rows : List Row) : Prop :=
  ∀ one ∈ rows, ∀ two ∈ rows, ∀ field ∈ fields, Comparable fallback field one two

/-- No two rows have the same key at every field. -/
def TellsApart (fallback : Fallback) (fields : List SortField) (rows : List Row) : Prop :=
  rows.Pairwise fun one two => ∃ field ∈ fields, (keyAt fallback one field).agrees (keyAt fallback two field) = false

instance {rows : List Row} : Decidable (OneKind fallback fields rows) :=
  inferInstanceAs (Decidable (∀ one ∈ rows, ∀ two ∈ rows, ∀ field ∈ fields,
    (keyAt fallback one field).sameKind (keyAt fallback two field) = true))

instance {rows : List Row} : Decidable (TellsApart fallback fields rows) :=
  inferInstanceAs (Decidable (rows.Pairwise fun one two => ∃ field ∈ fields,
    (keyAt fallback one field).agrees (keyAt fallback two field) = false))

theorem TellsApart.eq {rows : List Row} (apart : TellsApart fallback fields rows) {one two : Row} (first : one ∈ rows)
    (second : two ∈ rows)
    (same : ∀ field ∈ fields, (keyAt fallback one field).agrees (keyAt fallback two field) = true) : one = two := by
  by_contra different
  have symmetric : Std.Symm fun one two : Row =>
      ∃ field ∈ fields, (keyAt fallback one field).agrees (keyAt fallback two field) = false := by
    constructor
    rintro one two ⟨field, listed, unlike⟩
    refine ⟨field, listed, Bool.eq_false_iff.mpr fun alike => ?_⟩
    rw [SortKey.agrees_symm alike] at unlike
    cases unlike
  obtain ⟨field, listed, unlike⟩ := List.Pairwise.forall apart first second different
  rw [same field listed] at unlike
  cases unlike

variable {spec : SortSpec} {rows others : List Row}

theorem isUniform_of_uniform (uniform : Uniform fallback spec.fields rows) :
    isUniform (rows.map (spec.keys fallback)) = true := by
  cases rows with
  | nil => rfl
  | cons first rest =>
    rw [List.map_cons, isUniform, List.all_map, List.all_eq_true]
    intro row member
    have alike := uniform first List.mem_cons_self row (List.mem_cons_of_mem _ member)
    simp only [Function.comp_apply, keys_eq, List.zipWith_map, List.zipWith_self, List.all_map, List.all_eq_true]
    exact fun field listed => (alike field listed).alike

/-- Rows with keys of one kind at every field are sorted by a linear order of all rows. -/
theorem sort_eq (uniform : Uniform fallback spec.fields rows) :
    spec.sort fallback rows = rows.mergeSort fun a b => (compareRows fallback spec.fields a b).isLE := by
  have unkeyed : (rows.map fun row => (spec.keys fallback row, row)).map Prod.fst = rows.map (spec.keys fallback) := by
    simp [Function.comp_def]
  have rowed : (rows.map fun row => (spec.keys fallback row, row)).map Prod.snd = rows := by
    simp [Function.comp_def]
  rw [sort, unkeyed, if_pos (isUniform_of_uniform uniform)]
  -- only the keys of the rows at hand are compared by their places
  rw [List.map_mergeSort, rowed]
  intro a first b second
  obtain ⟨one, oneListed, rfl⟩ := List.mem_map.mp first
  obtain ⟨two, twoListed, rfl⟩ := List.mem_map.mp second
  rw [keys_eq, keys_eq, compareKeys_eq (uniform one oneListed two twoListed)]
  cases compareRows fallback spec.fields one two <;> rfl

theorem pairwise_sort (uniform : Uniform fallback spec.fields rows) :
    (spec.sort fallback rows).Pairwise fun a b => (compareRows fallback spec.fields a b).isLE = true := by
  rw [sort_eq uniform]
  refine List.pairwise_mergeSort ?_ ?_ rows
  · exact fun _ _ _ => Std.TransCmp.isLE_trans
  · intro a b
    have swapped : compareRows fallback spec.fields a b = (compareRows fallback spec.fields b a).swap :=
      Std.OrientedCmp.eq_swap
    rw [swapped]
    cases compareRows fallback spec.fields b a <;> rfl

theorem sort_of_perm (uniform : Uniform fallback spec.fields rows) (apart : TellsApart fallback spec.fields rows)
    (same : rows.Perm others) : spec.sort fallback rows = spec.sort fallback others := by
  have otherUniform : Uniform fallback spec.fields others := fun one first two second =>
    uniform one (same.mem_iff.mpr first) two (same.mem_iff.mpr second)
  have kept := spec.sort_perm fallback rows
  have otherKept := (spec.sort_perm fallback others).trans same.symm
  refine List.Perm.eq_of_pairwise ?_ (pairwise_sort uniform) (pairwise_sort otherUniform) (kept.trans otherKept.symm)
  intro one two first second ahead behind
  have first : one ∈ rows := kept.mem_iff.mp first
  have second : two ∈ rows := otherKept.mem_iff.mp second
  have level := Std.OrientedCmp.isLE_antisymm ahead behind
  exact apart.eq first second (agrees_of_compareRows (uniform one first two second) level)

end SortSpec

namespace Finish

/-- The fields to sort by, none if there is nothing about sorting. -/
def sortFields (finish : Finish) : List SortField := (finish.sort.map (·.fields)).getD []

variable {finish : Finish} {fallback : SortSpec.Fallback} {rows others : List Row}

theorem apply_perm (unlimited : finish.limit = none) (fallback : SortSpec.Fallback) (rows : List Row) :
    (finish.apply fallback rows).Perm rows := by
  have same : finish = finish.uncut := by rw [uncut, ← unlimited]
  rw [same]
  exact finish.apply_uncut_perm fallback rows

theorem apply_of_perm (uniform : SortSpec.Uniform fallback finish.sortFields rows)
    (apart : SortSpec.TellsApart fallback finish.sortFields rows) (same : rows.Perm others) :
    finish.apply fallback rows = finish.apply fallback others := by
  have sorted : finish.uncut.apply fallback rows = finish.uncut.apply fallback others := by
    unfold apply uncut
    unfold sortFields at uniform apart
    cases sort : finish.sort with
    | some spec =>
      rw [sort] at uniform apart
      exact SortSpec.sort_of_perm uniform apart same
    | none =>
      -- without sort fields no two rows are told apart, so there is one row at most
      rw [sort] at apart
      have level (list : List Row) : list.Pairwise fun _ _ => True := List.pairwise_of_forall fun _ _ => trivial
      refine List.Perm.eq_of_pairwise ?_ (level rows) (level others) same
      intro one two first second _ _
      exact apart.eq first (same.mem_iff.mpr second) nofun
  rw [apply_eq, sorted, ← apply_eq]

end Finish

end EntityGraph
