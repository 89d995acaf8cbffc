import EntityGraph.Proofs.InsertionOrder

/-!
The arrangement that sorting gives to rows. If some sort field shows keys of different kinds the rows stay as they came;
otherwise there is one arrangement in which the first field at which two rows differ puts them in its direction and level
rows keep their order, and sorting finds it.
-/
namespace EntityGraph

namespace SortKey

variable {a b c : SortKey}

theorem sameKind_symm (alike : a.sameKind b = true) : b.sameKind a = true := by
  cases a <;> cases b <;> first | rfl | cases alike

theorem sameKind_trans (first : a.sameKind b = true) (second : b.sameKind c = true) : a.sameKind c = true := by
  cases a <;> cases b <;> cases first <;> cases c <;> first | rfl | cases second

/-- Comparing is a total preorder of some keys: of any two, one is at most the other. -/
structure Preorders (among : SortKey → Prop) : Prop where
  refl : ∀ a, among a → a.compare a = .eq
  swap : ∀ a b, among a → among b → b.compare a = (a.compare b).swap
  trans : ∀ a b c, among a → among b → among c →
    (a.compare b).isLE = true → (b.compare c).isLE = true → (a.compare c).isLE = true

theorem Preorders.mono {few many : SortKey → Prop} (preorders : Preorders many) (among : ∀ key, few key → many key) :
    Preorders few where
  refl a first := preorders.refl a (among a first)
  swap a b first second := preorders.swap a b (among a first) (among b second)
  trans a b c first second third := preorders.trans a b c (among a first) (among b second) (among c third)

theorem preorders_kind (kind : SortKey) : Preorders fun key => key.sameKind kind = true ∧ key.Orderable := by
  have placed (a b : SortKey) (first : a.sameKind kind = true ∧ a.Orderable)
      (second : b.sameKind kind = true ∧ b.Orderable) : a.compare b = a.comparePlaces b :=
    compare_eq (sameKind_trans first.1 (sameKind_symm second.1)) first.2 second.2
  constructor
  · intro a known
    rw [placed a a known known]
    exact Std.ReflCmp.compare_self
  · intro a b first second
    rw [placed b a second first, placed a b first second]
    exact comparePlaces_swap b a
  · intro a b c first second third below above
    rw [placed a b first second] at below
    rw [placed b c second third] at above
    rw [placed a c first third]
    exact Std.TransCmp.isLE_trans below above

end SortKey

namespace SortField

/-- How the key of the row in front compares to the other at this field. -/
def ahead (field : SortField) : Ordering := if field.descending then .gt else .lt

variable {field : SortField} {order : Ordering}

theorem directed_eq_lt_iff : (if field.descending then order.swap else order) = .lt ↔ order = field.ahead := by
  unfold ahead
  split
  · exact Ordering.swap_eq_lt
  · rfl

theorem directed_eq_eq_iff : (if field.descending then order.swap else order) = .eq ↔ order = .eq := by
  split
  · exact Ordering.swap_eq_eq
  · rfl

end SortField

namespace SortSpec

/-- The first field at which the keys of two rows differ puts the one in front of the other. -/
inductive Precedes (fallback : Fallback) (one two : Row) : List SortField → Prop where
  | here {field : SortField} {fields : List SortField}
      (differs : (keyAt fallback one field).compare (keyAt fallback two field) = field.ahead) :
      Precedes fallback one two (field :: fields)
  | later {field : SortField} {fields : List SortField}
      (same : (keyAt fallback one field).compare (keyAt fallback two field) = .eq)
      (rest : Precedes fallback one two fields) : Precedes fallback one two (field :: fields)

/-- The keys of two rows differ at no field. -/
def Level (fallback : Fallback) (fields : List SortField) (one two : Row) : Prop :=
  ∀ field ∈ fields, (keyAt fallback one field).compare (keyAt fallback two field) = .eq

theorem precedes_cons {fallback : Fallback} {one two : Row} {field : SortField} {fields : List SortField} :
    Precedes fallback one two (field :: fields) ↔
      (keyAt fallback one field).compare (keyAt fallback two field) = field.ahead ∨
        (keyAt fallback one field).compare (keyAt fallback two field) = .eq ∧ Precedes fallback one two fields := by
  constructor
  · intro precedes
    cases precedes with
    | here differs => exact .inl differs
    | later same rest => exact .inr ⟨same, rest⟩
  · intro either
    rcases either with differs | ⟨same, rest⟩
    · exact .here differs
    · exact .later same rest

instance decidablePrecedes (fallback : Fallback) (one two : Row) :
    (fields : List SortField) → Decidable (Precedes fallback one two fields)
  | [] => .isFalse nofun
  | _ :: fields =>
    have := decidablePrecedes fallback one two fields
    decidable_of_iff' _ precedes_cons

instance {fallback : Fallback} {fields : List SortField} {one two : Row} : Decidable (Level fallback fields one two) :=
  inferInstanceAs (Decidable (∀ field ∈ fields, _ = _))

variable {fallback : Fallback} {fields : List SortField} {one two : Row}

theorem compareRows_cons {field : SortField} (comparable : Comparable fallback field one two) :
    compareRows fallback (field :: fields) one two =
      (if field.descending then ((keyAt fallback one field).compare (keyAt fallback two field)).swap
        else (keyAt fallback one field).compare (keyAt fallback two field)).then
      (compareRows fallback fields one two) := by
  obtain ⟨alike, first, second⟩ := comparable
  rw [SortKey.compare_eq alike first second, ← SortKey.comparePlaces_swap, compareRows, compareLex]
  by_cases descending : field.descending = true
  · rw [if_pos descending, if_pos descending]
  · rw [if_neg descending, if_neg descending]

theorem compareRows_eq_eq_iff (comparable : ∀ field ∈ fields, Comparable fallback field one two) :
    compareRows fallback fields one two = .eq ↔ Level fallback fields one two := by
  induction fields with
  | nil => simp [compareRows, Level]
  | cons field fields ih =>
    obtain ⟨first, rest⟩ := List.forall_mem_cons.mp comparable
    rw [compareRows_cons first, Ordering.then_eq_eq, SortField.directed_eq_eq_iff, ih rest]
    simp only [Level, List.forall_mem_cons]

theorem compareRows_eq_lt_iff (comparable : ∀ field ∈ fields, Comparable fallback field one two) :
    compareRows fallback fields one two = .lt ↔ Precedes fallback one two fields := by
  induction fields with
  | nil =>
    constructor
    · nofun
    · nofun
  | cons field fields ih =>
    obtain ⟨first, rest⟩ := List.forall_mem_cons.mp comparable
    rw [compareRows_cons first, Ordering.then_eq_lt, SortField.directed_eq_lt_iff, SortField.directed_eq_eq_iff,
      ih rest]
    exact precedes_cons.symm

/-- The positions of all rows in the order of the sort fields, those of level rows in ascending order. -/
structure Arranges (fallback : Fallback) (fields : List SortField) (rows : List Row) (order : List Nat) : Prop where
  perm : order.Perm (List.range rows.length)
  ordered : order.Pairwise fun i j => ∀ one ∈ rows[i]?, ∀ two ∈ rows[j]?,
    Precedes fallback one two fields ∨ Level fallback fields one two ∧ i < j

variable {rows : List Row} {order : List Nat}

theorem Arranges.row (arranges : Arranges fallback fields rows order) {i : Nat} (listed : i ∈ order) :
    ∃ row ∈ rows, rows[i]? = some row := by
  have inside := List.mem_range.mp (arranges.perm.mem_iff.mp listed)
  exact ⟨rows[i], List.getElem_mem inside, List.getElem?_eq_getElem inside⟩

theorem Arranges.unique (uniform : Uniform fallback fields rows) {other : List Nat}
    (first : Arranges fallback fields rows order) (second : Arranges fallback fields rows other) : other = order := by
  refine List.Perm.eq_of_pairwise ?_ second.ordered first.ordered (second.perm.trans first.perm.symm)
  intro i j iListed jListed ahead behind
  -- of two rows in front of each other each would compare as less, or both as level with the lower position
  obtain ⟨one, oneMember, oneFound⟩ := second.row iListed
  obtain ⟨two, twoMember, twoFound⟩ := first.row jListed
  have ahead := ahead one oneFound two twoFound
  have behind := behind two twoFound one oneFound
  rw [← compareRows_eq_lt_iff (uniform one oneMember two twoMember),
    ← compareRows_eq_eq_iff (uniform one oneMember two twoMember)] at ahead
  have swapped : compareRows fallback fields two one = (compareRows fallback fields one two).swap :=
    Std.OrientedCmp.eq_swap
  rw [← compareRows_eq_lt_iff (uniform two twoMember one oneMember),
    ← compareRows_eq_eq_iff (uniform two twoMember one oneMember), swapped] at behind
  rcases ahead with less | ⟨level, lower⟩
  · simp [less] at behind
  · simp only [level, Ordering.swap_eq, reduceCtorEq, true_and, false_or] at behind
    omega

/-- Rows with their positions, sorted by the sort fields. -/
def numberedSort (fallback : Fallback) (fields : List SortField) (rows : List Row) : List (Row × Nat) :=
  rows.zipIdx.mergeSort (List.zipIdxLE fun a b => (compareRows fallback fields a b).isLE)

theorem numberedSort_perm (fallback : Fallback) (fields : List SortField) (rows : List Row) :
    (numberedSort fallback fields rows).Perm rows.zipIdx := List.mergeSort_perm ..

theorem positions_numberedSort_perm (fallback : Fallback) (fields : List SortField) (rows : List Row) :
    ((numberedSort fallback fields rows).map Prod.snd).Perm (List.range rows.length) := by
  have kept := (numberedSort_perm fallback fields rows).map Prod.snd
  rwa [List.zipIdx_map_snd, ← List.range_eq_range'] at kept

theorem getElem?_of_mem_numberedSort {numbered : Row × Nat} (listed : numbered ∈ numberedSort fallback fields rows) :
    rows[numbered.2]? = some numbered.1 :=
  List.mem_zipIdx_iff_getElem?.mp ((numberedSort_perm ..).mem_iff.mp listed)

/-- Of two rows with their positions, the one in front after sorting compares as less, or as level and came first. -/
theorem pairwise_numberedSort : (numberedSort fallback fields rows).Pairwise fun one two =>
    compareRows fallback fields one.1 two.1 = .lt ∨ compareRows fallback fields one.1 two.1 = .eq ∧ one.2 < two.2 := by
  have swapped (a b : Row) : compareRows fallback fields b a = (compareRows fallback fields a b).swap :=
    Std.OrientedCmp.eq_swap
  have total (a b : Row) : ((compareRows fallback fields a b).isLE || (compareRows fallback fields b a).isLE) = true := by
    rw [swapped a b]
    cases compareRows fallback fields a b <;> rfl
  have sorted := List.pairwise_mergeSort
    (List.zipIdxLE_trans fun _ _ _ => Std.TransCmp.isLE_trans) (List.zipIdxLE_total total) rows.zipIdx
  have distinct := (positions_numberedSort_perm fallback fields rows).nodup_iff.mpr List.nodup_range
  have apart := List.pairwise_map.mp distinct
  refine (sorted.and apart).imp ?_
  intro one two both
  obtain ⟨ordered, different⟩ := both
  rw [List.zipIdxLE, swapped one.1 two.1] at ordered
  cases order : compareRows fallback fields one.1 two.1 with
  | lt => exact .inl rfl
  | eq =>
    simp only [order, Ordering.isLE, Ordering.swap_eq, if_true, decide_eq_true_eq] at ordered
    exact .inr ⟨rfl, Nat.lt_of_le_of_ne ordered different⟩
  | gt => simp [order] at ordered

theorem arranges_numberedSort (uniform : Uniform fallback fields rows) :
    Arranges fallback fields rows ((numberedSort fallback fields rows).map Prod.snd) := by
  refine ⟨positions_numberedSort_perm fallback fields rows, ?_⟩
  rw [List.pairwise_map]
  refine pairwise_numberedSort.imp_of_mem ?_
  intro numbered other numberedListed otherListed ordered one oneFound two twoFound
  have first := getElem?_of_mem_numberedSort numberedListed
  have second := getElem?_of_mem_numberedSort otherListed
  cases first.symm.trans oneFound
  cases second.symm.trans twoFound
  have comparable := uniform _ (List.mem_of_getElem? first) _ (List.mem_of_getElem? second)
  rwa [compareRows_eq_lt_iff comparable, compareRows_eq_eq_iff comparable] at ordered

variable {spec : SortSpec}

theorem sort_eq_filterMap (uniform : Uniform fallback spec.fields rows) :
    spec.sort fallback rows = ((numberedSort fallback spec.fields rows).map Prod.snd).filterMap (rows[·]?) := by
  rw [sort_eq uniform, ← List.mergeSort_zipIdx, List.filterMap_map, ← List.filterMap_eq_map]
  apply List.filterMap_congr
  intro numbered listed
  exact (getElem?_of_mem_numberedSort listed).symm

theorem sort_of_arranges (uniform : Uniform fallback spec.fields rows)
    (arranges : Arranges fallback spec.fields rows order) :
    spec.sort fallback rows = order.filterMap (rows[·]?) := by
  rw [sort_eq_filterMap uniform, arranges.unique uniform (arranges_numberedSort uniform)]

theorem isUniform_iff : isUniform (rows.map (spec.keys fallback)) = true ↔ OneKind fallback spec.fields rows := by
  cases rows with
  | nil => simp [isUniform, OneKind]
  | cons first rest =>
    simp only [List.map_cons, isUniform, List.all_map, List.all_eq_true, Function.comp_apply, keys_eq,
      List.zipWith_map, List.zipWith_self, id_eq]
    constructor
    · intro uniform one oneListed two twoListed field listed
      have alike (row : Row) (member : row ∈ first :: rest) :
          (keyAt fallback first field).sameKind (keyAt fallback row field) = true := by
        rcases List.mem_cons.mp member with rfl | later
        · cases keyAt fallback row field <;> rfl
        · exact uniform row later field listed
      exact SortKey.sameKind_trans (SortKey.sameKind_symm (alike one oneListed)) (alike two twoListed)
    · intro oneKind row later field listed
      exact oneKind first List.mem_cons_self row (List.mem_cons_of_mem _ later) field listed

theorem sort_mixed (mixed : ¬ OneKind fallback spec.fields rows) : spec.sort fallback rows = rows := by
  have unkeyed : (rows.map fun row => (spec.keys fallback row, row)).map Prod.fst = rows.map (spec.keys fallback) := by
    simp [Function.comp_def]
  rw [sort, unkeyed, if_neg (mt isUniform_iff.mp mixed)]

/-- The value that a row is sorted by at a field: its own, or else that of the fallback. -/
def valueAt? (fallback : Fallback) (row : Row) (field : SortField) : Option Json :=
  (row.get? field.field).or (fallback row field.field)

/-- What sorting by some fields makes of rows, alone and together with a limit. -/
structure SortsStably (spec : SortSpec) (fallback : Fallback) (rows : List Row) : Prop where
  /-- Rows with keys of different kinds at a field stay as they are. -/
  mixed : ¬ OneKind fallback spec.fields rows → spec.sort fallback rows = rows
  /-- Other rows have one arrangement, and come in it. -/
  arranged : OneKind fallback spec.fields rows → ∃ order, Arranges fallback spec.fields rows order ∧
    (∀ other, Arranges fallback spec.fields rows other → other = order) ∧
    spec.sort fallback rows = order.filterMap (rows[·]?)
  unlimited : (Finish.mk (some spec) none).apply fallback rows = spec.sort fallback rows
  limited : ∀ limit, (Finish.mk (some spec) (some limit)).apply fallback rows = (spec.sort fallback rows).take limit
  /-- A larger limit only adds rows at the end. -/
  grows : ∀ less more, less ≤ more → (Finish.mk (some spec) (some less)).apply fallback rows <+:
    (Finish.mk (some spec) (some more)).apply fallback rows

/-- Keys of one kind are totally preordered, and sorting is the one stable arrangement of rows by them, or leaves the rows
alone. All that is asked of the values is that none is a "not a number", for which there is no structured value in a
text. -/
theorem sort_stable (spec : SortSpec) (fallback : Fallback) (rows : List Row)
    (proper : ∀ row ∈ rows, ∀ field ∈ spec.fields, ∀ value, valueAt? fallback row field = some value →
      value.Orderable) :
    (∀ kind, SortKey.Preorders fun key => key.sameKind kind = true ∧
      ∃ value?, (∀ value, value? = some value → value.Orderable) ∧ key = SortKey.ofJson? value?) ∧
    spec.SortsStably fallback rows := by
  refine ⟨fun kind => ?_, sort_mixed, ?_, rfl, fun _ => rfl, ?_⟩
  · refine (SortKey.preorders_kind kind).mono ?_
    rintro _ ⟨alike, value?, orderable, rfl⟩
    exact ⟨alike, SortKey.orderable_ofJson? orderable⟩
  · intro oneKind
    have uniform : Uniform fallback spec.fields rows := fun one oneListed two twoListed field listed =>
      ⟨oneKind one oneListed two twoListed field listed,
        SortKey.orderable_ofJson? (proper one oneListed field listed),
        SortKey.orderable_ofJson? (proper two twoListed field listed)⟩
    have arranges := arranges_numberedSort uniform
    exact ⟨_, arranges, fun _ other => arranges.unique uniform other, sort_eq_filterMap uniform⟩
  · intro less more small
    exact List.take_prefix_take_left small

/-- Two folders and three files, by type and then by falling size: the files of equal size stay as they came. With the
time of a change in place of one size, nothing is sorted. -/
theorem sort_stable_files :
    let entry (name type : String) (size : Json) : Row :=
      [("name", .string name), ("type", .string type), ("size", size)]
    let spec : SortSpec := ⟨[⟨"type", false⟩, ⟨"size", true⟩]⟩
    let rows := [entry "b" "Folder" (.integer 5), entry "y" "File" (.integer 1), entry "c" "File" (.double 9),
      entry "x" "file" (.bool true), entry "a" "Folder" (.integer 7)]
    let mixed := rows ++ [entry "d" "File" (.string "2024-01-02 03:04")]
    ((spec.sort (fun _ _ => none) rows).map (·.get? "name")).filterMap (·.bind Json.asString?) =
      ["c", "y", "x", "a", "b"] ∧
    spec.SortsStably (fun _ _ => none) rows ∧ spec.sort (fun _ _ => none) mixed = mixed := by
  intro entry spec rows mixed
  have shows (name type : String) {size : Json} (proper : size.Orderable) :
      ∀ member ∈ entry name type size, member.2.Orderable := by
    simpa [entry, Json.Orderable] using proper
  have plain {value : Json} (other : ∀ d, value ≠ .double d) : value.Orderable := fun d same => absurd same (other d)
  have nine : (Json.double 9).Orderable := by
    intro d same
    cases same
    exact Double.key?_ofInt 9
  have orderable : ∀ row ∈ mixed, ∀ member ∈ row, member.2.Orderable := by
    simp only [mixed, rows, List.cons_append, List.nil_append, List.forall_mem_cons]
    exact ⟨shows _ _ (plain (by simp)), shows _ _ (plain (by simp)), shows _ _ nine, shows _ _ (plain (by simp)),
      shows _ _ (plain (by simp)), shows _ _ (plain (by simp)), List.forall_mem_nil _⟩
  have proper (row : Row) (listed : row ∈ mixed) (field : SortField) (value : Json)
      (shown : valueAt? (fun _ _ => none) row field = some value) : value.Orderable := by
    rw [valueAt?, Option.or_none] at shown
    exact orderable row listed _ (Members.mem_of_get? shown)
  have sorted := (sort_stable spec (fun _ _ => none) rows fun row listed field _ value =>
    proper row (List.mem_append_left _ listed) field value).2
  obtain ⟨order, -, only, arranged⟩ := sorted.arranged (by decide +kernel)
  have found : [2, 1, 3, 4, 0] = order := only _ ⟨by decide, by decide +kernel⟩
  refine ⟨?_, sorted, (sort_stable spec (fun _ _ => none) mixed fun row listed field _ => proper row listed field).2.mixed
    (by decide +kernel)⟩
  rw [arranged, ← found]
  rfl

end SortSpec

end EntityGraph
