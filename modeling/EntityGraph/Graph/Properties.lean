import EntityGraph.Graph.Value

/-!
Property maps: one value a name, in the order of the names. Two maps with the same look-ups are the same map.
-/
namespace EntityGraph

abbrev PropertyList := List (String × Value)

namespace PropertyList

/-- Gives a name a value, at its place in the order of names. -/
def insert (name : String) (value : Value) : PropertyList → PropertyList
  | [] => [(name, value)]
  | (other, kept) :: rest =>
    if name < other then (name, value) :: (other, kept) :: rest
    else if name = other then (name, value) :: rest
    else (other, kept) :: insert name value rest

/-- Names in strictly ascending order. -/
def Sorted (entries : PropertyList) : Prop := entries.Pairwise fun a b => a.1 < b.1

theorem mem_insert_fst {entries : PropertyList} {name : String} {value : Value} {entry : String × Value}
    (member : entry ∈ insert name value entries) : entry.1 = name ∨ entry ∈ entries := by
  induction entries with
  | nil => simp_all [insert]
  | cons head rest ih =>
    simp only [insert] at member
    split at member <;> (try split at member) <;> grind

theorem sorted_insert {entries : PropertyList} (name : String) (value : Value) (sorted : Sorted entries) :
    Sorted (insert name value entries) := by
  induction entries with
  | nil => simp [insert, Sorted]
  | cons head rest ih =>
    obtain ⟨before, sortedRest⟩ := List.pairwise_cons.mp sorted
    simp only [insert]
    split
    · rename_i smaller
      refine List.pairwise_cons.mpr ⟨?_, sorted⟩
      intro entry member
      rcases List.mem_cons.mp member with rfl | later
      · exact smaller
      · exact String.lt_trans smaller (before entry later)
    · rename_i notSmaller
      split
      · rename_i same
        subst same
        exact List.pairwise_cons.mpr ⟨before, sortedRest⟩
      · rename_i different
        have larger : head.1 < name := by
          rcases Std.lt_trichotomy name head.1 with h | h | h
          · exact absurd h notSmaller
          · exact absurd h different
          · exact h
        refine List.pairwise_cons.mpr ⟨?_, ih sortedRest⟩
        intro entry member
        rcases mem_insert_fst member with same | later
        · exact same ▸ larger
        · exact before entry later

theorem lookup_cons (name wanted : String) (value : Value) (rest : PropertyList) :
    List.lookup wanted ((name, value) :: rest) = if wanted = name then some value else List.lookup wanted rest := by
  rw [List.lookup_cons]
  by_cases same : wanted = name
  · simp [same]
  · rw [beq_eq_false_iff_ne.mpr same, if_neg same]

theorem lookup_insert (entries : PropertyList) (name wanted : String) (value : Value) :
    List.lookup wanted (insert name value entries) =
      if wanted = name then some value else List.lookup wanted entries := by
  induction entries with
  | nil => rw [insert, lookup_cons]
  | cons head rest ih =>
    simp only [insert]
    split
    · rw [lookup_cons]
    · split
      · rename_i same
        subst same
        rw [lookup_cons, lookup_cons]
        split <;> simp_all
      · rename_i different
        rw [lookup_cons, lookup_cons, ih]
        split
        · rename_i here
          rw [if_neg (fun same => different (same.symm.trans here))]
        · rfl

end PropertyList

structure Properties where
  entries : PropertyList
  sorted : entries.Sorted
deriving DecidableEq

namespace Properties

def empty : Properties := ⟨[], List.Pairwise.nil⟩

instance : Inhabited Properties := ⟨empty⟩

def get? (map : Properties) (name : String) : Option Value := map.entries.lookup name

def contains (map : Properties) (name : String) : Bool := (map.get? name).isSome

def insert (map : Properties) (name : String) (value : Value) : Properties :=
  ⟨map.entries.insert name value, PropertyList.sorted_insert name value map.sorted⟩

/-- Gives a name a value unless it has one. -/
def insertNew (map : Properties) (name : String) (value : Value) : Properties :=
  if map.contains name then map else map.insert name value

/-- Inserts entries from left to right, so the last value of a name stays. -/
def insertAll (map : Properties) (entries : PropertyList) : Properties :=
  entries.foldl (fun done entry => done.insert entry.1 entry.2) map

def ofList (entries : PropertyList) : Properties := empty.insertAll entries

/-- All entries of both maps; the second one's value stays where both have one. -/
def merge (map newer : Properties) : Properties := map.insertAll newer.entries

/-- All entries of both maps; the first one's value stays where both have one. -/
def mergeNew (map older : Properties) : Properties :=
  older.entries.foldl (fun done entry => done.insertNew entry.1 entry.2) map

@[simp] theorem get?_empty (name : String) : empty.get? name = none := rfl

theorem get?_insert (map : Properties) (name wanted : String) (value : Value) :
    (map.insert name value).get? wanted = if wanted = name then some value else map.get? wanted :=
  PropertyList.lookup_insert map.entries name wanted value

def toJson (map : Properties) : Json := .object (map.entries.map fun entry => (entry.1, entry.2.toJson))

/-- The map that an object of scalars stands for; a repeated name keeps its last value. -/
def ofJson? : Json → Option Properties
  | .object members => do
    let entries ← members.mapM fun member => (Value.ofScalar? member.2).map fun value => (member.1, value)
    some (ofList entries)
  | _ => none

end Properties

end EntityGraph
