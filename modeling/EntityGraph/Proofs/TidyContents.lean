import EntityGraph.Proofs.Mutation
import Mathlib.Data.List.DropRight
import Mathlib.Data.List.TakeWhile

/-!
Contents that edits alone have made: ids have no blanks around them, so every id names its entity exactly as it is
written, and every relationship has a type.
-/
namespace EntityGraph

theorem trimChars_eq (cs : List Char) : trimChars cs = (cs.dropWhile isBlank).rdropWhile isBlank := rfl

theorem trimChars_idempotent (cs : List Char) : trimChars (trimChars cs) = trimChars cs := by
  have headless : (trimChars cs).dropWhile isBlank = trimChars cs := by
    rw [List.dropWhile_eq_self_iff, trimChars_eq]
    intro present
    have kept := List.rdropWhile_prefix isBlank (l := cs.dropWhile isBlank)
    have longer := Nat.lt_of_lt_of_le present kept.length_le
    have first := List.dropWhile_get_zero_not isBlank cs longer
    rwa [List.get_eq_getElem, ← kept.getElem present] at first
  rw [trimChars_eq, headless, trimChars_eq, List.rdropWhile_idempotent]

theorem trimChars_eq_nil_iff {cs : List Char} : trimChars cs = [] ↔ cs.all isBlank = true := by
  rw [trimChars_eq, List.rdropWhile_eq_nil_iff, List.all_eq_true]
  constructor
  · intro rest c member
    rw [← List.takeWhile_append_dropWhile (p := isBlank) (l := cs)] at member
    rcases List.mem_append.mp member with front | back
    · exact List.mem_takeWhile_imp front
    · exact rest c back
  · intro blank c member
    exact blank c ((List.dropWhile_sublist isBlank).subset member)

/-- Nothing is left of a text without the blanks at its ends exactly if it holds nothing else. -/
theorem trim_eq_empty_iff {text : String} : trim text = "" ↔ isBlankText text = true := by
  rw [trim, String.ofList_eq_empty_iff, trimChars_eq_nil_iff, isBlankText]

theorem trim_idempotent (text : String) : trim (trim text) = trim text := by
  simp only [trim, String.toList_ofList, trimChars_idempotent]

theorem Brackets.trim_stripChars (cs : List Char) : trimChars (stripChars cs) = stripChars cs := by
  fun_induction stripChars cs with
  | case1 cs inner found ih => exact ih
  | case2 cs bare => exact trimChars_idempotent cs

theorem trim_stripBrackets (text : String) : trim (stripBrackets text) = stripBrackets text := by
  simp only [trim, stripBrackets, String.toList_ofList, Brackets.trim_stripChars]

/-- An id without blanks around it that is not empty. -/
def IsTidy (id : String) : Prop := trim id = id ∧ id ≠ ""

theorem IsTidy.not_blank {id : String} (tidy : IsTidy id) : isBlankText id = false := by
  rw [Bool.eq_false_iff]
  intro blank
  exact tidy.2 (tidy.1.symm.trans (trim_eq_empty_iff.mpr blank))

theorem isTidy_normalId {id type normal : String} (named : Store.normalId? id type = some normal) :
    IsTidy normal := by
  have decided {trimmed cleaned : String}
      (kept : (if trimmed.isEmpty ∨ cleaned.isEmpty then none else some cleaned) = some normal) :
      cleaned = normal ∧ cleaned ≠ "" := by
    split at kept
    · cases kept
    · rename_i full
      rw [not_or] at full
      exact ⟨Option.some.inj kept, by simpa using full.2⟩
  obtain ⟨rfl, full⟩ := decided named
  refine ⟨?_, full⟩
  split
  · exact trim_stripBrackets _
  · exact trim_idempotent _

/-- Ids are tidy and every relationship has a type. -/
structure Listing.Tidy (listing : Listing) : Prop where
  ids : ∀ entity ∈ listing.entities, IsTidy entity.id
  types : ∀ relationship ∈ listing.relationships, relationship.type ≠ ""

namespace Listing

variable {listing : Listing}

theorem tidy_iff : listing.Tidy ↔ listing.All (fun entity => IsTidy entity.id) (fun edge => edge.type ≠ "") :=
  ⟨fun tidy => ⟨tidy.ids, tidy.types⟩, fun all => ⟨all.entities, all.relationships⟩⟩

theorem endpoint?_tidy {id : String} (tidy : IsTidy id) (listed : listing.contains id) :
    listing.endpoint? id = some id := by
  simp [endpoint?, tidy.1, listed]

theorem relate_tidy {source target : String} (sourceTidy : IsTidy source) (targetTidy : IsTidy target)
    (sourceListed : listing.contains source) (targetListed : listing.contains target) (stamp : Stamp) {type : String}
    (typed : type ≠ "") (properties : Properties) (weight : Double) :
    listing.relate stamp source target type properties weight = (true, { listing with relationships :=
      listing.relationships ++ [⟨stamp.id, source, target, type, weight, properties, stamp.time⟩] }) := by
  simp [relate, sourceTidy.not_blank, targetTidy.not_blank, typed, endpoint?_tidy sourceTidy sourceListed,
    endpoint?_tidy targetTidy targetListed]

end Listing

/-- A well-formed store with tidy contents. -/
structure Store.Tidy (store : Store) : Prop where
  valid : store.WellFormed
  contents : store.listing.Tidy

namespace Store

variable {store : Store}

theorem tidy_iff :
    store.Tidy ↔ store.Holds (fun entity => IsTidy entity.id) (fun relationship => relationship.type ≠ "") :=
  ⟨fun tidy => ⟨tidy.valid, Listing.tidy_iff.mp tidy.contents⟩,
    fun holds => ⟨holds.valid, Listing.tidy_iff.mpr holds.contents⟩⟩

theorem brings_tidy (change : Edit) :
    change.Brings (fun entity => IsTidy entity.id) (fun relationship => relationship.type ≠ "") := by
  cases change with
  | upsert => exact fun _ _ named => ⟨isTidy_normalId named, fun _ _ tidy => tidy⟩
  | relate => exact fun typed _ _ => typed
  | remove | clear => trivial

theorem run_tidy (config : StoreConfig) (mutations : List Mutation) :
    (Mutation.run (Store.empty config) mutations).2.Tidy :=
  tidy_iff.mpr (Holds.run (fun mutation _ => mutation.allows_of_all brings_tidy) (.empty config))

end Store

end EntityGraph
