import EntityGraph.Query.Execution
import Mathlib.Data.List.Forall2

/-!
Which definitions are queries. Planning fails exactly if some clause is at fault, and then by a fault of one of the
clauses; otherwise every clause that is there in its form gives one filter, in a fixed order, whatever the other clauses
say.
-/
namespace EntityGraph

namespace Json

/-- A value that says nothing. -/
inductive Blank : Json → Prop where
  | null : Blank .null
  | no : Blank (.bool false)
  | zero : Blank (.integer 0)
  | zeroDouble {d : Double} (zero : d.equals 0 = true) : Blank (.double d)
  | text : Blank (.string "")
  | list : Blank (.array [])
  | mapping : Blank (.object [])

theorem isSet_iff {v : Json} : v.isSet = true ↔ ¬ v.Blank := by
  constructor
  · rintro set blank
    cases blank <;> simp_all [isSet]
  · intro notBlank
    cases v with
    | null => exact absurd .null notBlank
    | bool b =>
      cases b
      · exact absurd .no notBlank
      · rfl
    | integer n =>
      have different : n ≠ 0 := by
        rintro rfl
        exact notBlank .zero
      simpa [isSet] using different
    | double d => simpa [isSet] using fun zero => notBlank (.zeroDouble zero)
    | string s =>
      have different : s ≠ "" := by
        rintro rfl
        exact notBlank .text
      simpa [isSet] using different
    | array items =>
      have different : items ≠ [] := by
        rintro rfl
        exact notBlank .list
      simpa [isSet] using different
    | object members =>
      have different : members ≠ [] := by
        rintro rfl
        exact notBlank .mapping
      simpa [isSet] using different

/-- A whole number from zero on, of 64 bits. -/
inductive Counts : Json → Nat → Prop where
  | count {n : Nat} (small : n < 0x1_0000_0000_0000_0000) : Counts (.integer n) n

theorem asCount?_eq_some_iff {v : Json} {n : Nat} : v.asCount? = some n ↔ v.Counts n := by
  constructor
  · intro counted
    unfold asCount? at counted
    split at counted
    · split at counted
      · rename_i small
        cases counted
        exact .count small
      · cases counted
    · cases counted
  · rintro ⟨small⟩
    exact if_pos small

end Json

namespace Members

variable {definition : Members} {key : String}

def Sets (definition : Members) (key : String) (v : Json) : Prop := definition.get? key = some v ∧ ¬ v.Blank

/-- A clause is missing or says nothing. -/
def Unset (definition : Members) (key : String) : Prop := ∀ v, definition.get? key = some v → v.Blank

/-- A clause is a mapping. -/
def Maps (definition : Members) (key : String) (inner : Members) : Prop := definition.get? key = some (.object inner)

/-- A clause names types: it is a text or a list. -/
def NamesTypes (definition : Members) (key : String) : Prop :=
  (∃ type, definition.get? key = some (.string type)) ∨ ∃ types, definition.get? key = some (.array types)

/-- The count of a clause, or the default of one that is missing or null. -/
inductive Reads (definition : Members) (key : String) (default : Nat) : Nat → Prop where
  | missing (absent : definition.get? key = none) : Reads definition key default default
  | null (null : definition.get? key = some .null) : Reads definition key default default
  | count {v : Json} {n : Nat} (found : definition.get? key = some v) (counts : v.Counts n) :
    Reads definition key default n

/-- A clause is there, not null, and no count. -/
inductive CountFault (definition : Members) (key : String) : QueryError → Prop where
  | notACount {v : Json} (found : definition.get? key = some v) (notNull : v ≠ .null) (notCount : ∀ n, ¬ v.Counts n) :
    CountFault definition key (.notACount key v)

/-- A clause says something other than a mapping. -/
inductive MappingFault (definition : Members) (key : String) : QueryError → Prop where
  | notAMapping {v : Json} (set : definition.Sets key v) (notMapping : ∀ inner, v ≠ .object inner) :
    MappingFault definition key (.clauseNotAMapping key v)

theorem hasKey_eq (definition : Members) (key : String) : definition.hasKey key = (definition.get? key).isSome := by
  induction definition with
  | nil => rfl
  | cons member rest ih =>
    have rest_eq : (rest.any fun member => member.1 == key) = (rest.lookup key).isSome := ih
    rw [hasKey, get?, List.any_cons, List.lookup_cons, rest_eq]
    by_cases here : member.1 = key
    · simp [here]
    · rw [beq_false_of_ne here, beq_false_of_ne (Ne.symm here), Bool.false_or]

theorem clause?_eq_some_iff {v : Json} : definition.clause? key = some v ↔ definition.Sets key v := by
  rw [clause?, Option.filter_eq_some_iff, Json.isSet_iff, Sets]

theorem clause?_eq_none_iff : definition.clause? key = none ↔ definition.Unset key := by
  simp only [Option.eq_none_iff_forall_ne_some, ne_eq, clause?_eq_some_iff, Sets, Unset, not_and, Classical.not_not]

/-- The mapping of a clause, if it is one. -/
def mapping? (definition : Members) (key : String) : Option Members := (definition.get? key).bind Json.asObject?

theorem mapping?_eq_some_iff {inner : Members} : definition.mapping? key = some inner ↔ definition.Maps key inner := by
  rw [mapping?, Option.bind_eq_some_iff, Maps]
  constructor
  · rintro ⟨v, found, mapping⟩
    unfold Json.asObject? at mapping
    split at mapping <;> cases mapping
    exact found
  · intro found
    exact ⟨_, found, rfl⟩

end Members

/-- A computation that fails exactly if there is a fault, and then by one of the faults; otherwise its result has some
property. -/
structure Settles (faults : ε → Prop) (result : α → Prop) (outcome : Except ε α) : Prop where
  failed : ∀ cause, outcome = .error cause → faults cause
  fails : ∀ cause, faults cause → ∃ first, outcome = .error first
  succeeded : ∀ value, outcome = .ok value → result value

namespace Settles

variable {faults : ε → Prop} {result : α → Prop} {outcome : Except ε α}

theorem ok {value : α} (holds : result value) (faultless : ∀ cause, ¬ faults cause) :
    Settles faults result (.ok value) where
  failed := nofun
  fails cause fault := absurd fault (faultless cause)
  succeeded := by
    rintro _ ⟨⟩
    exact holds

theorem error {cause : ε} (fault : faults cause) : Settles faults result (.error cause : Except ε α) where
  failed := by
    rintro _ ⟨⟩
    exact fault
  fails _ _ := ⟨cause, rfl⟩
  succeeded := nofun

/-- Of two computations in a row either one may have faults; those of the second one do not depend on the first. -/
theorem bind {more : ε → Prop} {final : β → Prop} {next : α → Except ε β} (first : Settles faults result outcome)
    (later : ∀ value, result value → Settles more final (next value)) :
    Settles (fun cause => faults cause ∨ more cause) final (outcome >>= next) := by
  cases outcome with
  | error cause => exact error (.inl (first.failed cause rfl))
  | ok value =>
    have rest := later value (first.succeeded value rfl)
    constructor
    · exact fun cause failed => .inr (rest.failed cause failed)
    · rintro cause (early | late)
      · obtain ⟨_, impossible⟩ := first.fails cause early
        cases impossible
      · exact rest.fails cause late
    · exact rest.succeeded

theorem map {final : β → Prop} {change : α → β} (first : Settles faults result outcome)
    (changed : ∀ value, result value → final (change value)) : Settles faults final (outcome.map change) := by
  cases outcome with
  | error cause => exact error (first.failed cause rfl)
  | ok value =>
    refine ok (changed value (first.succeeded value rfl)) fun cause fault => ?_
    obtain ⟨_, impossible⟩ := first.fails cause fault
    cases impossible

theorem bind_pure {final : β → Prop} {change : α → β} (first : Settles faults result outcome)
    (changed : ∀ value, result value → final (change value)) :
    Settles faults final (outcome >>= fun value => pure (change value)) := by
  have mapped := first.map changed
  cases outcome <;> exact mapped

theorem faultless (first : Settles faults result outcome) :
    Settles faults (fun value => result value ∧ ∀ cause, ¬ faults cause) outcome where
  failed := first.failed
  fails := first.fails
  succeeded value succeeded := by
    refine ⟨first.succeeded value succeeded, fun cause fault => ?_⟩
    obtain ⟨_, failed⟩ := first.fails cause fault
    rw [succeeded] at failed
    cases failed

theorem congr {others : ε → Prop} (first : Settles faults result outcome)
    (same : ∀ cause, faults cause ↔ others cause) : Settles others result outcome where
  failed cause failed := (same cause).mp (first.failed cause failed)
  fails cause fault := first.fails cause ((same cause).mpr fault)
  succeeded := first.succeeded

end Settles

theorem Members.countClause_settles (definition : Members) (key : String) (default : Nat) :
    Settles (definition.CountFault key) (definition.Reads key default) (definition.countClause key default) := by
  unfold countClause
  split
  · rename_i absent
    refine .ok (.missing absent) ?_
    rintro _ ⟨found, -, -⟩
    rw [absent] at found
    cases found
  · rename_i null
    refine .ok (.null null) ?_
    rintro _ ⟨found, notNull, -⟩
    rw [null] at found
    cases found
    exact notNull rfl
  · rename_i v notNull found
    split
    · rename_i n counted
      have counts := Json.asCount?_eq_some_iff.mp counted
      refine .ok (.count found counts) ?_
      rintro _ ⟨same, -, notCount⟩
      rw [found] at same
      cases same
      exact notCount n counts
    · rename_i notCounted
      refine .error (.notACount found (fun null => notNull (null ▸ rfl)) fun n counts => ?_)
      rw [Json.asCount?_eq_some_iff.mpr counts] at notCounted
      cases notCounted

theorem Members.mappingClause_settles (definition : Members) (key : String) :
    Settles (definition.MappingFault key) (· = definition.mapping? key) (definition.mappingClause key) := by
  unfold mappingClause
  split
  · rename_i absent
    refine .ok (by simp [mapping?, absent]) ?_
    rintro _ ⟨⟨found, -⟩, -⟩
    rw [absent] at found
    cases found
  · rename_i inner found
    refine .ok (mapping?_eq_some_iff.mpr found).symm ?_
    rintro _ ⟨⟨same, -⟩, notMapping⟩
    rw [found] at same
    cases same
    exact notMapping inner rfl
  · rename_i v notMapping found
    have apart (inner : Members) : v ≠ .object inner := fun same => notMapping inner (same ▸ rfl)
    split
    · rename_i set
      exact .error (.notAMapping ⟨found, Json.isSet_iff.mp set⟩ apart)
    · rename_i notSet
      refine .ok ?_ ?_
      · refine (Option.eq_none_iff_forall_ne_some.mpr fun inner mapping => ?_).symm
        rw [mapping?_eq_some_iff, Maps, found] at mapping
        exact apart inner (Option.some.inj mapping)
      · rintro _ ⟨⟨same, set⟩, -⟩
        rw [found] at same
        cases same
        exact notSet (Json.isSet_iff.mpr set)

/-- The clauses that give filters. -/
inductive NodeClause where
  | type
  | name
  | properties
  | similarTo
  | description
  | filter
  | meets
  | connectedTo
  /-- Properties outside of the clauses about entities. -/
  | outerProperties
deriving DecidableEq

namespace NodeClause

def order : List NodeClause :=
  [type, name, properties, similarTo, description, filter, meets, connectedTo, outerProperties]

/-- A clause is there in the form that it needs. -/
def Present (definition : Members) : NodeClause → Prop
  | type => ∃ v, (Query.nodeClauses definition).Sets "type" v
  | name => ∃ v, (Query.nodeClauses definition).Sets "name" v
  | properties => ∃ inner, (Query.nodeClauses definition).Maps "properties" inner
  | similarTo => ∃ v, (Query.nodeClauses definition).Sets "similar_to" v
  | description => ∃ inner, (Query.nodeClauses definition).Maps "description" inner
  | filter => ∃ inner, definition.Maps "filter" inner
  | meets => ∃ v, definition.Sets "where" v
  | connectedTo => ∃ inner, definition.Maps "connected_to" inner
  | outerProperties =>
    (Query.nodeClauses definition).get? "properties" = none ∧ ∃ inner, definition.Maps "properties" inner

/-- The filter that a clause gives. -/
inductive Gives (definition : Members) (config : QueryConfig) : NodeClause → FilterStage → Prop where
  | type {v : Json} (set : (Query.nodeClauses definition).Sets "type" v) : Gives definition config type (.type v.asText)
  | name {v : Json} (set : (Query.nodeClauses definition).Sets "name" v) : Gives definition config name (.name v.asText)
  | properties {inner : Members} (mapping : (Query.nodeClauses definition).Maps "properties" inner) :
    Gives definition config properties (.properties (.ofMembers inner))
  | similarTo {v : Json} {threshold : Threshold} (set : (Query.nodeClauses definition).Sets "similar_to" v)
    (least : threshold = (((Query.nodeClauses definition).get? "threshold").map Threshold.ofJson).getD
      (.atLeast config.similarityThreshold)) : Gives definition config similarTo (.semantic ⟨v.asText, threshold⟩)
  | description {inner : Members} (mapping : (Query.nodeClauses definition).Maps "description" inner) :
    Gives definition config description (.fieldSpec ⟨"description", FieldMatch.ofFieldSpec inner⟩)
  | filter {inner : Members} (mapping : definition.Maps "filter" inner) :
    Gives definition config filter (.fields (.ofMembers inner))
  | meets {v : Json} (set : definition.Sets "where" v) : Gives definition config meets (.meets (.ofJson v))
  | connectedTo {inner : Members} {maxDepth : Nat} (mapping : definition.Maps "connected_to" inner)
    (depth : inner.Reads "max_depth" config.connectedToDepth maxDepth) :
    Gives definition config connectedTo
      (.connectedTo ⟨inner.textClause? "entity", maxDepth, inner.typesClause? "via"⟩)
  | outerProperties {inner : Members} (absent : (Query.nodeClauses definition).get? "properties" = none)
    (mapping : definition.Maps "properties" inner) :
    Gives definition config outerProperties (.properties (.ofMembers inner))

def stage? (definition : Members) (config : QueryConfig) : NodeClause → Option FilterStage
  | type => ((Query.nodeClauses definition).textClause? "type").map .type
  | name => ((Query.nodeClauses definition).textClause? "name").map .name
  | properties => ((Query.nodeClauses definition).mapping? "properties").map fun inner => .properties (.ofMembers inner)
  | similarTo => (NodePlan.semanticFilter? (Query.nodeClauses definition) config).map .semantic
  | description => (NodePlan.descriptionSpec? (Query.nodeClauses definition)).map .fieldSpec
  | filter => (definition.mapping? "filter").map fun inner => .fields (.ofMembers inner)
  | meets => (definition.clause? "where").map fun v => .meets (.ofJson v)
  | connectedTo => (definition.mapping? "connected_to").bind fun inner =>
    (NodePlan.connectivityFilter inner config).toOption.map .connectedTo
  | outerProperties =>
    if (Query.nodeClauses definition).hasKey "properties" then none
    else (definition.mapping? "properties").map fun inner => .properties (.ofMembers inner)

end NodeClause

namespace NodePlan

/-- A fault of the clauses of a search for entities. -/
inductive Fault (definition : Members) : QueryError → Prop where
  | properties {cause : QueryError} (fault : (Query.nodeClauses definition).MappingFault "properties" cause) :
    Fault definition cause
  | filter {cause : QueryError} (fault : definition.MappingFault "filter" cause) : Fault definition cause
  | connectedTo {cause : QueryError} (fault : definition.MappingFault "connected_to" cause) : Fault definition cause
  | maxDepth {cause : QueryError} {inner : Members} (mapping : definition.Maps "connected_to" inner)
    (fault : inner.CountFault "max_depth" cause) : Fault definition cause
  | outerProperties {cause : QueryError} (absent : (Query.nodeClauses definition).get? "properties" = none)
    (fault : definition.MappingFault "properties" cause) : Fault definition cause
  | depth {cause : QueryError} (fault : definition.CountFault "depth" cause) : Fault definition cause

theorem connectivityFilter_settles (inner : Members) (config : QueryConfig) :
    Settles (inner.CountFault "max_depth")
      (fun filter => ∃ maxDepth, inner.Reads "max_depth" config.connectedToDepth maxDepth ∧
        filter = ⟨inner.textClause? "entity", maxDepth, inner.typesClause? "via"⟩)
      (connectivityFilter inner config) :=
  (inner.countClause_settles "max_depth" config.connectedToDepth).bind_pure fun maxDepth read =>
    ⟨maxDepth, read, rfl⟩

theorem connectedTo_settles (definition : Members) (config : QueryConfig) :
    Settles (fun cause => ∃ inner, definition.Maps "connected_to" inner ∧ inner.CountFault "max_depth" cause)
      (fun filter? => filter?.map .connectedTo = NodeClause.connectedTo.stage? definition config)
      ((definition.mapping? "connected_to").mapM (connectivityFilter · config)) := by
  unfold NodeClause.stage?
  cases mapping : definition.mapping? "connected_to" with
  | none =>
    refine .ok rfl ?_
    rintro cause ⟨inner, maps, -⟩
    rw [Members.mapping?_eq_some_iff.mpr maps] at mapping
    cases mapping
  | some inner =>
    have maps := Members.mapping?_eq_some_iff.mp mapping
    have settles := connectivityFilter_settles inner config
    cases outcome : connectivityFilter inner config with
    | error cause =>
      rw [Option.mapM_some, outcome]
      exact .error ⟨inner, maps, settles.failed cause outcome⟩
    | ok filter =>
      rw [Option.mapM_some, outcome]
      refine .ok (by simp [outcome, Except.toOption]) ?_
      rintro cause ⟨other, otherMaps, fault⟩
      rw [Members.mapping?_eq_some_iff.mpr otherMaps] at mapping
      cases mapping
      obtain ⟨_, failed⟩ := settles.fails cause fault
      rw [outcome] at failed
      cases failed

/-- Properties outside of the clauses about entities are read unless there are some inside. -/
theorem outerProperties_settles (nodes definition : Members) {final : β → Prop} (finish : Option Members → β)
    (holds : final (finish (if nodes.hasKey "properties" then none else definition.mapping? "properties"))) :
    Settles (fun cause => nodes.get? "properties" = none ∧ definition.MappingFault "properties" cause) final
      (if nodes.hasKey "properties" then do
        let outer ← pure none
        pure (finish outer)
      else do
        let outer ← definition.mappingClause "properties"
        pure (finish outer)) := by
  have present_iff := nodes.hasKey_eq "properties"
  split
  · rename_i present
    rw [if_pos present] at holds
    refine .ok holds fun cause fault => ?_
    rw [present_iff, fault.1] at present
    cases present
  · rename_i absent
    rw [if_neg absent] at holds
    rw [present_iff, Bool.not_eq_true, Option.isSome_eq_false_iff, Option.isNone_iff_eq_none] at absent
    have read := definition.mappingClause_settles "properties"
    exact (read.bind_pure fun outer same => same ▸ holds).congr fun cause => (and_iff_right absent).symm

/-- What may be wrong with the clauses that give filters. -/
def StageFault (definition : Members) (cause : QueryError) : Prop :=
  (Query.nodeClauses definition).MappingFault "properties" cause ∨ definition.MappingFault "filter" cause ∨
    definition.MappingFault "connected_to" cause ∨
    (∃ inner, definition.Maps "connected_to" inner ∧ inner.CountFault "max_depth" cause) ∨
    (Query.nodeClauses definition).get? "properties" = none ∧ definition.MappingFault "properties" cause

theorem stagesOf_settles (definition : Members) (config : QueryConfig) :
    Settles (StageFault definition) (· = NodeClause.order.filterMap (·.stage? definition config))
      (stagesOf definition config) := by
  unfold stagesOf
  refine ((Query.nodeClauses definition).mappingClause_settles "properties").bind ?_
  rintro _ rfl
  refine (definition.mappingClause_settles "filter").bind ?_
  rintro _ rfl
  refine (definition.mappingClause_settles "connected_to").bind ?_
  rintro _ rfl
  refine (connectedTo_settles definition config).bind fun connectedTo given => ?_
  refine outerProperties_settles _ definition _ ?_
  have listed (clauses : List NodeClause) : clauses.filterMap (·.stage? definition config) =
      (clauses.map (·.stage? definition config)).filterMap id := by
    rw [List.filterMap_map, Function.id_comp]
  rw [listed, given]
  by_cases present : (Query.nodeClauses definition).hasKey "properties" = true <;>
    simp only [NodeClause.order, List.map_cons, List.map_nil, NodeClause.stage?, present, if_true, if_false,
      Bool.false_eq_true, Option.map_none]

theorem modeOf_settles (definition : Members) (config : QueryConfig) :
    Settles (definition.CountFault "depth")
      (fun mode => ((∃ relations depth, mode = .expand relations depth) ↔
          definition.NamesTypes "relations" ∨ ∃ v, definition.get? "depth" = some v) ∧
        ∀ relations depth, mode = .expand relations depth →
          relations = definition.typesClause? "relations" ∧ definition.Reads "depth" config.depth depth)
      (modeOf definition config) := by
  have typed : (definition.typesClause? "relations").isSome = true ↔ definition.NamesTypes "relations" := by
    unfold Members.typesClause? Members.NamesTypes
    split <;> simp_all
  have keyed : definition.hasKey "depth" = true ↔ ∃ v, definition.get? "depth" = some v := by
    rw [Members.hasKey_eq, Option.isSome_iff_exists]
  unfold modeOf
  dsimp only
  split
  · rename_i asked
    rw [Bool.or_eq_true, typed, keyed] at asked
    refine (definition.countClause_settles "depth" config.depth).bind_pure fun depth read => ⟨?_, ?_⟩
    · exact ⟨fun _ => asked, fun _ => ⟨_, _, rfl⟩⟩
    · rintro _ _ ⟨⟩
      exact ⟨rfl, read⟩
  · rename_i notAsked
    rw [Bool.or_eq_true, typed, keyed] at notAsked
    refine .ok ⟨⟨nofun, fun asked => absurd asked notAsked⟩, nofun⟩ ?_
    rintro _ ⟨found, -, -⟩
    exact notAsked (.inr ⟨_, found⟩)

end NodePlan

namespace NodeClause

variable {definition : Members} {config : QueryConfig} {clause : NodeClause} {stage : FilterStage}

open Members (clause?_eq_some_iff mapping?_eq_some_iff)

theorem gives_of_stage? (given : clause.stage? definition config = some stage) :
    clause.Gives definition config stage := by
  cases clause with
  | type =>
    obtain ⟨_, text, rfl⟩ := Option.map_eq_some_iff.mp given
    obtain ⟨v, set, rfl⟩ := Option.map_eq_some_iff.mp text
    exact .type (clause?_eq_some_iff.mp set)
  | name =>
    obtain ⟨_, text, rfl⟩ := Option.map_eq_some_iff.mp given
    obtain ⟨v, set, rfl⟩ := Option.map_eq_some_iff.mp text
    exact .name (clause?_eq_some_iff.mp set)
  | properties =>
    obtain ⟨inner, mapping, rfl⟩ := Option.map_eq_some_iff.mp given
    exact .properties (mapping?_eq_some_iff.mp mapping)
  | similarTo =>
    obtain ⟨_, filter, rfl⟩ := Option.map_eq_some_iff.mp given
    obtain ⟨_, text, rfl⟩ := Option.map_eq_some_iff.mp filter
    obtain ⟨v, set, rfl⟩ := Option.map_eq_some_iff.mp text
    exact .similarTo (clause?_eq_some_iff.mp set) rfl
  | description =>
    obtain ⟨_, spec, rfl⟩ := Option.map_eq_some_iff.mp given
    unfold NodePlan.descriptionSpec? at spec
    split at spec <;> cases spec
    rename_i inner found
    exact .description found
  | filter =>
    obtain ⟨inner, mapping, rfl⟩ := Option.map_eq_some_iff.mp given
    exact .filter (mapping?_eq_some_iff.mp mapping)
  | meets =>
    obtain ⟨v, set, rfl⟩ := Option.map_eq_some_iff.mp given
    exact .meets (clause?_eq_some_iff.mp set)
  | connectedTo =>
    obtain ⟨inner, mapping, filter⟩ := Option.bind_eq_some_iff.mp given
    obtain ⟨_, succeeded, rfl⟩ := Option.map_eq_some_iff.mp filter
    cases outcome : NodePlan.connectivityFilter inner config with
    | error cause => simp [outcome, Except.toOption] at succeeded
    | ok filter =>
      obtain ⟨maxDepth, read, rfl⟩ := (NodePlan.connectivityFilter_settles inner config).succeeded filter outcome
      rw [outcome] at succeeded
      cases succeeded
      exact .connectedTo (mapping?_eq_some_iff.mp mapping) read
  | outerProperties =>
    obtain ⟨absent, found⟩ : (Query.nodeClauses definition).hasKey "properties" ≠ true ∧
        (definition.mapping? "properties").map (fun inner => .properties (.ofMembers inner)) = some stage :=
      Option.ite_none_left_eq_some.mp given
    obtain ⟨inner, mapping, rfl⟩ := Option.map_eq_some_iff.mp found
    rw [Members.hasKey_eq, ne_eq, Option.not_isSome_iff_eq_none] at absent
    exact .outerProperties absent (mapping?_eq_some_iff.mp mapping)

theorem Gives.present (gives : clause.Gives definition config stage) : clause.Present definition := by
  cases gives with
  | type set | name set | similarTo set | meets set => exact ⟨_, set⟩
  | properties mapping | description mapping | filter mapping | connectedTo mapping => exact ⟨_, mapping⟩
  | outerProperties absent mapping => exact ⟨absent, _, mapping⟩

theorem exists_stage? (faultless : ∀ cause, ¬ NodePlan.StageFault definition cause)
    (present : clause.Present definition) : ∃ stage, clause.stage? definition config = some stage := by
  cases clause with
  | type | name | similarTo | meets =>
    obtain ⟨v, set⟩ := present
    simp [stage?, Members.textClause?, NodePlan.semanticFilter?, clause?_eq_some_iff.mpr set]
  | properties | filter =>
    obtain ⟨inner, mapping⟩ := present
    simp [stage?, mapping?_eq_some_iff.mpr mapping]
  | description =>
    obtain ⟨inner, mapping⟩ := present
    have found : (Query.nodeClauses definition).get? "description" = some (.object inner) := mapping
    simp [stage?, NodePlan.descriptionSpec?, found]
  | connectedTo =>
    obtain ⟨inner, mapping⟩ := present
    cases outcome : NodePlan.connectivityFilter inner config with
    | error cause =>
      have fault := (NodePlan.connectivityFilter_settles inner config).failed cause outcome
      exact absurd (.inr (.inr (.inr (.inl ⟨inner, mapping, fault⟩)))) (faultless cause)
    | ok filter => simp [stage?, mapping?_eq_some_iff.mpr mapping, outcome, Except.toOption]
  | outerProperties =>
    obtain ⟨absent, inner, mapping⟩ := present
    simp [stage?, Members.hasKey_eq, absent, mapping?_eq_some_iff.mpr mapping]

/-- The filters that clauses give are those of the clauses that give any, one after the other. -/
theorem forall₂_stages (definition : Members) (config : QueryConfig) (clauses : List NodeClause) :
    List.Forall₂ (·.Gives definition config) (clauses.filter fun clause => (clause.stage? definition config).isSome)
      (clauses.filterMap (·.stage? definition config)) := by
  induction clauses with
  | nil => exact .nil
  | cons clause rest ih =>
    cases given : clause.stage? definition config with
    | none => simpa [given] using ih
    | some stage => simpa [given] using ⟨gives_of_stage? given, ih⟩

end NodeClause

/-- A search as its definition asks for it: a filter for every clause that is there in its form, in a fixed order, and
an expansion if types of relationships or a depth are given. -/
structure NodePlan.Follows (definition : Members) (config : QueryConfig) (plan : NodePlan) : Prop where
  stages : ∃ present : List NodeClause, present.Sublist NodeClause.order ∧
    (∀ clause, clause ∈ present ↔ clause.Present definition) ∧
    List.Forall₂ (·.Gives definition config) present plan.stages
  expands : (∃ relations depth, plan.mode = .expand relations depth) ↔
    definition.NamesTypes "relations" ∨ ∃ v, definition.get? "depth" = some v
  reach : ∀ relations depth, plan.mode = .expand relations depth →
    relations = definition.typesClause? "relations" ∧ definition.Reads "depth" config.depth depth
  returnFields : plan.returnFields = Query.returnFields (Query.nodeClauses definition) definition config.returnFields
  finish : plan.finish = .ofDefinition definition

/-- A search for paths as its definition asks for it. -/
structure PathPlan.Follows (definition : Members) (config : QueryConfig) (plan : PathPlan) : Prop where
  source : ∃ v, definition.Sets "from" v ∧ plan.source = v.asText
  target : ∃ v, definition.Sets "to" v ∧ plan.target = v.asText
  maxHops : definition.Reads "max_hops" config.maxHops plan.maxHops
  finish : plan.finish = .ofDefinition definition

/-- A fault of the clauses of a search for paths. -/
inductive PathPlan.Fault (definition : Members) : QueryError → Prop where
  | source (unset : definition.Unset "from") : Fault definition .noEndpoints
  | target (unset : definition.Unset "to") : Fault definition .noEndpoints
  | maxHops {cause : QueryError} (fault : definition.CountFault "max_hops" cause) : Fault definition cause

namespace NodePlan

theorem fault_iff {definition : Members} {cause : QueryError} :
    Fault definition cause ↔ StageFault definition cause ∨ definition.CountFault "depth" cause := by
  constructor
  · intro fault
    cases fault with
    | properties fault => exact .inl (.inl fault)
    | filter fault => exact .inl (.inr (.inl fault))
    | connectedTo fault => exact .inl (.inr (.inr (.inl fault)))
    | maxDepth mapping fault => exact .inl (.inr (.inr (.inr (.inl ⟨_, mapping, fault⟩))))
    | outerProperties absent fault => exact .inl (.inr (.inr (.inr (.inr ⟨absent, fault⟩))))
    | depth fault => exact .inr fault
  · rintro ((fault | fault | fault | ⟨inner, mapping, fault⟩ | ⟨absent, fault⟩) | fault)
    · exact .properties fault
    · exact .filter fault
    · exact .connectedTo fault
    · exact .maxDepth mapping fault
    · exact .outerProperties absent fault
    · exact .depth fault

/-- The filters of a search without faults are those of the clauses that are there in their form. -/
theorem stages_follow {definition : Members} {config : QueryConfig}
    (faultless : ∀ cause, ¬ StageFault definition cause) :
    ∃ present : List NodeClause, present.Sublist NodeClause.order ∧
      (∀ clause, clause ∈ present ↔ clause.Present definition) ∧
      List.Forall₂ (·.Gives definition config) present (NodeClause.order.filterMap (·.stage? definition config)) := by
  refine ⟨_, List.filter_sublist, fun clause => ?_, NodeClause.forall₂_stages definition config NodeClause.order⟩
  have listed : clause ∈ NodeClause.order := by cases clause <;> decide
  rw [List.mem_filter, and_iff_right listed, Option.isSome_iff_exists]
  constructor
  · rintro ⟨stage, given⟩
    exact (NodeClause.gives_of_stage? given).present
  · exact NodeClause.exists_stage? faultless

/-- A search for entities fails by a fault of its clauses, or is what its definition asks for. -/
theorem ofDefinition_settles (definition : Members) (config : QueryConfig) :
    Settles (Fault definition) (Follows definition config) (ofDefinition definition config) := by
  have settled : Settles (fun cause => StageFault definition cause ∨ definition.CountFault "depth" cause)
      (Follows definition config) (ofDefinition definition config) := by
    refine (stagesOf_settles definition config).faultless.bind ?_
    rintro _ ⟨rfl, faultless⟩
    refine (modeOf_settles definition config).bind_pure ?_
    rintro mode ⟨expands, reach⟩
    exact ⟨stages_follow faultless, expands, reach, rfl, rfl⟩
  exact settled.congr fun _ => fault_iff.symm

end NodePlan

/-- A search for paths fails by a fault of its clauses, or is what its definition asks for. -/
theorem PathPlan.ofDefinition_settles (definition : Members) (config : QueryConfig) :
    Settles (Fault definition) (Follows definition config) (ofDefinition definition config) := by
  unfold ofDefinition
  split
  · rename_i source target from_ to_
    obtain ⟨v, setFrom, rfl⟩ := Option.map_eq_some_iff.mp from_
    obtain ⟨w, setTo, rfl⟩ := Option.map_eq_some_iff.mp to_
    rw [Members.clause?_eq_some_iff] at setFrom setTo
    have counted := definition.countClause_settles "max_hops" config.maxHops
    refine (counted.bind_pure fun maxHops read => ?_).congr fun cause => ?_
    · exact ⟨⟨v, setFrom, rfl⟩, ⟨w, setTo, rfl⟩, read, rfl⟩
    · constructor
      · exact .maxHops
      · intro fault
        cases fault with
        | source unset => exact absurd (unset v setFrom.1) setFrom.2
        | target unset => exact absurd (unset w setTo.1) setTo.2
        | maxHops fault => exact fault
  · rename_i incomplete
    have unset_iff (key : String) : definition.textClause? key = none ↔ definition.Unset key := by
      rw [Members.textClause?, Option.map_eq_none_iff, Members.clause?_eq_none_iff]
    refine .error ?_
    cases from_ : definition.textClause? "from" with
    | none => exact .source ((unset_iff "from").mp from_)
    | some source =>
      cases to_ : definition.textClause? "to" with
      | none => exact .target ((unset_iff "to").mp to_)
      | some target => exact absurd to_ (incomplete source target from_)

theorem QueryError.message_of_clauseFault? {cause : QueryError} {fault : String}
    (named : cause.clauseFault? = some fault) : cause.message = "invalid query: " ++ fault := by
  cases cause <;> cases named <;> rfl

namespace Query

/-- What may be wrong with the clauses of a query. -/
inductive Fault (query : Query) : QueryError → Prop where
  | noNodes (kind : query.kind = .find) (absent : query.definition.get? "nodes" = none) : Fault query .noNodes
  | nodes {cause : QueryError} (kind : query.kind ≠ .findPath) (fault : NodePlan.Fault query.definition cause) :
    Fault query cause
  | path {cause : QueryError} (kind : query.kind = .findPath) (fault : PathPlan.Fault query.definition cause) :
    Fault query cause

theorem Fault.clauseFault?_isSome {query : Query} {cause : QueryError} (fault : query.Fault cause) :
    cause.clauseFault?.isSome = true := by
  have mapping {definition : Members} {key : String} (fault : definition.MappingFault key cause) :
      cause.clauseFault?.isSome = true := by
    cases fault
    rfl
  have count {definition : Members} {key : String} (fault : definition.CountFault key cause) :
      cause.clauseFault?.isSome = true := by
    cases fault
    rfl
  cases fault with
  | noNodes => rfl
  | nodes _ fault =>
    cases fault with
    | properties fault | filter fault | connectedTo fault | outerProperties _ fault => exact mapping fault
    | maxDepth _ fault | depth fault => exact count fault
  | path _ fault =>
    cases fault with
    | source | target => rfl
    | maxHops fault => exact count fault

/-- A plan is what a query asks for. -/
inductive Asks (query : Query) (config : QueryConfig) : QueryPlan → Prop where
  | nodes {plan : NodePlan} (kind : query.kind ≠ .findPath) (follows : plan.Follows query.definition config) :
    Asks query config (.nodes plan)
  | path {plan : PathPlan} (kind : query.kind = .findPath) (follows : plan.Follows query.definition config) :
    Asks query config (.path plan)

end Query

namespace QueryPlan

theorem nodes_settles {query : Query} (config : QueryConfig) (kind : query.kind ≠ .findPath)
    (placed : query.kind = .find → query.definition.get? "nodes" ≠ none) :
    Settles query.Fault (query.Asks config) ((NodePlan.ofDefinition query.definition config).map nodes) := by
  have settled := NodePlan.ofDefinition_settles query.definition config
  refine (settled.map fun plan follows => ?_).congr fun cause => ?_
  · exact .nodes kind follows
  · constructor
    · exact .nodes kind
    · intro fault
      cases fault with
      | noNodes find absent => exact absurd absent (placed find)
      | nodes _ fault => exact fault
      | path path _ => exact absurd path kind

theorem ofQuery_settles (query : Query) (config : QueryConfig) :
    Settles query.Fault (query.Asks config) (ofQuery query config) := by
  unfold ofQuery
  split
  · rename_i kind
    have other : query.kind ≠ .findPath := by simp [kind]
    split
    · rename_i present
      rw [Members.hasKey_eq, Option.isSome_iff_ne_none] at present
      exact nodes_settles config other fun _ => present
    · rename_i absent
      rw [Members.hasKey_eq, Option.not_isSome_iff_eq_none] at absent
      exact .error (.noNodes kind absent)
  · rename_i kind
    exact nodes_settles config (by simp [kind]) (by simp [kind])
  · rename_i kind
    have settled := PathPlan.ofDefinition_settles query.definition config
    refine (settled.map fun plan follows => ?_).congr fun cause => ?_
    · exact .path kind follows
    · constructor
      · exact .path kind
      · intro fault
        cases fault with
        | noNodes find _ => simp [kind] at find
        | nodes other _ => exact absurd kind other
        | path _ fault => exact fault

/-- Planning accepts the queries without a fault, and no others. What it fails by is a fault of the clauses, with the
message of an invalid query; and what it accepts is planned as it asks. -/
theorem ofQuery_accepts (query : Query) (config : QueryConfig) :
    ((∃ cause, ofQuery query config = .error cause) ↔ ∃ cause, query.Fault cause) ∧
    (∀ cause, ofQuery query config = .error cause → query.Fault cause ∧
      ∃ fault, cause.clauseFault? = some fault ∧ cause.message = "invalid query: " ++ fault) ∧
    ∀ plan, ofQuery query config = .ok plan → query.Asks config plan := by
  have settled := ofQuery_settles query config
  refine ⟨⟨?_, ?_⟩, fun cause failed => ⟨settled.failed cause failed, ?_⟩, settled.succeeded⟩
  · rintro ⟨cause, failed⟩
    exact ⟨cause, settled.failed cause failed⟩
  · rintro ⟨cause, fault⟩
    exact settled.fails cause fault
  · obtain ⟨fault, named⟩ := Option.isSome_iff_exists.mp (settled.failed cause failed).clauseFault?_isSome
    exact ⟨fault, named, QueryError.message_of_clauseFault? named⟩

end QueryPlan

end EntityGraph
