import EntityGraph.Proofs.Listing
import EntityGraph.Proofs.SnapshotRoundTrip
import EntityGraph.Results.Response

/-!
Responses are read from what they are written as. Results are written without a mark of their shape, so rows and a
subgraph are told apart by the value alone: rows make a list and a subgraph an object, whatever they hold. An object is
read as it was written as long as it has no key twice.
-/
namespace EntityGraph

theorem Members.put_fresh {members : Members} {key : String} (fresh : key ∉ members.keys) (value : Json) :
    members.put key value = members ++ [(key, value)] := by
  have absent : hasKey members key = false := by
    apply List.any_eq_false.mpr
    intro member listed same
    exact fresh (List.mem_map.mpr ⟨member, listed, beq_iff_eq.mp same⟩)
  rw [put, absent, if_neg Bool.false_ne_true]

theorem Members.foldl_put (done members : Members) (distinct : (done ++ members).keys.Nodup) :
    members.foldl (fun done member => put done member.1 member.2) done = done ++ members := by
  induction members generalizing done with
  | nil => simp
  | cons member rest ih =>
    have fresh : member.1 ∉ done.keys := by
      simp only [keys, List.map_append, List.map_cons, List.nodup_append] at distinct
      exact fun listed => distinct.2.2 _ listed _ List.mem_cons_self rfl
    rw [List.foldl_cons, put_fresh fresh, ih _ (by simpa using distinct), List.append_assoc]
    rfl

theorem Members.settle_eq {members : Members} (distinct : members.keys.Nodup) : members.settle = members :=
  foldl_put [] members distinct

namespace Json

mutual

/-- No object in a value has a key twice. -/
def Distinct : Json → Prop
  | .array items => ItemsDistinct items
  | .object members => (Members.keys members).Nodup ∧ MembersDistinct members
  | _ => True

def ItemsDistinct : List Json → Prop
  | [] => True
  | item :: rest => Distinct item ∧ ItemsDistinct rest

def MembersDistinct : List (String × Json) → Prop
  | [] => True
  | (_, value) :: rest => Distinct value ∧ MembersDistinct rest

end

mutual

theorem settle_eq {v : Json} (distinct : v.Distinct) : v.settle = v := by
  cases v with
  | array items => rw [settle, settleItems_eq distinct]
  | object members =>
    obtain ⟨apart, inside⟩ := distinct
    rw [settle, settleMembers_eq inside, Members.settle_eq apart]
  | null | bool | integer | double | string => rfl

theorem settleItems_eq {items : List Json} (distinct : ItemsDistinct items) : settleItems items = items := by
  cases items with
  | nil => rfl
  | cons item rest => rw [settleItems, settle_eq distinct.1, settleItems_eq distinct.2]

theorem settleMembers_eq {members : List (String × Json)} (distinct : MembersDistinct members) :
    settleMembers members = members := by
  cases members with
  | nil => rfl
  | cons member rest => rw [settleMembers, settle_eq distinct.1, settleMembers_eq distinct.2]

end

theorem record?_object {names : List String} {members : Members} (known : ∀ key ∈ members.keys, key ∈ names)
    (distinct : members.keys.Nodup) : record? names (.object members) = some members := by
  have all : members.filter (fun member => names.contains member.1) = members := by
    apply List.filter_eq_self.mpr
    intro member listed
    exact List.contains_iff_mem.mpr (known _ (List.mem_map_of_mem listed))
  have once : (members.map (·.1)).eraseDups = members.map (·.1) := eraseDups_of_nodup distinct
  simp only [record?, all, once, List.length_map, if_true]

theorem list?_map {read? : Json → Option α} {write : α → Json} {items : List α}
    (read : ∀ item ∈ items, read? (write item) = some item) : list? read? (.array (items.map write)) = some items := by
  rw [list?, List.mapM_map]
  induction items with
  | nil => rfl
  | cons item rest ih =>
    have first := read item List.mem_cons_self
    have others := ih fun item listed => read item (List.mem_cons_of_mem _ listed)
    simp [first, others]

theorem asCount?_integer {n : Nat} (small : n < 0x1_0000_0000_0000_0000) : asCount? (.integer n) = some n := by
  have count : asCount? (.integer n) = if n < 0x1_0000_0000_0000_0000 then some n else none := rfl
  rw [count, if_pos small]

end Json

/-- Rows are objects, which have no key twice. -/
def Results.RowsProper (rows : List Row) : Prop := ∀ row ∈ rows, (Json.object row).Distinct

/-- Rows are objects and counts have 64 bits. -/
structure Subgraph.Proper (found : Subgraph) : Prop where
  nodes : Results.RowsProper found.nodes
  edges : Results.RowsProper found.edges
  nodeCount : found.nodeCount < 0x1_0000_0000_0000_0000
  edgeCount : found.edgeCount < 0x1_0000_0000_0000_0000

def Results.Proper : Results → Prop
  | rows list => RowsProper list
  | subgraph found => found.Proper

/-- What a response may hold: results of rows that are objects, and a count of 64 bits. -/
structure Response.Proper (response : Response) : Prop where
  results : ∀ results ∈ response.results, results.Proper
  resultCount : ∀ count ∈ response.resultCount, count < 0x1_0000_0000_0000_0000

theorem Subgraph.rows?_rows {rows : List Row} (proper : Results.RowsProper rows) :
    rows? (.array (rows.map .object)) = some rows := by
  apply Json.list?_map
  intro row listed
  rw [row?, Json.settle_eq (proper row listed), Json.asObject?]

theorem Json.list?_strings (texts : List String) : list? asString? (.array (texts.map .string)) = some texts :=
  list?_map fun _ _ => rfl

theorem Subgraph.ofJson?_toJson {found : Subgraph} (proper : found.Proper) : ofJson? found.toJson = some found := by
  have record : found.toJson.record? fieldNames = some _ :=
    Json.record?_object (fun _ => id) (show fieldNames.Nodup by decide)
  simp [ofJson?, record, Json.field?, Members.get?, List.lookup_cons, rows?_rows proper.nodes,
    rows?_rows proper.edges, Json.list?_strings, Json.asCount?_integer proper.nodeCount,
    Json.asCount?_integer proper.edgeCount]

theorem Results.ofJson?_toJson {results : Results} (proper : results.Proper) :
    ofJson? results.toJson = some results := by
  cases results with
  | rows list =>
    have read := Subgraph.rows?_rows proper
    rw [toJson, ofJson?, read, Option.map_some, Option.some_or]
  | subgraph found =>
    have noRows : Subgraph.rows? found.toJson = none := rfl
    rw [toJson, ofJson?, noRows, Subgraph.ofJson?_toJson proper, Option.map_none, Option.none_or, Option.map_some]

namespace Members

/-- A member for a value, if there is one. -/
def optional (key : String) (value? : Option Json) : Members := (value?.map fun value => (key, value)).toList

theorem keys_optional (key : String) (value? : Option Json) : (optional key value?).keys.Sublist [key] := by
  cases value? with
  | none => exact List.nil_sublist _
  | some value => exact .refl _

theorem get?_optional (key wanted : String) (value? : Option Json) :
    (optional key value?).get? wanted = if wanted = key then value? else none := by
  cases value? with
  | none => simp [optional, get?]
  | some value =>
    by_cases same : wanted = key
    · simp [optional, get?, same]
    · simp [optional, get?, List.lookup_cons, beq_false_of_ne same, same]

theorem get?_append (front back : Members) (key : String) :
    get? (front ++ back) key = (front.get? key).or (back.get? key) := List.lookup_append

end Members

/-- A value that is written unless it is absent, and never as null, is read as it was. -/
theorem Json.optional?_written (read? : Json → Option α) {members : Members} {name : String} {write : α → Json}
    {value? : Option α} (found : members.get? name = value?.map write)
    (read : ∀ value ∈ value?, write value ≠ .null ∧ read? (write value) = some value) :
    optional? members name read? = some value? := by
  rw [optional?, found]
  cases value? with
  | none => rfl
  | some value =>
    obtain ⟨notNull, accepted⟩ := read value rfl
    rw [Option.map_some]
    split
    · rename_i null
      exact absurd (Option.some.inj null) notNull
    · rename_i written _ same
      obtain rfl := Option.some.inj same
      rw [accepted, Option.map_some]
    · rename_i absent
      cases absent

namespace Response

/-- What a response is written as: four fields, and three more as far as they have values. -/
def members (response : Response) : Members :=
  [("success", .bool response.success), ("query_name", .string response.name),
    ("query_type", .string response.kind), ("execution_time", (Value.double response.executionTime).toJson)]
  ++ .optional "results" (response.results.map Results.toJson)
  ++ .optional "result_count" (response.resultCount.map fun count : Nat => .integer count)
  ++ .optional "error" (response.error.map .string)

theorem toJson_eq (response : Response) : response.toJson = .object response.members := by
  obtain ⟨success, name, kind, executionTime, results, resultCount, error⟩ := response
  cases results <;> cases resultCount <;> cases error <;> rfl

theorem keys_members (response : Response) : response.members.keys.Sublist fieldNames := by
  simp only [members, Members.keys, List.map_append]
  exact (((List.Sublist.refl ["success", "query_name", "query_type", "execution_time"]).append
    (Members.keys_optional "results" _)).append (Members.keys_optional "result_count" _)).append
    (Members.keys_optional "error" _)

theorem get?_members (response : Response) :
    response.members.get? "success" = some (.bool response.success) ∧
    response.members.get? "query_name" = some (.string response.name) ∧
    response.members.get? "query_type" = some (.string response.kind) ∧
    response.members.get? "execution_time" = some (Value.double response.executionTime).toJson ∧
    response.members.get? "results" = response.results.map Results.toJson ∧
    response.members.get? "result_count" = response.resultCount.map (fun count : Nat => .integer count) ∧
    response.members.get? "error" = response.error.map .string := by
  simp only [members, Members.get?_append, Members.get?_optional]
  simp [Members.get?, List.lookup_cons]

theorem ofJson?_toJson {response : Response} (finite : response.executionTime.isFinite = true)
    (proper : response.Proper) : ofJson? response.toJson = some response := by
  have keys := response.keys_members
  have record : response.toJson.record? fieldNames = some response.members := by
    rw [toJson_eq]
    exact Json.record?_object (fun _ listed => keys.subset listed) (keys.nodup (by decide))
  obtain ⟨success, name, kind, time, results, resultCount, error⟩ := response.get?_members
  have timeRead : (Value.double response.executionTime).toJson = .double response.executionTime := if_pos finite
  have resultsRead := Json.optional?_written Results.ofJson? results fun found held =>
    ⟨by cases found <;> nofun, Results.ofJson?_toJson (proper.results found held)⟩
  have countRead := Json.optional?_written Json.asCount? resultCount fun count held =>
    ⟨nofun, Json.asCount?_integer (proper.resultCount count held)⟩
  have errorRead := Json.optional?_written Json.asString? error fun _ _ => ⟨nofun, rfl⟩
  simp [ofJson?, record, Json.field?, success, name, kind, time, timeRead, resultsRead, countRead, errorRead,
    asBool?, Json.asString?, Json.asDouble?]

/-- A response with a finite time is what is read for its encoding, and for every text that is read as its encoding:
rows come back as rows, a subgraph as a subgraph, and what is left out as absent. -/
theorem envelope_round_trips {response : Response} (finite : response.executionTime.isFinite = true)
    (proper : response.Proper) :
    ofJson? response.toJson = some response ∧
      ∀ text, Json.read? text = some response.toJson → ofText? text = some response := by
  have decoded := ofJson?_toJson finite proper
  refine ⟨decoded, fun text read => ?_⟩
  rw [ofText?, read, Option.bind_some, decoded]

/-- A subgraph whose rows look like a subgraph and like a response themselves. -/
def nested : Response where
  success := true
  name := "q\n"
  kind := "find"
  executionTime := Double.ofRatio false 1 8
  results := some (.subgraph {
    nodes := [[], [("nodes", .array []), ("edges", .array [.object [("node_count", .integer 0)], .null])]]
    edges := [[("results", .array [.double (Double.ofRatio false 1 8), .bool false])]]
    startingNodes := ["a"], connectedNodes := [], nodeCount := 2, edgeCount := 0xffff_ffff_ffff_ffff })
  resultCount := none
  error := some ""

theorem envelope_round_trips_nested :
    nested.executionTime.isFinite = true ∧ nested.Proper ∧ ofJson? nested.toJson = some nested ∧
      ofText? nested.toJson.compact = some nested := by
  have finite : (Double.ofRatio false 1 8).isFinite = true := by decide +kernel
  have proper : nested.Proper := by
    refine ⟨?_, by simp [nested]⟩
    rintro _ ⟨⟩
    constructor <;>
      simp [Results.RowsProper, Json.Distinct, Json.ItemsDistinct, Json.MembersDistinct, Members.keys]
  have same : Json.readDouble (Double.ofRatio false 1 8) = .double (Double.ofRatio false 1 8) := by
    have survives : (Double.ofRatio false 1 8).Survives := by decide +kernel
    rw [Json.readDouble, survives.reread_eq finite, if_pos finite]
  have written : nested.toJson = .object nested.members := nested.toJson_eq
  have read : Json.read? nested.toJson.compact = some nested.toJson := by
    rw [written]
    simp only [members, nested, Members.optional, Option.map_some, Option.map_none, Option.toList_some,
      Option.toList_none, Results.toJson, Subgraph.toJson, Value.toJson, finite, if_true]
    rw [Json.read?_compact]
    · simp [Json.readBack, Json.mapDouble, Json.mapDoubleItems, Json.mapDoubleMembers, same]
    · simp [Json.Fits, Json.ItemsFit, Json.MembersFit, Json.maxNesting]
  obtain ⟨tree, texts⟩ := envelope_round_trips finite proper
  exact ⟨finite, proper, tree, texts _ read⟩

end Response

end EntityGraph
