import EntityGraph.Proofs.ClauseLanguage
import EntityGraph.Query.Engine

/-!
Running queries and answering them, with any reader of documents. A text holds a query exactly if a name stands over a
kind over a mapping in front of its document. The answer to a text carries the outcome of its run: the results, or the
words for what is wrong with the text, with a clause, or with the ends of a path. It is given under the name and the
kind in front of the document as far as there are any.
-/
namespace EntityGraph

theorem QueryKind.ofText?_eq_some_iff {text : String} {kind : QueryKind} :
    QueryKind.ofText? text = some kind ↔ text = kind.name := by
  constructor
  · intro known
    unfold ofText? at known
    split at known <;> cases known <;> rfl
  · rintro rfl
    cases kind <;> rfl

namespace Query

/-- A query stands in front of a document: its name, under that its kind, and under that its definition. -/
def Opens (query : Query) (document : Json) : Prop :=
  ∃ inner outer, document =
    .object ((query.name, .object ((query.kind.name, .object query.definition) :: inner)) :: outer)

/-- What a reader makes of a text does not have the form of a query, with the words for what is wrong. -/
inductive Malformed : Except String Json → String → Prop where
  | unreadable {fault : String} : Malformed (.error fault) fault
  | noMapping {document : Json} (scalar : ∀ members, document ≠ .object members) :
    Malformed (.ok document) "query must be a mapping"
  | empty : Malformed (.ok (.object [])) "query is empty"
  | noKinds {name : String} {value : Json} {outer : Members} (scalar : ∀ members, value ≠ .object members) :
    Malformed (.ok (.object ((name, value) :: outer)))
      ("query '" ++ name ++ "' must map a query type to its definition")
  | noKind {name : String} {outer : Members} :
    Malformed (.ok (.object ((name, .object []) :: outer))) ("query '" ++ name ++ "' has no query type")
  | noDefinition {name : String} {kind : QueryKind} {value : Json} {inner outer : Members}
    (scalar : ∀ members, value ≠ .object members) :
    Malformed (.ok (.object ((name, .object ((kind.name, value) :: inner)) :: outer)))
      ("definition of '" ++ name ++ "' (" ++ kind.name ++ ") must be a mapping")

/-- What a reader makes of a text holds no query: the name and the kind that this is answered under, and the words.
Only of a kind that there is not are both known. -/
inductive Misread : Except String Json → String → String → String → Prop where
  | malformed {found : Except String Json} {fault : String} (malformed : Malformed found fault) :
    Misread found "unknown" "unknown" ("invalid query format: " ++ fault)
  | noSuchKind {name kind : String} {value : Json} {inner outer : Members}
    (unknown : ∀ known : QueryKind, kind ≠ known.name) :
    Misread (.ok (.object ((name, .object ((kind, value) :: inner)) :: outer))) name kind
      ("unsupported query type '" ++ kind ++ "' in query '" ++ name ++ "'")

open QueryEngine (heading)

variable {document : Json} {query : Query} {cause : QueryError} {reader : DocumentReader} {text : String}

theorem opens_of_ofDocument (read : ofDocument document = .ok query) : query.Opens document := by
  unfold ofDocument at read
  split at read
  · cases read
  · split at read
    · cases read
    · rename_i kind definition known
      cases read
      obtain rfl := QueryKind.ofText?_eq_some_iff.mp known
      exact ⟨_, _, rfl⟩
    · cases read
  all_goals cases read

theorem misread_of_ofDocument (failed : ofDocument document = .error cause) :
    Misread (.ok document) (heading (.error cause)).1 (heading (.error cause)).2 cause.message := by
  unfold ofDocument at failed
  split at failed
  · cases failed
    exact .malformed .empty
  · split at failed
    · rename_i unknown
      cases failed
      refine .noSuchKind fun known same => ?_
      rw [QueryKind.ofText?_eq_some_iff.mpr same] at unknown
      cases unknown
    · cases failed
    · rename_i known scalar
      cases failed
      obtain rfl := QueryKind.ofText?_eq_some_iff.mp known
      exact .malformed (.noDefinition scalar)
  · cases failed
    exact .malformed .noKind
  · rename_i full empty
    cases failed
    refine .malformed (.noKinds fun members same => ?_)
    cases members with
    | nil => exact empty same
    | cons => exact full _ _ _ same
  · rename_i empty _ _ full
    cases failed
    refine .malformed (.noMapping fun members same => ?_)
    cases members with
    | nil => exact empty same
    | cons => exact full _ _ _ same

theorem opens_of_readWith (read : readWith reader text = .ok query) :
    ∃ document, reader text = .ok document ∧ query.Opens document := by
  unfold readWith at read
  split at read
  · rename_i document found
    exact ⟨document, found, opens_of_ofDocument read⟩
  · cases read

theorem misread_of_readWith (failed : readWith reader text = .error cause) :
    Misread (reader text) (heading (.error cause)).1 (heading (.error cause)).2 cause.message := by
  unfold readWith at failed
  split at failed
  · rename_i document found
    rw [found]
    exact misread_of_ofDocument failed
  · rename_i fault found
    cases failed
    rw [found]
    exact .malformed .unreadable

end Query

/-- The words for a fault in the clauses of a query. -/
inductive QueryError.Tells : QueryError → String → Prop where
  | noNodes : Tells .noNodes "find query must specify a 'nodes' target"
  | noEndpoints : Tells .noEndpoints "'from' and 'to' nodes must be specified for path finding"
  | notACount {clause : String} {v : Json} :
    Tells (.notACount clause v) ("'" ++ clause ++ "' must be a non-negative integer, got " ++ v.compact)
  | clauseNotAMapping {clause : String} {v : Json} :
    Tells (.clauseNotAMapping clause v) ("'" ++ clause ++ "' must be a mapping, got " ++ v.compact)

theorem QueryError.tells_of_clauseFault? {cause : QueryError} {fault : String}
    (named : cause.clauseFault? = some fault) : cause.Tells fault := by
  cases cause <;> cases named <;> constructor

theorem Store.shortestPaths_fails {store : Store} {source target : String} {maxHops : Nat} {cause : StoreError}
    (failed : store.shortestPaths source target maxHops = .error cause) :
    ∃ missing, cause = .entitiesNotFound missing := by
  unfold shortestPaths at failed
  split at failed
  · dsimp only at failed
    split at failed <;> cases failed
  · cases failed
    exact ⟨_, rfl⟩

theorem QueryPlan.path_of_execute {plan : QueryPlan} {context : QueryContext} {cause : QueryError}
    (failed : plan.execute context = .error cause) :
    ∃ path missing, plan = .path path ∧ cause = .store (.entitiesNotFound missing) ∧
      context.store.shortestPaths path.source path.target path.maxHops = .error (.entitiesNotFound missing) := by
  cases plan with
  | nodes plan => cases failed
  | path path =>
    replace failed : (path.execute context).mapError QueryError.store = .error cause := failed
    unfold PathPlan.execute at failed
    cases searched : context.store.shortestPaths path.source path.target path.maxHops with
    | ok paths =>
      rw [searched] at failed
      cases failed
    | error fault =>
      obtain ⟨missing, rfl⟩ := Store.shortestPaths_fails searched
      rw [searched] at failed
      cases failed
      exact ⟨path, missing, rfl, rfl, searched⟩

namespace QueryEngine

/-- Why a text has no results, by what a reader makes of it: there is no query in it, a clause of the query is at
fault, or the path that the query asks for has ends that are no entities. With the name and the kind that this is
answered under, and the words. -/
inductive Refuses (engine : QueryEngine) : Except String Json → String → String → String → Prop where
  | misread {found : Except String Json} {name kind words : String} (misread : Query.Misread found name kind words) :
    Refuses engine found name kind words
  | clauses {document : Json} {query : Query} {cause : QueryError} {fault : String} (opens : query.Opens document)
    (faulty : query.Fault cause) (tells : cause.Tells fault) :
    Refuses engine (.ok document) query.name query.kind.name ("invalid query: " ++ fault)
  | ends {document : Json} {query : Query} {path : PathPlan} {missing : List String} (opens : query.Opens document)
    (asks : query.Asks engine.config (.path path))
    (absent : engine.context.store.shortestPaths path.source path.target path.maxHops =
      .error (.entitiesNotFound missing)) :
    Refuses engine (.ok document) query.name query.kind.name ("entities not found: " ++ Quoted.list missing)

variable {engine : QueryEngine} {query : Query} {cause : QueryError} {results : Results} {document : Json}
  {reader : DocumentReader} {text : String}

theorem asks_of_runQuery (ran : engine.runQuery query = .ok results) :
    ∃ plan, query.Asks engine.config plan ∧ plan.execute engine.context = .ok results := by
  unfold runQuery at ran
  cases planned : QueryPlan.ofQuery query engine.config with
  | error fault =>
    rw [planned] at ran
    cases ran
  | ok plan =>
    rw [planned] at ran
    exact ⟨plan, (QueryPlan.ofQuery_settles query engine.config).succeeded plan planned, ran⟩

theorem refuses_of_runQuery (opens : query.Opens document) (failed : engine.runQuery query = .error cause) :
    engine.Refuses (.ok document) query.name query.kind.name cause.message := by
  have settled := QueryPlan.ofQuery_settles query engine.config
  unfold runQuery at failed
  cases planned : QueryPlan.ofQuery query engine.config with
  | error fault =>
    rw [planned] at failed
    cases failed
    have faulty := settled.failed cause planned
    obtain ⟨fault, named⟩ := Option.isSome_iff_exists.mp faulty.clauseFault?_isSome
    rw [QueryError.message_of_clauseFault? named]
    exact .clauses opens faulty (QueryError.tells_of_clauseFault? named)
  | ok plan =>
    rw [planned] at failed
    obtain ⟨path, missing, rfl, rfl, absent⟩ := QueryPlan.path_of_execute failed
    exact .ends opens (settled.succeeded _ planned) absent

theorem reads_of_runWith (ran : engine.runWith reader text = .ok results) :
    ∃ query, Query.readWith reader text = .ok query ∧ engine.runQuery query = .ok results := by
  unfold runWith at ran
  cases read : Query.readWith reader text with
  | ok query =>
    rw [read] at ran
    exact ⟨query, rfl, ran⟩
  | error early =>
    rw [read] at ran
    cases ran

theorem refuses_of_runWith (failed : engine.runWith reader text = .error cause) :
    engine.Refuses (reader text) (heading (Query.readWith reader text)).1 (heading (Query.readWith reader text)).2
      cause.message := by
  unfold runWith at failed
  cases read : Query.readWith reader text with
  | ok query =>
    rw [read] at failed
    obtain ⟨document, found, opens⟩ := Query.opens_of_readWith read
    rw [found]
    exact refuses_of_runQuery opens failed
  | error early =>
    rw [read] at failed
    cases failed
    exact .misread (Query.misread_of_readWith read)

/-- The answer to a text is the outcome of its run in an envelope. -/
theorem executeWith_eq (reader : DocumentReader) (engine : QueryEngine) (time : Double) (text : String) :
    engine.executeWith reader time text =
      match engine.runWith reader text with
      | .ok results => .of engine.config.timePrecision true (heading (Query.readWith reader text)).1
        (heading (Query.readWith reader text)).2 (some results) time none
      | .error cause => .of engine.config.timePrecision false (heading (Query.readWith reader text)).1
        (heading (Query.readWith reader text)).2 none time (some cause.message) := rfl

/-- Whatever reads the documents, answering agrees with running on every text. The answer is a success exactly if the
run gives results. It then carries these and their number, under the name and the kind in front of the document, and
they are what the plan for that query gives. Otherwise it carries the words for what the run failed by, and the name and
the kind as far as the document has them. -/
theorem execute_answers_run (reader : DocumentReader) (engine : QueryEngine) (time : Double) (text : String) :
    let response := engine.executeWith reader time text
    (response.success = true ↔ ∃ results, engine.runWith reader text = .ok results) ∧
    (∀ results, engine.runWith reader text = .ok results →
      response.results = some results ∧ response.error = none ∧
      response.resultCount = some (match results with | .rows rows => rows.length | .subgraph _ => 1) ∧
      ∃ document query plan, reader text = .ok document ∧ Query.Opens query document ∧
        response.name = query.name ∧ response.kind = query.kind.name ∧
        query.Asks engine.config plan ∧ plan.execute engine.context = .ok results) ∧
    ∀ cause, engine.runWith reader text = .error cause →
      response.results = none ∧ response.resultCount = none ∧ response.error = some cause.message ∧
      engine.Refuses (reader text) response.name response.kind cause.message := by
  intro response
  have envelope : response = _ := executeWith_eq reader engine time text
  cases outcome : engine.runWith reader text with
  | ok results =>
    rw [outcome] at envelope
    rw [envelope]
    refine ⟨⟨fun _ => ⟨results, rfl⟩, fun _ => rfl⟩, ?_, nofun⟩
    rintro _ ⟨⟩
    obtain ⟨query, read, ran⟩ := reads_of_runWith outcome
    obtain ⟨document, found, opens⟩ := Query.opens_of_readWith read
    obtain ⟨plan, asks, executed⟩ := asks_of_runQuery ran
    rw [read]
    refine ⟨rfl, rfl, ?_, document, query, plan, found, opens, rfl, rfl, asks, executed⟩
    cases results <;> rfl
  | error cause =>
    rw [outcome] at envelope
    rw [envelope]
    refine ⟨⟨nofun, nofun⟩, nofun, ?_⟩
    rintro _ ⟨⟩
    exact ⟨rfl, rfl, rfl, refuses_of_runWith outcome⟩

/-- An engine on a store with one person. -/
def aboutAnn : QueryEngine where
  context := ⟨((Store.empty {}).upsert ⟨0, 0⟩ "Ann" "Person" .empty none).2, none⟩
  config := {}

/-- A query in YAML that finds the person, and one that leaves out where to look. -/
theorem execute_answers_run_ann :
    let people := "people:\n  find:\n    nodes:\n      type: Person\n"
    let broken := "broken:\n  find:\n    type: Person\n"
    (∃ results, aboutAnn.run people = .ok results ∧ (aboutAnn.execute 0 people).success = true ∧
      (aboutAnn.execute 0 people).results = some results ∧ (aboutAnn.execute 0 people).resultCount = some 1 ∧
      (aboutAnn.execute 0 people).name = "people" ∧ (aboutAnn.execute 0 people).kind = "find") ∧
    ∃ cause, aboutAnn.run broken = .error cause ∧ (aboutAnn.execute 0 broken).results = none ∧
      (aboutAnn.execute 0 broken).error = some "invalid query: find query must specify a 'nodes' target" ∧
      aboutAnn.Refuses (Yaml.reader broken) "broken" "find" cause.message := by
  intro people broken
  obtain ⟨succeeds, found, -⟩ := execute_answers_run Yaml.reader aboutAnn 0 people
  obtain ⟨-, -, failed⟩ := execute_answers_run Yaml.reader aboutAnn 0 broken
  constructor
  · have success : (aboutAnn.execute 0 people).success = true := by decide +kernel
    obtain ⟨results, ran⟩ := succeeds.mp success
    obtain ⟨carried, -⟩ := found results ran
    exact ⟨results, ran, success, carried, by decide +kernel, by decide +kernel, by decide +kernel⟩
  · have refused : (aboutAnn.run broken).isOk = false := by decide +kernel
    cases outcome : aboutAnn.run broken with
    | ok results =>
      rw [outcome] at refused
      cases refused
    | error cause =>
      obtain ⟨nothing, -, -, refuses⟩ := failed cause outcome
      have name : (aboutAnn.executeWith Yaml.reader 0 broken).name = "broken" := by decide +kernel
      have kind : (aboutAnn.executeWith Yaml.reader 0 broken).kind = "find" := by decide +kernel
      rw [name, kind] at refuses
      exact ⟨cause, rfl, nothing, by decide +kernel, refuses⟩

end QueryEngine

end EntityGraph
