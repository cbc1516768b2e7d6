import Ois.Kernel.PyValues
import Ois.Library.Histories
import Ois.Library.Machine
import Ois.Library.PyText
import Ois.Sources.Gateway

/-!
# Projections of many tenants

`SQLiteEvidenceGraph` of `domains/social_intelligence/graph.py` as far as the projector uses it,
and `EvidenceGraphProjector` of `graph_ingestion.py`.
-/

namespace Ois.Social

open Ois.Library Ois.Kernel Ois.Sources

structure GraphNode where
  nodeId : String
  kind : String
  tenantId : String
  workspaceId : String
  sourceId : Json
  payload : Json
  contentHash : Json
  observedAt : DateTime
  deriving DecidableEq, Repr

structure GraphEdge where
  edgeId : String
  tenantId : String
  workspaceId : String
  fromId : String
  toId : String
  kind : String
  confidence : Rat
  provenanceIds : List String := []
  createdAt : DateTime
  deriving DecidableEq, Repr

abbrev Scope := String × String

def GraphNode.scope (node : GraphNode) : Scope := (node.tenantId, node.workspaceId)

def GraphEdge.scope (edge : GraphEdge) : Scope := (edge.tenantId, edge.workspaceId)

/-- The tables, filed under their primary keys. -/
structure EvidenceGraph where
  nodes : Dict String GraphNode := []
  edges : Dict String GraphEdge := []
  deriving DecidableEq, Repr

namespace EvidenceGraph

def free (scope : Scope) (nodeId : String) (graph : EvidenceGraph) : Bool :=
  (graph.nodes.lookup nodeId).all fun existing => existing.scope == scope

def nodeCollision : PyError :=
  ⟨.permissionError, "cross-tenant/workspace node collision"⟩

def unbindable : PyError :=
  ⟨.other "ProgrammingError", "Error binding parameter: type is not supported"⟩

/-- What sqlite takes as a parameter. -/
def binds : Json → Bool
  | .arr _ => false
  | .obj _ => false
  | _ => true

def merged (node : GraphNode) (graph : EvidenceGraph) : GraphNode :=
  match graph.nodes.lookup node.nodeId with
  | none => { node with payload := Json.sortKeys node.payload }
  | some existing =>
    { existing with
      payload := Json.sortKeys node.payload, contentHash := node.contentHash
      observedAt := node.observedAt, sourceId := node.sourceId }

def entered (node : GraphNode) (graph : EvidenceGraph) : EvidenceGraph :=
  { graph with nodes := graph.nodes.set node.nodeId (merged node graph) }

/-- `upsert_node(node)`: the graph, and whether the node is new. -/
def upsertNode (node : GraphNode) (graph : EvidenceGraph) :
    Except PyError (EvidenceGraph × Bool) :=
  if graph.free node.scope node.nodeId then
    if binds node.sourceId && binds node.contentHash then
      .ok (entered node graph, (graph.nodes.lookup node.nodeId).isNone)
    else .error unbindable
  else .error nodeCollision

def drawn (edge : GraphEdge) (graph : EvidenceGraph) : EvidenceGraph :=
  { graph with edges := graph.edges.setdefault edge.edgeId edge }

/-- `add_edge(edge)`: an edge that is there already is left as it is. -/
def addEdge (edge : GraphEdge) (graph : EvidenceGraph) :
    Except PyError (EvidenceGraph × Bool) :=
  if ¬(0 ≤ edge.confidence ∧ edge.confidence ≤ 1) then
    .error ⟨.valueError, "edge confidence must be between 0 and 1"⟩
  else
    match graph.nodes.lookup edge.fromId, graph.nodes.lookup edge.toId with
    | some left, some right =>
      if left.scope ≠ edge.scope ∨ right.scope ≠ edge.scope then
        .error ⟨.permissionError, "cross-scope graph edge"⟩
      else .ok (drawn edge graph, (graph.edges.lookup edge.edgeId).isNone)
    | _, _ => .error ⟨.other "KeyError", "both graph edge endpoints must exist"⟩

end EvidenceGraph

/-- What the projector is given from outside this repository. -/
structure Projecting where
  sha256 : String → String
  sha256_length : ∀ text, (sha256 text).toList.length = 64
  sha256Document : Json.Text → String
  casefold : String → String
  reprFloat : UInt64 → String
  fromisoformat : String → Option DateTime

/-- An event to project. `read` is what the evidence reader returns for it, if the projector has
one, and `clock` are the readings of the clock. -/
structure ProjectCall where
  event : OutboxEvent
  read : Option (Option RawEvidence)
  clock : Nat → DateTime

namespace Projector

open EvidenceGraph

variable (proj : Projecting)

def canonicalHash (body : Json) : String :=
  proj.sha256Document (Json.dumpsSorted body)

/-- `deterministic_entity_id("topic", topic)`. -/
def topicEntityId (topic : String) : String :=
  let value := "topic" ++ ":" ++ proj.casefold (PyText.strip topic)
  "entity:" ++ String.ofList ((proj.sha256 value).toList.take 32)

/-- `_load_evidence(event)`. -/
def loadEvidence (call : ProjectCall) : Except PyError (Option RawEvidence) :=
  match call.read with
  | none => .ok none
  | some none => .error ⟨.other "KeyError", "raw evidence not found for outbox event " ++
      call.event.eventId ++ ": " ++ call.event.aggregateId⟩
  | some (some evidence) =>
    if (evidence.tenantId, evidence.workspaceId) ≠
        (call.event.tenantId, call.event.workspaceId) then
      .error ⟨.permissionError, "evidence/outbox scope mismatch"⟩
    else .ok (some evidence)

/-- `_parse_time(value)`. -/
def parseTime (now : DateTime) (value : Option Json) : DateTime :=
  match value with
  | some (.str text) => (proj.fromisoformat text).getD now
  | _ => now

/-- `event.payload.get("payload_hash") or canonical_hash(payload)`. -/
def inlineHash (event : OutboxEvent) (body : Json) : Json :=
  match event.payload.lookup "payload_hash" with
  | some hash => if truthy hash then hash else .str (canonicalHash proj body)
  | none => .str (canonicalHash proj body)

def evidenceNode (call : ProjectCall) (raw : Option RawEvidence) : GraphNode :=
  let event := call.event
  let node : GraphNode := {
    nodeId := event.aggregateId, kind := "evidence", tenantId := event.tenantId
    workspaceId := event.workspaceId, sourceId := .null, payload := .null
    contentHash := .null, observedAt := call.clock 0 }
  match raw with
  | some evidence =>
    { node with
      sourceId := .str evidence.sourceId, payload := evidence.payload
      contentHash := .str evidence.payloadHash, observedAt := evidence.collectedAt }
  | none =>
    let body := (event.payload.lookup "payload").getD (.obj [])
    { node with
      sourceId := (event.payload.lookup "source_id").getD .null, payload := body
      contentHash := inlineHash proj event body
      observedAt := parseTime proj (call.clock 0) (event.payload.lookup "collected_at") }

/-- `value.strip()`, unless nothing is left. -/
def stripped? (text : String) : Option String :=
  if PyText.strip text = "" then none else some (PyText.strip text)

def namedText (members : Members) (key : String) : Option String :=
  match members.lookup key with
  | some (.str text) => stripped? text
  | _ => none

def videoTopics : Json → List String
  | .obj video => ["title", "video_description"].filterMap (namedText video)
  | _ => []

/-- `_topics(payload)`. -/
def topics (body : Json) : Except PyError (List String) :=
  match body with
  | .obj members =>
    let texts := ["title", "video_description", "text"].filterMap (namedText members)
    let listed := match members.lookup "topics" with
      | some (.arr items) =>
        items.filterMap fun item => stripped? (strOf proj.reprFloat item)
      | _ => []
    let videos := match members.lookup "videos" with
      | some (.arr items) => items.flatMap videoTopics
      | _ => []
    .ok ((texts ++ listed ++ videos).dedup.insertionSort (· ≤ ·))
  | other => .error ⟨.attributeError, "'" ++ typeName other ++ "' object has no attribute 'get'"⟩

def topicNode (event : OutboxEvent) (now : DateTime) (topic : String) : GraphNode :=
  let body : Json := .obj [("entity_type", .str "topic"), ("canonical_name", .str topic),
    ("attributes", .obj [])]
  { nodeId := topicEntityId proj topic, kind := "entity", tenantId := event.tenantId
    workspaceId := event.workspaceId, sourceId := .null, payload := body
    contentHash := .str (canonicalHash proj body), observedAt := now }

def mentionsId (evidenceId entityId : String) : String :=
  "mentions:" ++ evidenceId ++ ":" ++ entityId

def mentionsEdge (event : OutboxEvent) (now : DateTime) (topic : String) : GraphEdge :=
  let entityId := topicEntityId proj topic
  { edgeId := mentionsId event.aggregateId entityId, tenantId := event.tenantId
    workspaceId := event.workspaceId, fromId := event.aggregateId, toId := entityId
    kind := "mentions", confidence := 3 / 4, provenanceIds := [event.aggregateId]
    createdAt := now }

/-- The loop over the topics; what was written before an error stays. `reading` is the next
reading of the clock. -/
def mentionTopics (call : ProjectCall) :
    List String → Nat → EvidenceGraph → List String → EvidenceGraph × Except PyError (List String)
  | [], _, graph, created => (graph, .ok created)
  | topic :: rest, reading, graph, created =>
    match upsertNode (topicNode proj call.event (call.clock reading) topic) graph with
    | .error err => (graph, .error err)
    | .ok (named, _) =>
      let edge := mentionsEdge proj call.event (call.clock (reading + 1)) topic
      match addEdge edge named with
      | .error err => (named, .error err)
      | .ok (linked, new) =>
        mentionTopics call rest (reading + 2) linked
          (if new then created ++ [edge.edgeId] else created)

/-- `project(event)`. -/
def project : Machine ProjectCall EvidenceGraph (Except PyError (List String)) :=
  fun call graph =>
    if call.event.eventType ≠ "source.raw_evidence.created" then (graph, .ok [])
    else
      match loadEvidence call with
      | .error err => (graph, .error err)
      | .ok raw =>
        let node := evidenceNode proj call raw
        match upsertNode node graph with
        | .error err => (graph, .error err)
        | .ok (named, _) =>
          match topics proj node.payload with
          | .error err => (named, .error err)
          | .ok found => mentionTopics proj call found 1 named [node.nodeId]

end Projector

open Dict Machine

namespace EvidenceGraph

def Owned (scope : Scope) (nodeId : String) (graph : EvidenceGraph) : Prop :=
  ∃ node, graph.nodes.lookup nodeId = some node ∧ node.scope = scope

variable {scope : Scope}

theorem Owned.free {nodeId : String} {graph : EvidenceGraph}
    (owned : Owned scope nodeId graph) : graph.free scope nodeId = true := by
  obtain ⟨node, found, same⟩ := owned
  simp [EvidenceGraph.free, found, same]

theorem Owned.unique {scope other : Scope} {nodeId : String} {graph : EvidenceGraph}
    (owned : Owned scope nodeId graph) (also : Owned other nodeId graph) : other = scope := by
  obtain ⟨node, found, same⟩ := owned
  obtain ⟨second, alsoFound, alsoSame⟩ := also
  rw [found, Option.some.injEq] at alsoFound
  rw [← same, ← alsoSame, alsoFound]

structure Grows (scope : Scope) (before after : EvidenceGraph) : Prop where
  kept : ∀ nodeId owner, Owned owner nodeId before → Owned owner nodeId after
  fresh : ∀ nodeId owner, Owned owner nodeId after → Owned owner nodeId before ∨ owner = scope
  edges : ∀ edgeId edge, before.edges.lookup edgeId = some edge →
    after.edges.lookup edgeId = some edge

theorem Grows.refl (scope : Scope) (graph : EvidenceGraph) : Grows scope graph graph :=
  ⟨fun _ _ owned => owned, fun _ _ owned => .inl owned, fun _ _ found => found⟩

theorem Grows.trans {first second third : EvidenceGraph}
    (left : Grows scope first second) (right : Grows scope second third) :
    Grows scope first third where
  kept := fun nodeId owner owned => right.kept nodeId owner (left.kept nodeId owner owned)
  fresh := by
    intro nodeId owner owned
    cases right.fresh nodeId owner owned with
    | inl past => exact left.fresh nodeId owner past
    | inr own => exact .inr own
  edges := fun edgeId edge found => right.edges edgeId edge (left.edges edgeId edge found)

theorem free_iff {nodeId : String} {graph : EvidenceGraph} :
    graph.free scope nodeId = true ↔ ∀ owner, Owned owner nodeId graph → owner = scope := by
  unfold free Owned
  cases graph.nodes.lookup nodeId with
  | none => simp
  | some node =>
    rw [Option.all_some, beq_iff_eq]
    constructor
    · intro same owner owned
      obtain ⟨held, found, own⟩ := owned
      rw [← own, ← Option.some.inj found, same]
    · intro all
      exact all node.scope ⟨node, rfl, rfl⟩

theorem Grows.free {before after : EvidenceGraph}
    (grows : Grows scope before after) (nodeId : String) :
    after.free scope nodeId = true ↔ before.free scope nodeId = true := by
  rw [free_iff, free_iff]
  constructor
  · intro later owner owned
    exact later owner (grows.kept nodeId owner owned)
  · intro past owner owned
    cases grows.fresh nodeId owner owned with
    | inl held => exact past owner held
    | inr own => exact own

section upsert

variable {node : GraphNode} {graph : EvidenceGraph}

theorem merged_scope (free : graph.free node.scope node.nodeId = true) :
    (merged node graph).scope = node.scope := by
  unfold merged
  cases found : graph.nodes.lookup node.nodeId with
  | none => rfl
  | some existing =>
    have same : existing.scope = node.scope := by
      simpa [EvidenceGraph.free, found] using free
    exact same

theorem owned_entered (node : GraphNode) (graph : EvidenceGraph)
    (free : graph.free node.scope node.nodeId = true) :
    Owned node.scope node.nodeId (entered node graph) :=
  ⟨merged node graph, lookup_set_same _ _ _, merged_scope free⟩

theorem grows_entered (node : GraphNode) (graph : EvidenceGraph)
    (free : graph.free node.scope node.nodeId = true) :
    Grows node.scope graph (entered node graph) where
  kept := by
    intro nodeId owner owned
    by_cases same : nodeId = node.nodeId
    · subst same
      rw [free_iff.mp free owner owned]
      exact owned_entered _ _ free
    · obtain ⟨held, found, own⟩ := owned
      refine ⟨held, ?_, own⟩
      change (graph.nodes.set node.nodeId (merged node graph)).lookup nodeId = some held
      rw [lookup_set, if_neg same, found]
  fresh := by
    intro nodeId owner owned
    obtain ⟨held, found, own⟩ := owned
    change (graph.nodes.set node.nodeId (merged node graph)).lookup nodeId = some held at found
    rw [lookup_set] at found
    split_ifs at found with same
    · right
      rw [← own, ← Option.some.inj found, merged_scope free]
    · exact .inl ⟨held, found, own⟩
  edges := fun _ _ found => found

theorem grows_drawn (scope : Scope) (edge : GraphEdge) : Grows scope graph (drawn edge graph) where
  kept := fun _ _ owned => owned
  fresh := fun _ _ owned => .inl owned
  edges := by
    intro edgeId held found
    change (graph.edges.setdefault edge.edgeId edge).lookup edgeId = some held
    rw [lookup_setdefault, found]
    rfl

theorem upsert_node_ok (free : graph.free node.scope node.nodeId = true)
    (source : binds node.sourceId = true) (hash : binds node.contentHash = true) :
    upsertNode node graph = .ok (entered node graph, (graph.nodes.lookup node.nodeId).isNone) := by
  unfold upsertNode
  rw [if_pos free, if_pos (by rw [source, hash]; rfl)]

theorem of_upsert_node_ok {res : EvidenceGraph × Bool}
    (done : upsertNode node graph = .ok res) :
    graph.free node.scope node.nodeId = true ∧ binds node.sourceId = true ∧
      binds node.contentHash = true ∧ res.1 = entered node graph := by
  unfold upsertNode at done
  split_ifs at done with free bound
  rw [Bool.and_eq_true] at bound
  exact ⟨free, bound.1, bound.2, by rw [← Except.ok.inj done]⟩

theorem add_edge_ok {edge : GraphEdge} (sure : edge.confidence = 3 / 4)
    (left : Owned edge.scope edge.fromId graph) (right : Owned edge.scope edge.toId graph) :
    addEdge edge graph = .ok (drawn edge graph, (graph.edges.lookup edge.edgeId).isNone) := by
  obtain ⟨source, foundSource, ownSource⟩ := left
  obtain ⟨target, foundTarget, ownTarget⟩ := right
  unfold addEdge
  rw [if_neg (by rw [sure]; decide +kernel)]
  simp only [foundSource, foundTarget]
  rw [if_neg (by simp [ownSource, ownTarget])]

end upsert

end EvidenceGraph

namespace Projector

open EvidenceGraph

variable (proj : Projecting)

def eventScope (call : ProjectCall) : Scope := (call.event.tenantId, call.event.workspaceId)

def mentioned (call : ProjectCall) (reading : Nat) (topic : String) (graph : EvidenceGraph) :
    EvidenceGraph :=
  drawn (mentionsEdge proj call.event (call.clock (reading + 1)) topic)
    (entered (topicNode proj call.event (call.clock reading) topic) graph)

section mentions

variable {proj} {call : ProjectCall} {graph : EvidenceGraph}

variable {topic : String}

theorem mention_cons (rest : List String) (reading : Nat) (created : List String)
    (evidence : Owned (eventScope call) call.event.aggregateId graph)
    (free : graph.free (eventScope call) (topicEntityId proj topic) = true) :
    ∃ more, mentionTopics proj call (topic :: rest) reading graph created =
      mentionTopics proj call rest (reading + 2)
        (mentioned proj call reading topic graph) more := by
  let node := topicNode proj call.event (call.clock reading) topic
  let edge := mentionsEdge proj call.event (call.clock (reading + 1)) topic
  have vacant : graph.free node.scope node.nodeId = true := free
  have upserted := upsert_node_ok vacant rfl rfl
  have grown := grows_entered _ _ vacant
  have added : addEdge edge (entered node graph) = .ok (drawn edge (entered node graph),
        ((entered node graph).edges.lookup edge.edgeId).isNone) :=
    add_edge_ok rfl (grown.kept _ _ evidence) (owned_entered _ _ vacant)
  refine ⟨if ((entered node graph).edges.lookup edge.edgeId).isNone then
    created ++ [edge.edgeId] else created, ?_⟩
  rw [mentionTopics]
  simp only [node, edge] at upserted added
  rw [upserted]
  simp only [added]
  rfl

theorem mention_refused {rest : List String} {reading : Nat} {created : List String}
    (taken : graph.free (eventScope call) (topicEntityId proj topic) ≠ true) :
    mentionTopics proj call (topic :: rest) reading graph created =
      (graph, .error nodeCollision) := by
  have refused : upsertNode (topicNode proj call.event (call.clock reading) topic) graph =
      .error nodeCollision := by
    unfold upsertNode
    exact if_neg taken
  rw [mentionTopics, refused]

theorem grows_mentioned (reading : Nat)
    (free : graph.free (eventScope call) (topicEntityId proj topic) = true) :
    Grows (eventScope call) graph (mentioned proj call reading topic graph) := by
  have entering := grows_entered (topicNode proj call.event (call.clock reading) topic) graph
          free
  exact entering.trans (grows_drawn _ _)

theorem grows_mention_topics (proj : Projecting) (found : List String) (reading : Nat)
    (created : List String)
    (evidence : Owned (eventScope call) call.event.aggregateId graph) :
    Grows (eventScope call) graph
      (mentionTopics proj call found reading graph created).1 := by
  induction found generalizing reading graph created with
  | nil => exact Grows.refl _ _
  | cons topic rest ih =>
    by_cases free : graph.free (eventScope call) (topicEntityId proj topic) = true
    · obtain ⟨more, next⟩ := mention_cons rest reading created evidence free
      have grown := grows_mentioned reading free
      rw [next]
      exact grown.trans (ih (reading + 2) more (grown.kept _ _ evidence))
    · rw [mention_refused free]
      exact Grows.refl _ _

theorem mention_topics_ok_iff (found : List String) (reading : Nat) (created : List String)
    (evidence : Owned (eventScope call) call.event.aggregateId graph) :
    (∃ done, (mentionTopics proj call found reading graph created).2 = .ok done) ↔
      ∀ topic ∈ found, graph.free (eventScope call) (topicEntityId proj topic) = true := by
  induction found generalizing reading graph created with
  | nil => simp [mentionTopics]
  | cons topic rest ih =>
    by_cases free : graph.free (eventScope call) (topicEntityId proj topic) = true
    · obtain ⟨more, next⟩ := mention_cons rest reading created evidence free
      have grown := grows_mentioned reading free
      rw [next, ih (reading + 2) more (grown.kept _ _ evidence), List.forall_mem_cons]
      simp only [grown.free, free, true_and]
    · rw [mention_refused free]
      constructor
      · intro ret
        obtain ⟨done, same⟩ := ret
        cases same
      · intro all
        exact absurd (all topic List.mem_cons_self) free

end mentions

def EvidenceExists (call : ProjectCall) : Prop :=
  call.event.eventType = "source.raw_evidence.created" ∧ ∃ raw, loadEvidence call = .ok raw

structure Accepted (call : ProjectCall) (raw : Option RawEvidence) (graph : EvidenceGraph) :
    Prop where
  source : binds (evidenceNode proj call raw).sourceId = true
  hash : binds (evidenceNode proj call raw).contentHash = true
  evidence : graph.free (eventScope call) call.event.aggregateId = true
  topics : ∃ found, topics proj (evidenceNode proj call raw).payload = .ok found ∧
    ∀ topic ∈ found, graph.free (eventScope call) (topicEntityId proj topic) = true

def Unobstructed (call : ProjectCall) (graph : EvidenceGraph) : Prop :=
  call.event.eventType = "source.raw_evidence.created" →
    ∀ raw, loadEvidence call = .ok raw → Accepted proj call raw graph

section project

variable {proj} {call : ProjectCall} {graph : EvidenceGraph}

theorem evidence_node_scope (proj : Projecting) (call : ProjectCall)
    (raw : Option RawEvidence) :
    (evidenceNode proj call raw).scope = eventScope call ∧
      (evidenceNode proj call raw).nodeId = call.event.aggregateId := by
  cases raw <;> exact ⟨rfl, rfl⟩

theorem project_idle (idle : ¬EvidenceExists call) :
    (project proj call graph).1 = graph := by
  unfold project
  by_cases created : call.event.eventType = "source.raw_evidence.created"
  · rw [if_neg (by simpa using created)]
    cases loaded : loadEvidence call with
    | error err => rfl
    | ok raw => exact absurd ⟨created, raw, loaded⟩ idle
  · rw [if_pos created]

variable {raw : Option RawEvidence}

theorem project_loaded (created : call.event.eventType = "source.raw_evidence.created")
    (loaded : loadEvidence call = .ok raw) :
    project proj call graph = match upsertNode (evidenceNode proj call raw) graph with
      | .error err => (graph, .error err)
      | .ok (named, _) =>
        match topics proj (evidenceNode proj call raw).payload with
        | .error err => (named, .error err)
        | .ok found => mentionTopics proj call found 1 named
            [(evidenceNode proj call raw).nodeId] := by
  unfold project
  rw [if_neg (by simpa using created)]
  generalize loadEvidence call = read at loaded ⊢
  subst loaded
  rfl

theorem project_accepted {found : List String}
    (created : call.event.eventType = "source.raw_evidence.created")
    (loaded : loadEvidence call = .ok raw) (accepted : Accepted proj call raw graph)
    (listed : topics proj (evidenceNode proj call raw).payload = .ok found) :
    project proj call graph = mentionTopics proj call found 1
      (entered (evidenceNode proj call raw) graph) [call.event.aggregateId] := by
  have named := evidence_node_scope proj call raw
  have own : graph.free (evidenceNode proj call raw).scope
      (evidenceNode proj call raw).nodeId = true := by
    rw [named.1, named.2]
    exact accepted.evidence
  have upserted := upsert_node_ok own accepted.source accepted.hash
  rw [project_loaded created loaded, upserted]
  simp only [listed, named.2]

theorem owned_evidence (proj : Projecting) (raw : Option RawEvidence)
    (free : graph.free (eventScope call) call.event.aggregateId = true) :
    Owned (eventScope call) call.event.aggregateId
        (entered (evidenceNode proj call raw) graph) ∧
      Grows (eventScope call) graph (entered (evidenceNode proj call raw) graph) := by
  have named := evidence_node_scope proj call raw
  have own : graph.free (evidenceNode proj call raw).scope
      (evidenceNode proj call raw).nodeId = true := by
    rw [named.1, named.2]
    exact free
  have owned := owned_entered _ _ own
  have grown := grows_entered _ _ own
  rw [named.1, named.2] at owned
  rw [named.1] at grown
  exact ⟨owned, grown⟩

theorem project_moves (proj : Projecting) (call : ProjectCall) (graph : EvidenceGraph) :
    (project proj call graph).1 = graph ∨
      ∃ raw, graph.free (eventScope call) call.event.aggregateId = true ∧
        ((project proj call graph).1 = entered (evidenceNode proj call raw) graph ∨
          ∃ found created, (project proj call graph).1 =
            (mentionTopics proj call found 1
              (entered (evidenceNode proj call raw) graph) created).1) := by
  by_cases projected : EvidenceExists call
  · obtain ⟨created, raw, loaded⟩ := projected
    have named := evidence_node_scope proj call raw
    rw [project_loaded created loaded]
    cases done : upsertNode (evidenceNode proj call raw) graph with
    | error err => exact .inl rfl
    | ok res =>
      obtain ⟨after, new⟩ := res
      obtain ⟨free, _, _, same⟩ := of_upsert_node_ok done
      rw [named.1, named.2] at free
      have entering : after = entered (evidenceNode proj call raw) graph := same
      subst entering
      refine .inr ⟨raw, free, ?_⟩
      cases topics proj (evidenceNode proj call raw).payload with
      | error err => exact .inl rfl
      | ok found => exact .inr ⟨found, _, rfl⟩
  · exact .inl (project_idle projected)

theorem grows_project (call : ProjectCall) (graph : EvidenceGraph) :
    Grows (eventScope call) graph (project proj call graph).1 := by
  cases project_moves proj call graph with
  | inl idle =>
    rw [idle]
    exact Grows.refl _ _
  | inr moved =>
    obtain ⟨raw, free, out⟩ := moved
    have owned := owned_evidence proj raw free
    cases out with
    | inl alone =>
      rw [alone]
      exact owned.2
    | inr topics =>
      obtain ⟨found, created, same⟩ := topics
      rw [same]
      exact owned.2.trans (grows_mention_topics proj found 1 created owned.1)

theorem project_ok_iff (created : call.event.eventType = "source.raw_evidence.created")
    (loaded : loadEvidence call = .ok raw) :
    (∃ made, (project proj call graph).2 = .ok made) ↔
      Accepted proj call raw graph := by
  have named := evidence_node_scope proj call raw
  constructor
  · intro ret
    obtain ⟨made, done⟩ := ret
    rw [project_loaded created loaded] at done
    cases upserted : upsertNode (evidenceNode proj call raw) graph with
    | error err => simp [upserted] at done
    | ok res =>
      obtain ⟨after, new⟩ := res
      obtain ⟨free, source, hash, same⟩ := of_upsert_node_ok upserted
      rw [named.1, named.2] at free
      have owned := owned_evidence proj raw free
      have entering : after = entered (evidenceNode proj call raw) graph := same
      subst entering
      simp only [upserted] at done
      cases listed : topics proj (evidenceNode proj call raw).payload with
      | error err => simp [listed] at done
      | ok found =>
        simp only [listed] at done
        have all := (mention_topics_ok_iff found 1 _ owned.1).mp ⟨made, done⟩
        refine ⟨source, hash, free, found, listed, ?_⟩
        intro topic mem
        exact (owned.2.free _).mp (all topic mem)
  · intro accepted
    obtain ⟨found, listed, all⟩ := accepted.topics
    have owned := owned_evidence proj raw accepted.evidence
    rw [project_accepted created loaded accepted listed]
    apply (mention_topics_ok_iff found 1 _ owned.1).mpr
    intro topic mem
    exact (owned.2.free _).mpr (all topic mem)

end project

section edges

structure Joins (edgeId : String) (edge : GraphEdge) (graph : EvidenceGraph) : Prop where
  named : edgeId = mentionsId edge.fromId edge.toId
  entity : edge.toId.toList.length = 39
  source : Owned edge.scope edge.fromId graph
  target : Owned edge.scope edge.toId graph

def Sound (graph : EvidenceGraph) : Prop :=
  ∀ edgeId edge, graph.edges.lookup edgeId = some edge → Joins edgeId edge graph

theorem topic_entity_length (topic : String) :
    (topicEntityId proj topic).toList.length = 39 := by
  have taken := proj.sha256_length ("topic" ++ ":" ++
    proj.casefold (PyText.strip topic))
  simp only [topicEntityId, String.toList_append, List.length_append, String.toList_ofList,
    List.length_take, taken]
  rfl

theorem mentions_id_inj {evidence other entity target : String}
    (lengths : entity.toList.length = target.toList.length)
    (same : mentionsId evidence entity = mentionsId other target) :
    evidence = other ∧ entity = target := by
  have lists := congrArg String.toList same
  simp only [mentionsId, String.toList_append] at lists
  obtain ⟨heads, entities⟩ := List.append_inj' lists lengths
  have inner := List.append_inj_left' heads rfl
  exact ⟨String.toList_injective (List.append_cancel_left inner), String.toList_injective entities⟩

variable {proj} {call : ProjectCall} {graph : EvidenceGraph}

theorem Joins.grows {edgeId : String} {edge : GraphEdge} {scope : Scope} {after : EvidenceGraph}
    (joins : Joins edgeId edge graph) (grows : Grows scope graph after) :
    Joins edgeId edge after :=
  ⟨joins.named, joins.entity, grows.kept _ _ joins.source, grows.kept _ _ joins.target⟩

theorem sound_mentioned {topic : String} {reading : Nat} (sound : Sound graph)
    (evidence : Owned (eventScope call) call.event.aggregateId graph)
    (free : graph.free (eventScope call) (topicEntityId proj topic) = true) :
    Sound (mentioned proj call reading topic graph) := by
  have grown := grows_mentioned reading free
  intro edgeId edge found
  change (graph.edges.setdefault _ (mentionsEdge proj call.event
    (call.clock (reading + 1)) topic)).lookup edgeId = some edge at found
  rw [lookup_setdefault] at found
  cases held : graph.edges.lookup edgeId with
  | some existing =>
    rw [held, Option.some_or, Option.some.injEq] at found
    subst found
    exact (sound edgeId existing held).grows grown
  | none =>
    rw [held, Option.none_or] at found
    split_ifs at found with same
    cases found
    have entity : Owned (eventScope call) (topicEntityId proj topic)
        (mentioned proj call reading topic graph) :=
      owned_entered (topicNode proj call.event (call.clock reading) topic) graph free
    exact ⟨same, topic_entity_length proj topic, grown.kept _ _ evidence, entity⟩

theorem sound_mention_topics (found : List String) (reading : Nat) (created : List String)
    (sound : Sound graph) (evidence : Owned (eventScope call) call.event.aggregateId graph) :
    Sound (mentionTopics proj call found reading graph created).1 := by
  induction found generalizing reading graph created with
  | nil => exact sound
  | cons topic rest ih =>
    by_cases free : graph.free (eventScope call) (topicEntityId proj topic) = true
    · obtain ⟨more, next⟩ := mention_cons rest reading created evidence free
      rw [next]
      exact ih (reading + 2) more (sound_mentioned sound evidence free)
        ((grows_mentioned reading free).kept _ _ evidence)
    · rw [mention_refused free]
      exact sound

theorem sound_project (call : ProjectCall) (graph : EvidenceGraph) (sound : Sound graph) :
    Sound (project proj call graph).1 := by
  cases project_moves proj call graph with
  | inl idle =>
    rw [idle]
    exact sound
  | inr moved =>
    obtain ⟨raw, free, out⟩ := moved
    have owned := owned_evidence proj raw free
    have still : Sound (entered (evidenceNode proj call raw) graph) :=
      fun edgeId edge found => (sound edgeId edge found).grows owned.2
    cases out with
    | inl alone =>
      rw [alone]
      exact still
    | inr topics =>
      obtain ⟨found, created, same⟩ := topics
      rw [same]
      exact sound_mention_topics found 1 created still owned.1

end edges

end Projector

open Projector

namespace EvidenceGraph

def only (tenantId : String) (graph : EvidenceGraph) : EvidenceGraph where
  nodes := graph.nodes.filter fun entry => entry.2.tenantId == tenantId
  edges := graph.edges.filter fun entry => entry.2.tenantId == tenantId

section only

variable {graph : EvidenceGraph} {tenantId : String}

variable {scope : Scope} {nodeId : String}

theorem lookup_only (own : scope.1 = tenantId)
    (free : graph.free scope nodeId = true) :
    (graph.only tenantId).nodes.lookup nodeId = graph.nodes.lookup nodeId := by
  unfold only
  cases found : graph.nodes.lookup nodeId with
  | none => exact lookup_filter_of_missing found
  | some node =>
    have same := free_iff.mp free node.scope ⟨node, found, rfl⟩
    apply lookup_filter_of_kept found
    rw [beq_iff_eq, ← own, ← same]
    rfl

theorem free_only (own : scope.1 = tenantId)
    (free : graph.free scope nodeId = true) : (graph.only tenantId).free scope nodeId = true := by
  unfold EvidenceGraph.free at free ⊢
  rw [lookup_only own free]
  exact free

theorem owned_only (own : scope.1 = tenantId)
    (owned : Owned scope nodeId graph) : Owned scope nodeId (graph.only tenantId) := by
  obtain ⟨node, found, same⟩ := owned
  have free : graph.free scope nodeId = true := Owned.free ⟨node, found, same⟩
  exact ⟨node, by rw [lookup_only own free, found], same⟩

variable {node : GraphNode}

theorem entered_only (node : GraphNode) (own : node.tenantId = tenantId)
    (free : graph.free node.scope node.nodeId = true) :
    (entered node graph).only tenantId = entered node (graph.only tenantId) := by
  have same := lookup_only (show node.scope.1 = tenantId from own) free
  have merges : merged node (graph.only tenantId) = merged node graph := by
    unfold merged
    rw [same]
  have kept : (merged node graph).tenantId = tenantId := by
    rw [← own]
    exact congrArg Prod.fst (merged_scope free)
  simp only [entered, merges]
  simp only [only]
  congr 1
  cases found : graph.nodes.lookup node.nodeId with
  | none =>
    have absent : (graph.nodes.filter fun entry => entry.2.tenantId == tenantId).lookup
        node.nodeId = none := lookup_filter_of_missing found
    rw [set_of_missing found, set_of_missing absent, List.filter_append]
    simp [kept]
  | some existing =>
    have scope := free_iff.mp free existing.scope ⟨existing, found, rfl⟩
    have owner : existing.tenantId = tenantId := (congrArg Prod.fst scope).trans own
    exact filter_set_of_kept found (by simpa using owner) (by simpa using kept)

theorem entered_only_other (node : GraphNode) (other : node.tenantId ≠ tenantId)
    (free : graph.free node.scope node.nodeId = true) :
    (entered node graph).only tenantId = graph.only tenantId := by
  have dropped : (merged node graph).tenantId ≠ tenantId := by
    rw [show (merged node graph).tenantId = node.tenantId from
      congrArg Prod.fst (merged_scope free)]
    exact other
  simp only [entered, only]
  congr 1
  cases found : graph.nodes.lookup node.nodeId with
  | none =>
    rw [set_of_missing found, List.filter_append]
    simp [dropped]
  | some existing =>
    have scope := free_iff.mp free existing.scope ⟨existing, found, rfl⟩
    have owner : existing.tenantId ≠ tenantId := by
      rw [show existing.tenantId = node.tenantId from congrArg Prod.fst scope]
      exact other
    exact filter_set_of_dropped found (by simpa using owner) (by simpa using dropped)

theorem drawn_only (edge : GraphEdge) (own : edge.tenantId = tenantId)
    (same : ∀ held, graph.edges.lookup edge.edgeId = some held → held.tenantId = tenantId) :
    (drawn edge graph).only tenantId = drawn edge (graph.only tenantId) := by
  simp only [drawn, only]
  congr 1
  rw [filter_setdefault]
  cases found : graph.edges.lookup edge.edgeId with
  | none =>
    have absent : (graph.edges.filter fun entry => entry.2.tenantId == tenantId).lookup
        edge.edgeId = none := lookup_filter_of_missing found
    simp [setdefault, absent, own]
  | some held =>
    have present : (graph.edges.filter fun entry => entry.2.tenantId == tenantId).lookup
        edge.edgeId = some held :=
      lookup_filter_of_kept found (by simpa using same held found)
    simp [setdefault, present]

theorem drawn_only_other (edge : GraphEdge) (other : edge.tenantId ≠ tenantId) :
    (drawn edge graph).only tenantId = graph.only tenantId := by
  simp only [drawn, only]
  congr 1
  rw [filter_setdefault]
  simp [other]

end only

end EvidenceGraph

namespace Projector

open EvidenceGraph

variable {proj : Projecting} {call : ProjectCall} {graph : EvidenceGraph} {tenantId : String}

section tenants

theorem mention_tenant {entityId : String} {edge : GraphEdge} (sound : Sound graph)
    (evidence : Owned (eventScope call) call.event.aggregateId graph)
    (length : entityId.toList.length = 39)
    (found : graph.edges.lookup (mentionsId call.event.aggregateId entityId) = some edge) :
    edge.tenantId = call.event.tenantId := by
  have joins := sound _ edge found
  have parts := mentions_id_inj (length.trans joins.entity.symm) joins.named
  have source := joins.source
  rw [← parts.1] at source
  exact congrArg Prod.fst (evidence.unique source)

theorem mentioned_only {topic : String} {reading : Nat} (own : call.event.tenantId = tenantId)
    (sound : Sound graph) (evidence : Owned (eventScope call) call.event.aggregateId graph)
    (free : graph.free (eventScope call) (topicEntityId proj topic) = true) :
    (mentioned proj call reading topic graph).only tenantId =
      mentioned proj call reading topic (graph.only tenantId) := by
  unfold mentioned
  rw [drawn_only (mentionsEdge proj call.event (call.clock (reading + 1)) topic) own,
    entered_only (topicNode proj call.event (call.clock reading) topic) own free]
  intro held found
  rw [← own]
  exact mention_tenant sound evidence (topic_entity_length proj topic) found

theorem mention_topics_only (found : List String) (reading : Nat) (created also : List String)
    (own : call.event.tenantId = tenantId) (sound : Sound graph)
    (evidence : Owned (eventScope call) call.event.aggregateId graph)
    (free : ∀ topic ∈ found, graph.free (eventScope call) (topicEntityId proj topic) = true) :
    (mentionTopics proj call found reading (graph.only tenantId) also).1 =
      (mentionTopics proj call found reading graph created).1.only tenantId := by
  induction found generalizing reading graph created also with
  | nil => rfl
  | cons topic rest ih =>
    have here := free topic List.mem_cons_self
    have grown := grows_mentioned reading here
    obtain ⟨more, next⟩ := mention_cons rest reading created evidence here
    obtain ⟨others, nextOnly⟩ := mention_cons rest reading also (owned_only own evidence)
      (free_only own here)
    rw [next, nextOnly, ← mentioned_only own sound evidence here]
    apply ih
    · exact sound_mentioned sound evidence here
    · exact grown.kept _ _ evidence
    · intro other mem
      exact (grown.free _).mpr (free other (List.mem_cons_of_mem _ mem))

theorem mention_topics_other (found : List String) (reading : Nat) (created : List String)
    (other : call.event.tenantId ≠ tenantId)
    (evidence : Owned (eventScope call) call.event.aggregateId graph)
    (free : ∀ topic ∈ found, graph.free (eventScope call) (topicEntityId proj topic) = true) :
    (mentionTopics proj call found reading graph created).1.only tenantId =
      graph.only tenantId := by
  induction found generalizing reading graph created with
  | nil => rfl
  | cons topic rest ih =>
    have here := free topic List.mem_cons_self
    have grown := grows_mentioned reading here
    obtain ⟨more, next⟩ := mention_cons rest reading created evidence here
    have same : (mentioned proj call reading topic graph).only tenantId =
        graph.only tenantId := by
      unfold mentioned
      rw [drawn_only_other
          (mentionsEdge proj call.event (call.clock (reading + 1)) topic) other,
        entered_only_other (topicNode proj call.event (call.clock reading) topic) other here]
    rw [next, ← same]
    apply ih
    · exact grown.kept _ _ evidence
    · intro later mem
      exact (grown.free _).mpr (free later (List.mem_cons_of_mem _ mem))

theorem accepted_only {raw : Option RawEvidence} (own : call.event.tenantId = tenantId)
    (accepted : Accepted proj call raw graph) :
    Accepted proj call raw (graph.only tenantId) := by
  obtain ⟨found, listed, free⟩ := accepted.topics
  exact ⟨accepted.source, accepted.hash, free_only own accepted.evidence, found, listed,
    fun topic mem => free_only own (free topic mem)⟩

theorem project_only (own : call.event.tenantId = tenantId) (sound : Sound graph)
    (unobstructed : Unobstructed proj call graph) :
    (project proj call (graph.only tenantId)).1 =
      (project proj call graph).1.only tenantId := by
  by_cases projected : EvidenceExists call
  · obtain ⟨created, raw, loaded⟩ := projected
    have accepted := unobstructed created raw loaded
    obtain ⟨found, listed, free⟩ := accepted.topics
    have named := evidence_node_scope proj call raw
    have owned := owned_evidence proj raw accepted.evidence
    rw [project_accepted created loaded accepted listed,
      project_accepted created loaded (accepted_only own accepted) listed,
      ← entered_only _ (by rw [← own]; exact congrArg Prod.fst named.1)
        (by rw [named.1, named.2]; exact accepted.evidence)]
    apply mention_topics_only
    · exact own
    · exact fun edgeId edge held => (sound edgeId edge held).grows owned.2
    · exact owned.1
    · exact fun topic mem => (owned.2.free _).mpr (free topic mem)
  · rw [project_idle projected, project_idle projected]

theorem project_only_other (other : call.event.tenantId ≠ tenantId)
    (unobstructed : Unobstructed proj call graph) :
    (project proj call graph).1.only tenantId = graph.only tenantId := by
  by_cases projected : EvidenceExists call
  · obtain ⟨created, raw, loaded⟩ := projected
    have accepted := unobstructed created raw loaded
    obtain ⟨found, listed, free⟩ := accepted.topics
    have named := evidence_node_scope proj call raw
    have owned := owned_evidence proj raw accepted.evidence
    have tenant : (evidenceNode proj call raw).tenantId ≠ tenantId := by
      rw [show (evidenceNode proj call raw).tenantId = call.event.tenantId from
        congrArg Prod.fst named.1]
      exact other
    rw [project_accepted created loaded accepted listed]
    have same := mention_topics_other found 1 [call.event.aggregateId] other owned.1
      (fun topic mem => (owned.2.free _).mpr (free topic mem))
    rw [same]
    exact entered_only_other _ tenant (by rw [named.1, named.2]; exact accepted.evidence)
  · rw [project_idle projected]

end tenants

section again

/-- The evidence, its topics and the edges between them are in the graph. -/
structure Covered (proj : Projecting) (call : ProjectCall) (found : List String)
    (graph : EvidenceGraph) : Prop where
  evidence : Owned (eventScope call) call.event.aggregateId graph
  entities : ∀ topic ∈ found, Owned (eventScope call) (topicEntityId proj topic) graph
  edges : ∀ topic ∈ found, ∃ edge, graph.edges.lookup
    (mentionsId call.event.aggregateId (topicEntityId proj topic)) = some edge

theorem Covered.grows {found : List String} {scope : Scope} {after : EvidenceGraph}
    (covered : Covered proj call found graph) (grows : Grows scope graph after) :
    Covered proj call found after where
  evidence := grows.kept _ _ covered.evidence
  entities := fun topic mem => grows.kept _ _ (covered.entities topic mem)
  edges := by
    intro topic mem
    obtain ⟨edge, held⟩ := covered.edges topic mem
    exact ⟨edge, grows.edges _ _ held⟩

theorem mention_topics_cover (found : List String) (reading : Nat) (created : List String)
    (evidence : Owned (eventScope call) call.event.aggregateId graph)
    (free : ∀ topic ∈ found, graph.free (eventScope call) (topicEntityId proj topic) = true) :
    Covered proj call found
      (mentionTopics proj call found reading graph created).1 := by
  induction found generalizing reading graph created with
  | nil => exact ⟨evidence, by simp, by simp⟩
  | cons topic rest ih =>
    have here := free topic List.mem_cons_self
    have grown := grows_mentioned reading here
    obtain ⟨more, next⟩ := mention_cons rest reading created evidence here
    have later := grows_mention_topics proj rest (reading + 2) more (grown.kept _ _ evidence)
    have tail := ih (reading + 2) more (grown.kept _ _ evidence)
      (fun other mem => (grown.free _).mpr (free other (List.mem_cons_of_mem _ mem)))
    have entity : Owned (eventScope call) (topicEntityId proj topic)
        (mentioned proj call reading topic graph) :=
      owned_entered (topicNode proj call.event (call.clock reading) topic) graph here
    have linked : ∃ edge, (mentioned proj call reading topic graph).edges.lookup
        (mentionsId call.event.aggregateId (topicEntityId proj topic)) = some edge := by
      change ∃ edge, (graph.edges.setdefault _ (mentionsEdge proj call.event
        (call.clock (reading + 1)) topic)).lookup _ = some edge
      rw [lookup_setdefault]
      cases graph.edges.lookup
          (mentionsId call.event.aggregateId (topicEntityId proj topic)) with
      | some edge => exact ⟨edge, rfl⟩
      | none => exact ⟨_, if_pos rfl⟩
    rw [next]
    refine ⟨tail.evidence, ?_, ?_⟩
    · exact List.forall_mem_cons.mpr ⟨later.kept _ _ entity, tail.entities⟩
    · obtain ⟨edge, held⟩ := linked
      exact List.forall_mem_cons.mpr ⟨⟨edge, later.edges _ _ held⟩, tail.edges⟩

theorem mention_topics_covered (found : List String) (reading : Nat) (created : List String)
    (covered : Covered proj call found graph) :
    (mentionTopics proj call found reading graph created).1.edges = graph.edges := by
  induction found generalizing reading graph created with
  | nil => rfl
  | cons topic rest ih =>
    have free := (covered.entities topic List.mem_cons_self).free
    have grown := grows_mentioned reading free
    obtain ⟨more, next⟩ := mention_cons rest reading created covered.evidence free
    have tail : Covered proj call rest graph :=
      ⟨covered.evidence, fun other mem => covered.entities other (List.mem_cons_of_mem _ mem),
        fun other mem => covered.edges other (List.mem_cons_of_mem _ mem)⟩
    rw [next, ih (reading + 2) more (tail.grows grown)]
    obtain ⟨edge, held⟩ := covered.edges topic List.mem_cons_self
    change graph.edges.setdefault (mentionsId call.event.aggregateId
      (topicEntityId proj topic)) _ = graph.edges
    simp only [setdefault, held]

variable {raw : Option RawEvidence} {found : List String} (clock : Nat → DateTime)

theorem accepted_clock (accepted : Accepted proj call raw graph)
    (listed : topics proj (evidenceNode proj call raw).payload = .ok found)
    {after : EvidenceGraph} (covered : Covered proj call found after) :
    Accepted proj { call with clock := clock } raw after ∧
      topics proj (evidenceNode proj { call with clock := clock } raw).payload =
        .ok found := by
  have same : topics proj
      (evidenceNode proj { call with clock := clock } raw).payload = .ok found := by
    rw [← listed]
    cases raw <;> rfl
  have source := accepted.source
  have hash := accepted.hash
  refine ⟨⟨?_, ?_, covered.evidence.free, found, same, ?_⟩, same⟩
  · cases raw <;> exact source
  · cases raw <;> exact hash
  · intro topic mem
    exact (covered.entities topic mem).free

theorem project_again (created : call.event.eventType = "source.raw_evidence.created")
    (loaded : loadEvidence call = .ok raw) (accepted : Accepted proj call raw graph)
    (listed : topics proj (evidenceNode proj call raw).payload = .ok found)
    {after : EvidenceGraph} (covered : Covered proj call found after) :
    (project proj { call with clock := clock } after).1.edges = after.edges := by
  obtain ⟨still, same⟩ := accepted_clock clock accepted listed covered
  have owned := owned_evidence proj raw covered.evidence.free
  have free : after.free (eventScope { call with clock := clock })
      call.event.aggregateId = true := covered.evidence.free
  have grown := (owned_evidence proj raw free).2
  have kept : Covered proj { call with clock := clock } found after :=
    ⟨covered.evidence, covered.entities, covered.edges⟩
  have done : project proj { call with clock := clock } after = _ :=
    project_accepted created loaded still same
  rw [done, mention_topics_covered found 1 _ (kept.grows grown)]
  rfl

end again

def alone (tenantId : String) (calls : List ProjectCall) : List ProjectCall :=
  calls.filter fun call => call.event.tenantId == tenantId

/-- What a call does after the calls before it: it succeeds if its evidence exists, every tenant's
rows are as if the tenant were alone, projecting the event again at any later time adds no edge,
and every edge joins two nodes of its own scope. -/
structure ProjectsWell (proj : Projecting) (before : List ProjectCall)
    (call : ProjectCall) : Prop where
  succeeds : EvidenceExists call → ∃ created,
    (project proj).answer call ((project proj).run before {}) = .ok created
  independent : ∀ tenantId, ((project proj).run (before ++ [call]) {}).only tenantId =
    (project proj).run (alone tenantId (before ++ [call])) {}
  again : ∀ later clock,
    ((project proj).run (before ++ [call] ++ later ++ [{ call with clock := clock }])
      {}).edges = ((project proj).run (before ++ [call] ++ later) {}).edges
  joined : ∀ edgeId edge,
    ((project proj).run (before ++ [call]) {}).edges.lookup edgeId = some edge →
      Owned edge.scope edge.fromId ((project proj).run (before ++ [call]) {}) ∧
        Owned edge.scope edge.toId ((project proj).run (before ++ [call]) {})

section runs

variable (proj)

theorem run_sound (calls : List ProjectCall) : Sound ((project proj).run calls {}) := by
  apply run_invariant (fun call graph => sound_project call graph)
  intro edgeId edge found
  cases found

theorem run_covered {found : List String} (later : List ProjectCall)
    (covered : Covered proj call found graph) :
    Covered proj call found ((project proj).run later graph) := by
  apply run_invariant _ later covered
  intro next graph held
  exact held.grows (grows_project next graph)

theorem alone_concat (tenantId : String) (before : List ProjectCall) (call : ProjectCall) :
    alone tenantId (before ++ [call]) =
      alone tenantId before ++ if call.event.tenantId = tenantId then [call] else [] := by
  unfold alone
  rw [List.filter_append]
  by_cases own : call.event.tenantId = tenantId <;> simp [own]

theorem independent_next (before : List ProjectCall) (call : ProjectCall) (tenantId : String)
    (held : ((project proj).run before {}).only tenantId =
      (project proj).run (alone tenantId before) {})
    (unobstructed : Unobstructed proj call ((project proj).run before {})) :
    ((project proj).run (before ++ [call]) {}).only tenantId =
      (project proj).run (alone tenantId (before ++ [call])) {} := by
  rw [run_concat, alone_concat]
  by_cases own : call.event.tenantId = tenantId
  · rw [if_pos own, run_concat, ← held]
    exact (project_only own (run_sound proj before) unobstructed).symm
  · rw [if_neg own, List.append_nil, ← held]
    exact project_only_other own unobstructed

/-- What is known before each call of a run that went well. -/
def Independent (before : List ProjectCall) (graph : EvidenceGraph) : Prop :=
  ∀ tenantId, graph.only tenantId = (project proj).run (alone tenantId before) {}

theorem again_of_unobstructed (before later : List ProjectCall) (call : ProjectCall)
    (clock : Nat → DateTime)
    (unobstructed : Unobstructed proj call ((project proj).run before {})) :
    ((project proj).run (before ++ [call] ++ later ++ [{ call with clock := clock }])
      {}).edges = ((project proj).run (before ++ [call] ++ later) {}).edges := by
  rw [run_concat]
  by_cases projected : EvidenceExists call
  · obtain ⟨created, raw, loaded⟩ := projected
    have accepted := unobstructed created raw loaded
    obtain ⟨found, listed, free⟩ := accepted.topics
    have owned := owned_evidence proj raw accepted.evidence
    have covers : Covered proj call found
        ((project proj).run (before ++ [call]) {}) := by
      rw [run_concat, next, project_accepted created loaded accepted listed]
      exact mention_topics_cover found 1 _ owned.1
        (fun topic mem => (owned.2.free _).mpr (free topic mem))
    have still := run_covered proj later covers
    rw [← run_append] at still
    exact project_again clock created loaded accepted listed still
  · have idle : ¬EvidenceExists { call with clock := clock } := projected
    exact congrArg EvidenceGraph.edges (project_idle idle)

theorem projects_well_iff (before : List ProjectCall) (call : ProjectCall)
    (independent : Independent proj before ((project proj).run before {})) :
    ProjectsWell proj before call ↔
      Unobstructed proj call ((project proj).run before {}) := by
  constructor
  · intro well created raw loaded
    exact (project_ok_iff created loaded).mp (well.succeeds ⟨created, raw, loaded⟩)
  · intro unobstructed
    refine ⟨?_, ?_, ?_, ?_⟩
    · intro projected
      obtain ⟨created, raw, loaded⟩ := projected
      exact (project_ok_iff created loaded).mpr (unobstructed created raw loaded)
    · intro tenantId
      exact independent_next proj before call tenantId (independent tenantId) unobstructed
    · intro later clock
      exact again_of_unobstructed proj before later call clock unobstructed
    · intro edgeId edge found
      have joins := run_sound proj (before ++ [call]) edgeId edge found
      exact ⟨joins.source, joins.target⟩

end runs

end Projector

/-- In every run of the projector every event goes well exactly when no event whose evidence
exists meets a node of another scope or evidence that cannot be stored and searched. -/
theorem projections_well_iff (proj : Projecting) (calls : List ProjectCall) :
    Historically (ProjectsWell proj) calls ↔
      (project proj).Throughout (Unobstructed proj) calls {} := by
  apply historically_iff_throughout (Independent proj)
  · intro before call independent unobstructed tenantId
    have next :=
      independent_next proj before call tenantId (independent tenantId) unobstructed
    rw [run_concat] at next
    exact next
  · intro tenantId
    rfl
  · exact projects_well_iff proj

/-- A digest of 64 characters. -/
def paddedProjecting : Projecting where
  sha256 := fun text => String.ofList ((text.toList ++ List.replicate 64 '0').take 64)
  sha256_length := by
    intro text
    rw [String.toList_ofList, List.length_take, List.length_append, List.length_replicate]
    omega
  sha256Document := Json.Text.coded
  casefold := id
  reprFloat := fun _ => "0.0"
  fromisoformat := DateTime.fromisoformat?

def titledEvent (tenantId evidenceId : String) : ProjectCall where
  event := {
    eventId := "event:" ++ evidenceId, tenantId := tenantId, workspaceId := "w"
    eventType := "source.raw_evidence.created", aggregateId := evidenceId, payload := []
    createdAt := DateTime.epoch }
  read := some (some {
    evidenceId := evidenceId, tenantId := tenantId, workspaceId := "w", sourceId := "s"
    sourceRecordId := "r", payload := .obj [("title", .str "AI agents")], payloadHash := "h"
    collectedAt := DateTime.epoch, connectorVersion := "v1", schemaVersion := "v1"
    ingestionRunId := "run" })
  clock := fun _ => DateTime.epoch

/-- The second tenant with a topic is refused after its evidence node is written. -/
theorem shared_topic_refused :
    let calls := [titledEvent "first" "e1", titledEvent "second" "e2"]
    ¬Historically (Projector.ProjectsWell paddedProjecting) calls ∧
      (project paddedProjecting).answers calls {} = [.ok ["e1", mentionsId "e1"
            (topicEntityId paddedProjecting "AI agents")],
          .error EvidenceGraph.nodeCollision] ∧
      ((project paddedProjecting).run calls {}).nodes.map Prod.fst =
        ["e1", topicEntityId paddedProjecting "AI agents", "e2"] := by
  intro calls
  have refused : (project paddedProjecting).answer (titledEvent "second" "e2")
      ((project paddedProjecting).run [titledEvent "first" "e1"] {}) =
        .error EvidenceGraph.nodeCollision := by
    decide +kernel
  refine ⟨?_, by decide +kernel, by decide +kernel⟩
  intro well
  obtain ⟨created, done⟩ := (well [titledEvent "first" "e1"] (titledEvent "second" "e2") []
    rfl).succeeds ⟨rfl, _, rfl⟩
  rw [refused] at done
  cases done

end Ois.Social
