import NocAgent.Graph.Attribution
import NocAgent.Graph.ProposedActions
import NocAgent.Lib.Lts

/-!
# Investigation threads

An investigation is a thread of the graph.  An invocation takes the thread's last checkpoint, or a
new input, and runs node after node until the graph ends, a node raises, or it interrupts for an
operator.

* `MCPRuntime.toolsFor`, `HeavyProbeFilteredRuntime.toolsFor` — the tools an agent is offered.
* `NodeRunner` — the nodes; `nextNode` — the edges of `build_graph`.
* `startState` — the input of `run_investigation_graph`.
* `threadStep` — any number of invocations of one thread, started, resumed and dropped at any time.

Of LangGraph this assumes: an update overwrites the keys it names; a checkpoint is written behind
each node, and may be lost with the process; a node that raises or interrupts writes none; a resume
runs the nodes that are next in the checkpoint, the first of them with the answer.
-/

set_option autoImplicit false

namespace NocAgent

open Effects Traced

/-! ## The tools of an agent -/

def TRIAGE_TOOLS : List String :=
  ["prometheus_list_targets", "icinga_get_host_state", "icinga_list_problems"]

def BGP_TOOLS : List String :=
  ["frr_vtysh_cmd", "path_explain", "ecmp_path_select", "multi_source_probe", "prometheus_query",
    "prometheus_list_targets", "os_service_status", "os_service_logs", "os_systemd_status",
    "os_rcctl_check", "socket_listeners"]

def FIREWALL_TOOLS : List String :=
  ["firewall_state", "pf_log_tail", "nft_log_tail", "tcpdump_capture", "ndp_state", "arp_state",
    "path_explain", "prometheus_query", "socket_listeners"]

def INFRASTRUCTURE_TOOLS : List String :=
  ["icinga_get_host_state", "icinga_list_problems", "prometheus_query", "prometheus_list_targets",
    "os_service_status", "os_service_logs", "os_systemd_status", "os_rcctl_check", "os_journalctl",
    "dmesg_tail", "service_restart_history", "socket_listeners", "vault_agent_status", "dns_dig",
    "dns_probe_burst", "knot_zone_status", "wg_show"]

def PROACTIVE_HEAVY_TOOLS : List String :=
  ["tcpdump_capture", "dns_probe_burst", "multi_source_probe"]

def FindingSpecialist.text : FindingSpecialist → String
  | .bgp => "bgp"
  | .securityFirewall => "security_firewall"
  | .infrastructure => "infrastructure"

/-- `_allowed_tool_names`. -/
def allowedToolNames (specialist : Option String) : List String :=
  if specialist = some "bgp" then BGP_TOOLS
  else if specialist = some "security_firewall" then FIREWALL_TOOLS
  else if specialist = some "infrastructure" then INFRASTRUCTURE_TOOLS
  else TRIAGE_TOOLS

/-- The names of the tools that were loaded, `tools_by_source`. -/
structure MCPTools where
  hyrule : List String := []
  xo : List String := []

def MCPRuntime.toolsFor (tools : MCPTools) (specialist : Option String) : List String :=
  (tools.hyrule ++ tools.xo).filter fun name => name ∈ allowedToolNames specialist

def HeavyProbeFilteredRuntime.toolsFor (tools : MCPTools) (allowHeavy : Bool)
    (specialist : Option String) : List String :=
  let offered := MCPRuntime.toolsFor tools specialist
  if allowHeavy then offered else offered.filter fun name => name ∉ PROACTIVE_HEAVY_TOOLS

/-! ## Routing -/

section Routing

variable (py : Python)

/-- `labels_from_alert`. -/
def labelsFromAlert (alert : JsonDict) : JsonDict :=
  let labels := ["groupLabels", "commonLabels"].foldl (fun labels key =>
    match alert.get key with
    | .dict more => dictMerge labels more
    | _ => labels) ([] : JsonDict)
  match alert.get "alerts" with
  | .list (.dict first :: _) =>
    match JsonDict.get first "labels" with
    | .dict nested => dictMerge labels nested
    | _ => labels
  | _ => labels

/-- `instance_host`. -/
def Routing.instanceHost (inst : String) : String :=
  let text := inst.toList
  if text.head? = some '[' ∧ ']' ∈ text then
    String.ofList ((text.drop 1).takeWhile (· ≠ ']'))
  else if text.count ':' = 1 then String.ofList (text.takeWhile (· ≠ ':'))
  else inst

/-- `resource_id_from_alert`. -/
def resourceIdFromAlert (alert : JsonDict) : String :=
  let labels := labelsFromAlert alert
  let host := (labels.get "host").or (labels.get "hostname")
  if host.truthy then pyStr py host
  else if (labels.get "instance").truthy then Routing.instanceHost (pyStr py (labels.get "instance"))
  else pyStr py ((alert.get "source").or (.str "unknown"))

/-- `supervisor_route`: the specialist and why. -/
def supervisorRoute (alert : JsonDict) : FindingSpecialist × String :=
  let labels := labelsFromAlert alert
  let hint := strip (textOf py (labels.get "specialist_hint"))
  let hinted := "Explicit specialist hint from alert labels."
  let blob := py.lower (" ".intercalate [pyStr py (.dict labels), pyStr py (.dict alert)])
  if hint = "bgp" then (.bgp, hinted)
  else if hint = "security_firewall" then (.securityFirewall, hinted)
  else if hint = "infrastructure" then (.infrastructure, hinted)
  else if ["bgp", "peer", "route", "frr", "ospf"].any fun token => hasText token blob then
    (.bgp, "Routing keywords in the alert payload indicate a control-plane investigation.")
  else if ["pf", "nft", "firewall", "icmp unreachable", "drop", "blocked"].any fun token =>
      hasText token blob then
    (.securityFirewall, "Firewall or packet-filter symptoms dominate the alert payload.")
  else (.infrastructure, "The alert is host/service oriented rather than routing-specific.")

end Routing

/-! ## The state of a thread -/

inductive GraphNode where
  | correlateAndDedupe
  | recallHistory
  | supervisorRoute
  | bgpSpecialist
  | firewallSpecialist
  | infrastructureSpecialist
  | evidenceValidation
  | goldenStateDriftCheck
  | proposalBuild
  | prepareApproval
  | approvalInterrupt
  | executeApprovedRemediation
  | verifyRemediation
  deriving DecidableEq, Repr

/-- The state of a thread, with what the case is known by. -/
structure ThreadState extends WorkflowState where
  caseNumber : Json := .str ""
  caseEventCount : Json := .int 0
  fingerprint : Json := .str ""
  threadId : String := ""
  normalizedAlert : JsonDict := []
  resourceId : String := ""
  caseContext : JsonDict := []
  deduped : Bool := false
  correlationKey : String := ""
  incidentHistory : List Json := []
  historyCount : Nat := 0
  chronicInstability : Bool := false
  activeSpecialist : Option FindingSpecialist := none
  routingReason : String := ""
  specialistFinding : Option SpecialistFinding := none
  diagnosticSynthesis : Option DiagnosticSynthesis := none
  /-- `diagnostic_synthesis["affected_objects"]` -/
  affectedObjects : List String := []
  driftFindings : List String := []
  finalSummary : JsonDict := []

/-- What the agent returns. -/
structure AgentReport where
  synthesis : DiagnosticSynthesis
  affectedObjects : List String := []

/-- `graph_memory.correlate(...)`. -/
structure CorrelationReport where
  deduped : Bool
  history : List Json
  chronic : Bool

/-- What a node meets while it runs. -/
structure NodeMoment where
  env : Environ
  utcNow : String
  correlated : Except PyExc CorrelationReport
  history : Except PyExc (List Json)
  tools : MCPTools := {}
  /-- `some allow_heavy` under a `HeavyProbeFilteredRuntime` -/
  filtered : Option Bool := none
  /-- the calls that the agent asks for, and what a tool that it has answers -/
  asked : List (ToolCall × Int × ToolReply) := []
  report : Except PyExc AgentReport
  drifts : List String := []
  uuid : Nat → String
  proposalId : String
  /-- `put_summary` and `update_case` -/
  memory : Except PyExc Unit := .ok ()
  asks : Nat → ActMoment
  acts : Nat → ActMoment
  checks : Nat → CheckMoment

/-! ## The nodes -/

namespace NodeRunner

variable (py : Python) (m : NodeMoment)

def correlateAndDedupe (state : ThreadState) : GraphM ThreadState := do
  let result ← orRaise m.correlated
  pure { state with
    deduped := result.deduped
    correlationKey := state.resourceId
    incidentHistory := result.history
    historyCount := result.history.length
    chronicInstability := result.chronic }

def recallHistory (state : ThreadState) : GraphM ThreadState := do
  let history ← orRaise m.history
  pure { state with
    incidentHistory := history
    historyCount := history.length
    chronicInstability := decide (3 < history.length) }

def supervisorRoute (state : ThreadState) : GraphM ThreadState :=
  let route := NocAgent.supervisorRoute py state.normalizedAlert
  pure { state with
    activeSpecialist := some route.1
    routingReason := route.2 }

/-- The tools of the agent. -/
def offered (specialist : FindingSpecialist) : List String :=
  match m.filtered with
  | none => MCPRuntime.toolsFor m.tools (some specialist.text)
  | some allowHeavy =>
    HeavyProbeFilteredRuntime.toolsFor m.tools allowHeavy (some specialist.text)

/-- The calls that are made: an agent has no other tools than it is offered, but for one that links
its case and calls no server. -/
def agentCalls (specialist : FindingSpecialist) : List GraphEvent :=
  (m.asked.filter fun ask => ask.1.tool ∈ offered m specialist).map fun ask =>
    .call ask.1 ask.2.1 ask.2.2

/-- `_run_specialist`. -/
def runSpecialist (specialist : FindingSpecialist) (state : ThreadState) : GraphM ThreadState := do
  let _ ← mapT tell (agentCalls m specialist)
  let report ← orRaise m.report
  let synthesis ← orRaise report.synthesis.validate
  pure { state with
    activeSpecialist := some specialist
    diagnosticSynthesis := some synthesis
    affectedObjects := report.affectedObjects
    specialistFinding := some (NocAgent.specialistFinding py specialist synthesis) }

/-- The part of the state that the diagnosis reads. -/
def diagnosis (state : ThreadState) : Except PyExc DiagnosisState :=
  match state.specialistFinding, state.diagnosticSynthesis with
  | some finding, some synthesis => .ok {
      incidentId := state.incidentId
      resourceId := state.resourceId
      specialistFinding := finding
      diagnosticSynthesis := synthesis
      driftFindings := state.driftFindings }
  | _, _ => .error .keyError

def evidenceValidation (state : ThreadState) : GraphM ThreadState := do
  let d ← orRaise (diagnosis state)
  let d ← orRaise (NocAgent.evidenceValidation d)
  pure { state with
    specialistFinding := some d.specialistFinding
    diagnosticSynthesis := some d.diagnosticSynthesis }

def goldenStateDriftCheck (state : ThreadState) : GraphM ThreadState :=
  pure { state with driftFindings := m.drifts }

def proposalBuild (state : ThreadState) : GraphM ThreadState := do
  let d ← orRaise (diagnosis state)
  let d ← orRaise (NocAgent.proposalBuild (fun proposed =>
    structuredActions py m.uuid state.normalizedAlert
      ⟨d.diagnosticSynthesis.incidentSummary, state.affectedObjects, proposed⟩) d)
  pure { state with
    proposals := d.proposals.map fun proposal => .dict (proposal.dump m.proposalId) }

/-- The summary that an operator is shown. -/
def approvalSummary (title : String) (state : ThreadState) : JsonDict :=
  [("incident_id", .str state.incidentId), ("case_number", state.caseNumber),
    ("resource_id", .str state.resourceId), ("title", .str title),
    ("status", .str "waiting_approval"),
    ("chronic_instability", .bool state.chronicInstability),
    ("active_specialist",
      (state.activeSpecialist.map fun specialist => Json.str specialist.text).getD .null),
    ("proposal_count", .int state.proposals.length), ("updated_at", .str m.utcNow),
    ("thread_id", .str state.threadId), ("proposals", .list state.proposals),
    ("fingerprint", state.fingerprint), ("event_count", state.caseEventCount),
    ("case_context", .dict state.caseContext)]

/-- `state["diagnostic_synthesis"]`. -/
def synthesisOf (state : ThreadState) : Except PyExc DiagnosticSynthesis :=
  match state.diagnosticSynthesis with
  | some synthesis => synthesis.validate
  | none => .error .keyError

def prepareApproval (state : ThreadState) : GraphM ThreadState := do
  let synthesis ← orRaise (synthesisOf state)
  let summary := approvalSummary m synthesis.incidentSummary state
  let _ ← orRaise m.memory
  pure { state with
    approvalState := some (.str "waiting_approval")
    finalSummary := summary }

/-- A node of the approval and the remediation, on the state of the thread. -/
def lift (f : WorkflowState → GraphM WorkflowState) (state : ThreadState) : GraphM ThreadState := do
  let after ← f state.toWorkflowState
  pure { state with toWorkflowState := after }

def approvalInterrupt (answer : Option JsonDict) (state : ThreadState) :
    GraphM (Option ThreadState) := do
  let after ← NocAgent.approvalInterrupt py m.env m.utcNow m.asks state.toWorkflowState answer
  pure (after.map fun after => { state with toWorkflowState := after })

/-- A node runs; `none` is an interrupt. -/
def run (answer : Option JsonDict) (state : ThreadState) : GraphNode → GraphM (Option ThreadState)
  | .correlateAndDedupe => some <$> correlateAndDedupe m state
  | .recallHistory => some <$> recallHistory m state
  | .supervisorRoute => some <$> supervisorRoute py state
  | .bgpSpecialist => some <$> runSpecialist py m .bgp state
  | .firewallSpecialist => some <$> runSpecialist py m .securityFirewall state
  | .infrastructureSpecialist => some <$> runSpecialist py m .infrastructure state
  | .evidenceValidation => some <$> evidenceValidation state
  | .goldenStateDriftCheck => some <$> goldenStateDriftCheck m state
  | .proposalBuild => some <$> proposalBuild py m state
  | .prepareApproval => some <$> prepareApproval m state
  | .approvalInterrupt => approvalInterrupt py m answer state
  | .executeApprovedRemediation =>
    some <$> lift (NocAgent.executeApprovedRemediation py m.env m.acts) state
  | .verifyRemediation => some <$> lift (NocAgent.verifyRemediation py m.env m.checks) state

end NodeRunner

/-! ## The edges -/

/-- `route_specialist`. -/
def routeSpecialist (state : ThreadState) : GraphNode :=
  match state.activeSpecialist with
  | some .bgp => .bgpSpecialist
  | some .securityFirewall => .firewallSpecialist
  | _ => .infrastructureSpecialist

/-- The edges of `build_graph`; `none` is `END`. -/
def nextNode (state : ThreadState) : GraphNode → Option GraphNode
  | .correlateAndDedupe => some .recallHistory
  | .recallHistory => some .supervisorRoute
  | .supervisorRoute => some (routeSpecialist state)
  | .bgpSpecialist | .firewallSpecialist | .infrastructureSpecialist => some .evidenceValidation
  | .evidenceValidation => some .goldenStateDriftCheck
  | .goldenStateDriftCheck => some .proposalBuild
  | .proposalBuild => some .prepareApproval
  | .prepareApproval => some .approvalInterrupt
  | .approvalInterrupt =>
    if routesToExecution state.toWorkflowState then some .executeApprovedRemediation else none
  | .executeApprovedRemediation => some .verifyRemediation
  | .verifyRemediation => none

/-! ## Invocations -/

/-- What `run_investigation_graph` is called with. -/
structure InvestigationInput where
  incidentId : String
  caseNumber : Json := .str ""
  eventCount : Json := .int 0
  fingerprint : Json := .str ""
  threadId : String
  alert : JsonDict
  caseContext : JsonDict := []

/-- The thread with the input written over it. -/
def startState (py : Python) (input : InvestigationInput) (thread : ThreadState) : ThreadState :=
  { thread with
    incidentId := input.incidentId
    caseNumber := input.caseNumber
    caseEventCount := input.eventCount
    fingerprint := input.fingerprint
    threadId := input.threadId
    normalizedAlert := input.alert
    resourceId := resourceIdFromAlert py input.alert
    caseContext := input.caseContext
    incidentHistory := []
    historyCount := 0
    proposals := []
    executedActions := []
    verificationResults := []
    approvalState := some (.str "pending")
    operatorDecision := none
    driftFindings := [] }

/-- A thread nobody has written to. -/
def ThreadState.blank : ThreadState where
  incidentId := ""
  proposals := []
  operatorDecision := none
  approvalState := none
  executedActions := []
  verificationResults := []

/-- A state, and the node that is next in it; `none` is the end of the graph. -/
structure Checkpoint where
  state : ThreadState
  next : Option GraphNode

/-- An invocation between two nodes, with the answer that its first node is given. -/
structure Invocation where
  place : Checkpoint
  answer : Option JsonDict

/-- A node that ran to its end. -/
structure NodeRun where
  node : GraphNode
  env : Environ
  before : ThreadState
  after : ThreadState

/-- Something a node did, and the state it was in. -/
structure NodeEvent where
  node : GraphNode
  env : Environ
  state : ThreadState
  event : GraphEvent

/-- A thread, with the invocations of its graph. -/
structure ThreadSystem where
  saved : Option Checkpoint
  invocations : Nat → Option Invocation
  /-- every answer of an operator -/
  answers : List JsonDict
  /-- every node that ran to its end -/
  trace : List NodeRun
  /-- everything that was done, also by nodes that raised later -/
  log : List NodeEvent

def ThreadSystem.empty : ThreadSystem where
  saved := none
  invocations _ := none
  answers := []
  trace := []
  log := []

inductive ThreadLabel where
  /-- `graph.ainvoke(state, ...)` -/
  | start (i : Nat) (input : InvestigationInput)
  /-- `graph.ainvoke(Command(resume=decision), ...)` -/
  | resume (i : Nat) (decision : JsonDict)
  /-- the next node of an invocation; `kept` tells whether its checkpoint gets written -/
  | node (i : Nat) (m : NodeMoment) (kept : Bool)
  /-- the invocation is cancelled, or its process ends -/
  | drop (i : Nat)

section System

variable (py : Python)

def ThreadSystem.invoke (sys : ThreadSystem) (i : Nat) (invocation : Option Invocation) :
    ThreadSystem :=
  { sys with invocations := Function.update sys.invocations i invocation }

/-- One node of an invocation. -/
def ThreadSystem.ran (sys : ThreadSystem) (i : Nat) (invocation : Invocation) (node : GraphNode)
    (m : NodeMoment) (kept : Bool) : ThreadSystem :=
  let state := invocation.place.state
  let done := NodeRunner.run py m invocation.answer state node
  let sys := { sys with log := sys.log ++ done.log.map (NodeEvent.mk node m.env state) }
  match done.result with
  | .error _ => sys.invoke i none
  | .ok none => sys.invoke i none
  | .ok (some after) =>
    let reached : Checkpoint := ⟨after, nextNode after node⟩
    { sys.invoke i (some ⟨reached, none⟩) with
      saved := if kept then some reached else sys.saved
      trace := sys.trace ++ [⟨node, m.env, state, after⟩] }

def ThreadSystem.after (sys : ThreadSystem) : ThreadLabel → ThreadSystem
  | .start i input =>
    let thread := (sys.saved.map Checkpoint.state).getD .blank
    sys.invoke i (some ⟨⟨startState py input thread, some .correlateAndDedupe⟩, none⟩)
  | .resume i decision =>
    { sys.invoke i (sys.saved.map fun checkpoint => ⟨checkpoint, some decision⟩) with
      answers := sys.answers ++ [decision] }
  | .node i m kept =>
    match sys.invocations i with
    | none => sys
    | some invocation =>
      match invocation.place.next with
      | none => sys.invoke i none
      | some node => sys.ran py i invocation node m kept
  | .drop i => sys.invoke i none

def threadStep (sys : ThreadSystem) (l : ThreadLabel) (t : ThreadSystem) : Prop :=
  t = sys.after py l

end System

end NocAgent
