import NocAgent.Graph.State

/-!
# The execution and verification nodes

* `executeApprovedRemediation` — run every stored structured action, as the privileged tool
  call or as an inert no-op rollback guard.
* `verifyRemediation` — judge the executed actions that succeeded.

The world answers by position: `acts i` is what the `i`-th stored action meets while it is
executed, `checks i` what the `i`-th executed item meets while it is verified.
-/

set_option autoImplicit false

namespace NocAgent

open Effects Traced

/-- What one action meets while it is executed. -/
structure ActMoment where
  /-- `time.time()` when the authorization is signed -/
  authTime : Int
  /-- `time.time()` when the tool is called -/
  callTime : Int
  utcNow : String
  /-- the answer to `icinga_list_problems` -/
  problems : ToolReply
  /-- the answer of the action's own tool -/
  reply : ToolReply

/-- What one executed item meets while it is verified. -/
structure CheckMoment where
  time : Int
  confirm : ToolReply
  rollback : ToolReply
  /-- the answers to the probes, by attempt -/
  probe : Nat → ToolReply

/-! ## The standing-grant envelope -/

/-- `_STANDING_GRANT_SUPPORTED`. -/
def STANDING_GRANT_SUPPORTED : List String := ["acknowledge_icinga"]

/-- `action_class not in _STANDING_GRANT_SUPPORTED`, for a hashable value. -/
def grantSupported (actionClass : Json) : Bool :=
  STANDING_GRANT_SUPPORTED.any fun c => actionClass.isStr c

/-- `int(float(problem.get("state")))`. -/
def stateValue (py : Python) (problem : JsonDict) : Except PyExc Int :=
  match pyFloat py (problem.get "state") with
  | .error e => .error e
  | .ok x => x.toInt

/-- A listed problem is for this host and, when one is wanted, this service. -/
def matchesTarget (py : Python) (host wanted : String) (problem : JsonDict) : Bool :=
  let name := textOf py (problem.get "name")
  strip (textOf py (problem.get "host")) == host &&
    (wanted == "" || wanted == py.lower (strip (afterBang name)) ||
      wanted == py.lower (strip name))

/-- The loop of `_icinga_is_unique_warning`: `except (TypeError, ValueError)` lets an
`OverflowError` through. -/
def scanProblems (py : Python) (host wanted : String) : Nat → List Json → Except PyExc Bool
  | found, [] => .ok (found == 1)
  | found, .dict problem :: rest =>
    if matchesTarget py host wanted problem then
      match stateValue py problem with
      | .error .typeError => .ok false
      | .error .valueError => .ok false
      | .error e => .error e
      | .ok v => if v ≠ 1 then .ok false else scanProblems py host wanted (found + 1) rest
    else scanProblems py host wanted found rest
  | found, _ :: rest => scanProblems py host wanted found rest

/-- `_icinga_is_unique_warning` after the problems are listed. -/
def uniqueWarning (py : Python) (listing : ToolReply) (host : String) (service : Json) :
    Except PyExc Bool :=
  match listing with
  | .returned (.dict res) =>
    match pyIter ((JsonDict.get res "problems").or (.list [])) with
    | .error e => .error e
    | .ok ps => scanProblems py host (py.lower (strip (textOf py service))) 0 ps
  | _ => .ok false

def listProblemsCall : ToolCall where
  tool := "icinga_list_problems"
  arguments := JsonDict.toPy [("object_type", .str "service"), ("limit", .int 100)]

def icingaIsUniqueWarning (py : Python) (m : ActMoment) (host : String) (service : Json) :
    GraphM Bool :=
  if host = "" then pure false
  else do
    tell (.call listProblemsCall m.authTime m.problems)
    orRaise (uniqueWarning py m.problems host service)

/-! ## Execution -/

/-- A refused action: nothing was called. -/
def policyBlocked (action : JsonDict) (reason : String) : JsonDict :=
  [("action", .dict action), ("ok", .bool false),
    ("result", .dict [("error_type", .str "policy_blocked"), ("sanitized_error", .str reason)])]

/-- `int(os.getenv("NOC_STANDING_GRANT_ACK_TTL_S", "86400") or 86400)`. -/
def grantAckTtl (py : Python) (env : Environ) : Except PyExc Int :=
  let raw := (env "NOC_STANDING_GRANT_ACK_TTL_S").getD "86400"
  if raw = "" then .ok 86400
  else
    match py.parseInt raw with
    | some n => .ok n
    | none => .error .valueError

/-- `isinstance(result, dict) and result.get("ok")`. -/
def replyOk (result : Json) : Bool :=
  match result with
  | .dict d => (JsonDict.get d "ok").truthy
  | _ => false

/-- Call the tool and record what it answered. -/
def callRealTool (m : ActMoment) (action decision : JsonDict) (call : ToolCall) :
    GraphM JsonDict := do
  tell (.call call m.callTime m.reply)
  pure [("action", .dict action), ("execution_mode", .str "real_action"),
    ("approved_by", decision.getD "operator" (.str "")),
    ("approval_comment", decision.getD "comment" (.str "")),
    ("approved_at", (decision.get "decided_at").or (.str m.utcNow)),
    ("result", m.reply.value), ("ok", .bool (replyOk m.reply.value))]

/-- The arguments of an acknowledgement, before the envelope adds `expiry` and `notify`. -/
def ackArguments (arguments : PyDict) (decision : JsonDict) : JsonDict :=
  [("host_name", (arguments.get "host").or (arguments.get "host_name")),
    ("service_name", (arguments.get "service").or (arguments.get "service_name")),
    ("author", decision.getD "operator" (.str "noc-agent")),
    ("comment", (arguments.get "comment").or
      (decision.getD "comment" (.str "Approved by NOC operator."))),
    ("action_authorization", arguments.get "action_authorization")]

theorem ackArguments_host (inputs : PyDict) (auth : Json) (decision : JsonDict) :
    (ackArguments (inputs.set "action_authorization" auth) decision).get "host_name" =
      (inputs.get "host").or (inputs.get "host_name") := by
  change ((inputs.set _ auth).get "host").or ((inputs.set _ auth).get "host_name") = _
  simp [PyDict.get_set]

theorem ackArguments_service (inputs : PyDict) (auth : Json) (decision : JsonDict) :
    (ackArguments (inputs.set "action_authorization" auth) decision).get "service_name" =
      (inputs.get "service").or (inputs.get "service_name") := by
  change ((inputs.set _ auth).get "service").or ((inputs.set _ auth).get "service_name") = _
  simp [PyDict.get_set]

/-- The `standing_grant` branch: only a unique WARNING problem, always with an expiry and
without a notification. -/
def acknowledgeUnderGrant (py : Python) (env : Environ) (m : ActMoment)
    (action decision ack : JsonDict) : GraphM JsonDict := do
  let unique ← icingaIsUniqueWarning py m (textOf py (ack.get "host_name")) (ack.get "service_name")
  if unique then do
    let ttl ← orRaise (grantAckTtl py env)
    callRealTool m action decision ⟨"icinga_acknowledge_alert", JsonDict.toPy (ack ++
      [("expiry", .int (epochSeconds m.callTime + max 60 ttl)), ("notify", .bool false)])⟩
  else
    pure (policyBlocked action "Standing grant requires a unique WARNING-state Icinga problem")

def executeRealAction (py : Python) (env : Environ) (m : ActMoment) (state : WorkflowState)
    (action decision : JsonDict) : GraphM JsonDict :=
  let actionClass := action.get "type"
  let standingGrant := textOf py (decision.get "operator") == "standing-grant"
  -- a list or a dict has no hash, and `in` a set needs one
  if standingGrant && !actionClass.hashable then orRaise (.error .typeError)
  else if standingGrant && !grantSupported actionClass then
    pure (policyBlocked action "Action class is not covered by a standing grant")
  else do
    let inputs ← orRaise (pyDict ((action.get "inputs").or (.dict [])))
    let auth ← orRaise (actionAuthorization py env m.authTime state (.dict action) "")
    let arguments := inputs.set "action_authorization" (.dict auth)
    if actionClass.isStr "restart_service" then
      callRealTool m action decision ⟨"os_service_restart", arguments⟩
    else if actionClass.isStr "acknowledge_icinga" then
      let ack := ackArguments arguments decision
      if standingGrant then acknowledgeUnderGrant py env m action decision ack
      else callRealTool m action decision ⟨"icinga_acknowledge_alert", JsonDict.toPy ack⟩
    else pure (policyBlocked action "Unsupported action type")

/-- The guard a tool answered with: `result.get("guard")` when both are dicts. -/
def guardOf (result : Json) : Option JsonDict :=
  match result with
  | .dict d => (JsonDict.get d "guard").dict?
  | _ => none

def guardId (result : Json) : Json :=
  match guardOf result with
  | some guard => guard.get "guard_id"
  | none => .null

def prepareNoopGuard (py : Python) (env : Environ) (m : ActMoment) (state : WorkflowState)
    (action decision : JsonDict) : GraphM JsonDict := do
  let auth ← orRaise (actionAuthorization py env m.authTime state (.dict action) "noop_rollback_guard")
  let inputs ← orRaise (pyDict ((action.get "inputs").or (.dict [])))
  let host := textOf py ((inputs.get "host").or (inputs.get "host_name"))
  let arguments : JsonDict := [("host", .str host),
    ("service", (inputs.get "service").or (inputs.get "service_name")),
    ("action_authorization", .dict auth)]
  tell (.call ⟨"prepare_commit_confirm", JsonDict.toPy arguments⟩ m.callTime m.reply)
  let ident := guardId m.reply.value
  let ok := ident.notNone
  pure [("action", .dict action), ("execution_mode", .str "noop_guard"), ("guard_id", ident),
    ("approval_source", .str "operator_signed"),
    ("authorization_fingerprint", .str (authorizationFingerprint py auth)),
    ("approved_by", decision.getD "operator" (.str "")),
    ("approved_at", (decision.get "decided_at").or (.str m.utcNow)),
    ("result", m.reply.value),
    ("execution_audit", .list [.dict [("ts", .str m.utcNow),
      ("event", .str (if ok then "guard_prepared" else "guard_prepare_failed")),
      ("operator", decision.getD "operator" (.str "")), ("guard_id", ident)]]),
    ("ok", .bool ok)]

/-- One iteration of the loop over the stored actions. -/
def executeAction (py : Python) (env : Environ) (state : WorkflowState) (decision : JsonDict)
    (m : ActMoment) (action : JsonDict) : GraphM JsonDict :=
  if flag env "NOC_ENABLE_NOOP_ROLLBACK_GUARDS" then prepareNoopGuard py env m state action decision
  else executeRealAction py env m state action decision

/-- `item["ok"]`. -/
def itemOk (item : JsonDict) : Bool := (item.get "ok").truthy

/-- How the results of the loop are summed up. -/
def executedState (noopGuards : Bool) (results : List JsonDict) : String :=
  if results.isEmpty then "approved_no_executable_action"
  else if results.all itemOk then
    if noopGuards then "noop_guards_prepared" else "executed"
  else "execution_failed"

/-- The end of the node: the audit post of a standing grant and the state update. -/
def recordResults (py : Python) (env : Environ) (state : WorkflowState)
    (results : List JsonDict) : GraphM WorkflowState := do
  let approvalState := executedState (flag env "NOC_ENABLE_NOOP_ROLLBACK_GUARDS") results
  if textOf py (state.decision.get "operator") = "standing-grant" then
    tell (.announce (approvalState == "executed") approvalState)
  pure { state with
    approvalState := some (.str approvalState)
    executedActions := state.executedActions ++ results }

def executeApprovedRemediation (py : Python) (env : Environ) (acts : Nat → ActMoment)
    (state : WorkflowState) : GraphM WorkflowState :=
  let decision := state.decision
  if !(decision.get "decision").isStr "approved" then
    pure { state with
      approvalState := some (decision.getD "decision" (.str "acknowledged")) }
  else if !flag env "NOC_ENABLE_APPROVED_EXECUTION" then
    pure { state with approvalState := some (.str "execution_disabled") }
  else do
    let actions ← orRaise (storedStructuredActions state)
    let results ← mapT (fun a => executeAction py env state decision (acts a.2) a.1) actions.zipIdx
    recordResults py env state results

section Equations

variable {py : Python} {env : Environ} {acts : Nat → ActMoment} {state : WorkflowState}

theorem executeApprovedRemediation_not_approved
    (h : state.decision.get "decision" ≠ .str "approved") :
    executeApprovedRemediation py env acts state = pure { state with
      approvalState := some (state.decision.getD "decision" (.str "acknowledged")) } := by
  have hd : (state.decision.get "decision").isStr "approved" = false := by
    rw [Bool.eq_false_iff, ne_eq, Json.isStr_iff]
    exact h
  simp [executeApprovedRemediation, hd]

theorem executeApprovedRemediation_disabled
    (h : state.decision.get "decision" = .str "approved")
    (hf : flag env "NOC_ENABLE_APPROVED_EXECUTION" = false) :
    executeApprovedRemediation py env acts state =
      pure { state with approvalState := some (.str "execution_disabled") } := by
  simp [executeApprovedRemediation, h, hf, Json.isStr]

theorem executeApprovedRemediation_approved
    (h : state.decision.get "decision" = .str "approved")
    (hf : flag env "NOC_ENABLE_APPROVED_EXECUTION" = true) :
    executeApprovedRemediation py env acts state =
      (orRaise (storedStructuredActions state) >>= fun actions =>
        mapT (fun a => executeAction py env state state.decision (acts a.2) a.1) actions.zipIdx >>=
          recordResults py env state) := by
  simp [executeApprovedRemediation, h, hf, Json.isStr]

theorem result_recordResults (results : List JsonDict) :
    (recordResults py env state results).result = .ok { state with
      approvalState := some (.str
        (executedState (flag env "NOC_ENABLE_NOOP_ROLLBACK_GUARDS") results))
      executedActions := state.executedActions ++ results } := by
  unfold recordResults
  split <;> rfl

end Equations

/-! ## Verification -/

/-- `_ROUTER_ALIASES`. -/
def ROUTER_ALIASES : List (String × String) :=
  [("cr1-nl1", "cr1-nl1"), ("cr1.nl1", "cr1-nl1"), ("cr1_nl1", "cr1-nl1"),
    ("cr1-de1", "cr1-de1"), ("cr1.de1", "cr1-de1"), ("cr1_de1", "cr1-de1")]

/-- `_PROMETHEUS_NODE_INSTANCES`. -/
def PROMETHEUS_NODE_INSTANCES : List (String × String) :=
  [("cr1-nl1", "[2a0c:b641:b50::a]:9100"), ("cr1-de1", "[2a0c:b641:b50::b]:9100")]

def prometheusInstanceFor (host : String) : Option String :=
  PROMETHEUS_NODE_INSTANCES.lookup ((ROUTER_ALIASES.lookup host).getD host)

/-- A row whose value prints as `1`. -/
def rowUp (py : Python) (row : Json) : Bool :=
  match row with
  | .dict d => pyStr py (JsonDict.get d "value") == "1"
  | _ => false

/-- `_prometheus_up`. -/
def prometheusUp (py : Python) (response : Json) : Except PyExc Bool :=
  match response with
  | .dict d =>
    if !(JsonDict.getD d "ok" (.bool false)).truthy then .ok false
    else if (JsonDict.get d "result").truthy then
      (pyIter (JsonDict.get d "result")).map fun rows => rows.any (rowUp py)
    else
      match (JsonDict.get d "data").or (.dict []) with
      | .dict data =>
        (pyIter ((JsonDict.get data "result").or (.list []))).map fun rows => rows.any (rowUp py)
      | _ => .error .attributeError
  | _ => .ok false

/-- The query `up` of one instance. -/
def upQuery (inst : String) : String := "up\x7binstance=\"" ++ inst ++ "\"\x7d"

/-- The probe loop, from this attempt on; it stops at the first success. -/
def probeLoop (py : Python) (m : CheckMoment) (query : String) :
    List Nat → GraphM (Bool × List Json)
  | [] => pure (false, [])
  | attempt :: rest => do
    let response := m.probe attempt
    tell (.call ⟨"prometheus_query", JsonDict.toPy [("query", .str query)]⟩ m.time response)
    let ok ← orRaise (prometheusUp py response.value)
    let entry : Json := .dict [("attempt", .int attempt), ("query", .str query),
      ("ok", .bool ok), ("response", response.value)]
    if ok then pure (true, [entry])
    else do
      let more ← probeLoop py m query rest
      pure (more.1, entry :: more.2)

/-- `for attempt in range(1, 4)`. -/
def PROBE_ATTEMPTS : List Nat := [1, 2, 3]

/-- `isinstance(guard, dict) and guard.get("status") == "confirmed"`. -/
def guardConfirmed (result : Json) : Bool :=
  match guardOf result with
  | some guard => (guard.get "status").isStr "confirmed"
  | none => false

def finalizeNoopGuard (py : Python) (env : Environ) (m : CheckMoment) (state : WorkflowState)
    (item : JsonDict) : GraphM JsonDict :=
  let ident := item.get "guard_id"
  if !ident.truthy then
    pure [("guard_id", .null), ("mode", .str "noop_guard"), ("ok", .bool false),
      ("event", .str "missing_guard")]
  else do
    let action := (item.get "action").or (.dict [])
    let auth ← orRaise (actionAuthorization py env m.time state action "noop_rollback_guard")
    let arguments := JsonDict.toPy [("guard_id", ident), ("action_authorization", .dict auth)]
    tell (.call ⟨"confirm_change", arguments⟩ m.time m.confirm)
    if guardConfirmed m.confirm.value then
      pure [("guard_id", ident), ("mode", .str "noop_guard"), ("ok", .bool true),
        ("event", .str "guard_confirmed"), ("result", m.confirm.value)]
    else do
      tell (.call ⟨"rollback_change", arguments⟩ m.time m.rollback)
      pure [("guard_id", ident), ("mode", .str "noop_guard"), ("ok", .bool false),
        ("event", .str "guard_rolled_back"), ("result", m.rollback.value)]

/-- The host to probe: `inputs` when they are a dict, else the action itself. -/
def targetHost (py : Python) (action : JsonDict) : String :=
  let inputs := match action.get "inputs" with | .dict d => d | _ => action
  textOf py ((JsonDict.get inputs "host").or (JsonDict.get inputs "host_name"))

/-- One iteration of the loop over the executed items that succeeded. -/
def verifyItem (py : Python) (env : Environ) (state : WorkflowState) (m : CheckMoment)
    (item : JsonDict) : GraphM JsonDict :=
  if (item.get "execution_mode").isStr "noop_guard" then finalizeNoopGuard py env m state item
  else do
    let action ← orRaise (requireDict ((item.get "action").or (.dict [])))
    let host := targetHost py action
    if (action.get "type").isStr "acknowledge_icinga" then
      pure [("host", .str host), ("ok", .bool true), ("method", .str "ack_execution_result"),
        ("attempts", .list [])]
    else
      match prometheusInstanceFor host with
      | none =>
        pure [("host", .str host), ("ok", .bool false),
          ("error", .str "No Prometheus instance mapping for host"), ("attempts", .list [])]
      | some inst => do
        let probes ← probeLoop py m (upQuery inst) PROBE_ATTEMPTS
        pure [("host", .str host), ("instance", .str inst), ("ok", .bool probes.1),
          ("attempts", .list probes.2)]

/-- How verification sums up. -/
def verifiedState (before : Option Json) (executed results : List JsonDict) : Json :=
  if executed.isEmpty then before.getD (.str "approved_no_executable_action")
  else if results.all itemOk then .str "verified"
  else .str "verification_failed"

def verifyRemediation (py : Python) (env : Environ) (checks : Nat → CheckMoment)
    (state : WorkflowState) : GraphM WorkflowState := do
  let executed := state.executedActions.zipIdx.filter fun item => itemOk item.1
  let results ← mapT (fun item => verifyItem py env state (checks item.2) item.1) executed
  pure { state with
    approvalState := some (verifiedState state.approvalState (executed.map Prod.fst) results)
    verificationResults := state.verificationResults ++ results }

end NocAgent
