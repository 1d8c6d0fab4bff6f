import NocAgent.Lib.Traced
import NocAgent.Python.Value

/-!
# Workflow state, tool calls and action authorizations

* `WorkflowState` — the fields of the graph state that approval, execution and verification
  read and write.
* `GraphEvent` — what a node does to the outside: a tool call with the answer it got, or an
  audit post.
* `storedStructuredActions`, `actionAuthorization` — `_stored_structured_actions` and
  `_action_authorization`.

A tool answers with a JSON value or raises; `_jsonish` is the identity on JSON values.
-/

set_option autoImplicit false

namespace NocAgent

open Effects

/-- A tool, and the arguments it is called with. -/
structure ToolCall where
  tool : String
  arguments : PyDict

/-- What a node does to the outside.  Times are in microseconds. -/
inductive GraphEvent where
  | call (call : ToolCall) (time : Int) (reply : ToolReply)
  | announce (executed : Bool) (approvalState : String)

/-- A node's computation. -/
abbrev GraphM := Traced GraphEvent PyExc

/-- What the nodes of the graph read and write. -/
structure WorkflowState where
  incidentId : String
  proposals : List Json
  operatorDecision : Option JsonDict
  approvalState : Option Json
  executedActions : List JsonDict
  verificationResults : List JsonDict

/-- `state.get("operator_decision") or {}`. -/
def WorkflowState.decision (state : WorkflowState) : JsonDict := state.operatorDecision.getD []

/-- The dicts of a list. -/
def dictItems (xs : List Json) : List JsonDict := xs.filterMap Json.dict?

/-- `_stored_structured_actions`. -/
def storedStructuredActionsOf : List Json → Except PyExc (List JsonDict)
  | [] => .ok []
  | .dict proposal :: rest =>
    match pyIter ((JsonDict.get proposal "structured_actions").or (.list [])) with
    | .error e => .error e
    | .ok actions =>
      match storedStructuredActionsOf rest with
      | .error e => .error e
      | .ok more => .ok (dictItems actions ++ more)
  | _ :: rest => storedStructuredActionsOf rest

def storedStructuredActions (state : WorkflowState) : Except PyExc (List JsonDict) :=
  storedStructuredActionsOf state.proposals

/-- `int(time.time())`. -/
def epochSeconds (time : Int) : Int := time.tdiv 1000000

/-- `int(os.getenv("NOC_ACTION_AUTH_TTL_SECONDS", "300"))`. -/
def actionAuthTtl (py : Python) (env : Environ) : Except PyExc Int :=
  match py.parseInt ((env "NOC_ACTION_AUTH_TTL_SECONDS").getD "300") with
  | some n => .ok n
  | none => .error .valueError

/-- `os.getenv("HYRULE_MCP_ACTION_SIGNING_SECRET") or os.getenv("NOC_APPROVAL_SIGNING_SECRET", "")`. -/
def signingSecret (env : Environ) : String :=
  let secret := (env "HYRULE_MCP_ACTION_SIGNING_SECRET").getD ""
  if secret ≠ "" then secret else (env "NOC_APPROVAL_SIGNING_SECRET").getD ""

/-- `x.get(...)` needs a dict. -/
def requireDict (x : Json) : Except PyExc JsonDict :=
  match x with
  | .dict d => .ok d
  | _ => .error .attributeError

/-- `_action_authorization`. -/
def actionAuthorization (py : Python) (env : Environ) (time : Int) (state : WorkflowState)
    (action : Json) (actionClass : String) : Except PyExc JsonDict :=
  match actionAuthTtl py env, requireDict action with
  | .error e, _ => .error e
  | .ok _, .error e => .error e
  | .ok ttl, .ok action =>
    let operator := (state.decision.get "operator").or (.str "noc-agent")
    let payload : JsonDict := [
      ("action_id", .str (textOf py (action.get "action_id"))),
      ("case_id", .str state.incidentId),
      ("operator", .str (pyStr py operator)),
      ("action_class", .str (if actionClass ≠ "" then actionClass else
        textOf py (action.get "type"))),
      ("expiry", .int (epochSeconds time + ttl))]
    let secret := signingSecret env
    .ok (if secret ≠ "" then
      payload ++ [("signature", .str (py.hmac secret (py.dumps (.dict payload))))]
    else payload)

/-- `_authorization_fingerprint`. -/
def authorizationFingerprint (py : Python) (authorization : JsonDict) : String :=
  let signature := textOf py (authorization.get "signature")
  if signature = "" then "" else "sha256:" ++ takeChars 32 (py.sha256 signature)

/-- An authorization is refused only for an unreadable lifetime. -/
theorem actionAuthorization_dict (py : Python) (env : Environ) (time : Int)
    (state : WorkflowState) (action : JsonDict) (actionClass : String) :
    match actionAuthTtl py env with
    | .error e => actionAuthorization py env time state (.dict action) actionClass = .error e
    | .ok _ => ∃ auth, actionAuthorization py env time state (.dict action) actionClass =
        .ok auth := by
  unfold actionAuthorization requireDict
  cases actionAuthTtl py env with
  | error e => rfl
  | ok ttl => exact ⟨_, rfl⟩

end NocAgent
