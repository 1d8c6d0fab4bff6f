import NocAgent.Cases.Acknowledgement
import NocAgent.Cases.GraphMemory

/-!
# Operator decisions

* `recordOperatorDecision` — what the graph runtime does with a decision: it resumes the
  investigation or not, and records the summary and the case.
* `applyPrimaryDecisionState`, `writeOperatorFeedback` — what the routes do besides.
* `decideIncident`, `signedResume`, `controlCaseDecision`, `loopConsoleDecision`,
  `discordDecision` — the routes.
-/

set_option autoImplicit false

namespace NocAgent.Cases

open Effects Effects.Action Keyed

/-! ## Text and values -/

section Text

variable (py : Python)

/-- `_safe_monitor_token`. -/
def safeMonitorToken (limit : Nat) (value : Json) : String :=
  let kept := String.ofList ((textOf py value).toList.filter (tokenChar py))
  takeChars limit (if kept = "" then "unknown" else kept)

/-- `safe_monitor_text`. -/
def safeMonitorText (limit : Nat) (value : Json) : String :=
  let cleaned := (textOf py value).toList.map fun c =>
    if c ∈ _BLOCKED_TEXT_CHARS ∨ c.toNat < 32 then ' ' else c
  let rendered := collapseSpace (String.ofList cleaned)
  takeChars limit (if rendered = "" then "—" else rendered)

mutual

/-- `_safe_case_service_output_value`. -/
def safeOutputValue (stringLimit : Nat) : Json → Json
  | .str s => .str (safeMonitorText py stringLimit (.str s))
  | .list xs => .list ((safeOutputItems stringLimit xs).take 50)
  | .dict kvs => .dict (dictMerge [] ((safeOutputFields stringLimit kvs).take 100))
  | value => value

def safeOutputItems (stringLimit : Nat) : List Json → List Json
  | [] => []
  | x :: xs => safeOutputValue stringLimit x :: safeOutputItems stringLimit xs

def safeOutputFields (stringLimit : Nat) : List (String × Json) → List (String × Json)
  | [] => []
  | (key, value) :: rest =>
    (safeMonitorToken py 80 (.str key), safeOutputValue stringLimit value) ::
      safeOutputFields stringLimit rest

end

/-- `_safe_case_service_feedback_payload`. -/
def safeFeedbackPayload (payload : JsonDict) : JsonDict :=
  dictMerge [] (payload.map fun kv =>
    (safeMonitorToken py 64 (.str kv.1), safeOutputValue py 1000 kv.2))

end Text

def httpException (status : Nat) (detail : String) : PyExc :=
  .named "HTTPException" (toString status ++ ": " ++ detail)

/-! ## The decision in the graph runtime -/

/-- What a route reads of the clock and draws while it handles a decision. -/
structure DecisionDraws where
  decidedAt : String
  summarizedAt : String
  summary : GraphDraws
  update : GraphDraws
  ackedAt : String
  ack : Draw
  appliedAt : String
  applied : Draw
  feedbackId : String
  feedbackCreatedAt : String
  feedbackAt : String
  feedback : Draw

/-- `summary if summary else None`. -/
def truthyDict (summary : Option JsonDict) : Option JsonDict := summary.filter fun d => !d.isEmpty

/-- The fields that `update_case` gets with a decision. -/
def decisionFields (decision summary : JsonDict) : JsonDict :=
  [("status", .str (if (summary.get "status").isStr "waiting_approval" then "waiting_approval"
      else "resolved")),
    ("decision_status", summary.get "status"),
    ("operator_decision", .dict decision),
    ("executed_actions", summary.getD "executed_actions" (.list [])),
    ("verification_results", summary.getD "verification_results" (.list []))]

/-- The summary of a decision that did not resume the investigation. -/
def decidedSummary (status : Json) (decision summary : JsonDict) (now : String) : JsonDict :=
  dictMerge summary
    [("status", .str (if status.isStr "approved" then "approved"
        else if status.isStr "rejected" then "rejected" else "finalized")),
      ("operator_decision", .dict decision),
      ("updated_at", .str now)]

/-- The status in the summary after an approval, by the approval state of the graph. -/
def finalStatus (approval : Json) : String :=
  if approval.isStr "verified" then "resolved"
  else if ["verification_failed", "execution_failed", "approved_no_executable_action"].any
    approval.isStr then "waiting_approval"
  else "approved"

section Runtime

variable (py : Python)

/-- The summary and the case get the decision. -/
def storeDecision (incidentId : String) (decision summary : JsonDict) (draws : DecisionDraws) :
    StoreM Unit := do
  putSummary py incidentId summary draws.summary
  let _ ← updateCase py incidentId (decisionFields decision summary) draws.update
  pure ()

/-- `_persist_final_decision`. -/
def persistFinalDecision (incidentId : String) (decision finalState : JsonDict)
    (draws : DecisionDraws) : StoreM (Option JsonDict) := do
  let summary ← getSummary py incidentId
  match truthyDict summary with
  | none => pure none
  | some summary => do
    let executed ← ofResult (pyIter (finalState.getD "executed_actions" (.list [])))
    let results ← ofResult (pyIter (finalState.getD "verification_results" (.list [])))
    let approval := finalState.get "approval_state"
    raiseIf (approval.hashable = false) .typeError
    let summary := dictMerge summary
      [("status", .str (finalStatus approval)),
        ("operator_decision", .dict decision),
        ("updated_at", .str draws.summarizedAt),
        ("approval_state", finalState.getD "approval_state" (.str "approved")),
        ("executed_actions", .list executed),
        ("verification_results", .list results)]
    storeDecision py incidentId decision summary draws
    pure (some summary)

/-- `resume` is the graph, which goes on in a thread with a decision: it reads and writes the store
and ends with its state. -/
abbrev GraphResume := Json → JsonDict → StoreM JsonDict

variable (resume : GraphResume)

def resumeInvestigation (incidentId : String) (decision : JsonDict) : StoreM (Option JsonDict) := do
  let resolved ← resolveCaseIdentifier incidentId
  let summary ← getSummary py (orText (resolved.getD "") incidentId)
  match truthyDict summary with
  | none => pure none
  | some summary =>
    let threadId := summary.get "thread_id"
    if threadId.truthy = false then pure none
    else do
      raiseIf (threadId.hashable = false) .typeError
      let state ← resume threadId decision
      pure (some (dictWithout state "__interrupt__"))

def recordOperatorDecision (incidentId : String) (decision : JsonDict) (draws : DecisionDraws) :
    StoreM (Option JsonDict) := do
  let resolved ← resolveCaseIdentifier incidentId
  let incidentId := orText (resolved.getD "") incidentId
  let decision : JsonDict := dictPut decision "incident_id" (.str incidentId)
  let summary ← getSummary py incidentId
  match truthyDict summary with
  | none => pure none
  | some summary => do
    let status := decision.getD "decision" (.str "acknowledged")
    let finalState ←
      if status.isStr "approved" ∧ (summary.get "thread_id").truthy then
        resumeInvestigation py resume incidentId decision
      else pure none
    match finalState with
    | some finalState => do
      let persisted ← persistFinalDecision py incidentId decision finalState draws
      pure (some ((truthyDict persisted).getD summary))
    | none => do
      let summary := decidedSummary status decision summary draws.summarizedAt
      storeDecision py incidentId decision summary draws
      pure (some summary)

end Runtime

/-! ## The parts of the routes -/

/-- The decisions that `LocalDecisionRequest` and `ApprovalDecision` let through. -/
def DECISIONS : List String := ["approved", "rejected", "acknowledged"]

/-- What an operator decides on a case. -/
structure DecisionRequest where
  decision : String
  operator : String
  comment : String := ""

/-- `model_dump()` of the request. -/
def DecisionRequest.dump (request : DecisionRequest) : JsonDict :=
  [("decision", .str request.decision), ("operator", .str request.operator),
    ("comment", .str request.comment)]

/-- `ApprovalDecision(...).model_dump()`. -/
def DecisionRequest.approval (request : DecisionRequest) (incidentId decidedAt : String) :
    JsonDict :=
  ("incident_id", .str incidentId) :: request.dump ++ [("decided_at", .str decidedAt)]

def CaseProjection.updatedAt : CaseProjection → String
  | .atomic case => case.updatedAt
  | .storm case => case.updatedAt

/-- `list_cases(limit=limit)`: the latest update first. -/
def Store.listCases (s : Store) (limit : Nat) : List CaseProjection :=
  (s.cases.rows.insertionSort fun a b => b.updatedAt ≤ a.updatedAt).take limit

/-- A meta case has no number. -/
def CaseProjection.HasNumber (text : String) (case : CaseProjection) : Prop :=
  ∃ atomic ∈ case.atomic?, strip atomic.caseNumber = text

instance (text : String) (case : CaseProjection) : Decidable (case.HasNumber text) := by
  unfold CaseProjection.HasNumber; infer_instance

/-- `_feedback_type_for_decision`. -/
def feedbackTypeForDecision (decision : String) : String :=
  if decision = "approved" then "operator_confirmed_diagnosis"
  else if decision = "rejected" then "operator_rejected_diagnosis"
  else "operator_note"

section Routes

variable (py : Python) (policy : CasePolicy)

/-- `_validated_case_service_lookup_identifier`; `none` is a response with status 422. -/
def validatedLookupIdentifier (value : String) : Option String :=
  let rendered := strip value
  if 1 ≤ rendered.length ∧ rendered.length ≤ 128 ∧
      rendered.toList.all (fun c => py.isAlnum c || c ∈ ['_', '-', ':', '.']) then some rendered
  else none

/-- The check that `_case_service_control_summary` makes of the id of its case. -/
def checkSummaryId (caseId : String) : StoreM Unit := do
  let _ ← orRaise (validatedLookupIdentifier py caseId)
    (httpException 422 "case identifier contains invalid characters")
  pure ()

/-- `_case_service_case_for_identifier`. -/
def caseForIdentifier (identifier : String) : StoreM (Option CaseProjection) := do
  let text ← orRaise (validatedLookupIdentifier py identifier)
    (httpException 422 "case identifier contains invalid characters")
  let case ← getCase text
  match case with
  | some case => pure (some case)
  | none => peek fun s => (s.listCases 500).find? fun case => case.HasNumber text

/-- `record_operator_feedback`. -/
def recordOperatorFeedback (feedback : OperatorFeedback) (now : String) (draw : Draw) :
    StoreM Unit := do
  let stored ← recordFeedback feedback
  match truthyId stored.caseId with
  | none => pure ()
  | some caseId => do
    let case ← requireAtomicCase caseId
    if stored.feedbackId ∈ case.feedbackIds then pure ()
    else do
      putCase { case with
        feedbackIds := case.feedbackIds ++ [stored.feedbackId]
        updatedAt := now
        policyVersion := policy.policyVersion }
      let _ ← storeEvent {
        eventId := draw.eventId
        caseId := some case.caseId
        eventType := "operator_feedback_recorded"
        actorType := .operator
        actorId := stored.actorId
        occurredAt := draw.now
        policyVersion := policy.policyVersion
        payload := [("feedback_id", .str stored.feedbackId),
          ("feedback_type", .str stored.feedbackType)] }
      pure ()

/-- `_write_case_service_operator_feedback` for a decision; an empty `feedbackId` draws one. -/
def writeOperatorFeedback (caseId : String) (request : DecisionRequest) (payload : JsonDict)
    (submittedIdentifier feedbackId : String) (draws : DecisionDraws) : StoreM Unit := do
  raiseIf (caseId = "") .validationError
  caseWriteGuard caseId (recordOperatorFeedback policy {
    feedbackId := orText feedbackId draws.feedbackId
    caseId := some caseId
    actorId := safeMonitorToken py 120 (.str (orText request.operator "unknown"))
    feedbackType := feedbackTypeForDecision request.decision
    payload := dictMerge (safeFeedbackPayload py payload)
      [("comment", .str (safeMonitorText py 1000 (.str request.comment))),
        ("submitted_identifier",
          .str (safeMonitorToken py 128 (.str (orText submittedIdentifier caseId)))),
        ("untrusted_operator_text", .bool true),
        ("model_consumption_allowed", .bool false)]
    createdAt := draws.feedbackCreatedAt } draws.feedbackAt draws.feedback)

/-- The case with a verdict. -/
def decidedCase (case : AtomicCaseProjection) (decision : String) (dump : JsonDict)
    (summary : Option JsonDict) (now : String) : AtomicCaseProjection :=
  let summaryStatus := pyStr py (((summary.getD []).get "status").or (.str decision))
  let diagnosis : JsonDict := match summary with
    | some summary => dictPut case.lastDiagnosis "graph_summary" (safeOutputValue py 2000 (.dict summary))
    | none => case.lastDiagnosis
  { case with
    status := if summaryStatus = "waiting_approval" then .waitingApproval else .resolved
    resolvedAt := if summaryStatus = "waiting_approval" then case.resolvedAt else some now
    resolutionReason := if summaryStatus = "waiting_approval" then case.resolutionReason
      else "operator_" ++ decision
    updatedAt := now
    lastDiagnosis := dictPut (dictPut diagnosis "operator_decision"
        (safeOutputValue py 2000 (.dict dump)))
      "decision_status" (.str (safeMonitorToken py 64 (.str summaryStatus))) }

/-- `_apply_case_service_primary_decision_state`; an empty `eventId` draws one. -/
def applyPrimaryDecisionState (case : CaseProjection) (request : DecisionRequest) (dump : JsonDict)
    (summary : Option JsonDict) (eventId : String) (draws : DecisionDraws) :
    StoreM CaseProjection :=
  match case with
  | .storm case => pure (.storm case)
  | .atomic case =>
    if request.decision ∉ ["approved", "rejected"] then pure (.atomic case)
    else caseWriteGuard case.caseId do
      let latest ← getCase case.caseId
      -- a meta case has none of the fields that are set
      raiseIf (latest.any fun latest => latest.atomic?.isNone) .valueError
      let decided := decidedCase py ((latest.bind CaseProjection.atomic?).getD case)
        request.decision dump summary draws.appliedAt
      putCase decided
      let summaryStatus := pyStr py (((summary.getD []).get "status").or (.str request.decision))
      let _ ← storeEvent {
        eventId := orText eventId draws.applied.eventId
        caseId := some decided.caseId
        eventType := "operator_decision_recorded"
        actorType := .operator
        actorId := safeMonitorToken py 120 (.str request.operator)
        occurredAt := draws.applied.now
        payload := [("decision", .str (safeMonitorToken py 32 (.str request.decision))),
          ("summary_status", .str (safeMonitorToken py 64 (.str summaryStatus)))] }
      pure (.atomic decided)

/-- `_case_service_graph_incident_identifier`; a meta case has no diagnosis. -/
def graphIncidentIdentifier (case : CaseProjection) : String :=
  let diagnosis : JsonDict := (case.atomic?.map AtomicCaseProjection.lastDiagnosis).getD []
  safeMonitorToken py 128 ((diagnosis.get "incident_id").or (.str case.caseId))

/-! ## The routes -/

variable (resume : GraphResume)

/-- `_record_case_service_primary_decision`. -/
def recordPrimaryDecision (case : CaseProjection) (request : DecisionRequest)
    (draws : DecisionDraws) : StoreM (Option JsonDict) := do
  let incidentId := graphIncidentIdentifier py case
  let summary ← recordOperatorDecision py resume incidentId
    (request.approval incidentId draws.decidedAt) draws
  raiseIf (summary.isNone ∧ request.decision = "approved")
    (httpException 409 "No resumable investigation found for CaseService case")
  pure summary

/-- `_case_service_control_decision_response`, on the case. -/
def settleControlDecision (case : CaseProjection) (request : DecisionRequest)
    (summary : Option JsonDict) (draws : DecisionDraws) : StoreM CaseProjection :=
  if request.decision = "acknowledged" then do
    let acked ← ack policy case.caseId (safeMonitorToken py 120 (.str request.operator)) ""
      draws.ackedAt draws.ack
    pure (.atomic acked)
  else applyPrimaryDecisionState py case request request.dump summary "" draws

/-- `POST /control/cases/{case_id}/decision`. -/
def controlCaseDecision (identifier : String) (request : DecisionRequest) (draws : DecisionDraws) :
    StoreM (CaseProjection × Option JsonDict) := do
  raiseIf (request.decision ∉ DECISIONS) .validationError
  let case ← caseForIdentifier py identifier
  let case ← orRaise case (httpException 404 "Case not found")
  let summary ← recordPrimaryDecision py resume case request draws
  let case ← settleControlDecision py policy case request summary draws
  writeOperatorFeedback py policy case.caseId request
    [("source", .str "control_case_decision"), ("decision", .str request.decision)] case.caseId ""
    draws
  let updated ← caseForIdentifier py case.caseId
  let updated := updated.getD case
  if (truthyDict summary).isNone then checkSummaryId py updated.caseId
  pure (updated, summary)

/-- `_loop_console_action_id`, of a decision. -/
def loopConsoleActionId (idempotencyKey caseId : String) : String :=
  "evt_loop_console_" ++ takeChars 16 (py.sha256 ("decision:" ++ caseId ++ ":" ++ idempotencyKey))

/-- `_loop_console_feedback_id`, of a decision. -/
def loopConsoleFeedbackId (idempotencyKey caseId : String) : String :=
  "fb_loop_console_" ++ takeChars 16 (py.sha256 ("decision:" ++ caseId ++ ":" ++ idempotencyKey))

/-- `_loop_console_has_event`. -/
def Store.HasEvent (s : Store) (caseId eventId : String) : Prop :=
  ∃ id ∈ (s.caseEvents caseId).getD [], ∃ event ∈ s.events.get? id, event.eventId = eventId

instance (s : Store) (caseId eventId : String) : Decidable (s.HasEvent caseId eventId) := by
  unfold Store.HasEvent; infer_instance

/-- `loop_console_case_decision`, on the case. -/
def settleConsoleDecision (case : AtomicCaseProjection) (request : DecisionRequest)
    (eventId : String) (draws : DecisionDraws) : StoreM (CaseProjection × Option JsonDict) := do
  let repeated ← peek fun s => decide (s.HasEvent case.caseId eventId)
  if repeated then do
    checkSummaryId py case.caseId
    pure (.atomic case, none)
  else if request.decision = "acknowledged" then do
    let acked ← ack policy case.caseId (safeMonitorToken py 120 (.str request.operator)) eventId
      draws.ackedAt draws.ack
    checkSummaryId py acked.caseId
    pure (.atomic acked, none)
  else do
    let summary ← recordPrimaryDecision py resume (.atomic case) request draws
    let updated ← applyPrimaryDecisionState py (.atomic case) request request.dump summary eventId
      draws
    pure (updated, summary)

/-- `POST /loop-console/v1/cases/{case_id}/decision`. -/
def loopConsoleDecision (identifier : String) (request : DecisionRequest) (idempotencyKey : String)
    (draws : DecisionDraws) : StoreM (CaseProjection × Option JsonDict) := do
  raiseIf (request.decision ∉ DECISIONS) .validationError
  let case ← caseForIdentifier py identifier
  let case ← orRaise case (httpException 404 "Case not found")
  let atomic ← orRaise case.atomic?
    (httpException 409 "Loop Console action requires an atomic case")
  let settled ← settleConsoleDecision py policy resume atomic request
    (loopConsoleActionId py idempotencyKey atomic.caseId) draws
  let caseId := settled.1.caseId
  writeOperatorFeedback py policy caseId request
    [("source", .str "loop_console"), ("decision", .str request.decision)] identifier
    (loopConsoleFeedbackId py idempotencyKey caseId) draws
  pure settled

/-- `_record_control_incident_decision`. -/
def recordControlIncidentDecision (incidentId : String) (request : DecisionRequest)
    (dump : JsonDict) (draws : DecisionDraws) : StoreM (Option JsonDict) := do
  let existing ← getSummary py incidentId
  match existing with
  | none => pure none
  | some _ => do
    let summary ← recordOperatorDecision py resume incidentId
      (request.approval incidentId draws.decidedAt) draws
    let caseId ← resolveCaseIdentifier incidentId
    let case ← match truthyId caseId with
      | some caseId => getCase caseId
      | none => pure none
    match case with
    | some case => do
      let _ ← applyPrimaryDecisionState py case request dump summary "" draws
      pure summary
    | none => pure summary

/-- `_record_case_service_operator_feedback`: what it raises is logged. -/
def recordIncidentFeedback (identifier : String) (request : DecisionRequest) (source : String)
    (draws : DecisionDraws) : StoreM Unit :=
  swallow do
    let case ← caseForIdentifier py identifier
    match case.bind CaseProjection.atomic? with
    | none => pure ()
    | some case =>
      writeOperatorFeedback py policy case.caseId request [("source", .str source)] identifier ""
        draws

/-- What `POST /control/incidents/{incident_id}/decision` and `POST /approval/resume` share. -/
def incidentDecision (source : String) (incidentId : String) (request : DecisionRequest)
    (dump : JsonDict) (draws : DecisionDraws) : StoreM JsonDict := do
  raiseIf (request.decision ∉ DECISIONS) .validationError
  let summary ← recordControlIncidentDecision py resume incidentId request dump draws
  let summary ← orRaise summary (httpException 404 "Incident not found")
  recordIncidentFeedback py policy incidentId request source draws
  pure summary

def decideIncident (incidentId : String) (request : DecisionRequest) (draws : DecisionDraws) :
    StoreM JsonDict :=
  incidentDecision py policy resume "control_incident_decision" incidentId request request.dump draws

def signedResume (incidentId : String) (request : DecisionRequest) (draws : DecisionDraws) :
    StoreM JsonDict :=
  incidentDecision py policy resume "signed_resume" incidentId request
    (request.dump ++ [("incident_id", .str incidentId)]) draws

/-- The Discord command and a decision in a message: the decision is any text. -/
def discordDecision (incidentId : String) (request : DecisionRequest) (draws : DecisionDraws) :
    StoreM (Option JsonDict) :=
  recordOperatorDecision py resume incidentId (("incident_id", .str incidentId) :: request.dump) draws

end Routes

end NocAgent.Cases
