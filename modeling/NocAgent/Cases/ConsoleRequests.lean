import NocAgent.Cases.ResultRequests
import NocAgent.Lib.Once

/-!
# Loop-console requests, call by call

* `suppress` — an operator or an agent suppresses a case for a time.
* `StateChange` — what a request changes; `Calls` — a request as the store calls it makes.
* `ConsoleRequest`, `ConsoleRequest.calls` — the requests to acknowledge, to suppress and to decide a
  case; `resultCalls` — to record a verification result.
* `consoleRequest_run`, `resultCalls_run` — a request that nobody interrupts does what its route
  says.
-/

set_option autoImplicit false

namespace NocAgent.Cases

open Effects Effects.Action Keyed

/-! ## Suppressing a case -/

section Suppress

variable (py : Python) (policy : CasePolicy)

/-- When a suppression ends; one for no time has no end. -/
def suppressionEnd (ttlSeconds : Option Nat) (now : Int) : Except PyExc (Option Int) :=
  let ttl := ttlSeconds.getD policy.suppressionDefaultTtlS
  if 0 < ttl then (asInstant (now + ttl * 1000000)).map some else .ok none

/-- The case with a suppression. -/
def withSuppression (case : AtomicCaseProjection) (reason : String) (source : SuppressionSource)
    (ending : Option Int) (now : Int) : AtomicCaseProjection :=
  let suppressedUntil := (ending.map py.isoformat).getD ""
  { case with
    suppressedUntil := suppressedUntil
    snoozedUntil := suppressedUntil
    suppressionReason := reason
    suppressionSource := some source
    updatedAt := py.isoformat now
    policyVersion := policy.policyVersion }

/-- `suppress`; an empty `eventId` draws a fresh one. -/
def suppress (caseId reason : String) (source : SuppressionSource) (operator : String)
    (ttlSeconds : Option Nat) (eventId : String) (now : Int) (draw : Draw) :
    StoreM AtomicCaseProjection := do
  let case ← requireAtomicCase caseId
  let ending ← ofResult (suppressionEnd policy ttlSeconds now)
  let suppressed := withSuppression py policy case reason source ending now
  putCase suppressed
  let _ ← storeEvent {
    eventId := orText eventId draw.eventId
    caseId := some case.caseId
    eventType := "case_suppressed"
    actorType := match source with
      | .operator => .operator
      | .agent => .system
    actorId := operator
    occurredAt := draw.now
    policyVersion := policy.policyVersion
    payload := [("reason", .str reason), ("source", .str source.text),
      ("suppressed_until", .str suppressed.suppressedUntil)] }
  pure suppressed

end Suppress

/-! ## The calls of a request -/

/-- What a request changes: the acknowledgement or the suppression of a case, the investigation that
it resumes, the summary and the case that get a decision, the pass count of an objective. -/
inductive StateChange where
  | acknowledged
  | suppressed
  | resumed
  | summarized
  | decided
  | counted
  deriving DecidableEq, Repr

abbrev Calls := Script Store PyExc (Effects.Part StateChange)

/-- One store call that makes none of the changes. -/
def Calls.plain {α : Type} (x : StoreM α) : Calls α := .ofAction .other x

/-- The store call that makes a change. -/
def Calls.change {α : Type} (c : StateChange) (x : StoreM α) : Calls α := .ofAction (.change c) x

/-- What a request draws. -/
structure ConsoleDraws extends DecisionDraws where
  suppressedAt : Int
  suppressed : Draw

namespace Calls

section GraphMemory

def resolveByAlias (text : String) : List AliasType → Calls (Option String)
  | [] => plain (peek fun s => s.caseByNumber? text)
  | aliasType :: rest => do
    let caseId ← plain (resolveAlias aliasType text)
    match truthyId caseId with
    | some caseId => pure (some caseId)
    | none => resolveByAlias text rest

/-- `resolve_case_identifier`. -/
def resolveCaseIdentifier (identifier : String) : Calls (Option String) :=
  let text := strip identifier
  if text = "" then pure none
  else do
    let direct ← plain (getCase text)
    match direct.bind CaseProjection.atomic? with
    | some case => pure (some case.caseId)
    | none => resolveByAlias text [.sourceFp, .sourceEventId]

/-- `_case`. -/
def graphCase (incidentId : String) : Calls (Option AtomicCaseProjection) := do
  let caseId ← resolveCaseIdentifier incidentId
  let case ← plain (getCase (orText (caseId.getD "") incidentId))
  pure (case.bind CaseProjection.atomic?)

/-- `_require_case`. -/
def requireGraphCase (incidentId : String) : Calls AtomicCaseProjection := do
  let case ← graphCase incidentId
  .orStop case .keyError

variable (py : Python)

def getSummary (incidentId : String) : Calls (Option JsonDict) := do
  let case ← graphCase incidentId
  pure ((case.bind AtomicCaseProjection.graphSummary).map (boundedDict py 1000 5))

/-- `put_summary`, with a decision. -/
def putSummary (incidentId : String) (summary : JsonDict) (draws : GraphDraws) : Calls Unit := do
  let case ← requireGraphCase incidentId
  change .summarized (caseWriteGuard case.caseId (writeSummary py case.caseId summary draws))

/-- `update_case`. -/
def updateCase (incidentId : String) (fields : JsonDict) (draws : GraphDraws) :
    Calls AtomicCaseProjection := do
  let case ← requireGraphCase incidentId
  plain (caseWriteGuard case.caseId (writeCaseUpdate py case.caseId fields draws))

end GraphMemory

section Decision

variable (py : Python) (policy : CasePolicy) (resume : GraphResume)

/-- The summary and the case get the decision. -/
def storeDecision (incidentId : String) (decision summary : JsonDict) (draws : DecisionDraws) :
    Calls Unit := do
  putSummary py incidentId summary draws.summary
  let _ ← updateCase py incidentId (decisionFields decision summary) draws.update
  pure ()

/-- `_persist_final_decision`. -/
def persistFinalDecision (incidentId : String) (decision finalState : JsonDict)
    (draws : DecisionDraws) : Calls (Option JsonDict) := do
  let summary ← getSummary py incidentId
  match truthyDict summary with
  | none => pure none
  | some summary => do
    let executed ← .ofExcept (pyIter (finalState.getD "executed_actions" (.list [])))
    let results ← .ofExcept (pyIter (finalState.getD "verification_results" (.list [])))
    let approval := finalState.get "approval_state"
    .stopIf (approval.hashable = false) .typeError
    let summary := dictMerge summary
      [("status", .str (finalStatus approval)),
        ("operator_decision", .dict decision),
        ("updated_at", .str draws.summarizedAt),
        ("approval_state", finalState.getD "approval_state" (.str "approved")),
        ("executed_actions", .list executed),
        ("verification_results", .list results)]
    storeDecision py incidentId decision summary draws
    pure (some summary)

/-- `resume_investigation`: the graph goes on with the decision, whatever comes of it. -/
def resumeInvestigation (incidentId : String) (decision : JsonDict) : Calls (Option JsonDict) := do
  let resolved ← resolveCaseIdentifier incidentId
  let summary ← getSummary py (orText (resolved.getD "") incidentId)
  match truthyDict summary with
  | none => pure none
  | some summary =>
    let threadId := summary.get "thread_id"
    if threadId.truthy = false then pure none
    else do
      .stopIf (threadId.hashable = false) .typeError
      let state ← .ofAction (.attempt .resumed) (resume threadId decision)
      pure (some (dictWithout state "__interrupt__"))

/-- What `record_operator_decision` does when the investigation was resumed, and when not. -/
def settleDecision (incidentId : String) (decision summary : JsonDict) (status : Json)
    (draws : DecisionDraws) : Option JsonDict → Calls (Option JsonDict)
  | some finalState => do
    let persisted ← persistFinalDecision py incidentId decision finalState draws
    pure (some ((truthyDict persisted).getD summary))
  | none => do
    let summary := decidedSummary status decision summary draws.summarizedAt
    storeDecision py incidentId decision summary draws
    pure (some summary)

/-- `record_operator_decision`. -/
def recordOperatorDecision (incidentId : String) (decision : JsonDict) (draws : DecisionDraws) :
    Calls (Option JsonDict) := do
  let resolved ← resolveCaseIdentifier incidentId
  let incidentId := orText (resolved.getD "") incidentId
  let decision : JsonDict := dictPut decision "incident_id" (.str incidentId)
  let summary ← getSummary py incidentId
  match truthyDict summary with
  | none => pure none
  | some summary => do
    let status := decision.getD "decision" (.str "acknowledged")
    let finalState ←
      if status.isStr "approved" ∧ (summary.get "thread_id").truthy then
        resumeInvestigation py resume incidentId decision
      else pure none
    settleDecision py incidentId decision summary status draws finalState

/-- `_record_case_service_primary_decision`. -/
def recordPrimaryDecision (case : CaseProjection) (request : DecisionRequest)
    (draws : DecisionDraws) : Calls (Option JsonDict) := do
  let incidentId := graphIncidentIdentifier py case
  let summary ← recordOperatorDecision py resume incidentId
    (request.approval incidentId draws.decidedAt) draws
  .stopIf (summary.isNone ∧ request.decision = "approved")
    (httpException 409 "No resumable investigation found for CaseService case")
  pure summary

/-- `_case_service_control_summary`, which checks the id of its case. -/
def checkSummaryId (caseId : String) : Calls Unit := do
  let _ ← .orStop (validatedLookupIdentifier py caseId)
    (httpException 422 "case identifier contains invalid characters")
  pure ()

/-- `_write_case_service_operator_feedback` for a decision. -/
def writeOperatorFeedback (caseId : String) (request : DecisionRequest) (payload : JsonDict)
    (submittedIdentifier feedbackId : String) (draws : DecisionDraws) : Calls Unit :=
  plain (Cases.writeOperatorFeedback py policy caseId request payload submittedIdentifier feedbackId
    draws)

end Decision

end Calls

/-! ## The requests -/

/-- `LoopConsoleDecisionRequest` allows three decisions. -/
structure ConsoleDecision extends DecisionRequest where
  allowed : decision ∈ DECISIONS

/-- `LoopConsoleAckRequest`, `LoopConsoleSuppressRequest`, `LoopConsoleDecisionRequest`. -/
inductive CaseRequest where
  | ack (actorId idempotencyKey : String)
  | suppress (actorId idempotencyKey reason : String) (ttlSeconds : Option Nat)
  | decision (request : ConsoleDecision) (idempotencyKey : String)

section Requests

variable (py : Python) (policy : CasePolicy) (resume : GraphResume)

/-- The id of the event that a request leaves on its case. -/
def CaseRequest.eventId (caseId : String) : CaseRequest → String
  | .ack _ idempotencyKey => consoleActionId py "ack" idempotencyKey caseId
  | .suppress _ idempotencyKey _ _ => consoleActionId py "suppress" idempotencyKey caseId
  | .decision _ idempotencyKey => consoleActionId py "decision" idempotencyKey caseId

/-- `_loop_console_atomic_case`. -/
def loopConsoleAtomicCase (identifier : String) : StoreM AtomicCaseProjection := do
  let case ← caseForIdentifier py identifier
  let case ← orRaise case (httpException 404 "Case not found")
  orRaise case.atomic? (httpException 409 "Loop Console action requires an atomic case")

/-- `POST /loop-console/v1/cases/{case_id}/ack`. -/
def loopConsoleCaseAck (identifier actorId idempotencyKey : String) (draws : ConsoleDraws) :
    StoreM AtomicCaseProjection := do
  let case ← loopConsoleAtomicCase py identifier
  let eventId := consoleActionId py "ack" idempotencyKey case.caseId
  let repeated ← peek fun s => decide (s.HasEvent case.caseId eventId)
  if repeated then pure case
  else ack policy case.caseId (safeMonitorToken py 120 (.str actorId)) eventId draws.ackedAt draws.ack

/-- `POST /loop-console/v1/cases/{case_id}/suppress`. -/
def loopConsoleCaseSuppress (identifier actorId idempotencyKey reason : String)
    (ttlSeconds : Option Nat) (draws : ConsoleDraws) : StoreM AtomicCaseProjection := do
  let case ← loopConsoleAtomicCase py identifier
  let eventId := consoleActionId py "suppress" idempotencyKey case.caseId
  let repeated ← peek fun s => decide (s.HasEvent case.caseId eventId)
  if repeated then pure case
  else
    suppress py policy case.caseId (safeMonitorText py 800 (.str reason)) .operator
      (safeMonitorToken py 120 (.str actorId)) ttlSeconds eventId draws.suppressedAt
      draws.suppressed

/-- The route of a request, without its response. -/
def CaseRequest.route (identifier : String) (draws : ConsoleDraws) : CaseRequest → StoreM Unit
  | .ack actorId idempotencyKey => do
    let _ ← loopConsoleCaseAck py policy identifier actorId idempotencyKey draws
    pure ()
  | .suppress actorId idempotencyKey reason ttlSeconds => do
    let _ ← loopConsoleCaseSuppress py policy identifier actorId idempotencyKey reason ttlSeconds
      draws
    pure ()
  | .decision request idempotencyKey => do
    let _ ← loopConsoleDecision py policy resume identifier request.toDecisionRequest idempotencyKey
      draws.toDecisionDraws
    pure ()

/-- The calls of a decision after its look. -/
def ConsoleDecision.calls (case : AtomicCaseProjection) (request : ConsoleDecision)
    (eventId : String) (draws : ConsoleDraws) : Bool → Calls String
  | true => do
    Calls.checkSummaryId py case.caseId
    pure case.caseId
  | false =>
    if request.decision = "acknowledged" then do
      let acked ← Calls.change .acknowledged (ack policy case.caseId
        (safeMonitorToken py 120 (.str request.operator)) eventId draws.ackedAt draws.ack)
      Calls.checkSummaryId py acked.caseId
      pure acked.caseId
    else do
      let summary ← Calls.recordPrimaryDecision py resume (.atomic case) request.toDecisionRequest
        draws.toDecisionDraws
      let updated ← Calls.change .decided (applyPrimaryDecisionState py (.atomic case)
        request.toDecisionRequest request.dump summary eventId draws.toDecisionDraws)
      pure updated.caseId

/-- `_loop_console_has_event`. -/
def Calls.hasEvent (caseId eventId : String) : Calls Bool :=
  .ofAction .look (peek fun s => decide (s.HasEvent caseId eventId))

/-- The calls of a request once it has found its case. -/
def CaseRequest.calls (identifier : String) (case : AtomicCaseProjection) (draws : ConsoleDraws)
    (request : CaseRequest) : Calls Unit := do
  let eventId := request.eventId py case.caseId
  let repeated ← Calls.hasEvent case.caseId eventId
  match request with
  | .ack actorId _ =>
    if repeated then pure ()
    else do
      let _ ← Calls.change .acknowledged (Cases.ack policy case.caseId
        (safeMonitorToken py 120 (.str actorId)) eventId draws.ackedAt draws.ack)
      pure ()
  | .suppress actorId _ reason ttlSeconds =>
    if repeated then pure ()
    else do
      let _ ← Calls.change .suppressed (Cases.suppress py policy case.caseId
        (safeMonitorText py 800 (.str reason)) .operator (safeMonitorToken py 120 (.str actorId))
        ttlSeconds eventId draws.suppressedAt draws.suppressed)
      pure ()
  | .decision request idempotencyKey => do
    let caseId ← request.calls py policy resume case eventId draws repeated
    Calls.writeOperatorFeedback py policy caseId request.toDecisionRequest
      [("source", .str "loop_console"), ("decision", .str request.decision)] identifier
      (loopConsoleFeedbackId py idempotencyKey caseId) draws.toDecisionDraws

/-- The calls of a verification result once it has found its objective; `now` is the time of the
event. -/
def VerificationResultRequest.calls (objective : VerificationObjective) (now : String)
    (request : VerificationResultRequest) : Calls Unit := do
  let eventId :=
    consoleActionId py "verification_result" request.idempotencyKey objective.objectiveId
  let repeated ← Calls.hasEvent objective.caseId eventId
  if repeated then pure ()
  else do
    let _ ← Calls.change .counted
      (recordLhpVerificationResult policy (applyConsoleResult py objective request) ⟨eventId, now⟩)
    pure ()

end Requests

/-! ## A request that nobody interrupts -/

section Link

variable (py : Python) (policy : CasePolicy) (resume : GraphResume)

@[simp] theorem plain_run {α : Type} (x : StoreM α) : (Calls.plain x).run = x :=
  Script.run_ofAction _ x

@[simp] theorem change_run {α : Type} (c : StateChange) (x : StoreM α) :
    (Calls.change c x).run = x :=
  Script.run_ofAction _ x

@[simp] theorem resolveByAlias_calls (text : String) : ∀ aliasTypes : List AliasType,
    (Calls.resolveByAlias text aliasTypes).run = resolveByAlias text aliasTypes
  | [] => plain_run _
  | aliasType :: rest => by
    unfold Calls.resolveByAlias resolveByAlias
    rw [Script.run_bind, plain_run]
    refine bind_congr fun caseId => ?_
    cases truthyId caseId with
    | some caseId => rfl
    | none => exact resolveByAlias_calls text rest

@[simp] theorem resolveCaseIdentifier_calls (identifier : String) :
    (Calls.resolveCaseIdentifier identifier).run = resolveCaseIdentifier identifier := by
  unfold Calls.resolveCaseIdentifier resolveCaseIdentifier
  dsimp only
  split
  · rfl
  · rw [Script.run_bind, plain_run]
    refine bind_congr fun direct => ?_
    cases direct.bind CaseProjection.atomic? with
    | some case => rfl
    | none => exact resolveByAlias_calls _ _

@[simp] theorem graphCase_calls (incidentId : String) :
    (Calls.graphCase incidentId).run = graphCase incidentId := by
  unfold Calls.graphCase graphCase
  simp only [Script.run_bind, resolveCaseIdentifier_calls, plain_run, Script.run_pure]

@[simp] theorem getSummary_calls (incidentId : String) :
    (Calls.getSummary py incidentId).run = getSummary py incidentId := by
  unfold Calls.getSummary getSummary
  simp only [Script.run_bind, graphCase_calls, Script.run_pure]

@[simp] theorem requireGraphCase_calls (incidentId : String) :
    (Calls.requireGraphCase incidentId).run = requireGraphCase incidentId := by
  unfold Calls.requireGraphCase requireGraphCase
  simp only [Script.run_bind, graphCase_calls, Script.run_orStop]

@[simp] theorem putSummary_calls (incidentId : String) (summary : JsonDict) (draws : GraphDraws) :
    (Calls.putSummary py incidentId summary draws).run = putSummary py incidentId summary draws := by
  unfold Calls.putSummary putSummary
  simp only [Script.run_bind, requireGraphCase_calls, change_run]

@[simp] theorem updateCase_calls (incidentId : String) (fields : JsonDict) (draws : GraphDraws) :
    (Calls.updateCase py incidentId fields draws).run = updateCase py incidentId fields draws := by
  unfold Calls.updateCase updateCase
  simp only [Script.run_bind, requireGraphCase_calls, plain_run]

@[simp] theorem storeDecision_calls (incidentId : String) (decision summary : JsonDict)
    (draws : DecisionDraws) : (Calls.storeDecision py incidentId decision summary draws).run =
      storeDecision py incidentId decision summary draws := by
  unfold Calls.storeDecision storeDecision
  simp only [Script.run_bind, putSummary_calls, updateCase_calls, Script.run_pure]

@[simp] theorem persistFinalDecision_calls (incidentId : String) (decision finalState : JsonDict)
    (draws : DecisionDraws) :
    (Calls.persistFinalDecision py incidentId decision finalState draws).run =
      persistFinalDecision py incidentId decision finalState draws := by
  unfold Calls.persistFinalDecision persistFinalDecision
  rw [Script.run_bind, getSummary_calls]
  refine bind_congr fun summary => ?_
  cases truthyDict summary with
  | none => rfl
  | some summary =>
    simp only [Script.run_bind, Script.run_ofExcept, Script.run_stopIf, storeDecision_calls,
      Script.run_pure]

@[simp] theorem resumeInvestigation_calls (incidentId : String) (decision : JsonDict) :
    (Calls.resumeInvestigation py resume incidentId decision).run =
      resumeInvestigation py resume incidentId decision := by
  unfold Calls.resumeInvestigation resumeInvestigation
  rw [Script.run_bind, resolveCaseIdentifier_calls]
  refine bind_congr fun resolved => ?_
  rw [Script.run_bind, getSummary_calls]
  refine bind_congr fun summary => ?_
  cases truthyDict summary with
  | none => rfl
  | some summary =>
    dsimp only
    split
    · rfl
    · simp only [Script.run_bind, Script.run_stopIf, Script.run_ofAction, Script.run_pure]

theorem settleDecision_resumed (incidentId : String) (decision summary : JsonDict) (status : Json)
    (draws : DecisionDraws) (finalState : JsonDict) :
    (Calls.settleDecision py incidentId decision summary status draws (some finalState)).run =
      persistFinalDecision py incidentId decision finalState draws >>= fun persisted =>
        pure (some ((truthyDict persisted).getD summary)) := by
  unfold Calls.settleDecision
  simp only [Script.run_bind, persistFinalDecision_calls, Script.run_pure]

theorem settleDecision_finalized (incidentId : String) (decision summary : JsonDict) (status : Json)
    (draws : DecisionDraws) :
    (Calls.settleDecision py incidentId decision summary status draws none).run =
      storeDecision py incidentId decision
        (decidedSummary status decision summary draws.summarizedAt) draws >>= fun _ =>
          pure (some (decidedSummary status decision summary draws.summarizedAt)) := by
  unfold Calls.settleDecision
  simp only [Script.run_bind, storeDecision_calls, Script.run_pure]

@[simp] theorem recordOperatorDecision_calls (incidentId : String) (decision : JsonDict)
    (draws : DecisionDraws) :
    (Calls.recordOperatorDecision py resume incidentId decision draws).run =
      recordOperatorDecision py resume incidentId decision draws := by
  unfold Calls.recordOperatorDecision recordOperatorDecision
  rw [Script.run_bind, resolveCaseIdentifier_calls]
  refine bind_congr fun resolved => ?_
  dsimp only
  rw [Script.run_bind, getSummary_calls]
  refine bind_congr fun summary => ?_
  cases truthyDict summary with
  | none => rfl
  | some summary =>
    dsimp only
    split
    all_goals
      simp only [Script.run_bind, resumeInvestigation_calls, Script.run_pure]
      refine bind_congr fun finalState => ?_
      cases finalState with
      | none => exact settleDecision_finalized py _ _ _ _ _
      | some finalState => exact settleDecision_resumed py _ _ _ _ _ _

@[simp] theorem recordPrimaryDecision_calls (case : CaseProjection) (request : DecisionRequest)
    (draws : DecisionDraws) : (Calls.recordPrimaryDecision py resume case request draws).run =
      recordPrimaryDecision py resume case request draws := by
  unfold Calls.recordPrimaryDecision recordPrimaryDecision
  simp only [Script.run_bind, recordOperatorDecision_calls, Script.run_stopIf, Script.run_pure]

@[simp] theorem checkSummaryId_calls (caseId : String) :
    (Calls.checkSummaryId py caseId).run = checkSummaryId py caseId := by
  unfold Calls.checkSummaryId checkSummaryId
  simp only [Script.run_bind, Script.run_orStop, Script.run_pure]

@[simp] theorem writeOperatorFeedback_calls (caseId : String) (request : DecisionRequest)
    (payload : JsonDict) (submittedIdentifier feedbackId : String) (draws : DecisionDraws) :
    (Calls.writeOperatorFeedback py policy caseId request payload submittedIdentifier feedbackId
      draws).run =
      writeOperatorFeedback py policy caseId request payload submittedIdentifier feedbackId draws :=
  plain_run _

@[simp] theorem hasEvent_calls (caseId eventId : String) :
    (Calls.hasEvent caseId eventId).run = peek fun s => decide (s.HasEvent caseId eventId) :=
  Script.run_ofAction _ _

theorem ackRequest_run (identifier actorId idempotencyKey : String) (draws : ConsoleDraws)
    (s : Store) :
    (CaseRequest.ack actorId idempotencyKey).route py policy resume identifier draws s =
      (loopConsoleAtomicCase py identifier >>= fun case =>
        ((CaseRequest.ack actorId idempotencyKey).calls py policy resume identifier case
          draws).run) s := by
  unfold CaseRequest.route loopConsoleCaseAck
  dsimp only
  rw [bind_bind_run]
  refine congrFun (bind_congr fun case => ?_) s
  unfold CaseRequest.calls CaseRequest.eventId
  dsimp only
  rw [Script.run_bind, hasEvent_calls]
  funext s
  rw [bind_bind_run]
  refine congrFun (bind_congr fun repeated => ?_) s
  cases repeated with
  | true => rfl
  | false =>
    simp only [Bool.false_eq_true, if_false, Script.run_bind, change_run, Script.run_pure]

theorem suppressRequest_run (identifier actorId idempotencyKey reason : String)
    (ttlSeconds : Option Nat) (draws : ConsoleDraws) (s : Store) :
    (CaseRequest.suppress actorId idempotencyKey reason ttlSeconds).route py policy resume identifier
        draws s =
      (loopConsoleAtomicCase py identifier >>= fun case =>
        ((CaseRequest.suppress actorId idempotencyKey reason ttlSeconds).calls py policy resume
          identifier case draws).run) s := by
  unfold CaseRequest.route loopConsoleCaseSuppress
  dsimp only
  rw [bind_bind_run]
  refine congrFun (bind_congr fun case => ?_) s
  unfold CaseRequest.calls CaseRequest.eventId
  dsimp only
  rw [Script.run_bind, hasEvent_calls]
  funext s
  rw [bind_bind_run]
  refine congrFun (bind_congr fun repeated => ?_) s
  cases repeated with
  | true => rfl
  | false =>
    simp only [Bool.false_eq_true, if_false, Script.run_bind, change_run, Script.run_pure]

theorem loopConsoleActionId_eq (idempotencyKey caseId : String) :
    loopConsoleActionId py idempotencyKey caseId =
      consoleActionId py "decision" idempotencyKey caseId := by
  have haction : "decision" ++ ":" = "decision:" := by decide
  unfold loopConsoleActionId consoleActionId
  rw [haction]

/-- A decision after its look. -/
theorem decisionCalls_run (case : AtomicCaseProjection) (request : ConsoleDecision)
    (eventId : String) (draws : ConsoleDraws) :
    ((peek fun s => decide (s.HasEvent case.caseId eventId) : StoreM Bool) >>= fun repeated =>
        (request.calls py policy resume case eventId draws repeated).run) =
      settleConsoleDecision py policy resume case request.toDecisionRequest eventId
        draws.toDecisionDraws >>= fun settled => pure settled.1.caseId := by
  unfold settleConsoleDecision
  rw [bind_bind]
  refine bind_congr fun repeated => ?_
  unfold ConsoleDecision.calls
  cases repeated with
  | true =>
    simp only [if_true, Script.run_bind, checkSummaryId_calls, Script.run_pure, bind_bind,
      pure_then, CaseProjection.caseId]
  | false =>
    simp only [Bool.false_eq_true, if_false]
    by_cases hacknowledged : request.decision = "acknowledged"
    · simp only [if_pos hacknowledged, Script.run_bind, change_run, checkSummaryId_calls,
        Script.run_pure, bind_bind, pure_then, CaseProjection.caseId]
    · simp only [if_neg hacknowledged, Script.run_bind, change_run, recordPrimaryDecision_calls,
        Script.run_pure, bind_bind, pure_then]

theorem decisionRequest_run (identifier idempotencyKey : String) (request : ConsoleDecision)
    (draws : ConsoleDraws) (s : Store) :
    (CaseRequest.decision request idempotencyKey).route py policy resume identifier draws s =
      (loopConsoleAtomicCase py identifier >>= fun case =>
        ((CaseRequest.decision request idempotencyKey).calls py policy resume identifier case
          draws).run) s := by
  unfold CaseRequest.route loopConsoleDecision loopConsoleAtomicCase
  dsimp only
  rw [raiseIf_neg (not_not.2 request.allowed)]
  simp only [bind_bind, pure_then]
  refine congrFun (bind_congr fun found => bind_congr fun found => bind_congr fun case => ?_) s
  unfold CaseRequest.calls
  dsimp only
  rw [Script.run_bind, hasEvent_calls]
  have hid : loopConsoleActionId py idempotencyKey case.caseId =
      (CaseRequest.decision request idempotencyKey).eventId py case.caseId :=
    loopConsoleActionId_eq py idempotencyKey case.caseId
  rw [hid]
  simp only [Script.run_bind, writeOperatorFeedback_calls]
  rw [← bind_bind (peek _), decisionCalls_run, bind_bind]
  refine bind_congr fun settled => ?_
  rw [then_pure]
  rfl

/-- **A request that nobody interrupts does what its route says.** -/
theorem caseRequest_run (identifier : String) (request : CaseRequest) (draws : ConsoleDraws)
    (s : Store) : request.route py policy resume identifier draws s =
      (loopConsoleAtomicCase py identifier >>= fun case =>
        (request.calls py policy resume identifier case draws).run) s := by
  cases request with
  | ack actorId idempotencyKey => exact ackRequest_run py policy resume _ _ _ draws s
  | suppress actorId idempotencyKey reason ttlSeconds =>
    exact suppressRequest_run py policy resume _ _ _ _ _ draws s
  | decision request idempotencyKey => exact decisionRequest_run py policy resume _ _ request draws s

theorem resultCalls_run (objectiveId : String) (request : VerificationResultRequest) (now : String)
    (s : Store) : (loopConsoleVerificationResult py policy objectiveId request now s).2 =
      ((findObjective objectiveId >>= fun objective =>
        (request.calls py policy objective now).run) s).2 := by
  unfold loopConsoleVerificationResult
  simp only [findObjective_bind_run]
  cases hrow : s.verificationObjectives.get? objectiveId with
  | none => rfl
  | some objective =>
    have hid : objective.objectiveId = objectiveId := Table.key_of_get? hrow
    unfold VerificationResultRequest.calls
    dsimp only
    rw [Script.run_bind, hasEvent_calls, hid, peek_bind_run, peek_bind_run]
    by_cases hrepeated : s.HasEvent objective.caseId
        (consoleActionId py "verification_result" request.idempotencyKey objectiveId)
    · rw [decide_eq_true hrepeated]
      rfl
    · rw [decide_eq_false hrepeated]
      simp only [Bool.false_eq_true, if_false, Script.run_bind, change_run, Script.run_pure]
      exact (bind_pure_state _ _ s).symm

end Link

end NocAgent.Cases
