import NocAgent.Cases.Store

/-!
# The case service

The service methods that build events around the store's writes.  Each call is given what it
draws: event ids and clock readings.

* `recordLhpVerificationResult`, `markLhpHandoffVerified`, `resolveLhpCaseWithOutcome`,
  `requestLhpKnowledgeArtifactProposal` — the verifier's writes.
* `parseIsoTime`, `observedCleanAfterUnhealthy` — the times the verifier compares.
-/

set_option autoImplicit false

namespace NocAgent.Cases

open Effects Effects.Action Keyed

/-- The settings of the case service. -/
structure CasePolicy where
  policyVersion : String := "case_policy_v1"
  requirePositiveCleanForResolve : Bool := true
  investigationCooldownS : Nat := 21600
  investigationFailureRetryS : Nat := 21600
  reportReassertS : Nat := 21600
  stormConfidenceThreshold : ℚ := 3 / 4
  suppressionDefaultTtlS : Nat := 86400

/-- A fresh event id and a reading of the clock. -/
structure Draw where
  eventId : String
  now : String

/-! ## Times -/

/-- The last microsecond of year 9999. -/
def MAX_INSTANT : Int := 253402300799999999

/-- The first microsecond of year 1. -/
def MIN_INSTANT : Int := -62135596800000000

/-- An instant that a `datetime` can hold. -/
def asInstant (t : Int) : Except PyExc Int :=
  if MIN_INSTANT ≤ t ∧ t ≤ MAX_INSTANT then .ok t else .error .overflowError

/-- `_parse_iso_time`; converting to UTC may overflow. -/
def parseIsoTime (py : Python) (value : String) : Except PyExc (Option Int) :=
  if value = "" then .ok none
  else
    match py.parseIso value with
    | none => .ok none
    | some t =>
      match asInstant t with
      | .error e => .error e
      | .ok t => .ok (some t)

def observedCleanAfterUnhealthy (py : Python) (clean unhealthy : String) : Except PyExc Bool :=
  match parseIsoTime py clean with
  | .error e => .error e
  | .ok none => .ok false
  | .ok (some cleanAt) =>
    match parseIsoTime py unhealthy with
    | .error e => .error e
    | .ok none => .ok true
    | .ok (some unhealthyAt) => .ok (unhealthyAt ≤ cleanAt)

/-! ## Verification and outcomes -/

section Lhp

variable (py : Python) (policy : CasePolicy)

def recordLhpVerificationResult (objective : VerificationObjective) (draw : Draw) :
    StoreM VerificationObjective :=
  updateVerificationObjectiveResult objective (some {
    eventId := draw.eventId
    caseId := some objective.caseId
    eventType := "lhp_verification_objective_updated"
    occurredAt := draw.now
    policyVersion := policy.policyVersion
    payload := [("objective_id", .str objective.objectiveId),
      ("objective_key", .str objective.objectiveKey),
      ("status", .str objective.status.text),
      ("consecutive_pass_count", .int objective.consecutivePassCount)] })

theorem recordLhpVerificationResult_run {objective existing : VerificationObjective} {s : Store}
    (h : s.verificationObjectives.get? objective.objectiveId = some existing) (draw : Draw) :
    ∃ ix ev cix, recordLhpVerificationResult policy objective draw s = (.ok objective, { s with
      verificationObjectives := s.verificationObjectives.put objective
      verificationObjectiveIndex := ix
      events := ev
      caseEvents := cix }) :=
  updateVerificationObjectiveResult_run h _

def handoffVerifiedEvent (handoff : CaseHandoff) (handoffId : String) (draw : Draw) : CaseEvent where
  eventId := draw.eventId
  caseId := some handoff.caseId
  eventType := "lhp_handoff_verified"
  occurredAt := draw.now
  policyVersion := policy.policyVersion
  payload := [("handoff_id", .str handoffId)]

def markLhpHandoffVerified (handoffId : String) (draw : Draw) : StoreM CaseHandoff := do
  let handoff ← getHandoff handoffId
  let handoff ← orRaise handoff .keyError
  markHandoffVerified handoffId draw.now (some (handoffVerifiedEvent policy handoff handoffId draw))

def resolveLhpCaseWithOutcome (caseId : String) (outcome : OutcomeRecord) (handoffId : String)
    (draw : Draw) : StoreM AtomicCaseProjection :=
  resolveCaseWithOutcome caseId handoffId outcome draw.now (some {
    eventId := draw.eventId
    caseId := some caseId
    eventType := "lhp_case_resolved_with_outcome"
    occurredAt := draw.now
    policyVersion := policy.policyVersion
    payload := [("outcome_id", .str outcome.outcomeId), ("handoff_id", .str handoffId)] })

/-- `outboxId` is the fresh id of the intent. -/
def proposalIntent (case : AtomicCaseProjection) (handoffId outcomeId : String)
    (payload : JsonDict) (outboxId : String) (draw : Draw) : OutboxIntent :=
  let safe := dictPut (sanitizePayloadDict py payload) "untrusted_evidence" (.bool true)
  { outboxId := outboxId
    intentType := .knowledgeArtifactProposed
    caseId := some case.caseId
    idempotencyKey := strip ("knowledge_artifact_proposed:" ++ case.caseId ++ ":" ++
      orText handoffId (orText outcomeId "case"))
    stateSignature := case.signalSignature
    payload := safe.foldl (fun d kv => dictPut d kv.1 kv.2)
      [("case_id", .str case.caseId), ("handoff_id", .str handoffId),
        ("outcome_id", .str outcomeId)]
    nextAttemptAt := draw.now
    createdAt := draw.now }

def proposalEvent (case : AtomicCaseProjection) (handoffId outcomeId : String)
    (intent : OutboxIntent) (draw : Draw) : CaseEvent where
  eventId := draw.eventId
  caseId := some case.caseId
  eventType := "lhp_knowledge_artifact_proposal_requested"
  occurredAt := draw.now
  policyVersion := policy.policyVersion
  payload := [("handoff_id", .str handoffId), ("outcome_id", .str outcomeId),
    ("outbox_id", .str intent.outboxId)]

def requestLhpKnowledgeArtifactProposal (caseId handoffId outcomeId : String)
    (payload : JsonDict) (outboxId : String) (draw : Draw) : StoreM OutboxIntent := do
  let case ← requireAtomicCase caseId
  let intent ← enqueueOutbox (proposalIntent py case handoffId outcomeId payload outboxId draw)
  let _ ← storeEvent (proposalEvent policy case handoffId outcomeId intent draw)
  pure intent

end Lhp

end NocAgent.Cases
