import NocAgent.Python.Value

/-!
# Typed records of the case state machine

Observations, case projections, append-only events, identity aliases and outbox intents.
Times are the strings the source stores; a field that no modelled function reads or writes is
left out.
-/

set_option autoImplicit false

namespace NocAgent.Cases

inductive Severity where
  | high
  | medium
  | low
  | unknown
  deriving DecidableEq, Repr

def Severity.text : Severity → String
  | .high => "HIGH"
  | .medium => "MEDIUM"
  | .low => "LOW"
  | .unknown => "UNKNOWN"

def SEVERITY_RANK : Severity → Nat
  | .unknown => 0
  | .low => 1
  | .medium => 2
  | .high => 3

inductive ObservationStatus where
  | firing
  | clean
  | resolved
  | unknown
  deriving DecidableEq, Repr

def ObservationStatus.text : ObservationStatus → String
  | .firing => "firing"
  | .clean => "clean"
  | .resolved => "resolved"
  | .unknown => "unknown"

inductive SourceHealth where
  | healthy
  | degraded
  | unknown
  | failed
  deriving DecidableEq, Repr

def SourceHealth.text : SourceHealth → String
  | .healthy => "healthy"
  | .degraded => "degraded"
  | .unknown => "unknown"
  | .failed => "failed"

inductive CaseStatus where
  | opened
  | triaged
  | contextRequested
  | handoffRequested
  | handoffInProgress
  | verificationPending
  | blocked
  | failed
  | needsHuman
  | investigating
  | waitingApproval
  | recoveredPending
  | resolved
  | expired
  | linked
  | closed
  | candidateEvent
  | activeEvent
  | investigatingEvent
  | monitoringRecovery
  | stabilized
  | split
  | merged
  deriving DecidableEq, Repr

def CaseStatus.text : CaseStatus → String
  | .opened => "open"
  | .triaged => "triaged"
  | .contextRequested => "context_requested"
  | .handoffRequested => "handoff_requested"
  | .handoffInProgress => "handoff_in_progress"
  | .verificationPending => "verification_pending"
  | .blocked => "blocked"
  | .failed => "failed"
  | .needsHuman => "needs_human"
  | .investigating => "investigating"
  | .waitingApproval => "waiting_approval"
  | .recoveredPending => "recovered_pending"
  | .resolved => "resolved"
  | .expired => "expired"
  | .linked => "linked"
  | .closed => "closed"
  | .candidateEvent => "candidate_event"
  | .activeEvent => "active_event"
  | .investigatingEvent => "investigating_event"
  | .monitoringRecovery => "monitoring_recovery"
  | .stabilized => "stabilized"
  | .split => "split"
  | .merged => "merged"

inductive ActorType where
  | system
  | operator
  | monitor
  | graph
  deriving DecidableEq, Repr

inductive AliasType where
  | hotspotFp
  | alertFp
  | sourceFp
  | sourceEventId
  | ruleEntity
  | issueMarker
  | externalIssueId
  deriving DecidableEq, Repr

def AliasType.text : AliasType → String
  | .hotspotFp => "hotspot_fp"
  | .alertFp => "alert_fp"
  | .sourceFp => "source_fp"
  | .sourceEventId => "source_event_id"
  | .ruleEntity => "rule_entity"
  | .issueMarker => "issue_marker"
  | .externalIssueId => "external_issue_id"

inductive OutboxIntentType where
  | report
  | metaReport
  | handoff
  | knowledgeCandidate
  | issueComment
  | discordUpdate
  | engineeringHandoffRequested
  | engineeringHandoffUpdated
  | engineeringHandoffVerified
  | engineeringHandoffResolved
  | knowledgeContextRequested
  | knowledgeArtifactProposed
  | verificationObjectiveCreated
  | verificationObjectiveUpdated
  | verificationPassed
  | verificationFailed
  deriving DecidableEq, Repr

/-- How far the side effect of an intent is. -/
inductive OutboxStatus where
  | pending
  | inProgress
  | succeeded
  | failed
  | abandoned
  deriving DecidableEq, Repr

/-- Normalized evidence from a webhook alert, scan result, metric, or log. -/
structure ObservationRecord where
  observationId : String
  source : String := ""
  sourceEventId : String := ""
  sourceFingerprint : String := ""
  dedupKey : String := ""
  detector : String := ""
  ruleId : String := ""
  entity : String := ""
  resource : String := ""
  interface : String := ""
  service : String := ""
  site : String := ""
  customer : String := ""
  severity : Severity := .unknown
  status : ObservationStatus := .unknown
  observedAt : String
  scanCycleId : String := ""
  labels : JsonDict := []
  annotations : JsonDict := []
  signalSnapshot : JsonDict := []
  signalSignature : String := ""
  sourceHealth : SourceHealth := .unknown
  payloadRef : String := ""

def ObservationRecord.isPositiveClean (observation : ObservationRecord) : Bool :=
  (observation.status == .clean || observation.status == .resolved) &&
    !(observation.sourceHealth == .degraded || observation.sourceHealth == .failed)

/-- Append-only lifecycle or decision event for atomic cases or meta-cases. -/
structure CaseEvent where
  eventId : String
  caseId : Option String := none
  metaCaseId : Option String := none
  eventType : String
  actorType : ActorType := .system
  actorId : String := ""
  source : String := ""
  occurredAt : String
  observedAt : String := ""
  policyVersion : String := ""
  payload : JsonDict := []

/-- Compatibility and drift mapping from external identities to case ids. -/
structure CaseIdentityAlias where
  aliasId : String
  caseId : String
  aliasType : AliasType
  aliasValue : String
  source : String := ""
  confidence : PyFloat := .fin 1
  retiredAt : Option String := none

/-- Who has suppressed a case. -/
inductive SuppressionSource where
  | operator
  | agent
  deriving DecidableEq, Repr

def SuppressionSource.text : SuppressionSource → String
  | .operator => "operator"
  | .agent => "agent"

/-- Query projection for the authoritative atomic case record. -/
structure AtomicCaseProjection where
  caseId : String
  caseNumber : String := ""
  fingerprint : String := ""
  identity : JsonDict := []
  resourceId : String := ""
  title : String := ""
  summary : String := ""
  origin : String := "unknown"
  ruleId : String := ""
  detector : String := ""
  site : String := ""
  customer : String := ""
  service : String := ""
  severity : Severity := .unknown
  status : CaseStatus := .investigating
  openedAt : String
  updatedAt : String
  resolvedAt : Option String := none
  resolutionReason : String := ""
  lastSeen : String := ""
  lastObservedUnhealthy : String := ""
  lastObservedClean : String := ""
  lastEvaluatedAt : String := ""
  lastScanCycleId : String := ""
  signalSnapshot : JsonDict := []
  signalSignature : String := ""
  previousSignalSignature : String := ""
  lastReportedAt : String := ""
  reportGeneration : Nat := 0
  lastReportedSignature : String := ""
  lastReassertedAt : String := ""
  lastInvestigatedAt : String := ""
  diagnosisSignature : String := ""
  lastDiagnosis : JsonDict := []
  recommendations : List String := []
  investigationStatus : String := ""
  investigationError : String := ""
  issueUrl : String := ""
  handoffStatus : String := ""
  lastHandoffAt : String := ""
  acknowledgedBy : String := ""
  acknowledgedAt : String := ""
  snoozedUntil : String := ""
  suppressedUntil : String := ""
  suppressionReason : String := ""
  suppressionSource : Option SuppressionSource := none
  metaCaseId : String := ""
  coveredByMetaCase : Bool := false
  independentActionRequired : Bool := false
  feedbackIds : List String := []
  policyVersion : String := ""

/-- What a storm of notifications is put down to. -/
inductive MetaEventType where
  | routerDown
  | linkFailure
  | routingReconvergence
  | monitoringFailure
  | powerEvent
  | unknown
  deriving DecidableEq, Repr

def MetaEventType.text : MetaEventType → String
  | .routerDown => "router_down"
  | .linkFailure => "link_failure"
  | .routingReconvergence => "routing_reconvergence"
  | .monitoringFailure => "monitoring_failure"
  | .powerEvent => "power_event"
  | .unknown => "unknown"

/-- Query projection for a correlated notification storm. -/
structure MetaCaseProjection where
  caseId : String
  eventFingerprint : String := ""
  title : String := ""
  summary : String := ""
  eventType : MetaEventType := .unknown
  status : CaseStatus := .candidateEvent
  childCaseIds : List String := []
  notificationIds : List String := []
  observationIds : List String := []
  affectedEntities : List String := []
  correlationReason : String := ""
  correlationConfidence : PyFloat := .fin 0
  openedAt : String := ""
  updatedAt : String
  firstNotificationAt : String := ""
  lastNotificationAt : String := ""
  lastChildUpdateAt : String := ""
  notificationCount : Nat := 0
  childCaseCount : Nat := 0
  stormStartedAt : String := ""
  stormLastSeenAt : String := ""
  policyVersion : String := ""

/-- `_fill_counts`, the validator of every constructed or re-validated projection; attributes that
are set later and `model_copy` do not run it. -/
def MetaCaseProjection.fillCounts (case : MetaCaseProjection) : MetaCaseProjection :=
  { case with
    childCaseCount := case.childCaseIds.length
    notificationCount := max case.notificationCount case.notificationIds.length }

/-- A row of `cases`: an atomic case, or a meta-case. -/
inductive CaseProjection where
  | atomic (case : AtomicCaseProjection)
  | storm (case : MetaCaseProjection)

def CaseProjection.caseId : CaseProjection → String
  | .atomic case => case.caseId
  | .storm case => case.caseId

/-- `case if isinstance(case, AtomicCaseProjection) else None`. -/
def CaseProjection.atomic? : CaseProjection → Option AtomicCaseProjection
  | .atomic case => some case
  | .storm _ => none

@[simp] theorem CaseProjection.caseId_atomic (case : AtomicCaseProjection) :
    (CaseProjection.atomic case).caseId = case.caseId := rfl

theorem CaseProjection.atomic?_eq_some {p : CaseProjection} {case : AtomicCaseProjection} :
    p.atomic? = some case ↔ p = .atomic case := by
  cases p <;> simp [CaseProjection.atomic?]

/-- Crash-safe request for an external side effect. -/
structure OutboxIntent where
  outboxId : String
  intentType : OutboxIntentType
  caseId : Option String := none
  metaCaseId : Option String := none
  idempotencyKey : String
  stateSignature : String := ""
  payload : JsonDict := []
  status : OutboxStatus := .pending
  attempts : Nat := 0
  claimToken : String := ""
  claimExpiresAt : Option String := none
  nextAttemptAt : String
  createdAt : String
  completedAt : Option String := none
  externalId : String := ""
  externalUrl : String := ""
  error : String := ""

/-- Operator judgment or correction attached to a case. -/
structure OperatorFeedback where
  feedbackId : String
  caseId : Option String := none
  actorId : String := ""
  feedbackType : String
  payload : JsonDict := []
  createdAt : String

/-- A delivery reports that a case fires, or that it has recovered. -/
inductive AttentionPhase where
  | firing
  | recovered
  deriving DecidableEq, Repr

def AttentionPhase.text : AttentionPhase → String
  | .firing => "firing"
  | .recovered => "recovered"

/-- Separate delivery projection; the sequence starts at one. -/
structure AttentionDelivery where
  caseId : String
  generation : Nat
  phase : AttentionPhase
  severity : Severity
  deliveredAt : Int
  sequence : Nat
  sequence_pos : 1 ≤ sequence

end NocAgent.Cases
