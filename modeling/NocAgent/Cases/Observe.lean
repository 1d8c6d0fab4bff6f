import NocAgent.Cases.Service

/-!
# Observations

* `observe` — one observation, from the alias it resolves to its case, or to a new one.
* `guardedCaseWrite` — the case is read again under the guard that the write holds.
* `updateUnhealthy`, `recordClean`, `createFromUnhealthy` — the three writes.
-/

set_option autoImplicit false

namespace NocAgent.Cases

open Effects Effects.Action Keyed

inductive ObserveAction where
  | created
  | updated
  | resolvedPositiveClean
  | cleanWithoutCase
  | ignoredUnknownStatus
  deriving DecidableEq, Repr

/-- What `observe` returns. -/
structure ObserveResult where
  action : ObserveAction
  observation : ObservationRecord
  case : Option AtomicCaseProjection
  events : List CaseEvent

/-- What one call draws: the ids of a new case and of its aliases, and events. -/
structure ObserveDraws where
  caseId : String
  aliasId : Nat → String
  now : String
  created : Draw
  unhealthy : Draw
  updatedAt : String
  update : Draw

/-! ## Identity of an observation -/

def stableSignalSignature (py : Python) (snapshot : JsonDict) : String :=
  if snapshot = [] then "" else takeChars 16 (py.sha256 (py.stableJson (.dict snapshot)))

/-- `_case_identity`. -/
def caseIdentity (observation : ObservationRecord) : JsonDict :=
  [("source", .str observation.source),
    ("detector", .str (orText observation.detector observation.ruleId)),
    ("rule_id", .str observation.ruleId), ("entity", .str observation.entity),
    ("resource", .str observation.resource), ("interface", .str observation.interface),
    ("service", .str observation.service), ("site", .str observation.site),
    ("customer", .str observation.customer)]

def observationIdentityFingerprint (py : Python) (observation : ObservationRecord) : String :=
  takeChars 16 (py.sha256 (py.stableJson (.dict (caseIdentity observation))))

def observationAlias (py : Python) (observation : ObservationRecord) : AliasType × String :=
  if observation.sourceFingerprint ≠ "" then (.sourceFp, observation.sourceFingerprint)
  else if observation.dedupKey ≠ "" then (.sourceEventId, observation.dedupKey)
  else (.ruleEntity, observationIdentityFingerprint py observation)

/-- `_case_resource`. -/
def caseResource (observation : ObservationRecord) : String :=
  orText observation.entity (orText observation.resource (orText observation.service
    (orText observation.site observation.customer)))

/-- `_case_title`. -/
def caseTitle (observation : ObservationRecord) : String :=
  orText observation.detector (orText observation.ruleId (orText observation.source "observation")) ++
    " on " ++ orText (caseResource observation) "unknown resource"

/-- `_case_summary`. -/
def caseSummary (py : Python) (observation : ObservationRecord) : String :=
  match ["summary", "description", "message"].find? fun key =>
      (observation.annotations.get key).truthy with
  | some key => pyStr py (observation.annotations.get key)
  | none => observation.status.text ++ " " ++ observation.severity.text ++ " observation from " ++
      orText observation.source "unknown source"

/-! ## The writes -/

/-- `_serialize_case_write` for a case: it is read again once the guard is held.  The guard and
the read both raise `KeyError` when there is no such case. -/
def guardedCaseWrite {α : Type} (case : AtomicCaseProjection)
    (method : AtomicCaseProjection → StoreM α) : StoreM α :=
  if case.caseId = "" then method case
  else do
    let target ← requireAtomicCase case.caseId
    method target

section Writes

variable (py : Python) (policy : CasePolicy)

/-- The severity an acknowledgement covers, adopting an acknowledgement without a scope. -/
def coveredSeverity (case : AtomicCaseProjection) : StoreM Severity :=
  if case.acknowledgedAt ≠ "" ∨ case.acknowledgedBy ≠ "" then do
    let scope ← acknowledgementScope case.caseId case.acknowledgedAt
    match scope with
    | some scope => pure scope
    | none => do
      recordAcknowledgementScope case.caseId case.acknowledgedAt case.severity
      pure case.severity
  else pure case.severity

/-- The case after an unhealthy observation. -/
def unhealthyCase (case : AtomicCaseProjection) (observation : ObservationRecord)
    (covered : Severity) (now : String) : AtomicCaseProjection :=
  -- an acknowledgement does not cover a recurrence or a higher severity
  let reopened := case.status = .resolved ∨ case.status = .recoveredPending ∨
    (case.acknowledgedAt ≠ "" ∨ case.acknowledgedBy ≠ "") ∧
      SEVERITY_RANK covered < SEVERITY_RANK observation.severity
  { case with
    acknowledgedAt := if reopened then "" else case.acknowledgedAt
    acknowledgedBy := if reopened then "" else case.acknowledgedBy
    reportGeneration := if reopened then case.reportGeneration + 1 else case.reportGeneration
    previousSignalSignature :=
      if case.signalSignature ≠ observation.signalSignature then case.signalSignature
      else case.previousSignalSignature
    signalSignature := observation.signalSignature
    signalSnapshot := observation.signalSnapshot
    severity := observation.severity
    status :=
      if case.status = .recoveredPending ∨ case.status = .resolved then .investigating
      else case.status
    updatedAt := now
    lastSeen := observation.observedAt
    lastObservedUnhealthy := observation.observedAt
    resolutionReason := ""
    resolvedAt := none
    lastEvaluatedAt := observation.observedAt
    lastScanCycleId := observation.scanCycleId
    policyVersion := policy.policyVersion }

def unhealthyEvent (case : AtomicCaseProjection) (previousSignature : String)
    (observation : ObservationRecord) (draw : Draw) : CaseEvent where
  eventId := draw.eventId
  caseId := some case.caseId
  eventType :=
    if previousSignature ≠ "" ∧ previousSignature ≠ observation.signalSignature then
      "case_signal_changed"
    else "case_observed_unhealthy"
  actorType := .monitor
  source := observation.source
  occurredAt := draw.now
  observedAt := observation.observedAt
  policyVersion := policy.policyVersion
  payload := [("observation_id", .str observation.observationId),
    ("previous_signal_signature", .str previousSignature),
    ("signal_signature", .str observation.signalSignature)]

/-- `_update_unhealthy`, under the guard. -/
def updateUnhealthy (observation : ObservationRecord) (draws : ObserveDraws)
    (case : AtomicCaseProjection) : StoreM ObserveResult := do
  let covered ← coveredSeverity case
  let updated := unhealthyCase policy case observation covered draws.updatedAt
  putCase updated
  let event ← storeEvent (unhealthyEvent policy updated case.signalSignature observation draws.update)
  pure {
    action := .updated
    observation := observation
    case := some updated
    events := [event] }

/-- A clean observation resolves the case when it is positive evidence. -/
def resolvesPositiveClean (observation : ObservationRecord) : Bool :=
  observation.isPositiveClean && policy.requirePositiveCleanForResolve

/-- The case after a clean observation. -/
def cleanCase (case : AtomicCaseProjection) (observation : ObservationRecord) (now : String) :
    AtomicCaseProjection :=
  let resolves := resolvesPositiveClean policy observation
  { case with
    updatedAt := now
    lastObservedClean := observation.observedAt
    lastEvaluatedAt := observation.observedAt
    lastScanCycleId := observation.scanCycleId
    policyVersion := policy.policyVersion
    status := if resolves then .resolved else case.status
    resolvedAt := if resolves then some now else case.resolvedAt
    resolutionReason := if resolves then "positive_clean_observation" else case.resolutionReason }

/-- `_record_clean`, under the guard. -/
def recordClean (observation : ObservationRecord) (draws : ObserveDraws)
    (case : AtomicCaseProjection) : StoreM ObserveResult := do
  let updated := cleanCase policy case observation draws.updatedAt
  let resolves := resolvesPositiveClean policy observation
  putCase updated
  let event ← storeEvent {
    eventId := draws.update.eventId
    caseId := some updated.caseId
    eventType := if resolves then "case_resolved_positive_clean" else "case_observed_clean"
    actorType := .monitor
    source := observation.source
    occurredAt := draws.update.now
    observedAt := observation.observedAt
    policyVersion := policy.policyVersion
    payload := [("observation_id", .str observation.observationId),
      ("source_health", .str observation.sourceHealth.text),
      ("positive_clean", .bool observation.isPositiveClean)] }
  pure {
    action := if resolves then .resolvedPositiveClean else .updated
    observation := observation
    case := some updated
    events := [event] }

def newCase (observation : ObservationRecord) (aliasValue : String) (draws : ObserveDraws) :
    AtomicCaseProjection where
  caseId := draws.caseId
  fingerprint := aliasValue
  title := caseTitle observation
  summary := caseSummary py observation
  origin :=
    if observation.source = "proactive" ∨ observation.scanCycleId ≠ "" then "proactive"
    else "reactive"
  ruleId := observation.ruleId
  detector := orText observation.detector observation.ruleId
  resourceId := caseResource observation
  identity := caseIdentity observation
  site := observation.site
  customer := observation.customer
  service := observation.service
  severity := observation.severity
  status := .investigating
  openedAt := draws.now
  updatedAt := draws.now
  lastSeen := observation.observedAt
  lastObservedUnhealthy := observation.observedAt
  lastEvaluatedAt := observation.observedAt
  lastScanCycleId := observation.scanCycleId
  signalSnapshot := observation.signalSnapshot
  signalSignature := orText observation.signalSignature
    (stableSignalSignature py observation.signalSnapshot)
  policyVersion := policy.policyVersion

/-- The alias the observation resolves by, and its source's own names where they differ. -/
def newAliases (observation : ObservationRecord) (aliasType : AliasType) (aliasValue : String)
    (draws : ObserveDraws) : List CaseIdentityAlias :=
  let entry (n : Nat) (aliasType : AliasType) (aliasValue : String) : CaseIdentityAlias := {
    aliasId := draws.aliasId n
    caseId := draws.caseId
    aliasType := aliasType
    aliasValue := strip aliasValue }
  let extra (n : Nat) (extraType : AliasType) (extraValue : String) : List CaseIdentityAlias :=
    if extraValue ≠ "" ∧ (aliasType, aliasValue) ≠ (extraType, extraValue) then
      [entry n extraType extraValue]
    else []
  entry 0 aliasType aliasValue :: (extra 1 .sourceFp observation.sourceFingerprint ++
    extra 2 .sourceEventId observation.sourceEventId)

def createdEvents (observation : ObservationRecord) (aliasType : AliasType)
    (draws : ObserveDraws) : List CaseEvent :=
  [{ eventId := draws.created.eventId
     caseId := some draws.caseId
     eventType := "case_created"
     source := observation.source
     occurredAt := draws.created.now
     observedAt := observation.observedAt
     policyVersion := policy.policyVersion
     payload := [("observation_id", .str observation.observationId),
       ("alias_type", .str aliasType.text)] },
    { eventId := draws.unhealthy.eventId
      caseId := some draws.caseId
      eventType := "case_observed_unhealthy"
      actorType := .monitor
      source := observation.source
      occurredAt := draws.unhealthy.now
      observedAt := observation.observedAt
      policyVersion := policy.policyVersion
      payload := [("observation_id", .str observation.observationId),
        ("signal_signature", .str observation.signalSignature)] }]

/-- `_create_from_unhealthy`: another case may have taken the alias by now. -/
def createFromUnhealthy (observation : ObservationRecord) (aliasType : AliasType)
    (aliasValue : String) (draws : ObserveDraws) : StoreM ObserveResult := do
  let (case, events, created) ← createAtomicCase (newCase py policy observation aliasValue draws)
    (newAliases observation aliasType aliasValue draws)
    (createdEvents policy observation aliasType draws)
  if created then pure {
    action := .created
    observation := observation
    case := some case
    events := events }
  else guardedCaseWrite case (updateUnhealthy policy observation draws)

/-! ## One observation -/

/-- An event about an observation that changes no case. -/
def observationEvent (eventType : String) (caseId : Option String)
    (observation : ObservationRecord) (payload : JsonDict) (draw : Draw) : CaseEvent where
  eventId := draw.eventId
  caseId := caseId
  eventType := eventType
  actorType := .monitor
  source := observation.source
  occurredAt := draw.now
  observedAt := observation.observedAt
  policyVersion := policy.policyVersion
  payload := payload

/-- The branch an observation takes, given the case its alias resolved to. -/
def observeCase (observation : ObservationRecord) (draws : ObserveDraws) :
    Option AtomicCaseProjection → StoreM ObserveResult
  | none =>
    let (aliasType, aliasValue) := observationAlias py observation
    match observation.status with
    | .firing => createFromUnhealthy py policy observation aliasType aliasValue draws
    | .clean | .resolved => do
      let event ← storeEvent (observationEvent policy "observation_clean_without_case" none
        observation [("observation_id", .str observation.observationId),
          ("alias_type", .str aliasType.text)] draws.update)
      pure {
        action := .cleanWithoutCase
        observation := observation
        case := none
        events := [event] }
    | .unknown => do
      let event ← storeEvent (observationEvent policy "observation_ignored_unknown_status" none
        observation [("observation_id", .str observation.observationId),
          ("status", .str observation.status.text)] draws.update)
      pure {
        action := .ignoredUnknownStatus
        observation := observation
        case := none
        events := [event] }
  | some case =>
    match observation.status with
    | .firing => guardedCaseWrite case (updateUnhealthy policy observation draws)
    | .clean | .resolved => guardedCaseWrite case (recordClean policy observation draws)
    | .unknown => do
      let event ← storeEvent (observationEvent policy "observation_ignored_unknown_status"
        (some case.caseId) observation [("observation_id", .str observation.observationId),
          ("status", .str observation.status.text)] draws.update)
      pure {
        action := .ignoredUnknownStatus
        observation := observation
        case := some case
        events := [event] }

/-- `get_case(case_id) if case_id else None`, refusing a case that is not atomic. -/
def caseOfAlias (caseId : Option String) : StoreM (Option AtomicCaseProjection) := do
  let case ← peek fun s => (truthyId caseId).bind fun caseId => s.cases.get? caseId
  match case with
  | none => pure none
  | some (.atomic case) => pure (some case)
  | some (.storm _) => raise .valueError

def observe (observation : ObservationRecord) (draws : ObserveDraws) : StoreM ObserveResult := do
  let observation ← putObservation observation
  let (aliasType, aliasValue) := observationAlias py observation
  let caseId ← resolveAlias aliasType aliasValue
  let case ← caseOfAlias caseId
  observeCase py policy observation draws case

end Writes

end NocAgent.Cases
