import NocAgent.Cases.GraphMemory
import NocAgent.Cases.Observe

/-!
# Correlation of cases

* `attachChild`, `detachChild`, `markIndependentActionRequired` — the relation between a meta case
  and its children, written on both sides.
* `createMetaCase` — a new meta case and its children, one after the other.
* `correlateObservations` — firing observations of one scope become a meta case.

All calls of the store are made under its lock, which the guards hold.
-/

set_option autoImplicit false

namespace NocAgent.Cases

open Effects Effects.Action Keyed

inductive MetaCaseAction where
  | created
  | attached
  | detached
  deriving DecidableEq, Repr

/-- What a meta-case method returns. -/
structure MetaCaseResult where
  action : MetaCaseAction
  metaCase : MetaCaseProjection
  events : List CaseEvent

/-! ## Lookup -/

/-- `case if isinstance(case, MetaCaseProjection) else None`. -/
def CaseProjection.storm? : CaseProjection → Option MetaCaseProjection
  | .atomic _ => none
  | .storm case => some case

theorem CaseProjection.storm?_eq_some {p : CaseProjection} {case : MetaCaseProjection} :
    p.storm? = some case ↔ p = .storm case := by
  cases p <;> simp [CaseProjection.storm?]

def Store.metaCase? (s : Store) (metaCaseId : String) : Option MetaCaseProjection :=
  (s.cases.get? metaCaseId).bind CaseProjection.storm?

/-- `_require_meta_case`. -/
def requireMetaCase (metaCaseId : String) : StoreM MetaCaseProjection := do
  let case ← peek fun s => s.metaCase? metaCaseId
  orRaise case .keyError

/-- The statuses that let another meta case take a child over. -/
def RELEASING_STATUSES : List CaseStatus := [.split, .merged, .resolved, .closed]

/-- Another meta case still holds the child. -/
def Store.HeldElsewhere (s : Store) (child : AtomicCaseProjection) (metaCaseId : String) : Prop :=
  child.metaCaseId ≠ "" ∧ child.metaCaseId ≠ metaCaseId ∧
    ∃ other ∈ s.metaCase? child.metaCaseId, other.status ∉ RELEASING_STATUSES

instance (s : Store) (child : AtomicCaseProjection) (metaCaseId : String) :
    Decidable (s.HeldElsewhere child metaCaseId) := by
  unfold Store.HeldElsewhere; infer_instance

/-! ## The relation -/

section Relation

variable (policy : CasePolicy)

/-- The meta case with one more child. -/
def withChild (metaCase : MetaCaseProjection) (child : AtomicCaseProjection) (now : String) :
    MetaCaseProjection :=
  { metaCase with
    childCaseIds := if child.caseId ∈ metaCase.childCaseIds then metaCase.childCaseIds
      else metaCase.childCaseIds ++ [child.caseId]
    affectedEntities :=
      if child.resourceId ≠ "" ∧ child.resourceId ∉ metaCase.affectedEntities then
        metaCase.affectedEntities ++ [child.resourceId]
      else metaCase.affectedEntities
    lastChildUpdateAt := now
    updatedAt := now
    policyVersion := policy.policyVersion }

/-- The child of a meta case. -/
def attachedTo (child : AtomicCaseProjection) (metaCaseId : String)
    (independentActionRequired : Bool) (now : String) : AtomicCaseProjection :=
  { child with
    metaCaseId := metaCaseId
    coveredByMetaCase := !independentActionRequired
    independentActionRequired := independentActionRequired
    updatedAt := now
    policyVersion := policy.policyVersion }

/-- `"operator" if actor_id else "system"`. -/
def actorTypeOf (actorId : String) : ActorType := if actorId ≠ "" then .operator else .system

def attachedEvent (metaCase : MetaCaseProjection) (child : AtomicCaseProjection) (reason : String)
    (confidence : PyFloat) (actorId : String) (draw : Draw) : CaseEvent where
  eventId := draw.eventId
  caseId := some child.caseId
  metaCaseId := some metaCase.caseId
  eventType := "child_case_attached_to_meta_case"
  actorType := actorTypeOf actorId
  actorId := actorId
  occurredAt := draw.now
  policyVersion := policy.policyVersion
  payload := [("reason", .str reason), ("confidence", .float confidence),
    ("covered_by_meta_case", .bool child.coveredByMetaCase),
    ("independent_action_required", .bool child.independentActionRequired)]

def attachChild (metaCaseId childCaseId reason : String) (confidence : PyFloat) (actorId : String)
    (independentActionRequired : Bool) (draw : Draw) : StoreM MetaCaseResult :=
  caseWriteGuard (min metaCaseId childCaseId) <| caseWriteGuard (max metaCaseId childCaseId) do
    let metaCase ← requireMetaCase metaCaseId
    let child ← requireAtomicCase childCaseId
    let held ← peek fun s => decide (s.HeldElsewhere child metaCase.caseId)
    raiseIf (held = true) .valueError
    let metaCase := withChild policy metaCase child draw.now
    let child := attachedTo policy child metaCase.caseId independentActionRequired draw.now
    let _ ← upsertCase (.storm metaCase)
    let _ ← upsertCase (.atomic child)
    let event ← storeEvent (attachedEvent policy metaCase child reason confidence actorId draw)
    pure ⟨.attached, metaCase, [event]⟩

/-- The meta case without a child. -/
def withoutChild (metaCase : MetaCaseProjection) (childCaseId now : String) : MetaCaseProjection :=
  { metaCase with
    childCaseIds := metaCase.childCaseIds.filter fun caseId => caseId ≠ childCaseId
    lastChildUpdateAt := now
    updatedAt := now
    policyVersion := policy.policyVersion }

/-- The case, no longer a child of the meta case if it was one. -/
def detachedFrom (child : AtomicCaseProjection) (metaCaseId now : String) : AtomicCaseProjection :=
  { child with
    metaCaseId := if child.metaCaseId = metaCaseId then "" else child.metaCaseId
    coveredByMetaCase := if child.metaCaseId = metaCaseId then false else child.coveredByMetaCase
    updatedAt := now
    policyVersion := policy.policyVersion }

def detachChild (metaCaseId childCaseId reason actorId : String) (draw : Draw) :
    StoreM MetaCaseResult :=
  caseWriteGuard (min metaCaseId childCaseId) <| caseWriteGuard (max metaCaseId childCaseId) do
    let metaCase ← requireMetaCase metaCaseId
    let child ← requireAtomicCase childCaseId
    let metaCase := withoutChild policy metaCase child.caseId draw.now
    let child := detachedFrom policy child metaCase.caseId draw.now
    let _ ← upsertCase (.storm metaCase)
    let _ ← upsertCase (.atomic child)
    let event ← storeEvent {
      eventId := draw.eventId
      caseId := some child.caseId
      metaCaseId := some metaCase.caseId
      eventType := "child_case_detached_from_meta_case"
      actorType := actorTypeOf actorId
      actorId := actorId
      occurredAt := draw.now
      policyVersion := policy.policyVersion
      payload := [("reason", .str reason)] }
    pure ⟨.detached, metaCase, [event]⟩

/-- The case with the operator's mark set or cleared. -/
def markedIndependent (child : AtomicCaseProjection) (required : Bool) (now : String) :
    AtomicCaseProjection :=
  { child with
    independentActionRequired := required
    coveredByMetaCase :=
      if required = true then false
      else if child.metaCaseId ≠ "" then true
      else child.coveredByMetaCase
    updatedAt := now
    policyVersion := policy.policyVersion }

def markIndependentActionRequired (childCaseId : String) (required : Bool) (reason actorId : String)
    (draw : Draw) : StoreM AtomicCaseProjection :=
  caseWriteGuard childCaseId do
    let child ← requireAtomicCase childCaseId
    let child := markedIndependent policy child required draw.now
    let _ ← upsertCase (.atomic child)
    let _ ← storeEvent {
      eventId := draw.eventId
      caseId := some child.caseId
      metaCaseId := if child.metaCaseId ≠ "" then some child.metaCaseId else none
      eventType := "child_case_independent_action_required_set"
      actorType := actorTypeOf actorId
      actorId := actorId
      occurredAt := draw.now
      policyVersion := policy.policyVersion
      payload := [("required", .bool required), ("reason", .str reason)] }
    pure child

end Relation

/-! ## A new meta case -/

/-- The arguments of `create_meta_case`. -/
structure MetaCaseRequest where
  title : String
  summary : String := ""
  eventFingerprint : String := ""
  eventType : String := "unknown"
  correlationReason : String
  correlationConfidence : PyFloat
  childCaseIds : List String := []
  observations : List ObservationRecord := []
  actorId : String := ""

/-- What one call draws: the id of the meta case, its event, and one event a child. -/
structure MetaCaseDraws where
  metaCaseId : String
  created : Draw
  attached : Nat → Draw

/-- `event_fingerprint_from_parts`. -/
def eventFingerprintFromParts (py : Python) (title : String) (parts : List String) : String :=
  let sorted := (parts.filter fun part => part ≠ "").insertionSort (· ≤ ·)
  takeChars 16 (py.sha256 (py.stableJson (.dict
    [("title", .str title), ("parts", .list (sorted.map Json.str))])))

/-- The event type with this text. -/
def MetaEventType.ofText? (text : String) : Option MetaEventType :=
  [MetaEventType.routerDown, .linkFailure, .routingReconvergence, .monitoringFailure, .powerEvent,
    .unknown].find? fun eventType => eventType.text = text

/-- `min(..., default="")` and `max(..., default="")`. -/
def firstText (texts : List String) : String := texts.min?.getD ""

def lastText (texts : List String) : String := texts.max?.getD ""

section Creation

variable (py : Python) (policy : CasePolicy)

/-- The new meta case; a confidence outside `[0, 1]` and an unknown event type are refused. -/
def newMetaCase (request : MetaCaseRequest) (fingerprint : String) (draws : MetaCaseDraws) :
    Except PyExc MetaCaseProjection :=
  let confidence := request.correlationConfidence
  let seen := request.observations.map ObservationRecord.observedAt
  match MetaEventType.ofText? request.eventType with
  | none => .error .validationError
  | some eventType =>
    if ¬ (confidence.ge 0 = true ∧ confidence.gt 1 = false) then .error .validationError
    else .ok <| MetaCaseProjection.fillCounts {
      caseId := draws.metaCaseId
      eventFingerprint := fingerprint
      title := request.title
      summary := request.summary
      eventType := eventType
      status := if confidence.ge policy.stormConfidenceThreshold then .activeEvent
        else .candidateEvent
      correlationReason := request.correlationReason
      correlationConfidence := confidence
      observationIds := request.observations.map ObservationRecord.observationId
      notificationIds := (request.observations.map ObservationRecord.sourceEventId).filter
        fun sourceEventId => sourceEventId ≠ ""
      firstNotificationAt := firstText seen
      lastNotificationAt := lastText seen
      openedAt := draws.created.now
      updatedAt := draws.created.now
      stormStartedAt := firstText seen
      stormLastSeenAt := lastText seen
      policyVersion := policy.policyVersion }

def metaCaseCreatedEvent (metaCase : MetaCaseProjection) (actorId : String) (draw : Draw) :
    CaseEvent where
  eventId := draw.eventId
  metaCaseId := some metaCase.caseId
  eventType := "meta_case_created"
  actorId := actorId
  occurredAt := draw.now
  policyVersion := policy.policyVersion
  payload := [("event_fingerprint", .str metaCase.eventFingerprint),
    ("correlation_reason", .str metaCase.correlationReason),
    ("correlation_confidence", .float metaCase.correlationConfidence),
    ("status", .str metaCase.status.text),
    ("observation_ids", .list (metaCase.observationIds.map Json.str))]

def createMetaCase (request : MetaCaseRequest) (draws : MetaCaseDraws) : StoreM MetaCaseResult := do
  let ids := request.observations.map ObservationRecord.observationId
  let fingerprint := orText request.eventFingerprint (eventFingerprintFromParts py request.title ids)
  let metaCase ← ofResult (newMetaCase policy request fingerprint draws)
  let _ ← upsertCase (.storm metaCase)
  let created ← storeEvent (metaCaseCreatedEvent policy metaCase request.actorId draws.created)
  let attached ← forEach (fun child => attachChild policy metaCase.caseId child.1
    request.correlationReason request.correlationConfidence request.actorId false
      (draws.attached child.2)) request.childCaseIds.zipIdx
  let metaCase ← requireMetaCase metaCase.caseId
  pure ⟨.created, metaCase, created :: attached.flatMap MetaCaseResult.events⟩

end Creation

/-! ## Storms -/

/-- The fields of an observation that can be the scope of a storm. -/
def SCOPE_FIELDS : List (String × (ObservationRecord → String)) :=
  [("site", ObservationRecord.site), ("customer", ObservationRecord.customer),
    ("service", ObservationRecord.service), ("resource", ObservationRecord.resource),
    ("entity", ObservationRecord.entity)]

/-- `_shared_scope`: the first field of which there is one value. -/
def sharedScope (observations : List ObservationRecord) : Option (String × String) :=
  SCOPE_FIELDS.findSome? fun field =>
    match ((observations.map field.2).filter fun value => value ≠ "").dedup with
    | [value] => some (field.1, value)
    | _ => none

/-- `_event_type_for_observations`. -/
def eventTypeForObservations (py : Python) (observations : List ObservationRecord) : String :=
  let rendered := py.lower (" ".intercalate (observations.map fun obs => " ".intercalate
    [obs.detector, obs.ruleId, textOf py (obs.annotations.get "summary")]))
  let has := fun text => hasText text rendered
  if has "router" ∧ (has "down" ∨ has "unreachable") then "router_down"
  else if has "link" ∧ (has "down" ∨ has "loss") then "link_failure"
  else if has "monitor" ∨ has "scrape" then "monitoring_failure"
  else if has "bgp" ∨ has "ospf" ∨ has "isis" ∨ has "reconvergence" then "routing_reconvergence"
  else if has "power" then "power_event"
  else "unknown"

section Storms

variable (py : Python) (policy : CasePolicy)

/-- The cases of the observations, in their order and each once. -/
def correlatedCases : List ObservationRecord → List String → StoreM (List String)
  | [], found => pure found
  | observation :: rest, found => do
    let caseId ← resolveAlias (observationAlias py observation).1 (observationAlias py observation).2
    match truthyId caseId with
    | some caseId => correlatedCases rest (if caseId ∈ found then found else found ++ [caseId])
    | none => correlatedCases rest found

/-- The request for the meta case of a storm. -/
def stormRequest (firing : List ObservationRecord) (scope : String × String)
    (childCaseIds : List String) : MetaCaseRequest where
  title := "Correlated " ++ scope.1 ++ " event: " ++ scope.2
  summary :=
    let detectors := (((firing.map fun obs => orText obs.detector obs.ruleId).filter
      fun detector => detector ≠ "").dedup).insertionSort (· ≤ ·)
    toString firing.length ++ " firing observations share " ++ scope.1 ++ "=" ++ scope.2 ++ ": " ++
      ", ".intercalate (detectors.take 5)
  eventType := eventTypeForObservations py firing
  correlationReason := "shared_" ++ scope.1
  correlationConfidence := .fin (max (4 / 5) policy.stormConfidenceThreshold)
  childCaseIds := childCaseIds
  observations := firing

def correlateObservations (observations : List ObservationRecord) (draws : MetaCaseDraws) :
    StoreM (Option MetaCaseResult) := do
  let firing := observations.filter fun obs => obs.status == .firing
  if firing.length < 2 then pure none
  else
    match sharedScope firing with
    | none => pure none
    | some scope => do
      let childCaseIds ← correlatedCases py firing []
      if childCaseIds.length < 2 then pure none
      else do
        let result ← createMetaCase py policy (stormRequest py policy firing scope childCaseIds) draws
        pure (some result)

end Storms

end NocAgent.Cases
