import NocAgent.Lib.Action
import NocAgent.Lib.Table
import NocAgent.Cases.Lhp
import Mathlib.Data.List.Sort
import Mathlib.Data.Prod.Lex
import Mathlib.Data.String.Basic

/-!
# The in-memory case store

* `Store` — the dictionaries of `InMemoryCaseStore`, each under its own key.
* One operation a method, as an `Action`: a call that raises leaves what it has written.
* `updateOutboxIfStatus`, `claimAttention`, `completeAttention` — the compare-and-set writes.
* `createHandoffWithObjectives`, `appendHandoffUpdate`, `markHandoffVerified`,
  `resolveCaseWithOutcome`, `recordOutcome` — the handoff operations.

The lock makes every method one step.  A method that reads the clock or draws a token takes
them as arguments.
-/

set_option autoImplicit false

namespace NocAgent.Cases

open Effects Effects.Action Keyed

/-- `(token, outbox_id, claim_token, expires)`. -/
structure AttentionLease where
  token : String
  outboxId : String
  claimToken : String
  expires : Int
  deriving DecidableEq, Repr

abbrev HandoffKey := String × LoopName × String

/-- The tables and indexes of `InMemoryCaseStore`. -/
structure Store where
  observations : Table ObservationRecord.observationId := .empty
  cases : Table CaseProjection.caseId := .empty
  events : Table CaseEvent.eventId := .empty
  caseEvents : Index String (List String) := .empty
  aliases : Table CaseIdentityAlias.aliasId := .empty
  aliasIndex : Index (AliasType × String) String := .empty
  outbox : Table OutboxIntent.outboxId := .empty
  outboxIndex : Index String String := .empty
  attention : Table AttentionDelivery.caseId := .empty
  acknowledgementScopes : Index String (String × Severity) := .empty
  attentionLeases : Index String AttentionLease := .empty
  handoffs : Table CaseHandoff.handoffId := .empty
  handoffIdempotencyIndex : Index String String := .empty
  activeHandoffIndex : Index HandoffKey String := .empty
  handoffUpdates : Table HandoffUpdate.updateId := .empty
  handoffUpdateExternalIndex : Index (LoopName × String) String := .empty
  verificationObjectives : Table VerificationObjective.objectiveId := .empty
  verificationObjectiveIndex : Index (String × String) String := .empty
  outcomes : Table OutcomeRecord.outcomeId := .empty
  feedback : Table OperatorFeedback.feedbackId := .empty

abbrev StoreM := Action Store PyExc

/-- A truthy entry of a string-valued index. -/
def truthyId (id : Option String) : Option String := id.filter fun i => i ≠ ""

def TERMINAL_CASE_STATUSES : List CaseStatus := [.resolved, .closed, .expired, .linked]

/-! ## Cases and events -/

def Store.atomicCase? (s : Store) (caseId : String) : Option AtomicCaseProjection :=
  (s.cases.get? caseId).bind CaseProjection.atomic?

theorem atomicCase?_eq_some {s : Store} {caseId : String} {case : AtomicCaseProjection} :
    s.atomicCase? caseId = some case ↔ s.cases.get? caseId = some (.atomic case) := by
  unfold Store.atomicCase?
  rw [Option.bind_eq_some_iff]
  constructor
  · rintro ⟨stored, hs, ha⟩
    rw [hs, CaseProjection.atomic?_eq_some.1 ha]
  · intro h
    exact ⟨_, h, rfl⟩

theorem caseId_of_atomicCase? {s : Store} {caseId : String} {case : AtomicCaseProjection}
    (h : s.atomicCase? caseId = some case) : case.caseId = caseId :=
  by
  have hk := Table.key_of_get? (atomicCase?_eq_some.1 h)
  exact hk

/-- `_require_atomic_case_locked`. -/
def requireAtomicCase (caseId : String) : StoreM AtomicCaseProjection := do
  let case ← peek fun s => s.atomicCase? caseId
  orRaise case .keyError

def putCase (case : AtomicCaseProjection) : StoreM Unit :=
  alter fun s => { s with cases := s.cases.put (.atomic case) }

def upsertCase (case : CaseProjection) : StoreM CaseProjection := do
  alter fun s => { s with cases := s.cases.put case }
  pure case

def getCase (caseId : String) : StoreM (Option CaseProjection) := peek fun s => s.cases.get? caseId

/-- `_case_events.setdefault(target, []).append(event_id)`, for a target that is not empty. -/
def listEvent (ix : Index String (List String)) (eventId : String) :
    Option String → Index String (List String)
  | none => ix
  | some target => if target = "" then ix else ix.set target ((ix target).getD [] ++ [eventId])

/-- `_store_event_locked`. -/
def storeEvent (event : CaseEvent) : StoreM CaseEvent := do
  let existing ← peek fun s => s.events.get? event.eventId
  match existing with
  | some existing => pure existing
  | none =>
    alter fun s => { s with
      events := s.events.put event
      caseEvents := listEvent (listEvent s.caseEvents event.eventId event.caseId)
        event.eventId event.metaCaseId }
    pure event

/-- `_store_event_locked(event) if event is not None else None`. -/
def storeEvent? : Option CaseEvent → StoreM (Option CaseEvent)
  | none => pure none
  | some event => do
    let stored ← storeEvent event
    pure (some stored)

/-! ## Observations, aliases and acknowledgements -/

def putObservation (observation : ObservationRecord) : StoreM ObservationRecord := do
  let existing ← peek fun s => s.observations.get? observation.observationId
  match existing with
  | some existing => pure existing
  | none =>
    alter fun s => { s with observations := s.observations.put observation }
    pure observation

def aliasKey (aliasType : AliasType) (aliasValue : String) : AliasType × String :=
  (aliasType, strip aliasValue)

def resolveAlias (aliasType : AliasType) (aliasValue : String) : StoreM (Option String) :=
  peek fun s => do
    let aliasId ← truthyId (s.aliasIndex (aliasKey aliasType aliasValue))
    let found ← s.aliases.get? aliasId
    if found.retiredAt = none then some found.caseId else none

/-- The first alias that is already taken decides; an alias without a value is refused. -/
def aliasedCase : List CaseIdentityAlias → StoreM (Option AtomicCaseProjection)
  | [] => pure none
  | entry :: rest => do
    raiseIf (entry.aliasValue = "") .valueError
    let existingId ← peek fun s => truthyId (s.aliasIndex (aliasKey entry.aliasType entry.aliasValue))
    match existingId with
    | none => aliasedCase rest
    | some existingId =>
      let existingAlias ← peek fun s => s.aliases.get? existingId
      let existingAlias ← orRaise existingAlias .keyError
      let existingCase ← peek fun s => s.atomicCase? existingAlias.caseId
      let existingCase ← orRaise existingCase .valueError
      pure (some existingCase)

/-- The first open atomic case with the same fingerprint. -/
def Store.sameFingerprint (s : Store) (fingerprint : String) : Option AtomicCaseProjection :=
  (s.cases.rows.filterMap CaseProjection.atomic?).find? fun existing =>
    existing.fingerprint ≠ "" ∧ existing.fingerprint = fingerprint ∧
      existing.status ∉ TERMINAL_CASE_STATUSES

def storeAlias (entry : CaseIdentityAlias) : StoreM Unit :=
  alter fun s => { s with
    aliases := s.aliases.put entry
    aliasIndex := s.aliasIndex.set (aliasKey entry.aliasType entry.aliasValue) entry.aliasId }

/-- The stored case, the stored events and whether the case was created. -/
def createAtomicCase (case : AtomicCaseProjection) (aliases : List CaseIdentityAlias)
    (events : List CaseEvent) : StoreM (AtomicCaseProjection × List CaseEvent × Bool) := do
  let aliased ← aliasedCase aliases
  match aliased with
  | some existing => pure (existing, [], false)
  | none =>
    let same ← peek fun s => s.sameFingerprint case.fingerprint
    match same with
    | some existing => pure (existing, [], false)
    | none =>
      putCase case
      let _ ← forEach storeAlias aliases
      let stored ← forEach storeEvent events
      pure (case, stored, true)

def recordAcknowledgementScope (caseId acknowledgedAt : String) (severity : Severity) :
    StoreM Unit := do
  let _ ← requireAtomicCase caseId
  alter fun s => { s with
    acknowledgementScopes := s.acknowledgementScopes.set caseId (acknowledgedAt, severity) }

def acknowledgementScope (caseId acknowledgedAt : String) : StoreM (Option Severity) :=
  peek fun s => do
    let scope ← s.acknowledgementScopes caseId
    if scope.1 = acknowledgedAt then some scope.2 else none

def recordFeedback (feedback : OperatorFeedback) : StoreM OperatorFeedback := do
  let existing ← peek fun s => s.feedback.get? feedback.feedbackId
  match existing with
  | some existing => pure existing
  | none =>
    alter fun s => { s with feedback := s.feedback.put feedback }
    pure feedback

/-! ## Outbox and attention -/

/-- `_enqueue_outbox_locked`. -/
def enqueueOutbox (intent : OutboxIntent) : StoreM OutboxIntent := do
  let existingId ← peek fun s => truthyId (s.outboxIndex intent.idempotencyKey)
  match existingId with
  | some existingId =>
    let existing ← peek fun s => s.outbox.get? existingId
    orRaise existing .keyError
  | none =>
    alter fun s => { s with
      outbox := s.outbox.put intent
      outboxIndex := s.outboxIndex.set intent.idempotencyKey intent.outboxId }
    pure intent

def Store.listOutbox (s : Store) (status : Option OutboxStatus) : List OutboxIntent :=
  (s.outbox.rows.filter fun row => status.all (row.status = ·)).insertionSort
    fun a b => a.createdAt ≤ b.createdAt

/-- What `update_outbox_if_status` compares before it writes. -/
def OutboxIntent.Matches (current : OutboxIntent) (expectedStatus : OutboxStatus)
    (expectedClaimToken : Option String) : Prop :=
  current.status = expectedStatus ∧ ∀ t ∈ expectedClaimToken, current.claimToken = t

instance (current : OutboxIntent) (expectedStatus : OutboxStatus)
    (expectedClaimToken : Option String) :
    Decidable (current.Matches expectedStatus expectedClaimToken) := by
  unfold OutboxIntent.Matches; infer_instance

def updateOutboxIfStatus (intent : OutboxIntent) (expectedStatus : OutboxStatus)
    (expectedClaimToken : Option String) : StoreM (Option OutboxIntent) := do
  let current ← peek fun s => s.outbox.get? intent.outboxId
  match current with
  | none => pure none
  | some current =>
    if current.Matches expectedStatus expectedClaimToken then do
      alter fun s => { s with
        outbox := s.outbox.put intent
        outboxIndex := s.outboxIndex.set intent.idempotencyKey intent.outboxId }
      pure (some intent)
    else pure none

/-- `previous.sequence if previous else 0`. -/
def Store.sequenceOf (s : Store) (caseId : String) : Nat :=
  ((s.attention.get? caseId).map AttentionDelivery.sequence).getD 0

/-- `now` is read under the lock and `token` is a fresh `uuid4().hex`. -/
def claimAttention (intent : OutboxIntent) (expectedSequence : Nat) (leaseSeconds : Int)
    (now : Int) (token : String) : StoreM (Option String) :=
  match truthyId intent.caseId with
  | none => raise .valueError
  | some caseId => do
    raiseIf (intent.claimToken = "" ∨ ¬ (1 ≤ leaseSeconds ∧ leaseSeconds ≤ 300)) .valueError
    let current ← peek fun s => s.outbox.get? intent.outboxId
    let sequence ← peek fun s => s.sequenceOf caseId
    let lease ← peek fun s => s.attentionLeases caseId
    match current with
    | none => pure none
    | some current =>
      if current.status ≠ .inProgress ∨ current.claimToken ≠ intent.claimToken ∨
          current.caseId ≠ intent.caseId ∨ sequence ≠ expectedSequence ∨
          (∃ l ∈ lease, now < l.expires) then
        pure none
      else do
        let _ ← requireAtomicCase caseId
        alter fun s => { s with
          attentionLeases := s.attentionLeases.set caseId
            ⟨token, intent.outboxId, intent.claimToken, now + leaseSeconds * 1000000⟩ }
        pure (some token)

def releaseAttention (caseId leaseToken : String) : StoreM Unit :=
  alter fun s =>
    match s.attentionLeases caseId with
    | some lease =>
      if lease.token = leaseToken then
        { s with attentionLeases := s.attentionLeases.pop caseId }
      else s
    | none => s

/-- Report fields on a fresh locked case. -/
def applyReportCompletion (py : Python) (case : AtomicCaseProjection) (event : CaseEvent) :
    Except PyExc AtomicCaseProjection :=
  if event.caseId ≠ some case.caseId ∨
      (event.eventType ≠ "case_reported" ∧ event.eventType ≠ "case_reasserted") then
    .error .valueError
  else if event.payload.has "state_signature" then
    .ok { case with
      lastReportedAt := event.occurredAt
      lastReportedSignature := pyStr py (event.payload.get "state_signature")
      lastReassertedAt :=
        if event.eventType = "case_reasserted" then event.occurredAt else case.lastReassertedAt
      updatedAt := event.occurredAt
      policyVersion := event.policyVersion }
  else .error .keyError

/-- What `complete_attention` requires before it commits. -/
def Store.MayComplete (s : Store) (intent : OutboxIntent) (delivery : AttentionDelivery)
    (expectedSequence : Nat) (expectedClaimToken leaseToken : String) (now : Int) : Prop :=
  (∃ current ∈ s.outbox.get? intent.outboxId, current.status = .inProgress ∧
    current.claimToken = expectedClaimToken ∧ current.caseId = some delivery.caseId) ∧
  s.sequenceOf delivery.caseId = expectedSequence ∧
  ∃ lease ∈ s.attentionLeases delivery.caseId, lease.token = leaseToken ∧
    lease.outboxId = intent.outboxId ∧ lease.claimToken = expectedClaimToken ∧ now < lease.expires

instance (s : Store) (intent : OutboxIntent) (delivery : AttentionDelivery)
    (expectedSequence : Nat) (expectedClaimToken leaseToken : String) (now : Int) :
    Decidable (s.MayComplete intent delivery expectedSequence expectedClaimToken leaseToken now) := by
  unfold Store.MayComplete; infer_instance

def completeAttention (py : Python) (intent : OutboxIntent) (delivery : AttentionDelivery)
    (expectedSequence : Nat) (expectedClaimToken leaseToken : String)
    (reportEvent : Option CaseEvent) (now : Int) : StoreM (Option OutboxIntent) := do
  raiseIf (intent.status ≠ .succeeded ∨ intent.caseId ≠ some delivery.caseId ∨
    delivery.sequence ≠ expectedSequence + 1) .valueError
  let ready ← peek fun s =>
    decide (s.MayComplete intent delivery expectedSequence expectedClaimToken leaseToken now)
  if ready then do
    let case ← requireAtomicCase delivery.caseId
    match reportEvent with
    | none => pure ()
    | some event =>
      match applyReportCompletion py case event with
      | .error e => raise e
      | .ok reported => do
        putCase reported
        let _ ← storeEvent event
        pure ()
    alter fun s => { s with
      attention := s.attention.put delivery
      outbox := s.outbox.put intent
      attentionLeases := s.attentionLeases.pop delivery.caseId }
    pure (some intent)
  else pure none

/-! ## Handoffs -/

def handoffKey (handoff : CaseHandoff) : HandoffKey :=
  (handoff.caseId, handoff.targetLoop, handoff.objectiveKey)

def handoffActive (status : HandoffStatus) : Bool := status ∉ TERMINAL_HANDOFF_STATUSES

def caseStatusForHandoff : HandoffStatus → CaseStatus
  | .accepted | .inProgress | .changePlanned => .handoffInProgress
  | .implemented => .verificationPending
  | .blocked => .blocked
  | .failed => .failed
  | .needsHuman => .needsHuman
  | .verified | .resolved => .verificationPending
  | .cancelled | .expired => .investigating
  | .requested => .handoffRequested

def requireHandoff (handoffId : String) : StoreM CaseHandoff := do
  let handoff ← peek fun s => s.handoffs.get? handoffId
  orRaise handoff .keyError

def requireHandoffTransition (current target : HandoffStatus) (actorLoop : LoopName) :
    StoreM Unit :=
  raiseIf (allowedHandoffTransition current target actorLoop = false) .valueError

/-- `if _handoff_active(handoff.status): _active_handoff_index[key] = handoff_id`. -/
def Store.indexIfActive (s : Store) (handoff : CaseHandoff) : Store :=
  if handoffActive handoff.status then
    { s with activeHandoffIndex := s.activeHandoffIndex.set (handoffKey handoff) handoff.handoffId }
  else s

/-- Store a handoff over the one with its id and move its index entry. -/
def Store.replaceHandoff (s : Store) (old new : CaseHandoff) : Store :=
  ({ s with
    handoffs := s.handoffs.put new
    activeHandoffIndex := s.activeHandoffIndex.pop (handoffKey old) }).indexIfActive new

/-- What the creation of a handoff returns. -/
structure HandoffCreateResult where
  handoff : CaseHandoff
  objectives : List VerificationObjective
  case : AtomicCaseProjection
  event : Option CaseEvent
  outboxIntent : Option OutboxIntent
  created : Bool

/-- What the progress of a handoff returns. -/
structure HandoffUpdateResult where
  update : HandoffUpdate
  handoff : CaseHandoff
  case : AtomicCaseProjection
  event : Option CaseEvent
  created : Bool

/-- `_existing_handoff_locked`. -/
def existingHandoff (handoff : CaseHandoff) : StoreM (Option CaseHandoff) := do
  let existingId ← peek fun s => truthyId (s.handoffIdempotencyIndex handoff.idempotencyKey)
  match existingId with
  | some existingId =>
    let existing ← requireHandoff existingId
    pure (some existing)
  | none =>
    let activeId ← peek fun s => truthyId (s.activeHandoffIndex (handoffKey handoff))
    match activeId with
    | some activeId =>
      let existing ← requireHandoff activeId
      pure (some existing)
    | none => pure none

/-- `_upsert_objective_locked`. -/
def upsertObjective (objective : VerificationObjective) : StoreM VerificationObjective := do
  let key := (objective.caseId, objective.objectiveKey)
  let existingId ← peek fun s => truthyId (s.verificationObjectiveIndex key)
  let stored := { objective with objectiveId := existingId.getD objective.objectiveId }
  alter fun s => { s with
    verificationObjectives := s.verificationObjectives.put stored
    verificationObjectiveIndex := s.verificationObjectiveIndex.set key stored.objectiveId }
  pure stored

def Store.objectivesForHandoff (s : Store) (handoffId : String) : List VerificationObjective :=
  (s.verificationObjectives.rows.filter fun row => row.handoffId = handoffId).insertionSort
    fun a b => toLex (a.createdAt, a.objectiveId) ≤ toLex (b.createdAt, b.objectiveId)

/-- One objective of a new handoff. -/
def storeObjective (handoff : CaseHandoff) (objective : VerificationObjective) :
    StoreM VerificationObjective := do
  raiseIf (objective.caseId ≠ handoff.caseId) .valueError
  raiseIf (objective.handoffId ≠ "" ∧ objective.handoffId ≠ handoff.handoffId) .valueError
  upsertObjective { objective with handoffId := handoff.handoffId }

/-- `_enqueue_outbox_locked(outbox_intent) if outbox_intent is not None else None`. -/
def enqueueOutbox? : Option OutboxIntent → StoreM (Option OutboxIntent)
  | none => pure none
  | some intent => do
    let stored ← enqueueOutbox intent
    pure (some stored)

/-- `a or b`, for strings. -/
def orText (a b : String) : String := if a = "" then b else a

def createHandoffWithObjectives (handoff : CaseHandoff) (objectives : List VerificationObjective)
    (caseStatus : Option CaseStatus) (event : Option CaseEvent)
    (outboxIntent : Option OutboxIntent) : StoreM HandoffCreateResult := do
  raiseIf (MAX_VERIFICATION_OBJECTIVES_PER_HANDOFF < objectives.length) .valueError
  let case ← requireAtomicCase handoff.caseId
  let existing ← existingHandoff handoff
  match existing with
  | some existing =>
    let objectives ← peek fun s => s.objectivesForHandoff existing.handoffId
    pure ⟨existing, objectives, case, none, none, false⟩
  | none =>
    alter fun s => ({ s with
      handoffs := s.handoffs.put handoff
      handoffIdempotencyIndex :=
        s.handoffIdempotencyIndex.set handoff.idempotencyKey handoff.handoffId }).indexIfActive handoff
    let stored ← forEach (storeObjective handoff) objectives
    let stamp := orText handoff.updatedAt handoff.createdAt
    let updatedCase := { case with
      status := caseStatus.getD case.status
      handoffStatus := handoff.status.text
      lastHandoffAt := stamp
      updatedAt := stamp }
    putCase updatedCase
    let storedEvent ← storeEvent? event
    let storedOutbox ← enqueueOutbox? outboxIntent
    pure ⟨handoff, stored, updatedCase, storedEvent, storedOutbox, true⟩

def getHandoff (handoffId : String) : StoreM (Option CaseHandoff) :=
  peek fun s => s.handoffs.get? handoffId

/-- `max(..., key=lambda item: (item.updated_at, item.created_at, item.handoff_id))`. -/
def latestHandoff (handoffs : List CaseHandoff) : Option CaseHandoff :=
  handoffs.foldl (fun best item =>
    match best with
    | none => some item
    | some b =>
      if toLex (b.updatedAt, toLex (b.createdAt, b.handoffId)) <
          toLex (item.updatedAt, toLex (item.createdAt, item.handoffId)) then some item
      else some b) none

def Store.survivingHandoff (s : Store) (handoff : CaseHandoff) : Option CaseHandoff :=
  latestHandoff (s.handoffs.rows.filter fun item =>
    item.caseId = handoff.caseId ∧ item.handoffId ≠ handoff.handoffId ∧
      item.status ∉ TERMINAL_HANDOFF_STATUSES)

/-- The case after its handoff moved to `handoff.status`. -/
def caseAfterUpdate (case : AtomicCaseProjection) (handoff : CaseHandoff)
    (surviving : Option CaseHandoff) (caseStatus : Option CaseStatus)
    (caseHandoffStatus : Option String) (stamp : String) : AtomicCaseProjection :=
  if handoff.status ∈ TERMINAL_HANDOFF_STATUSES then
    { case with
      status :=
        if case.status ∈ TERMINAL_CASE_STATUSES then case.status
        else (surviving.map fun h => caseStatusForHandoff h.status).getD .investigating
      handoffStatus := (surviving.getD handoff).status.text
      lastHandoffAt := stamp
      updatedAt := stamp }
  else
    { case with
      status := caseStatus.getD case.status
      handoffStatus := orText (caseHandoffStatus.getD "") handoff.status.text
      lastHandoffAt := stamp
      updatedAt := stamp }

def appendHandoffUpdate (update : HandoffUpdate) (handoffStatus : Option HandoffStatus)
    (caseStatus : Option CaseStatus) (caseHandoffStatus : Option String)
    (event : Option CaseEvent) : StoreM HandoffUpdateResult := do
  let externalKey := (update.sourceLoop, update.externalEventId)
  let existingId ← peek fun s => truthyId (s.handoffUpdateExternalIndex externalKey)
  match existingId with
  | some existingId =>
    let existing ← peek fun s => s.handoffUpdates.get? existingId
    let existing ← orRaise existing .keyError
    let handoff ← requireHandoff existing.handoffId
    let case ← requireAtomicCase handoff.caseId
    pure ⟨existing, handoff, case, none, false⟩
  | none =>
    let handoff ← requireHandoff update.handoffId
    let case ← requireAtomicCase handoff.caseId
    let target := handoffStatus.getD update.status
    raiseIf (target ∈ VERIFIER_ONLY_HANDOFF_STATUSES) .valueError
    requireHandoffTransition handoff.status target update.sourceLoop
    let updated := { handoff with
      status := target
      updatedAt := update.createdAt }
    alter fun s => ({ s with
      handoffUpdates := s.handoffUpdates.put update
      handoffUpdateExternalIndex :=
        s.handoffUpdateExternalIndex.set externalKey update.updateId }).replaceHandoff handoff updated
    let surviving ← peek fun s => s.survivingHandoff updated
    let updatedCase :=
      caseAfterUpdate case updated surviving caseStatus caseHandoffStatus update.createdAt
    putCase updatedCase
    let storedEvent ← storeEvent? event
    pure ⟨update, updated, updatedCase, storedEvent, true⟩

def markHandoffVerified (handoffId now : String) (event : Option CaseEvent) :
    StoreM CaseHandoff := do
  let handoff ← requireHandoff handoffId
  requireHandoffTransition handoff.status .verified .noc
  let stored := { handoff with
    status := .verified
    updatedAt := now }
  alter fun s => s.replaceHandoff handoff stored
  let case ← requireAtomicCase stored.caseId
  putCase { case with
    status := .verificationPending
    handoffStatus := stored.status.text
    lastHandoffAt := now
    updatedAt := now }
  let _ ← storeEvent? event
  pure stored

/-- `if handoff_id:` resolve the handoff too. -/
def resolveHandoff (handoffId now : String) : StoreM Unit :=
  if handoffId = "" then pure ()
  else do
    let handoff ← requireHandoff handoffId
    requireHandoffTransition handoff.status .resolved .noc
    alter fun s => s.replaceHandoff handoff { handoff with
      status := .resolved
      updatedAt := now }

def resolveCaseWithOutcome (caseId handoffId : String) (outcome : OutcomeRecord) (now : String)
    (event : Option CaseEvent) : StoreM AtomicCaseProjection := do
  let case ← requireAtomicCase caseId
  raiseIf (outcome.workItemId ≠ case.caseId) .valueError
  resolveHandoff handoffId now
  let updatedCase := { case with
    status := .resolved
    resolvedAt := some now
    resolutionReason := "lhp_outcome_verified"
    updatedAt := now }
  alter fun s => { s with outcomes := s.outcomes.put outcome }
  putCase updatedCase
  let _ ← storeEvent? event
  pure updatedCase

def recordOutcome (outcome : OutcomeRecord) (event : Option CaseEvent) : StoreM OutcomeRecord := do
  let _ ← requireAtomicCase outcome.workItemId
  let existing ← peek fun s => s.outcomes.get? outcome.outcomeId
  match existing with
  | some existing => pure existing
  | none =>
    alter fun s => { s with outcomes := s.outcomes.put outcome }
    let _ ← storeEvent? event
    pure outcome

/-! ## Verification objectives -/

def upsertVerificationObjective (objective : VerificationObjective) (event : Option CaseEvent) :
    StoreM VerificationObjective := do
  let _ ← requireAtomicCase objective.caseId
  let stored ← upsertObjective objective
  let _ ← storeEvent? event
  pure stored

def updateVerificationObjectiveResult (objective : VerificationObjective)
    (event : Option CaseEvent) : StoreM VerificationObjective := do
  let existing ← peek fun s => s.verificationObjectives.get? objective.objectiveId
  let _ ← orRaise existing .keyError
  alter fun s => { s with
    verificationObjectives := s.verificationObjectives.put objective
    verificationObjectiveIndex := s.verificationObjectiveIndex.set
      (objective.caseId, objective.objectiveKey) objective.objectiveId }
  let _ ← storeEvent? event
  pure objective

/-- The objectives `list_due_verification_objectives` looks at. -/
def Store.DueAt (s : Store) (now : String) (row : VerificationObjective) : Prop :=
  row.status ≠ .pass ∧ row.status ≠ .skipped ∧
  (row.nextCheckAt = "" ∨ row.nextCheckAt ≤ now) ∧
  (row.handoffId = "" ∨
    ∀ handoff ∈ s.handoffs.get? row.handoffId, handoff.status ∉ TERMINAL_HANDOFF_STATUSES)

instance (s : Store) (now : String) (row : VerificationObjective) : Decidable (s.DueAt now row) := by
  unfold Store.DueAt; infer_instance

/-- `_bounded_limit`. -/
def boundedLimit (limit : Int) : Nat := if limit ≤ 0 then 100 else min limit.toNat 500

def Store.listDueVerificationObjectives (s : Store) (now : String) (limit : Int) :
    List VerificationObjective :=
  ((s.verificationObjectives.rows.filter fun row => s.DueAt now row).insertionSort fun a b =>
    toLex (a.nextCheckAt, toLex (a.createdAt, a.objectiveId)) ≤
      toLex (b.nextCheckAt, toLex (b.createdAt, b.objectiveId))).take (boundedLimit limit)

def Store.listVerificationObjectives (s : Store) (caseId : String) : List VerificationObjective :=
  (s.verificationObjectives.rows.filter fun row => row.caseId = caseId).insertionSort fun a b =>
    toLex (a.updatedAt, toLex (a.createdAt, a.objectiveId)) ≤
      toLex (b.updatedAt, toLex (b.createdAt, b.objectiveId))

/-! ## Running the checks -/

@[simp] theorem requireAtomicCase_bind_run {β : Type} (caseId : String)
    (f : AtomicCaseProjection → StoreM β) (s : Store) :
    (requireAtomicCase caseId >>= f) s =
      match s.atomicCase? caseId with
      | some case => f case s
      | none => (.error .keyError, s) := by
  simp only [requireAtomicCase, bind_bind_run, peek_bind_run, orRaise_bind_run]
  cases s.atomicCase? caseId <;> rfl

@[simp] theorem requireHandoff_bind_run {β : Type} (handoffId : String)
    (f : CaseHandoff → StoreM β) (s : Store) :
    (requireHandoff handoffId >>= f) s =
      match s.handoffs.get? handoffId with
      | some handoff => f handoff s
      | none => (.error .keyError, s) := by
  simp only [requireHandoff, bind_bind_run, peek_bind_run, orRaise_bind_run]
  cases s.handoffs.get? handoffId <;> rfl

@[simp] theorem requireHandoffTransition_bind_run {β : Type} (current target : HandoffStatus)
    (actorLoop : LoopName) (f : Unit → StoreM β) (s : Store) :
    (requireHandoffTransition current target actorLoop >>= f) s =
      if allowedHandoffTransition current target actorLoop = false then (.error .valueError, s)
      else f () s := by
  simp [requireHandoffTransition]

theorem atomicCase?_put {s t : Store} {case : AtomicCaseProjection}
    (h : t.cases = s.cases.put (.atomic case)) (caseId : String) :
    t.atomicCase? caseId = if case.caseId = caseId then some case else s.atomicCase? caseId := by
  unfold Store.atomicCase?
  rw [h, Table.get?_put, CaseProjection.caseId_atomic]
  split <;> rfl

/-- Every case with `P` has a successor with `Q`, when that holds of the one case that is written
and every case is its own successor. -/
theorem atomicCases_put_iff (P : AtomicCaseProjection → Prop)
    (Q : AtomicCaseProjection → AtomicCaseProjection → Prop) (hself : ∀ case, P case → Q case case)
    {s t : Store} {case : AtomicCaseProjection} (written : AtomicCaseProjection)
    (hstored : s.atomicCase? case.caseId = some case) (hid : written.caseId = case.caseId)
    (hcases : t.cases = s.cases.put (.atomic written)) :
    (∀ caseId other, s.atomicCase? caseId = some other → P other →
      ∃ after, t.atomicCase? caseId = some after ∧ Q other after) ↔ (P case → Q case written) := by
  have hget := atomicCase?_put hcases
  constructor
  · intro h hcase
    obtain ⟨after, hafter, hq⟩ := h case.caseId case hstored hcase
    rw [hget, if_pos hid] at hafter
    cases hafter
    exact hq
  · intro h caseId other hother hp
    by_cases hkey : written.caseId = caseId
    · rw [← hkey, hid, hstored] at hother
      cases hother
      exact ⟨written, (hget caseId).trans (if_pos hkey), h hp⟩
    · exact ⟨other, ((hget caseId).trans (if_neg hkey)).trans hother, hself other hp⟩

/-- Storing an event never raises. -/
theorem storeEvent_run (event : CaseEvent) (s : Store) : ∃ stored ev ix,
    storeEvent event s = (.ok stored, { s with
      events := ev
      caseEvents := ix }) := by
  unfold storeEvent
  simp only [peek_bind_run]
  cases s.events.get? event.eventId with
  | some existing => exact ⟨existing, s.events, s.caseEvents, rfl⟩
  | none => exact ⟨event, _, _, rfl⟩

theorem storeEvent?_run (event : Option CaseEvent) (s : Store) : ∃ stored ev ix,
    storeEvent? event s = (.ok stored, { s with
      events := ev
      caseEvents := ix }) := by
  cases event with
  | none => exact ⟨none, s.events, s.caseEvents, rfl⟩
  | some event =>
    obtain ⟨stored, ev, ix, h⟩ := storeEvent_run event s
    exact ⟨some stored, ev, ix, (bind_ok h).trans rfl⟩

/-- An intent is enqueued once for its key. -/
theorem enqueueOutbox_cases (intent : OutboxIntent) (s : Store) :
    (∃ existingId existing, truthyId (s.outboxIndex intent.idempotencyKey) = some existingId ∧
      s.outbox.get? existingId = some existing ∧ enqueueOutbox intent s = (.ok existing, s)) ∨
    (∃ existingId, truthyId (s.outboxIndex intent.idempotencyKey) = some existingId ∧
      s.outbox.get? existingId = none ∧ enqueueOutbox intent s = (.error .keyError, s)) ∨
    truthyId (s.outboxIndex intent.idempotencyKey) = none ∧
      enqueueOutbox intent s = (.ok intent, { s with
        outbox := s.outbox.put intent
        outboxIndex := s.outboxIndex.set intent.idempotencyKey intent.outboxId }) := by
  unfold enqueueOutbox
  simp only [peek_bind_run]
  cases hid : truthyId (s.outboxIndex intent.idempotencyKey) with
  | none => exact Or.inr (Or.inr ⟨rfl, rfl⟩)
  | some existingId =>
    simp only [peek_bind_run]
    cases hexisting : s.outbox.get? existingId with
    | none => exact Or.inr (Or.inl ⟨existingId, rfl, hexisting, rfl⟩)
    | some existing => exact Or.inl ⟨existingId, existing, rfl, hexisting, rfl⟩

/-- Recording a result on a stored objective replaces it and writes nothing else but the event. -/
theorem updateVerificationObjectiveResult_run {objective existing : VerificationObjective}
    {s : Store} (h : s.verificationObjectives.get? objective.objectiveId = some existing)
    (event : Option CaseEvent) : ∃ ix ev cix,
    updateVerificationObjectiveResult objective event s = (.ok objective, { s with
      verificationObjectives := s.verificationObjectives.put objective
      verificationObjectiveIndex := ix
      events := ev
      caseEvents := cix }) := by
  unfold updateVerificationObjectiveResult
  simp only [peek_bind_run, orRaise_bind_run, h, alter_bind_run]
  obtain ⟨stored, ev, cix, hrun⟩ := storeEvent?_run event { s with
    verificationObjectives := s.verificationObjectives.put objective
    verificationObjectiveIndex := s.verificationObjectiveIndex.set
      (objective.caseId, objective.objectiveKey) objective.objectiveId }
  exact ⟨_, ev, cix, by rw [bind_ok hrun, pure_run]⟩

/-! ## What the writes leave alone -/

theorem cases_indexIfActive (s : Store) (handoff : CaseHandoff) :
    (s.indexIfActive handoff).cases = s.cases := by
  unfold Store.indexIfActive
  split <;> rfl

theorem cases_replaceHandoff (s : Store) (old new : CaseHandoff) :
    (s.replaceHandoff old new).cases = s.cases := by
  unfold Store.replaceHandoff
  rw [cases_indexIfActive]

section Frames

variable {τ : Type} {f : Store → τ}

theorem putCase_fixes (hf : ∀ s c, f { s with cases := c } = f s) (case : AtomicCaseProjection) :
    Fixes f (putCase case) := Fixes.alter fun s => hf s _

theorem storeEvent_fixes (hf : ∀ s ev ix, f { s with events := ev, caseEvents := ix } = f s)
    (event : CaseEvent) : Fixes f (storeEvent event) := by
  refine Fixes.bind (Fixes.peek _) fun existing => ?_
  cases existing with
  | some existing => exact Fixes.pure _
  | none => exact Fixes.bind (Fixes.alter fun s => hf s _ _) fun _ => Fixes.pure _

theorem storeEvent?_fixes (hf : ∀ s ev ix, f { s with events := ev, caseEvents := ix } = f s)
    (event : Option CaseEvent) : Fixes f (storeEvent? event) := by
  cases event with
  | none => exact Fixes.pure _
  | some event => exact Fixes.bind (storeEvent_fixes hf event) fun _ => Fixes.pure _

theorem enqueueOutbox_fixes (hf : ∀ s o ix, f { s with outbox := o, outboxIndex := ix } = f s)
    (intent : OutboxIntent) : Fixes f (enqueueOutbox intent) := by
  refine Fixes.bind (Fixes.peek _) fun existingId => ?_
  cases existingId with
  | some existingId => exact Fixes.bind (Fixes.peek _) fun _ => Fixes.orRaise _ _
  | none => exact Fixes.bind (Fixes.alter fun s => hf s _ _) fun _ => Fixes.pure _

theorem enqueueOutbox?_fixes (hf : ∀ s o ix, f { s with outbox := o, outboxIndex := ix } = f s)
    (intent : Option OutboxIntent) : Fixes f (enqueueOutbox? intent) := by
  cases intent with
  | none => exact Fixes.pure _
  | some intent => exact Fixes.bind (enqueueOutbox_fixes hf intent) fun _ => Fixes.pure _

theorem upsertObjective_fixes (hf : ∀ s o ix, f { s with
      verificationObjectives := o, verificationObjectiveIndex := ix } = f s)
    (objective : VerificationObjective) : Fixes f (upsertObjective objective) :=
  Fixes.bind (Fixes.peek _) fun _ => Fixes.bind (Fixes.alter fun s => hf s _ _) fun _ => Fixes.pure _

theorem storeObjective_fixes (hf : ∀ s o ix, f { s with
      verificationObjectives := o, verificationObjectiveIndex := ix } = f s)
    (handoff : CaseHandoff) (objective : VerificationObjective) :
    Fixes f (storeObjective handoff objective) :=
  Fixes.bind (Fixes.raiseIf _ _) fun _ => Fixes.bind (Fixes.raiseIf _ _) fun _ =>
    upsertObjective_fixes hf _

theorem updateOutboxIfStatus_fixes (hf : ∀ s o ix, f { s with outbox := o, outboxIndex := ix } = f s)
    (intent : OutboxIntent) (expectedStatus : OutboxStatus) (expectedClaimToken : Option String) :
    Fixes f (updateOutboxIfStatus intent expectedStatus expectedClaimToken) := by
  refine Fixes.bind (Fixes.peek _) fun current => ?_
  cases current with
  | none => exact Fixes.pure _
  | some current =>
    by_cases hmatch : current.Matches expectedStatus expectedClaimToken
    · simp only [if_pos hmatch]
      exact Fixes.bind (Fixes.alter fun s => hf s _ _) fun _ => Fixes.pure _
    · simp only [if_neg hmatch]
      exact Fixes.pure _

theorem updateVerificationObjectiveResult_fixes
    (hevent : ∀ s ev ix, f { s with events := ev, caseEvents := ix } = f s)
    (hf : ∀ s o ix, f { s with
      verificationObjectives := o, verificationObjectiveIndex := ix } = f s)
    (objective : VerificationObjective) (event : Option CaseEvent) :
    Fixes f (updateVerificationObjectiveResult objective event) :=
  Fixes.bind (Fixes.peek _) fun _ => Fixes.bind (Fixes.orRaise _ _) fun _ =>
    Fixes.bind (Fixes.alter fun s => hf s _ _) fun _ =>
    Fixes.bind (storeEvent?_fixes hevent event) fun _ => Fixes.pure _

/-- Looking aliases up writes nothing. -/
theorem aliasedCase_fixes : ∀ aliases : List CaseIdentityAlias, Fixes f (aliasedCase aliases)
  | [] => Fixes.pure _
  | entry :: rest => by
    rw [aliasedCase]
    refine Fixes.bind (Fixes.raiseIf _ _) fun _ => Fixes.bind (Fixes.peek _) fun existingId => ?_
    cases existingId with
    | none => exact aliasedCase_fixes rest
    | some existingId =>
      exact Fixes.bind (Fixes.peek _) fun _ => Fixes.bind (Fixes.orRaise _ _) fun _ =>
        Fixes.bind (Fixes.peek _) fun _ => Fixes.bind (Fixes.orRaise _ _) fun _ => Fixes.pure _

end Frames

end NocAgent.Cases
