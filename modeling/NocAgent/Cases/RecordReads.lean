import NocAgent.Cases.Observe
import NocAgent.Cases.SettledFields

/-!
# Records as Postgres gives them back

`PostgresCaseStore` validates the JSON of a row whenever it reads it.

* `Json.storable` — what a `jsonb` column takes; the columns of text take no NUL either, and
  `VerificationObjective.InRange` is what the columns of numbers take.
* `CaseHandoff.readBack` and its siblings — `model_validate` of the JSON that `model_dump` wrote;
  `none` is an exception, of the write or of the read.
* `CaseHandoff.readBack_moved`, `VerificationObjective.readBack_renamed` — what the store sets on a
  record is not validated away.
-/

set_option autoImplicit false

namespace NocAgent

/-- The database has no NUL in a text. -/
def storableText (text : String) : Bool := text.toList.all fun c => c != '\x00'

mutual

/-- Every number is finite, and no text has a NUL. -/
def Json.storable : Json → Bool
  | .float (.fin _) => true
  | .float _ => false
  | .str text => storableText text
  | .list xs => Json.storableItems xs
  | .dict kvs => Json.storableFields kvs
  | _ => true

def Json.storableItems : List Json → Bool
  | [] => true
  | x :: xs => Json.storable x && Json.storableItems xs

def Json.storableFields : List (String × Json) → Bool
  | [] => true
  | (name, x) :: kvs => storableText name && Json.storable x && Json.storableFields kvs

end

end NocAgent

namespace NocAgent.Cases

open Fields

/-! ## What a column takes -/

def ActorType.text : ActorType → String
  | .system => "system"
  | .operator => "operator"
  | .monitor => "monitor"
  | .graph => "graph"

def CaseEvent.modelDump (event : CaseEvent) : JsonDict :=
  [("event_id", .str event.eventId), ("case_id", event.caseId.elim .null .str),
    ("meta_case_id", event.metaCaseId.elim .null .str), ("event_type", .str event.eventType),
    ("actor_type", .str event.actorType.text), ("actor_id", .str event.actorId),
    ("source", .str event.source), ("occurred_at", .str event.occurredAt),
    ("observed_at", .str event.observedAt), ("policy_version", .str event.policyVersion),
    ("payload", .dict event.payload)]

def AtomicCaseProjection.modelDump (case : AtomicCaseProjection) : JsonDict :=
  [("case_id", .str case.caseId), ("case_number", .str case.caseNumber),
    ("fingerprint", .str case.fingerprint), ("identity", .dict case.identity),
    ("resource_id", .str case.resourceId), ("title", .str case.title),
    ("summary", .str case.summary), ("origin", .str case.origin), ("rule_id", .str case.ruleId),
    ("detector", .str case.detector), ("site", .str case.site), ("customer", .str case.customer),
    ("service", .str case.service), ("severity", .str case.severity.text),
    ("status", .str case.status.text), ("opened_at", .str case.openedAt),
    ("updated_at", .str case.updatedAt), ("resolved_at", case.resolvedAt.elim .null .str),
    ("resolution_reason", .str case.resolutionReason), ("last_seen", .str case.lastSeen),
    ("last_observed_unhealthy", .str case.lastObservedUnhealthy),
    ("last_observed_clean", .str case.lastObservedClean),
    ("last_evaluated_at", .str case.lastEvaluatedAt),
    ("last_scan_cycle_id", .str case.lastScanCycleId),
    ("signal_snapshot", .dict case.signalSnapshot), ("signal_signature", .str case.signalSignature),
    ("previous_signal_signature", .str case.previousSignalSignature),
    ("last_reported_at", .str case.lastReportedAt),
    ("report_generation", .int case.reportGeneration),
    ("last_reported_signature", .str case.lastReportedSignature),
    ("last_reasserted_at", .str case.lastReassertedAt),
    ("last_investigated_at", .str case.lastInvestigatedAt),
    ("diagnosis_signature", .str case.diagnosisSignature),
    ("last_diagnosis", .dict case.lastDiagnosis), ("recommendations", texts case.recommendations),
    ("investigation_status", .str case.investigationStatus),
    ("investigation_error", .str case.investigationError), ("issue_url", .str case.issueUrl),
    ("handoff_status", .str case.handoffStatus), ("last_handoff_at", .str case.lastHandoffAt),
    ("acknowledged_by", .str case.acknowledgedBy), ("acknowledged_at", .str case.acknowledgedAt),
    ("snoozed_until", .str case.snoozedUntil), ("suppressed_until", .str case.suppressedUntil),
    ("suppression_reason", .str case.suppressionReason),
    ("suppression_source", .str (case.suppressionSource.elim "" SuppressionSource.text)),
    ("meta_case_id", .str case.metaCaseId), ("covered_by_meta_case", .bool case.coveredByMetaCase),
    ("independent_action_required", .bool case.independentActionRequired),
    ("feedback_ids", texts case.feedbackIds), ("policy_version", .str case.policyVersion)]

/-- The database takes the record. -/
def Storable (record : JsonDict) : Prop := Json.storableFields record = true

instance (record : JsonDict) : Decidable (Storable record) :=
  inferInstanceAs (Decidable (_ = true))

theorem storable_cons {name : String} {x : Json} {kvs : JsonDict} :
    Storable ((name, x) :: kvs) ↔
      storableText name = true ∧ Json.storable x = true ∧ Storable kvs := by
  unfold Storable
  rw [Json.storableFields, Bool.and_eq_true, Bool.and_eq_true, and_assoc]

theorem storableText_handoffStatus (status : HandoffStatus) :
    storableText status.text = true := by
  cases status <;> decide

theorem storableText_caseStatus (status : CaseStatus) : storableText status.text = true := by
  cases status <;> decide

/-- `require_lhp_text`; `none` is `ValueError`. -/
def requireLhpText (py : Python) (value : String) (limit : Nat) : Option String :=
  if strip value = "" then none else some (sanitizeLhpText py (.str value) limit)

/-- `_safe_list`. -/
def safeTexts (py : Python) (limit : Nat) (items : List String) : List String :=
  (items.take MAX_COLLECTION_ITEMS).map fun item => sanitizeLhpText py (.str item) limit

/-- Its counts fit columns of four bytes. -/
def VerificationObjective.InRange (o : VerificationObjective) : Prop :=
  o.requiredConsecutivePasses < 2 ^ 31 ∧ o.consecutivePassCount < 2 ^ 31

instance (o : VerificationObjective) : Decidable o.InRange :=
  inferInstanceAs (Decidable (_ ∧ _))

/-! ## Records -/

section Records

variable (py : Python)

def EvidenceRef.validated (ref : EvidenceRef) : EvidenceRef where
  type := sanitizeLhpToken py ref.type 160
  ref := sanitizeLhpToken py ref.ref 160
  summary := sanitizeLhpText py (.str ref.summary) 700
  payload := sanitizePayloadDict py ref.payload

def CaseHandoff.validated (h : CaseHandoff) : Option CaseHandoff := do
  let caseId ← requireLhpToken py h.caseId 180
  let objective ← requireLhpText py h.objective 500
  let objectiveKey ← requireLhpToken py h.objectiveKey 180
  let idempotencyKey ← requireLhpToken py h.idempotencyKey 180
  some { h with
    handoffId := sanitizeLhpToken py h.handoffId 180
    caseId := caseId
    objective := objective
    objectiveKey := objectiveKey
    knowledgeScope := sanitizeLhpText py (.str h.knowledgeScope) 500
    owner := sanitizeLhpText py (.str h.owner) 500
    idempotencyKey := idempotencyKey
    fingerprint := sanitizeLhpToken py h.fingerprint 180
    resource := sanitizePayloadDict py h.resource
    caseType := sanitizeLhpToken py h.caseType 180
    constraints := safeTexts py 500 h.constraints
    acceptanceCriteria := safeTexts py 500 h.acceptanceCriteria
    knowledgeContextRefs := safeTexts py 500 h.knowledgeContextRefs
    payload := sanitizePayloadDict py h.payload
    correlationId := sanitizeLhpToken py h.correlationId 180
    traceId := sanitizeLhpToken py h.traceId 180
    createdBy := sanitizeLhpText py (.str h.createdBy) 500 }

def HandoffUpdate.validated (u : HandoffUpdate) : Option HandoffUpdate := do
  let handoffId ← requireLhpToken py u.handoffId 180
  let caseId ← requireLhpToken py u.caseId 180
  let externalEventId ← requireLhpToken py u.externalEventId 180
  let correlationId ← requireLhpToken py u.correlationId 180
  if u.sourceLoop ≠ .noc ∧ u.status ∈ VERIFIER_ONLY_HANDOFF_STATUSES then none
  else
    some (HandoffUpdate.fillPayloadHash py { u with
      updateId := sanitizeLhpToken py u.updateId 180
      handoffId := handoffId
      caseId := caseId
      summary := sanitizeLhpText py (.str u.summary) 1200
      evidence := u.evidence.map (EvidenceRef.validated py)
      externalEventId := externalEventId
      correlationId := correlationId
      traceId := sanitizeLhpToken py u.traceId 180
      payload := sanitizePayloadDict py u.payload })

def VerificationObjective.validated (o : VerificationObjective) : Option VerificationObjective := do
  let caseId ← requireLhpToken py o.caseId 180
  let objectiveKey ← requireLhpToken py o.objectiveKey 180
  let objectiveType ← requireLhpToken py o.objectiveType 180
  let name ← requireLhpText py o.name 800
  some { o with
    objectiveId := sanitizeLhpToken py o.objectiveId 180
    caseId := caseId
    handoffId := sanitizeLhpToken py o.handoffId 180
    objectiveKey := objectiveKey
    objectiveType := objectiveType
    name := name
    description := sanitizeLhpText py (.str o.description) 800
    evidenceRef := sanitizeLhpToken py o.evidenceRef 180
    failureReason := sanitizeLhpText py (.str o.failureReason) 800
    payload := sanitizePayloadDict py o.payload
    resultPayload := sanitizePayloadDict py o.resultPayload }

/-- `min(1.0, max(0.0, score))`; a nan is not above `0.0`. -/
def clampScore : PyFloat → PyFloat
  | .fin q => .fin (min 1 (max 0 q))
  | .inf false => .fin 1
  | .inf true | .nan => .fin 0

def OutcomeRecord.validated (o : OutcomeRecord) : Option OutcomeRecord := do
  let workItemId ← requireLhpToken py o.workItemId 180
  some { o with
    outcomeId := sanitizeLhpToken py o.outcomeId 180
    workItemId := workItemId
    caseType := sanitizeLhpToken py o.caseType 180
    fingerprint := sanitizeLhpToken py o.fingerprint 180
    proposedAction := sanitizeLhpText py (.str o.proposedAction) 1200
    actionTaken := sanitizeLhpText py (.str o.actionTaken) 1200
    humanReview := sanitizePayloadDict py o.humanReview
    validation := sanitizePayloadDict py o.validation
    safety := sanitizePayloadDict py o.safety
    evidenceQuality := sanitizePayloadDict py o.evidenceQuality
    learning := sanitizePayloadDict py o.learning
    finalScore := o.finalScore.foldl (fun scores kv =>
      dictPut scores (sanitizeLhpToken py kv.1 64) (clampScore kv.2)) []
    evidenceRefs := safeTexts py 300 o.evidenceRefs
    payload := sanitizePayloadDict py o.payload }

/-! ## Reads -/

/-- `CaseHandoff.model_validate(_row_payload(row))` of the row that holds `h`. -/
def CaseHandoff.readBack (h : CaseHandoff) : Option CaseHandoff :=
  if Storable h.modelDump then h.validated py else none

def HandoffUpdate.readBack (u : HandoffUpdate) : Option HandoffUpdate :=
  if Storable u.modelDump then u.validated py else none

def VerificationObjective.readBack (o : VerificationObjective) : Option VerificationObjective :=
  if Storable o.modelDump ∧ o.InRange then o.validated py else none

def OutcomeRecord.readBack (o : OutcomeRecord) : Option OutcomeRecord :=
  if Storable o.modelDump then o.validated py else none

/-- `_case_from_payload` of the row of an atomic case: `_fill_atomic_signature`. -/
def AtomicCaseProjection.readBack (case : AtomicCaseProjection) : AtomicCaseProjection :=
  { case with
    signalSignature :=
      if case.signalSignature = "" then stableSignalSignature py case.signalSnapshot
      else case.signalSignature }

end Records

/-- The status and the time that a call sets on a handoff. -/
def CaseHandoff.moved (h : CaseHandoff) (status : HandoffStatus) (updatedAt : String) : CaseHandoff :=
  { h with
    status := status
    updatedAt := updatedAt }

section Reads

variable {py : Python}

theorem storable_moved {h : CaseHandoff} (hs : Storable h.modelDump) (status : HandoffStatus)
    {updatedAt : String} (htime : storableText updatedAt = true) :
    Storable (h.moved status updatedAt).modelDump := by
  simp only [CaseHandoff.modelDump, CaseHandoff.moved, storable_cons, Json.storable,
    storableText_handoffStatus, htime, true_and] at hs ⊢
  simp only [hs, and_self]

/-- **The status and the time that the store sets are read back with the rest.** -/
theorem CaseHandoff.readBack_moved {h r : CaseHandoff} (hr : h.readBack py = some r)
    (status : HandoffStatus) {updatedAt : String} (htime : storableText updatedAt = true) :
    (h.moved status updatedAt).readBack py = some (r.moved status updatedAt) := by
  obtain ⟨hs, hvalid⟩ := Option.ite_none_right_eq_some.1 hr
  unfold CaseHandoff.readBack
  rw [if_pos (storable_moved hs status htime)]
  have hmoved : (h.moved status updatedAt).validated py =
      (h.validated py).map fun r => r.moved status updatedAt := by
    simp only [CaseHandoff.validated, CaseHandoff.moved, Option.bind_eq_bind, Option.map_bind,
      Function.comp_def, Option.map_some]
  rw [hmoved, hvalid, Option.map_some]

theorem CaseHandoff.of_readBack {h r : CaseHandoff} (hr : h.readBack py = some r) :
    r.status = h.status ∧ r.updatedAt = h.updatedAt ∧
      r.handoffId = sanitizeLhpToken py h.handoffId 180 ∧
      requireLhpToken py h.caseId 180 = some r.caseId := by
  obtain ⟨-, hvalid⟩ := Option.ite_none_right_eq_some.1 hr
  unfold CaseHandoff.validated at hvalid
  simp only [Option.bind_eq_bind, Option.bind_eq_some_iff] at hvalid
  obtain ⟨caseId, hcase, _, _, _, _, _, _, hvalid⟩ := hvalid
  rw [← Option.some.inj hvalid]
  exact ⟨rfl, rfl, rfl, hcase⟩

theorem HandoffUpdate.of_readBack {u r : HandoffUpdate} (hr : u.readBack py = some r) :
    r.updateId ≠ "" ∧ requireLhpToken py u.handoffId 180 = some r.handoffId := by
  obtain ⟨-, hvalid⟩ := Option.ite_none_right_eq_some.1 hr
  unfold HandoffUpdate.validated at hvalid
  simp only [Option.bind_eq_bind, Option.bind_eq_some_iff] at hvalid
  obtain ⟨handoffId, hhandoff, _, _, _, _, _, _, hvalid⟩ := hvalid
  split at hvalid
  · cases hvalid
  · rw [← Option.some.inj hvalid]
    exact ⟨sanitizeLhpToken_ne_empty py _ 180, hhandoff⟩

/-- The time of an update that is read back is one that the database takes. -/
theorem HandoffUpdate.storable_createdAt {u r : HandoffUpdate} (hr : u.readBack py = some r) :
    storableText u.createdAt = true := by
  obtain ⟨hs, -⟩ := Option.ite_none_right_eq_some.1 hr
  simp only [HandoffUpdate.modelDump, storable_cons, Json.storable] at hs
  simp only [hs]

theorem storable_renamed {o : VerificationObjective} (hs : Storable o.modelDump)
    {objectiveId : String} (hid : storableText objectiveId = true) :
    Storable (VerificationObjective.modelDump { o with objectiveId := objectiveId }) := by
  simp only [VerificationObjective.modelDump, storable_cons, Json.storable, hid, true_and] at hs ⊢
  simp only [hs, and_self]

/-- **The id of the stored row is read back with the rest.** -/
theorem VerificationObjective.readBack_renamed {o r : VerificationObjective}
    (hr : o.readBack py = some r) {objectiveId : String} (hid : storableText objectiveId = true) :
    VerificationObjective.readBack py { o with objectiveId := objectiveId } =
      some { r with objectiveId := sanitizeLhpToken py objectiveId 180 } := by
  obtain ⟨⟨hs, hrange⟩, hvalid⟩ := Option.ite_none_right_eq_some.1 hr
  unfold VerificationObjective.readBack
  rw [if_pos ⟨storable_renamed hs hid, hrange⟩]
  have hrenamed : VerificationObjective.validated py { o with objectiveId := objectiveId } =
      (o.validated py).map fun r =>
        { r with objectiveId := sanitizeLhpToken py objectiveId 180 } := by
    simp only [VerificationObjective.validated, Option.bind_eq_bind, Option.map_bind,
      Function.comp_def, Option.map_some]
  rw [hrenamed, hvalid, Option.map_some]

/-- The id of an objective that is read back is a token that the database takes. -/
theorem VerificationObjective.of_readBack {o r : VerificationObjective}
    (hr : o.readBack py = some r) : r.objectiveId ≠ "" ∧ storableText o.objectiveId = true ∧
      r.objectiveId = sanitizeLhpToken py o.objectiveId 180 := by
  obtain ⟨⟨hs, -⟩, hvalid⟩ := Option.ite_none_right_eq_some.1 hr
  unfold VerificationObjective.validated at hvalid
  simp only [Option.bind_eq_bind, Option.bind_eq_some_iff] at hvalid
  obtain ⟨_, _, _, _, _, _, _, _, hvalid⟩ := hvalid
  rw [← Option.some.inj hvalid]
  refine ⟨sanitizeLhpToken_ne_empty py _ 180, ?_, rfl⟩
  simp only [VerificationObjective.modelDump, storable_cons, Json.storable] at hs
  simp only [hs]

/-- What the database takes of a case, it takes of the case after an update. -/
theorem storable_caseAfterUpdate {case : AtomicCaseProjection} (hs : Storable case.modelDump)
    (handoff : CaseHandoff) (surviving : Option CaseHandoff) (caseStatus : Option CaseStatus)
    {caseHandoffStatus : Option String} {stamp : String}
    (hlabel : ∀ text ∈ caseHandoffStatus, storableText text = true)
    (hstamp : storableText stamp = true) :
    Storable (caseAfterUpdate case handoff surviving caseStatus caseHandoffStatus stamp).modelDump := by
  have hstatus : storableText (orText (caseHandoffStatus.getD "") handoff.status.text) = true := by
    unfold orText
    split
    · exact storableText_handoffStatus _
    · rename_i hne
      cases caseHandoffStatus with
      | none => exact absurd rfl hne
      | some text => exact hlabel text rfl
  unfold caseAfterUpdate
  split
  · simp only [AtomicCaseProjection.modelDump, storable_cons, Json.storable,
      storableText_handoffStatus, storableText_caseStatus, hstamp, true_and] at hs ⊢
    simp only [hs, and_self]
  · simp only [AtomicCaseProjection.modelDump, storable_cons, Json.storable,
      storableText_caseStatus, hstamp, hstatus, true_and] at hs ⊢
    simp only [hs, and_self]

end Reads

end NocAgent.Cases
