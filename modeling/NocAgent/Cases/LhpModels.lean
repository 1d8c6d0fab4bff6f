import NocAgent.Cases.Lhp

/-!
# The LHP records as JSON

* `modelDump` — `model_dump(mode="json")` of each record.
* `including` — the same with `include=`.
-/

set_option autoImplicit false

namespace NocAgent.Cases

/-- A list of strings. -/
def texts (xs : List String) : Json := .list (xs.map .str)

/-- `model_dump(include=fields)`. -/
def including (fields : List String) (d : JsonDict) : JsonDict := d.filter fun kv => kv.1 ∈ fields

def CaseHandoff.modelDump (h : CaseHandoff) : JsonDict :=
  [("handoff_id", .str h.handoffId), ("case_id", .str h.caseId),
    ("source_loop", .str h.sourceLoop.text), ("target_loop", .str h.targetLoop.text),
    ("objective", .str h.objective), ("objective_key", .str h.objectiveKey),
    ("knowledge_scope", .str h.knowledgeScope), ("status", .str h.status.text),
    ("owner", .str h.owner), ("verifier", .str h.verifier.text),
    ("idempotency_key", .str h.idempotencyKey), ("fingerprint", .str h.fingerprint),
    ("resource", .dict h.resource), ("case_type", .str h.caseType),
    ("constraints", texts h.constraints), ("acceptance_criteria", texts h.acceptanceCriteria),
    ("knowledge_context_refs", texts h.knowledgeContextRefs), ("payload", .dict h.payload),
    ("correlation_id", .str h.correlationId), ("trace_id", .str h.traceId),
    ("created_by", .str h.createdBy), ("created_at", .str h.createdAt),
    ("updated_at", .str h.updatedAt), ("expires_at", .str h.expiresAt),
    ("schema_version", .str h.schemaVersion)]

def HandoffUpdate.modelDump (u : HandoffUpdate) : JsonDict :=
  [("update_id", .str u.updateId), ("handoff_id", .str u.handoffId), ("case_id", .str u.caseId),
    ("source_loop", .str u.sourceLoop.text), ("update_type", .str u.updateType.text),
    ("status", .str u.status.text), ("summary", .str u.summary),
    ("evidence", .list (u.evidence.map fun ref => .dict ref.modelDump)),
    ("confidence", .str u.confidence.text), ("external_event_id", .str u.externalEventId),
    ("correlation_id", .str u.correlationId), ("trace_id", .str u.traceId),
    ("payload_hash", .str u.payloadHash), ("payload", .dict u.payload),
    ("created_at", .str u.createdAt), ("schema_version", .str u.schemaVersion)]

def VerificationObjective.modelDump (o : VerificationObjective) : JsonDict :=
  [("objective_id", .str o.objectiveId), ("case_id", .str o.caseId),
    ("handoff_id", .str o.handoffId), ("objective_key", .str o.objectiveKey),
    ("objective_type", .str o.objectiveType), ("name", .str o.name),
    ("description", .str o.description), ("required_status", .str o.requiredStatus.text),
    ("status", .str o.status.text), ("required", .bool o.required),
    ("required_consecutive_passes", .int o.requiredConsecutivePasses),
    ("consecutive_pass_count", .int o.consecutivePassCount),
    ("last_checked_at", .str o.lastCheckedAt), ("next_check_at", .str o.nextCheckAt),
    ("evidence_ref", .str o.evidenceRef), ("failure_reason", .str o.failureReason),
    ("payload", .dict o.payload), ("result_payload", .dict o.resultPayload),
    ("created_at", .str o.createdAt), ("updated_at", .str o.updatedAt),
    ("schema_version", .str o.schemaVersion)]

def KnowledgeArtifact.modelDump (a : KnowledgeArtifact) : JsonDict :=
  [("artifact_id", .str a.artifactId), ("case_id", .str a.caseId), ("handoff_id", .str a.handoffId),
    ("artifact_type", .str a.artifactType), ("scope", .str a.scope), ("status", .str a.status.text),
    ("review_status", .str a.reviewStatus.text), ("version", .int a.version),
    ("content_hash", .str a.contentHash), ("summary", .str a.summary),
    ("source_refs", texts a.sourceRefs), ("payload", .dict a.payload),
    ("created_by", .str a.createdBy.text), ("created_at", .str a.createdAt),
    ("schema_version", .str a.schemaVersion)]

def OutcomeRecord.modelDump (o : OutcomeRecord) : JsonDict :=
  [("outcome_id", .str o.outcomeId), ("work_item_type", .str "case"),
    ("work_item_id", .str o.workItemId), ("case_type", .str o.caseType),
    ("fingerprint", .str o.fingerprint),
    ("agent_roles", .list (o.agentRoles.map fun role => .str role.text)),
    ("proposed_action", .str o.proposedAction), ("action_taken", .str o.actionTaken),
    ("human_review", .dict o.humanReview), ("validation", .dict o.validation),
    ("safety", .dict o.safety), ("evidence_quality", .dict o.evidenceQuality),
    ("learning", .dict o.learning),
    ("final_score", .dict (o.finalScore.map fun kv => (kv.1, .float kv.2))),
    ("evidence_refs", texts o.evidenceRefs), ("payload", .dict o.payload),
    ("created_at", .str o.createdAt), ("schema_version", .str o.schemaVersion)]

def HandoffTransportDelivery.modelDump (d : HandoffTransportDelivery) : JsonDict :=
  [("delivery_id", .str d.deliveryId), ("handoff_id", .str d.handoffId), ("case_id", .str d.caseId),
    ("transport", .str d.transport.text), ("status", .str d.status.text),
    ("idempotency_key", .str d.idempotencyKey), ("external_id", .str d.externalId),
    ("external_url", .str d.externalUrl), ("attempts", .int d.attempts),
    ("max_attempts", .int d.maxAttempts), ("next_attempt_at", .str d.nextAttemptAt),
    ("last_error", .str d.lastError), ("payload_hash", .str d.payloadHash),
    ("payload", .dict d.payload), ("created_at", .str d.createdAt),
    ("updated_at", .str d.updatedAt), ("schema_version", .str d.schemaVersion)]

end NocAgent.Cases
