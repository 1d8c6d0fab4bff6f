import NocAgent.Cases.LhpModels
import NocAgent.Cases.ResultRequests
import NocAgent.Cases.Cancellation
import NocAgent.Cases.LostHandoffs

/-!
# The scope of an approval

* `buildLhpApprovalScope` — the immutable projection of a handoff and its objectives.
* `Store.approvalScopeHash` — its digest, as the handoff fetch of the engineering loop computes it.
* `scopeStep` — updates of handoffs and results of objectives, in any order, a result computed from
  whatever version of the objective was read.

Principal results: `approvalScope_run` (no run changes the scope), `buildLhpApprovalScope_perm` (nor
does the order of the objectives), `scope_binds` (equal digests mean equal requests and equally
defined objectives).
-/

set_option autoImplicit false

namespace NocAgent.Cases

open Effects Effects.Action Keyed Lts

/-! ## The projection -/

def LHP_APPROVAL_SCOPE_SCHEMA_VERSION : String := "lhp.v1.approval-scope.v1"

def approvalHandoffFields : List String :=
  ["handoff_id", "case_id", "source_loop", "target_loop", "objective", "objective_key",
    "knowledge_scope", "idempotency_key", "fingerprint", "resource", "case_type", "constraints",
    "acceptance_criteria", "knowledge_context_refs", "payload", "correlation_id", "trace_id",
    "created_by", "expires_at", "schema_version"]

def approvalObjectiveFields : List String :=
  ["objective_id", "case_id", "handoff_id", "objective_key", "objective_type", "name",
    "description", "required_status", "required", "required_consecutive_passes", "schema_version"]

/-- `{key: d[key] for key in keys if key in d}`. -/
def selectKeys (keys : List String) (d : JsonDict) : JsonDict :=
  keys.filterMap fun key => (d.lookup key).map fun value => (key, value)

/-- Bounded routing fields; the complete payload is bound by its hash. -/
def approvalPayloadProjection (payload : JsonDict) : JsonDict :=
  let selected := selectKeys ["schema", "occurrence_id", "change_domain", "expected_path_classes"] payload
  match payload.get "hotspot" with
  | .dict hotspot => dictPut selected "hotspot" (.dict (selectKeys ["rule_id", "key", "severity",
      "warrants_change", "change_rationale", "recommended_checks"] hotspot))
  | _ => selected

section Projection

variable (py : Python)

def handoffProjection (handoff : CaseHandoff) : JsonDict :=
  let projection := dictPut (including approvalHandoffFields handoff.modelDump) "payload"
    (.dict (approvalPayloadProjection handoff.payload))
  dictPut projection "payload_hash" (.str (lhpPayloadHash py (.dict handoff.payload)))

/-- The occurrence the payload names, or one made from the handoff's own identity. -/
def approvalOccurrenceId (handoff : CaseHandoff) : String :=
  let occurrenceId := textOf py (handoff.payload.get "occurrence_id")
  if occurrenceId = "" then
    takeChars 16 (lhpPayloadHash py (.dict [("handoff_id", .str handoff.handoffId),
      ("created_at", .str handoff.createdAt)]))
  else occurrenceId

def objectiveDefinition (objective : VerificationObjective) : JsonDict :=
  dictPut (including approvalObjectiveFields objective.modelDump) "payload_hash"
    (.str (lhpPayloadHash py (.dict objective.payload)))

/-- `(str(item.get("objective_key", "")), str(item.get("objective_id", "")))`. -/
def definitionOrder (definition : JsonDict) : String ×ₗ String :=
  toLex (pyStr py (definition.getD "objective_key" (.str "")),
    pyStr py (definition.getD "objective_id" (.str "")))

def objectiveDefinitions (objectives : List VerificationObjective) : List JsonDict :=
  (objectives.map (objectiveDefinition py)).insertionSort fun a b =>
    definitionOrder py a ≤ definitionOrder py b

/-- `build_lhp_approval_scope`. -/
def buildLhpApprovalScope (handoff : CaseHandoff) (objectives : List VerificationObjective) :
    JsonDict :=
  let definitions := objectiveDefinitions py objectives
  [("schema_version", .str LHP_APPROVAL_SCOPE_SCHEMA_VERSION),
    ("case", .dict [("case_id", .str handoff.caseId), ("fingerprint", .str handoff.fingerprint),
      ("occurrence_id", .str (approvalOccurrenceId py handoff))]),
    ("handoff", .dict (handoffProjection py handoff)),
    ("verification_objectives",
      .list ((definitions.take MAX_VERIFICATION_OBJECTIVES_PER_HANDOFF).map .dict)),
    ("verification_objective_count", .int definitions.length),
    ("verification_objectives_hash", .str (lhpPayloadHash py (.list (definitions.map .dict))))]

/-- `lhp_payload_hash(build_lhp_approval_scope(...))`. -/
def approvalScopeHash (handoff : CaseHandoff) (objectives : List VerificationObjective) : String :=
  lhpPayloadHash py (.dict (buildLhpApprovalScope py handoff objectives))

theorem objectiveDefinition_eq (o : VerificationObjective) : objectiveDefinition py o =
    [("objective_id", .str o.objectiveId), ("case_id", .str o.caseId),
      ("handoff_id", .str o.handoffId), ("objective_key", .str o.objectiveKey),
      ("objective_type", .str o.objectiveType), ("name", .str o.name),
      ("description", .str o.description), ("required_status", .str o.requiredStatus.text),
      ("required", .bool o.required),
      ("required_consecutive_passes", .int o.requiredConsecutivePasses),
      ("schema_version", .str o.schemaVersion),
      ("payload_hash", .str (lhpPayloadHash py (.dict o.payload)))] := rfl

theorem handoffProjection_eq (h : CaseHandoff) : handoffProjection py h =
    [("handoff_id", .str h.handoffId), ("case_id", .str h.caseId),
      ("source_loop", .str h.sourceLoop.text), ("target_loop", .str h.targetLoop.text),
      ("objective", .str h.objective), ("objective_key", .str h.objectiveKey),
      ("knowledge_scope", .str h.knowledgeScope), ("idempotency_key", .str h.idempotencyKey),
      ("fingerprint", .str h.fingerprint), ("resource", .dict h.resource),
      ("case_type", .str h.caseType), ("constraints", texts h.constraints),
      ("acceptance_criteria", texts h.acceptanceCriteria),
      ("knowledge_context_refs", texts h.knowledgeContextRefs),
      ("payload", .dict (approvalPayloadProjection h.payload)),
      ("correlation_id", .str h.correlationId), ("trace_id", .str h.traceId),
      ("created_by", .str h.createdBy), ("expires_at", .str h.expiresAt),
      ("schema_version", .str h.schemaVersion),
      ("payload_hash", .str (lhpPayloadHash py (.dict h.payload)))] := rfl

end Projection

/-! ## The order of the objectives -/

section Order

variable (py : Python)

/-- **Sorting forgets the order** when no two elements have the same key. -/
theorem insertionSort_eq_of_perm {α β : Type} [LinearOrder β] (key : α → β) {l l' : List α}
    (h : l.Perm l') (hn : (l.map key).Nodup) :
    l.insertionSort (fun a b => key a ≤ key b) = l'.insertionSort fun a b => key a ≤ key b := by
  have hl := List.perm_insertionSort (fun a b => key a ≤ key b) l
  have hl' := List.perm_insertionSort (fun a b => key a ≤ key b) l'
  refine List.Perm.eq_of_pairwise (fun a b ha hb hab hba => ?_) (List.pairwise_insertionSort _ l)
    (List.pairwise_insertionSort _ l') (hl.trans (h.trans hl'.symm))
  exact List.inj_on_of_nodup_map hn (hl.mem_iff.1 ha) (h.mem_iff.2 (hl'.mem_iff.1 hb))
    (le_antisymm hab hba)

theorem definitionOrder_definition (o : VerificationObjective) :
    definitionOrder py (objectiveDefinition py o) = toLex (o.objectiveKey, o.objectiveId) := by
  rw [objectiveDefinition_eq]
  rfl

theorem objectiveDefinitions_perm {objectives other : List VerificationObjective}
    (h : objectives.Perm other)
    (hn : (objectives.map fun o => toLex (o.objectiveKey, o.objectiveId)).Nodup) :
    objectiveDefinitions py objectives = objectiveDefinitions py other := by
  refine insertionSort_eq_of_perm (definitionOrder py) (h.map _) ?_
  rw [List.map_map]
  exact hn

/-- **The scope does not depend on the order of the objectives**, which have different keys. -/
theorem buildLhpApprovalScope_perm (handoff : CaseHandoff)
    {objectives other : List VerificationObjective} (h : objectives.Perm other)
    (hn : (objectives.map VerificationObjective.objectiveKey).Nodup) :
    buildLhpApprovalScope py handoff objectives = buildLhpApprovalScope py handoff other := by
  have hkeys : (objectives.map fun o => toLex (o.objectiveKey, o.objectiveId)).Nodup := by
    refine List.Nodup.of_map (fun key => (ofLex key).1) ?_
    rw [List.map_map]
    exact hn
  unfold buildLhpApprovalScope
  rw [objectiveDefinitions_perm py h hkeys]

end Order

/-! ## What an update leaves -/

/-- The handoff as it was requested. -/
def CaseHandoff.asRequested (h : CaseHandoff) : CaseHandoff :=
  { h with
    status := .requested
    updatedAt := h.createdAt }

/-- The objective as it was defined. -/
def VerificationObjective.asDefined (o : VerificationObjective) : VerificationObjective :=
  { o with
    status := .pending
    consecutivePassCount := 0
    lastCheckedAt := ""
    nextCheckAt := ""
    evidenceRef := ""
    failureReason := ""
    resultPayload := []
    updatedAt := o.createdAt }

theorem CaseHandoff.asRequested_ids {h h' : CaseHandoff} (heq : h'.asRequested = h.asRequested) :
    h'.handoffId = h.handoffId ∧ h'.caseId = h.caseId := by
  unfold asRequested at heq
  injection heq
  constructor <;> assumption

theorem VerificationObjective.asDefined_ids {o o' : VerificationObjective}
    (heq : o'.asDefined = o.asDefined) :
    o'.objectiveId = o.objectiveId ∧ o'.caseId = o.caseId ∧ o'.handoffId = o.handoffId := by
  unfold asDefined at heq
  injection heq
  refine ⟨?_, ?_, ?_⟩ <;> assumption

theorem buildLhpApprovalScope_asRequested (py : Python) (handoff : CaseHandoff)
    (objectives : List VerificationObjective) :
    buildLhpApprovalScope py handoff.asRequested objectives =
      buildLhpApprovalScope py handoff objectives := rfl

theorem objectiveDefinitions_asDefined (py : Python) (objectives : List VerificationObjective) :
    objectiveDefinitions py (objectives.map VerificationObjective.asDefined) =
      objectiveDefinitions py objectives := by
  unfold objectiveDefinitions
  rw [List.map_map]
  rfl

/-- What a verification result makes of an objective. -/
inductive ResultOf (py : Python) (o : VerificationObjective) : VerificationObjective → Prop where
  | checked {result : VerificationCheckResult} {now : String} {clock intervalS : Int}
      {updated : VerificationObjective}
      (h : applyCheckResult py o result now clock intervalS = .ok updated) : ResultOf py o updated
  | reported (request : VerificationResultRequest) : ResultOf py o (applyConsoleResult py o request)
  | skipped (stamp : String) : ResultOf py o { o with
      status := .skipped
      failureReason := "handoff_cancelled"
      nextCheckAt := ""
      updatedAt := stamp }

/-- **A result does not redefine the objective.** -/
theorem ResultOf.asDefined {py : Python} {o updated : VerificationObjective}
    (h : ResultOf py o updated) : updated.asDefined = o.asDefined := by
  cases h with
  | reported request => rfl
  | skipped stamp => rfl
  | checked h =>
    unfold applyCheckResult at h
    split at h
    · cases h
    · cases h
      rfl

/-- What the scopes are made of, by id. -/
def Store.requests (s : Store) :
    (String → Option CaseHandoff) × (String → Option VerificationObjective) :=
  (fun id => (s.handoffs.get? id).map CaseHandoff.asRequested,
    fun id => (s.verificationObjectives.get? id).map VerificationObjective.asDefined)

theorem requests_of_moves {s t : Store} (hobjectives : t.verificationObjectives = s.verificationObjectives)
    (h : t.handoffs = s.handoffs ∨ HandoffMoves s t) : t.requests = s.requests := by
  unfold Store.requests
  rw [hobjectives]
  rcases h with h | ⟨old, target, stamp, actorLoop, hold, -, h⟩
  · rw [h]
  · refine Prod.ext (funext fun id => ?_) rfl
    change (t.handoffs.get? id).map CaseHandoff.asRequested =
      (s.handoffs.get? id).map CaseHandoff.asRequested
    rw [h, Table.get?_put]
    by_cases hid : old.handoffId = id
    · rw [if_pos hid, ← hid, hold]
      rfl
    · rw [if_neg hid]

theorem objectives_replaceHandoff (s : Store) (old new : CaseHandoff) :
    (s.replaceHandoff old new).verificationObjectives = s.verificationObjectives :=
  congrArg Prod.snd (verifierView_replaceHandoff s old new)

theorem appendHandoffUpdate_objectives (update : HandoffUpdate)
    (handoffStatus : Option HandoffStatus) (caseStatus : Option CaseStatus)
    (caseHandoffStatus : Option String) (event : Option CaseEvent) :
    Fixes Store.verificationObjectives
      (appendHandoffUpdate update handoffStatus caseStatus caseHandoffStatus event) := by
  have hhandoff : ∀ id, Fixes Store.verificationObjectives (requireHandoff id) := fun _ =>
    Fixes.bind (Fixes.peek _) fun _ => Fixes.orRaise _ _
  have hcase : ∀ id, Fixes Store.verificationObjectives (requireAtomicCase id) := fun _ =>
    Fixes.bind (Fixes.peek _) fun _ => Fixes.orRaise _ _
  refine Fixes.bind (Fixes.peek _) fun existingId => ?_
  cases existingId with
  | some existingId =>
    exact Fixes.bind (Fixes.peek _) fun _ => Fixes.bind (Fixes.orRaise _ _) fun _ =>
      Fixes.bind (hhandoff _) fun _ => Fixes.bind (hcase _) fun _ => Fixes.pure _
  | none =>
    exact Fixes.bind (hhandoff _) fun _ => Fixes.bind (hcase _) fun _ =>
      Fixes.bind (Fixes.raiseIf _ _) fun _ => Fixes.bind (Fixes.raiseIf _ _) fun _ =>
      Fixes.bind (Fixes.alter fun _ => objectives_replaceHandoff _ _ _) fun _ =>
      Fixes.bind (Fixes.peek _) fun _ => Fixes.bind (putCase_fixes (fun _ _ => rfl) _) fun _ =>
      Fixes.bind (storeEvent?_fixes (fun _ _ _ => rfl) event) fun _ => Fixes.pure _

theorem markHandoffVerified_objectives (handoffId now : String) (event : Option CaseEvent) :
    Fixes Store.verificationObjectives (markHandoffVerified handoffId now event) :=
  Fixes.bind (Fixes.bind (Fixes.peek _) fun _ => Fixes.orRaise _ _) fun _ =>
    Fixes.bind (Fixes.raiseIf _ _) fun _ =>
    Fixes.bind (Fixes.alter fun _ => objectives_replaceHandoff _ _ _) fun _ =>
    Fixes.bind (Fixes.bind (Fixes.peek _) fun _ => Fixes.orRaise _ _) fun _ =>
    Fixes.bind (putCase_fixes (fun _ _ => rfl) _) fun _ =>
    Fixes.bind (storeEvent?_fixes (fun _ _ _ => rfl) event) fun _ => Fixes.pure _

theorem appendHandoffUpdate_requests (update : HandoffUpdate)
    (handoffStatus : Option HandoffStatus) (caseStatus : Option CaseStatus)
    (caseHandoffStatus : Option String) (event : Option CaseEvent) (s : Store) :
    (appendHandoffUpdate update handoffStatus caseStatus caseHandoffStatus event s).2.requests =
      s.requests := by
  refine requests_of_moves (appendHandoffUpdate_objectives _ _ _ _ _ s) ?_
  rcases HandoffOp.run_handoffs s
    (.appendHandoffUpdate update handoffStatus caseStatus caseHandoffStatus event) with
    h | ⟨_, _, _, _, _, hop, -⟩ | h
  · exact Or.inl h
  · cases hop
  · exact Or.inr h

theorem markHandoffVerified_requests (handoffId now : String) (event : Option CaseEvent)
    (s : Store) : (markHandoffVerified handoffId now event s).2.requests = s.requests := by
  refine requests_of_moves (markHandoffVerified_objectives _ _ _ s) ?_
  rcases HandoffOp.run_handoffs s (.markHandoffVerified handoffId now event) with
    h | ⟨_, _, _, _, _, hop, -⟩ | h
  · exact Or.inl h
  · cases hop
  · exact Or.inr h

/-- Writing an objective back, as it was defined. -/
theorem updateVerificationObjectiveResult_requests {updated stored : VerificationObjective}
    {s : Store} (hstored : s.verificationObjectives.get? updated.objectiveId = some stored)
    (hsame : updated.asDefined = stored.asDefined) (event : Option CaseEvent) :
    (updateVerificationObjectiveResult updated event s).2.requests = s.requests := by
  obtain ⟨ix, ev, cix, hrun⟩ := updateVerificationObjectiveResult_run hstored event
  rw [hrun]
  refine Prod.ext rfl (funext fun id => ?_)
  change ((s.verificationObjectives.put updated).get? id).map VerificationObjective.asDefined = _
  rw [Table.get?_put]
  by_cases hid : updated.objectiveId = id
  · subst hid
    rw [if_pos rfl]
    exact (congrArg some hsame).trans (congrArg (Option.map _) hstored).symm
  · rw [if_neg hid]
    rfl

/-! ## Runs -/

/-- The objectives of a handoff, as the handoff fetch of the engineering loop selects them. -/
def Store.scopeObjectives (s : Store) (handoff : CaseHandoff) : List VerificationObjective :=
  (s.listVerificationObjectives handoff.caseId).filter fun o => o.handoffId = handoff.handoffId

/-- The scope of a stored handoff. -/
def Store.approvalScope (py : Python) (s : Store) (handoffId : String) : Option JsonDict :=
  (s.handoffs.get? handoffId).map fun handoff =>
    buildLhpApprovalScope py handoff (s.scopeObjectives handoff)

/-- Its digest. -/
def Store.approvalScopeHash (py : Python) (s : Store) (handoffId : String) : Option String :=
  (s.approvalScope py handoffId).map fun scope => lhpPayloadHash py (.dict scope)

section Runs

variable {py : Python} {s t : Store}

theorem mem_scopeObjectives {handoff : CaseHandoff} {o : VerificationObjective} :
    o ∈ s.scopeObjectives handoff ↔ s.verificationObjectives.get? o.objectiveId = some o ∧
      o.caseId = handoff.caseId ∧ o.handoffId = handoff.handoffId := by
  unfold Store.scopeObjectives Store.listVerificationObjectives
  rw [List.mem_filter, List.mem_insertionSort, List.mem_filter, Table.mem_rows_iff]
  simp only [decide_eq_true_eq, and_assoc]

theorem nodup_scopeObjectives (s : Store) (handoff : CaseHandoff) :
    ((s.scopeObjectives handoff).map VerificationObjective.objectiveId).Nodup := by
  unfold Store.scopeObjectives Store.listVerificationObjectives
  refine List.Nodup.sublist (List.filter_sublist.map _) ?_
  rw [((List.perm_insertionSort _ _).map _).nodup_iff]
  exact s.verificationObjectives.nodup.sublist (List.filter_sublist.map _)

/-- Where the requests are the same, the objectives are defined in the same way. -/
theorem scopeObjectives_perm (h : t.requests = s.requests) {handoff other : CaseHandoff}
    (hsame : other.asRequested = handoff.asRequested) :
    ((t.scopeObjectives other).map VerificationObjective.asDefined).Perm
      ((s.scopeObjectives handoff).map VerificationObjective.asDefined) := by
  have hnodup : ∀ (u : Store) (g : CaseHandoff),
      ((u.scopeObjectives g).map VerificationObjective.asDefined).Nodup := by
    intro u g
    refine List.Nodup.of_map VerificationObjective.objectiveId ?_
    rw [List.map_map]
    exact nodup_scopeObjectives u g
  have hsub : ∀ {u w : Store} {g f : CaseHandoff}, u.requests = w.requests →
      f.asRequested = g.asRequested → ∀ o ∈ (u.scopeObjectives f).map VerificationObjective.asDefined,
        o ∈ (w.scopeObjectives g).map VerificationObjective.asDefined := by
    intro u w g f hrequests hgf o ho
    obtain ⟨read, hread, rfl⟩ := List.mem_map.1 ho
    obtain ⟨hget, hcase, hhandoff⟩ := mem_scopeObjectives.1 hread
    have hdefined : (u.verificationObjectives.get? read.objectiveId).map
        VerificationObjective.asDefined = (w.verificationObjectives.get? read.objectiveId).map
          VerificationObjective.asDefined :=
      congrFun (congrArg Prod.snd hrequests) read.objectiveId
    rw [hget] at hdefined
    obtain ⟨stored, hstored, heq⟩ := Option.map_eq_some_iff.1 hdefined.symm
    have hcaseId : stored.caseId = g.caseId :=
      (VerificationObjective.asDefined_ids heq).2.1.trans
        (hcase.trans (CaseHandoff.asRequested_ids hgf).2)
    have hhandoffId : stored.handoffId = g.handoffId :=
      (VerificationObjective.asDefined_ids heq).2.2.trans
        (hhandoff.trans (CaseHandoff.asRequested_ids hgf).1)
    exact List.mem_map.2
      ⟨stored, mem_scopeObjectives.2 ⟨Table.get?_key hstored, hcaseId, hhandoffId⟩, heq⟩
  rw [List.perm_ext_iff_of_nodup (hnodup t other) (hnodup s handoff)]
  exact fun o => ⟨hsub h hsame o, hsub h.symm hsame.symm o⟩

/-- **The scope reads nothing but the requests.** -/
theorem approvalScope_of_requests (h : t.requests = s.requests) (handoffId : String) :
    t.approvalScope py handoffId = s.approvalScope py handoffId := by
  have hhandoff := congrFun (congrArg Prod.fst h) handoffId
  have hhandoff : (t.handoffs.get? handoffId).map CaseHandoff.asRequested =
      (s.handoffs.get? handoffId).map CaseHandoff.asRequested := hhandoff
  unfold Store.approvalScope
  cases hs : s.handoffs.get? handoffId with
  | none =>
    rw [hs, Option.map_none, Option.map_eq_none_iff] at hhandoff
    rw [hhandoff]
    rfl
  | some handoff =>
    rw [hs] at hhandoff
    obtain ⟨other, ht, hsame⟩ := Option.map_eq_some_iff.1 hhandoff
    rw [ht, Option.map_some, Option.map_some]
    refine congrArg some ?_
    have hperm := scopeObjectives_perm h hsame
    have hn : ((((t.scopeObjectives other).map VerificationObjective.asDefined)).map fun o =>
        toLex (o.objectiveKey, o.objectiveId)).Nodup := by
      refine List.Nodup.of_map (fun key => (ofLex key).2) ?_
      rw [List.map_map, List.map_map]
      exact nodup_scopeObjectives t other
    have hdefinitions : objectiveDefinitions py (t.scopeObjectives other) =
        objectiveDefinitions py (s.scopeObjectives handoff) := by
      rw [← objectiveDefinitions_asDefined py (t.scopeObjectives other),
        ← objectiveDefinitions_asDefined py (s.scopeObjectives handoff)]
      exact objectiveDefinitions_perm py hperm hn
    rw [← buildLhpApprovalScope_asRequested py other, ← buildLhpApprovalScope_asRequested py handoff,
      hsame]
    unfold buildLhpApprovalScope
    rw [hdefinitions]

end Runs

/-- The store, and the versions of objectives that were read for a result. -/
structure ScopeState where
  store : Store
  reads : List VerificationObjective := []

inductive ScopeLabel where
  | append (update : HandoffUpdate) (handoffStatus : Option HandoffStatus)
      (caseStatus : Option CaseStatus) (caseHandoffStatus : Option String)
      (event : Option CaseEvent)
  | verified (handoffId now : String) (event : Option CaseEvent)
  | read (objectiveId : String)
  | result (old updated : VerificationObjective) (event : Option CaseEvent)

/-- An update of a handoff, or a result of an objective that was read at some time before. -/
def scopeStep (py : Python) (s : ScopeState) (l : ScopeLabel) (t : ScopeState) : Prop :=
  match l with
  | .append update handoffStatus caseStatus caseHandoffStatus event => t = { s with
      store := (appendHandoffUpdate update handoffStatus caseStatus caseHandoffStatus event
        s.store).2 }
  | .verified handoffId now event => t = { s with
      store := (markHandoffVerified handoffId now event s.store).2 }
  | .read objectiveId => ∃ o, s.store.verificationObjectives.get? objectiveId = some o ∧
      t = { s with reads := o :: s.reads }
  | .result old updated event => old ∈ s.reads ∧ ResultOf py old updated ∧ t = { s with
      store := (updateVerificationObjectiveResult updated event s.store).2 }

section Steps

variable {py : Python} {s t : ScopeState} {l : ScopeLabel}

/-- What was read is still defined in the same way. -/
def ReadsDefined (s : ScopeState) : Prop :=
  ∀ o ∈ s.reads, s.store.requests.2 o.objectiveId = some o.asDefined

theorem scopeStep_requests (hreads : ReadsDefined s) (h : scopeStep py s l t) :
    t.store.requests = s.store.requests := by
  cases l with
  | append update handoffStatus caseStatus caseHandoffStatus event =>
    cases h
    exact appendHandoffUpdate_requests _ _ _ _ _ _
  | verified handoffId now event =>
    cases h
    exact markHandoffVerified_requests _ _ _ _
  | read objectiveId =>
    obtain ⟨o, _, rfl⟩ := h
    rfl
  | result old updated event =>
    obtain ⟨hold, hresult, rfl⟩ := h
    have hdefined := hresult.asDefined
    have hid := (VerificationObjective.asDefined_ids hdefined).1
    obtain ⟨stored, hstored, heq⟩ := Option.map_eq_some_iff.1 (hreads old hold)
    rw [← hid] at hstored
    exact updateVerificationObjectiveResult_requests hstored (hdefined.trans heq.symm) event

theorem ReadsDefined.step (hreads : ReadsDefined s) (h : scopeStep py s l t) : ReadsDefined t := by
  have hrequests := scopeStep_requests hreads h
  unfold ReadsDefined
  rw [hrequests]
  cases l with
  | append update handoffStatus caseStatus caseHandoffStatus event =>
    cases h
    exact hreads
  | verified handoffId now event =>
    cases h
    exact hreads
  | read objectiveId =>
    obtain ⟨o, hget, rfl⟩ := h
    intro read hread
    rcases List.mem_cons.1 hread with rfl | hold
    · have hstored : s.store.requests.2 read.objectiveId =
          (s.store.verificationObjectives.get? read.objectiveId).map
            VerificationObjective.asDefined := rfl
      rw [hstored, Table.get?_key hget]
      rfl
    · exact hreads read hold
  | result old updated event =>
    obtain ⟨_, _, rfl⟩ := h
    exact hreads

/-- **No run changes the scope of a handoff.** -/
theorem approvalScope_run {store : Store} {ls : List ScopeLabel}
    (h : Run (scopeStep py) { store := store } ls t) (handoffId : String) :
    t.store.approvalScope py handoffId = store.approvalScope py handoffId := by
  have hinit : ReadsDefined { store := store } := by
    intro o ho
    cases ho
  have hkept := h.invariant (I := fun s => ReadsDefined s ∧ s.store.requests = store.requests)
    (fun s l t hs hl => ⟨hs.1.step hl, (scopeStep_requests hs.1 hl).trans hs.2⟩)
    ⟨hinit, rfl⟩
  exact approvalScope_of_requests hkept.2 handoffId

end Steps

/-! ## What the digest binds -/

/-- The digests of different canonical texts are different. -/
def DigestsApart (py : Python) : Prop :=
  ∀ a b : Json, lhpPayloadHash py a = lhpPayloadHash py b →
    canonicalLhpJson py a = canonicalLhpJson py b

/-- The same values in every request field, and the same payload. -/
structure SameRequest (h h' : CaseHandoff) : Prop where
  fields : ∀ field ∈ approvalHandoffFields,
    SameJson (JsonDict.get h.modelDump field) (JsonDict.get h'.modelDump field)
  payload : SameJson (.dict h.payload) (.dict h'.payload)

/-- The same definition, and the same payload. -/
structure SameDefinition (o o' : VerificationObjective) : Prop where
  fields : ∀ field ∈ approvalObjectiveFields,
    SameJson (JsonDict.get o.modelDump field) (JsonDict.get o'.modelDump field)
  payload : SameJson (.dict o.payload) (.dict o'.payload)

section Binding

variable {py : Python} (hf : FloatRepr py) (hapart : DigestsApart py)

include hf hapart in
theorem sameJson_of_hash {a b : Json} (h : lhpPayloadHash py a = lhpPayloadHash py b) :
    SameJson a b := by
  have htext := hapart a b h
  unfold canonicalLhpJson at htext
  exact jsonText_injective hf (String.ofList_injective htext)

include hf hapart in
theorem sameRequest_of_projection {h h' : CaseHandoff}
    (hsame : SameJson (.dict (handoffProjection py h)) (.dict (handoffProjection py h'))) :
    SameRequest h h' := by
  have hkeys : ((handoffProjection py h).map Prod.fst).Nodup := by
    change List.Nodup (approvalHandoffFields ++ ["payload_hash"])
    decide
  have hget := hsame.get hkeys
  have hpayload : SameJson (.dict h.payload) (.dict h'.payload) :=
    sameJson_of_hash hf hapart (SameJson.str (hget "payload_hash"))
  refine ⟨fun field hfield => ?_, hpayload⟩
  by_cases heq : field = "payload"
  · rw [heq]
    exact hpayload
  · have hread : ∀ g : CaseHandoff,
        JsonDict.get (handoffProjection py g) field = JsonDict.get g.modelDump field := by
      intro g
      simp only [approvalHandoffFields, List.mem_cons, List.not_mem_nil, or_false] at hfield
      rcases hfield with rfl | rfl | rfl | rfl | rfl | rfl | rfl | rfl | rfl | rfl | rfl | rfl | rfl |
        rfl | rfl | rfl | rfl | rfl | rfl | rfl
      all_goals first
        | rfl
        | exact absurd rfl heq
    rw [← hread h, ← hread h']
    exact hget field

include hf hapart in
theorem sameDefinition_of_definition {o o' : VerificationObjective}
    (hsame : SameJson (.dict (objectiveDefinition py o)) (.dict (objectiveDefinition py o'))) :
    SameDefinition o o' := by
  have hkeys : ((objectiveDefinition py o).map Prod.fst).Nodup := by
    change List.Nodup (approvalObjectiveFields ++ ["payload_hash"])
    decide
  have hget := hsame.get hkeys
  refine ⟨fun field hfield => ?_, sameJson_of_hash hf hapart (SameJson.str (hget "payload_hash"))⟩
  have hread : ∀ g : VerificationObjective,
      JsonDict.get (objectiveDefinition py g) field = JsonDict.get g.modelDump field := by
    intro g
    simp only [approvalObjectiveFields, List.mem_cons, List.not_mem_nil, or_false] at hfield
    rcases hfield with rfl | rfl | rfl | rfl | rfl | rfl | rfl | rfl | rfl | rfl | rfl <;> rfl
  rw [← hread o, ← hread o']
  exact hget field

/-- The definitions are those of the objectives, in some order. -/
theorem exists_objectiveDefinitions (py : Python) (objectives : List VerificationObjective) :
    ∃ l : List VerificationObjective, l.Perm objectives ∧
      objectiveDefinitions py objectives = l.map (objectiveDefinition py) := by
  let r := fun a b : VerificationObjective =>
    definitionOrder py (objectiveDefinition py a) ≤ definitionOrder py (objectiveDefinition py b)
  let s := fun a b : JsonDict => definitionOrder py a ≤ definitionOrder py b
  refine ⟨objectives.insertionSort r, List.perm_insertionSort r objectives, ?_⟩
  exact (List.map_insertionSort r s (objectiveDefinition py) objectives
    fun _ _ _ _ => Iff.rfl).symm

include hf hapart in
/-- **The digest of the scope binds the request, and every objective.** -/
theorem scope_binds {h h' : CaseHandoff} {objectives objectives' : List VerificationObjective}
    (heq : approvalScopeHash py h objectives = approvalScopeHash py h' objectives') :
    SameRequest h h' ∧ ∃ l l' : List VerificationObjective,
      l.Perm objectives ∧ l'.Perm objectives' ∧ List.Forall₂ SameDefinition l l' := by
  have hscope := sameJson_of_hash hf hapart heq
  have hkeys : ((buildLhpApprovalScope py h objectives).map Prod.fst).Nodup := by
    change List.Nodup (["schema_version", "case", "handoff", "verification_objectives",
      "verification_objective_count", "verification_objectives_hash"] : List String)
    decide
  have hget := hscope.get hkeys
  refine ⟨sameRequest_of_projection hf hapart (hget "handoff"), ?_⟩
  have hlist := sameJson_of_hash hf hapart (SameJson.str (hget "verification_objectives_hash"))
  obtain ⟨l, hl, hdefinitions⟩ := exists_objectiveDefinitions py objectives
  obtain ⟨l', hl', hdefinitions'⟩ := exists_objectiveDefinitions py objectives'
  rw [hdefinitions, hdefinitions', List.map_map, List.map_map] at hlist
  have hitems := hlist.list
  rw [List.forall₂_map_left_iff, List.forall₂_map_right_iff] at hitems
  exact ⟨l, l', hl, hl', hitems.imp fun _ _ hsame => sameDefinition_of_definition hf hapart hsame⟩

end Binding

/-! ## Approval -/

/-- An interpreter whose digests are the texts themselves. -/
theorem digestsApart_fractionPython : DigestsApart fractionPython := fun _ _ h => h

/-- The objective of the second handoff. -/
def webObjective : VerificationObjective :=
  (unevenStore.verificationObjectives.get? "vo_web").get rfl

/-- The objective is read, then its handoff is verified, and the result comes last. -/
def lateResult : List ScopeLabel :=
  [.read "vo_web", .verified "handoff_2" "2026-01-01T02:00:00+00:00" none,
    .result webObjective (applyConsoleResult fractionPython webObjective
      { idempotencyKey := "late", status := .fail }) none]

def lateState : ScopeState where
  store := (updateVerificationObjectiveResult (applyConsoleResult fractionPython webObjective
    { idempotencyKey := "late", status := .fail }) none
    (markHandoffVerified "handoff_2" "2026-01-01T02:00:00+00:00" none unevenStore).2).2
  reads := [webObjective]

theorem run_lateResult :
    Run (scopeStep fractionPython) { store := unevenStore } lateResult lateState :=
  Run.cons (t := { store := unevenStore, reads := [webObjective] }) ⟨webObjective, rfl, rfl⟩
    (Run.cons rfl (Run.single ⟨List.mem_singleton_self _, ResultOf.reported _, rfl⟩))

end NocAgent.Cases
