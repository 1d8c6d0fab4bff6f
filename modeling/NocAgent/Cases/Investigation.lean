import NocAgent.Cases.Service

/-!
# Investigations of a case

* `shouldInvestigate` — whether a case is due, from what its last investigation left on it.
* `claimRequest` — what a claimant that finds its snapshot due asks the store for.
* `claimInvestigation` — the store compares three fields of the snapshot before it writes.
* `recordInvestigationResult` — the result, with the signature of the case as it is then.
-/

set_option autoImplicit false

namespace NocAgent.Cases

open Effects Effects.Action Keyed

/-- `_investigation_signature`. -/
def investigationSignature (case : AtomicCaseProjection) : String :=
  orText case.signalSignature (orText case.fingerprint case.caseId)

/-- `timedelta(seconds=seconds)` in microseconds; it holds at most 999999999 days. -/
def timedeltaSeconds (seconds : Nat) : Except PyExc Int :=
  if seconds ≤ 86399999999999 then .ok (seconds * 1000000) else .error .overflowError

section Due

variable (py : Python) (policy : CasePolicy)

/-- The case was last investigated `seconds` ago, or at no time that can be read. -/
def investigatedBefore (case : AtomicCaseProjection) (seconds : Nat) (now : Int) :
    Except PyExc Bool :=
  match parseIsoTime py case.lastInvestigatedAt with
  | .error e => .error e
  | .ok none => .ok true
  | .ok (some last) =>
    match timedeltaSeconds seconds with
    | .error e => .error e
    | .ok delay => .ok (delay ≤ now - last)

def shouldInvestigate (case : AtomicCaseProjection) (now : Int) : Except PyExc Bool :=
  -- `_investigation_blocked_status`
  if case.status ∈ TERMINAL_CASE_STATUSES then .ok false
  else if case.investigationStatus = "failed" then
    investigatedBefore py case policy.investigationFailureRetryS now
  else if case.lastInvestigatedAt = "" ∨ case.diagnosisSignature = "" then .ok true
  else if case.signalSignature ≠ "" ∧ case.diagnosisSignature ≠ case.signalSignature then .ok true
  else investigatedBefore py case policy.investigationCooldownS now

end Due

/-! ## Claims -/

/-- What `CaseService.claim_investigation` passes to the store. -/
structure ClaimRequest where
  caseId : String
  expectedSignalSignature : String
  expectedDiagnosisSignature : String
  expectedLastInvestigatedAt : String
  status : String
  policyVersion : String
  now : String
  event : CaseEvent

/-- The claim of a snapshot. -/
def requestFor (policy : CasePolicy) (case : AtomicCaseProjection) (status now : String)
    (draw : Draw) : ClaimRequest where
  caseId := case.caseId
  expectedSignalSignature := case.signalSignature
  expectedDiagnosisSignature := case.diagnosisSignature
  expectedLastInvestigatedAt := case.lastInvestigatedAt
  status := status
  policyVersion := policy.policyVersion
  now := now
  event := {
    eventId := draw.eventId
    caseId := some case.caseId
    eventType := "investigation_started"
    occurredAt := draw.now
    policyVersion := policy.policyVersion
    payload := [("diagnosis_signature", .str (investigationSignature case)),
      ("status", .str status)] }

/-- The service's part of `claim_investigation`: `asked` is the clock that decides whether the
snapshot is due, `now` the one that is written. -/
def claimRequest (py : Python) (policy : CasePolicy) (case : AtomicCaseProjection) (status : String)
    (asked : Int) (now : String) (draw : Draw) : Except PyExc (Option ClaimRequest) :=
  match shouldInvestigate py policy case asked with
  | .error e => .error e
  | .ok false => .ok none
  | .ok true => .ok (some (requestFor policy case status now draw))

/-- The case as a claim leaves it. -/
def claimedCase (case : AtomicCaseProjection) (request : ClaimRequest) : AtomicCaseProjection :=
  { case with
    lastInvestigatedAt := request.now
    diagnosisSignature := investigationSignature case
    investigationStatus := request.status
    investigationError := ""
    updatedAt := request.now
    policyVersion := request.policyVersion }

/-- What the store compares. -/
def ClaimRequest.Current (request : ClaimRequest) (case : AtomicCaseProjection) : Prop :=
  case.signalSignature = request.expectedSignalSignature ∧
    case.diagnosisSignature = request.expectedDiagnosisSignature ∧
    case.lastInvestigatedAt = request.expectedLastInvestigatedAt

instance (request : ClaimRequest) (case : AtomicCaseProjection) :
    Decidable (request.Current case) := by
  unfold ClaimRequest.Current; infer_instance

/-- `InMemoryCaseStore.claim_investigation`. -/
def claimInvestigation (request : ClaimRequest) : StoreM (Option AtomicCaseProjection) := do
  let case ← peek fun s => s.atomicCase? request.caseId
  match case with
  | none => pure none
  | some case =>
    if case.status ∈ TERMINAL_CASE_STATUSES then pure none
    else if request.Current case then do
      putCase (claimedCase case request)
      let _ ← storeEvent request.event
      pure (some (claimedCase case request))
    else pure none

/-! ## Results -/

/-- The result of an investigation, as it is recorded. -/
structure InvestigationResult where
  caseId : String
  diagnosis : JsonDict
  recommendations : List String := []
  status : String := "complete"
  error : String := ""

/-- The case as a recorded result leaves it. -/
def recordedCase (policy : CasePolicy) (case : AtomicCaseProjection) (result : InvestigationResult)
    (now : String) : AtomicCaseProjection :=
  { case with
    lastInvestigatedAt := now
    lastDiagnosis := result.diagnosis
    diagnosisSignature := investigationSignature case
    recommendations := result.recommendations
    investigationStatus := result.status
    investigationError := result.error
    updatedAt := now
    policyVersion := policy.policyVersion }

/-- `record_investigation_result`, under the guard of the case. -/
def recordInvestigationResult (policy : CasePolicy) (result : InvestigationResult) (now : String)
    (draw : Draw) : StoreM AtomicCaseProjection := do
  let case ← requireAtomicCase result.caseId
  let recorded := recordedCase policy case result now
  putCase recorded
  let _ ← storeEvent {
    eventId := draw.eventId
    caseId := some recorded.caseId
    eventType := "investigation_recorded"
    actorType := .graph
    occurredAt := draw.now
    policyVersion := policy.policyVersion
    payload := [("diagnosis_signature", .str recorded.diagnosisSignature),
      ("recommendation_count", .int recorded.recommendations.length),
      ("status", .str result.status), ("error", .str result.error)] }
  pure recorded

/-! ## What they leave -/

@[simp] theorem claimedCase_caseId (case : AtomicCaseProjection) (request : ClaimRequest) :
    (claimedCase case request).caseId = case.caseId := rfl

@[simp] theorem recordedCase_caseId (policy : CasePolicy) (case : AtomicCaseProjection)
    (result : InvestigationResult) (now : String) :
    (recordedCase policy case result now).caseId = case.caseId := rfl

theorem investigationSignature_ne {case : AtomicCaseProjection} (hid : case.caseId ≠ "") :
    investigationSignature case ≠ "" := by
  unfold investigationSignature orText
  split
  · split
    · exact hid
    · assumption
  · assumption

theorem claimInvestigation_claimed {request : ClaimRequest} {s : Store}
    {case : AtomicCaseProjection} (hcase : s.atomicCase? request.caseId = some case)
    (hopen : case.status ∉ TERMINAL_CASE_STATUSES) (hcurrent : request.Current case) :
    ∃ ev ix, claimInvestigation request s = (.ok (some (claimedCase case request)), { s with
      cases := s.cases.put (.atomic (claimedCase case request))
      events := ev
      caseEvents := ix }) := by
  unfold claimInvestigation putCase
  simp only [peek_bind_run, hcase, if_neg hopen, if_pos hcurrent, alter_bind_run]
  obtain ⟨event, ev, ix, hrun⟩ := storeEvent_run request.event { s with
    cases := s.cases.put (.atomic (claimedCase case request)) }
  exact ⟨ev, ix, (bind_ok hrun).trans rfl⟩

/-- A claim writes the case, or nothing. -/
theorem claimInvestigation_cases (request : ClaimRequest) (s : Store) :
    (∃ case, s.atomicCase? request.caseId = some case ∧
      case.status ∉ TERMINAL_CASE_STATUSES ∧ request.Current case ∧
      (claimInvestigation request s).1 = .ok (some (claimedCase case request)) ∧
      (claimInvestigation request s).2.cases = s.cases.put (.atomic (claimedCase case request))) ∨
    claimInvestigation request s = (.ok none, s) := by
  cases hcase : s.atomicCase? request.caseId with
  | none =>
    refine Or.inr ?_
    unfold claimInvestigation
    simp only [peek_bind_run, hcase, pure_run]
  | some case =>
    by_cases hterminal : case.status ∈ TERMINAL_CASE_STATUSES
    · refine Or.inr ?_
      unfold claimInvestigation
      simp only [peek_bind_run, hcase, if_pos hterminal, pure_run]
    by_cases hcurrent : request.Current case
    · obtain ⟨ev, ix, hrun⟩ := claimInvestigation_claimed hcase hterminal hcurrent
      rw [hrun]
      exact Or.inl ⟨case, rfl, hterminal, hcurrent, rfl, rfl⟩
    · refine Or.inr ?_
      unfold claimInvestigation
      simp only [peek_bind_run, hcase, if_neg hterminal, if_neg hcurrent, pure_run]

/-- A result is recorded on the case as it is then, or there is no such case. -/
theorem recordInvestigationResult_cases (policy : CasePolicy) (result : InvestigationResult)
    (now : String) (draw : Draw) (s : Store) :
    (∃ case, s.atomicCase? result.caseId = some case ∧
      (recordInvestigationResult policy result now draw s).1 =
        .ok (recordedCase policy case result now) ∧
      (recordInvestigationResult policy result now draw s).2.cases =
        s.cases.put (.atomic (recordedCase policy case result now))) ∨
    s.atomicCase? result.caseId = none ∧
      recordInvestigationResult policy result now draw s = (.error .keyError, s) := by
  unfold recordInvestigationResult putCase
  simp only [requireAtomicCase_bind_run]
  cases hcase : s.atomicCase? result.caseId with
  | none => exact Or.inr ⟨rfl, rfl⟩
  | some case =>
    refine Or.inl ⟨case, rfl, ?_⟩
    simp only [alter_bind_run]
    obtain ⟨event, ev, ix, hrun⟩ := storeEvent_run {
      eventId := draw.eventId
      caseId := some (recordedCase policy case result now).caseId
      eventType := "investigation_recorded"
      actorType := .graph
      occurredAt := draw.now
      policyVersion := policy.policyVersion
      payload := [("diagnosis_signature",
          .str (recordedCase policy case result now).diagnosisSignature),
        ("recommendation_count",
          .int (recordedCase policy case result now).recommendations.length),
        ("status", .str result.status), ("error", .str result.error)] } { s with
      cases := s.cases.put (.atomic (recordedCase policy case result now)) }
    rw [bind_ok hrun]
    exact ⟨rfl, rfl⟩

end NocAgent.Cases
