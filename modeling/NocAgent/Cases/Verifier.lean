import NocAgent.Cases.Service

/-!
# The verification scheduler

* `CaseVerifier.runOnce` — check what is due, record the results, then verify the handoffs that
  were touched, in the order of their ids.
* `applyCheckResult`, `objectiveSatisfied` — one objective after one check.
* `defaultVerificationCheck` — the checker used unless another is given.
* `VerifierKeeps.runOnce` — a run keeps what the writers it calls keep.

An exception of the checker becomes an `unknown` result; every other exception ends the call.
-/

set_option autoImplicit false

namespace NocAgent.Cases

open Effects Effects.Action Keyed

inductive VerificationCheckStatus where
  | pass
  | fail
  | unknown
  | skipped
  deriving DecidableEq, Repr

def VerificationCheckStatus.objectiveStatus : VerificationCheckStatus → VerificationStatus
  | .pass => .pass
  | .fail => .fail
  | .unknown => .unknown
  | .skipped => .skipped

/-- What a check of an objective answers. -/
structure VerificationCheckResult where
  status : VerificationCheckStatus
  evidenceRef : String := ""
  failureReason : String := ""
  payload : Option JsonDict := none

/-- What a run of the verifier counts. -/
structure VerificationRunReport where
  checked : Nat := 0
  updated : Nat := 0
  passed : Nat := 0
  failed : Nat := 0
  unknown : Nat := 0
  verifiedHandoffs : Nat := 0
  resolvedCases : Nat := 0
  dryRun : Bool := true

/-- The settings of the verifier. -/
structure LoopHandoffSettings where
  caseVerificationEnabled : Bool := false
  caseVerificationDryRun : Bool := true
  caseAutoResolveEnabled : Bool := false
  caseVerificationIntervalS : Int := 120
  knowledgeContextEnabled : Bool := false

abbrev VerifierCheck :=
  VerificationObjective → Option AtomicCaseProjection → Except PyExc VerificationCheckResult

/-- `classify` is `classify_exception(exc).category`. -/
structure CaseVerifier where
  py : Python
  policy : CasePolicy := {}
  settings : LoopHandoffSettings
  checker : VerifierCheck
  classify : PyExc → String

/-- What one call draws, by the record it is for. -/
structure VerifierDraws where
  startedAt : String
  checkedAt : String → Int
  check : String → Draw
  verify : String → Draw
  outcomeId : String → String
  outcomeAt : String → String
  /-- the ids of the objectives that are satisfied -/
  validation : String → JsonDict := fun _ => []
  resolve : String → Draw
  outboxId : String → String
  propose : String → Draw

/-- `safety` of an outcome that the verifier records. -/
def resolutionSafety (py : Python) : JsonDict :=
  sanitizePayloadDict py
    [("resolved_by", .str "noc_case_verifier"), ("auto_resolve_enabled", .bool true)]

/-! ## One objective -/

def defaultVerificationCheck (py : Python) : VerifierCheck := fun objective case =>
  if objective.objectiveType = "monitoring_alert_clear" then
    match case with
    | none => .ok {
        status := .unknown
        failureReason := "case_not_found" }
    | some case =>
      match observedCleanAfterUnhealthy py case.lastObservedClean case.lastObservedUnhealthy with
      | .error e => .error e
      | .ok true => .ok {
          status := .pass
          evidenceRef := "case:" ++ sanitizeLhpToken py case.caseId 180 ++ ":last_observed_clean" }
      | .ok false => .ok {
          status := .unknown
          failureReason := "no_positive_clean_observation" }
  else if objective.objectiveType = "health_endpoint" then
    .ok {
      status := .pass
      evidenceRef := "noc_process:verifier_alive" }
  else
    .ok {
      status := .unknown
      failureReason := "unsupported_objective_type:" ++ objective.objectiveType }

/-- `_next_check_at`; `clock` is `datetime.now` when `now` is not a time. -/
def nextCheckAt (py : Python) (now : String) (clock intervalS : Int) : Except PyExc String :=
  match parseIsoTime py now with
  | .error e => .error e
  | .ok parsed =>
    match asInstant (parsed.getD clock + max 1 intervalS * 1000000) with
    | .error e => .error e
    | .ok t => .ok (py.isoformat t)

/-- `_apply_check_result`. -/
def applyCheckResult (py : Python) (objective : VerificationObjective)
    (result : VerificationCheckResult) (now : String) (clock intervalS : Int) :
    Except PyExc VerificationObjective :=
  match nextCheckAt py now clock intervalS with
  | .error e => .error e
  | .ok next =>
    let payload := result.payload.getD []
    let count := if result.status = .pass then objective.consecutivePassCount + 1 else 0
    .ok { objective with
      lastCheckedAt := now
      nextCheckAt := next
      evidenceRef := sanitizeLhpToken py result.evidenceRef 180
      failureReason := sanitizeLhpToken py result.failureReason 180
      resultPayload := (sanitizePayloadDict py payload).foldl (fun d kv => dictPut d kv.1 kv.2)
        objective.resultPayload
      consecutivePassCount := count
      status :=
        if result.status = .pass then
          if objective.requiredConsecutivePasses ≤ count then .pass else .pending
        else result.status.objectiveStatus
      updatedAt := now }

/-- `_objective_satisfied`. -/
def objectiveSatisfied (objective : VerificationObjective) : Prop :=
  objective.status = objective.requiredStatus ∧
    objective.requiredConsecutivePasses ≤ objective.consecutivePassCount

instance (objective : VerificationObjective) : Decidable (objectiveSatisfied objective) := by
  unfold objectiveSatisfied; infer_instance

namespace CaseVerifier

variable (v : CaseVerifier) (d : VerifierDraws)

/-- The checker's result, or `unknown` when it raised. -/
def judge (objective : VerificationObjective) (case : Option AtomicCaseProjection) :
    VerificationCheckResult :=
  match v.checker objective case with
  | .ok result => result
  | .error e => {
      status := .unknown
      failureReason := v.classify e }

/-- The counters and the touched handoffs of a run. -/
structure Tally where
  checked : Nat := 0
  updated : Nat := 0
  passed : Nat := 0
  failed : Nat := 0
  unknown : Nat := 0
  touchedHandoffs : List String := []

def Tally.count (tally : Tally) (status : VerificationCheckStatus) : Tally :=
  { tally with
    checked := tally.checked + 1
    passed := tally.passed + (if status = .pass then 1 else 0)
    failed := tally.failed + (if status = .fail then 1 else 0)
    unknown := tally.unknown + (if status = .pass ∨ status = .fail then 0 else 1) }

/-- `updated += 1; if handoff_id: touched_handoffs.add(handoff_id)`. -/
def Tally.touch (tally : Tally) (handoffId : String) : Tally :=
  { tally with
    updated := tally.updated + 1
    touchedHandoffs :=
      if handoffId = "" then tally.touchedHandoffs else tally.touchedHandoffs.insert handoffId }

/-- The objective as one check leaves it. -/
def check (now : String) (objective : VerificationObjective)
    (case : Option AtomicCaseProjection) : Except PyExc VerificationObjective :=
  applyCheckResult v.py objective (v.judge objective case) now
    (d.checkedAt objective.objectiveId) v.settings.caseVerificationIntervalS

/-- One round of the loop over the due objectives. -/
def checkOne (now : String) (objective : VerificationObjective) (tally : Tally) : StoreM Tally := do
  let case ← peek fun s => s.atomicCase? objective.caseId
  let tally := tally.count (v.judge objective case).status
  match v.check d now objective case with
  | .error e => raise e
  | .ok updated =>
    if v.settings.caseVerificationDryRun then pure tally
    else do
      let _ ← recordLhpVerificationResult v.policy updated (d.check objective.objectiveId)
      pure (tally.touch updated.handoffId)

def checkAll (now : String) : List VerificationObjective → Tally → StoreM Tally
  | [], tally => pure tally
  | objective :: rest, tally => do
    let tally ← v.checkOne d now objective tally
    checkAll now rest tally

/-- The required objectives of a handoff. -/
def requiredObjectives (handoff : CaseHandoff) (objectives : List VerificationObjective) :
    List VerificationObjective :=
  objectives.filter fun objective =>
    objective.handoffId = handoff.handoffId ∧ objective.required = true

/-- `mark_lhp_handoff_verified`, and the outcome when cases are resolved automatically. -/
def verifyHandoff (handoffId : String) : StoreM (Bool × Bool) := do
  let verified ← markLhpHandoffVerified v.policy handoffId (d.verify handoffId)
  if v.settings.caseAutoResolveEnabled then do
    let workItemId ← orRaise (requireLhpToken v.py verified.caseId 180) .validationError
    let outcome : OutcomeRecord := {
      outcomeId := d.outcomeId handoffId
      workItemId := workItemId
      caseType := sanitizeLhpToken v.py verified.caseType 180
      fingerprint := sanitizeLhpToken v.py verified.fingerprint 180
      validation := sanitizePayloadDict v.py (d.validation handoffId)
      safety := resolutionSafety v.py
      createdAt := d.outcomeAt handoffId }
    let _ ← resolveLhpCaseWithOutcome v.policy verified.caseId outcome verified.handoffId
      (d.resolve handoffId)
    if v.settings.knowledgeContextEnabled then do
      let _ ← requestLhpKnowledgeArtifactProposal v.py v.policy verified.caseId verified.handoffId
        outcome.outcomeId [("source", .str "noc_case_verifier"), ("case_type", .str verified.caseType)]
        (d.outboxId handoffId) (d.propose handoffId)
      pure (true, true)
    else pure (true, true)
  else pure (true, false)

/-- `_maybe_verify_handoff`. -/
def maybeVerifyHandoff (handoffId : String) : StoreM (Bool × Bool) := do
  let handoff ← getHandoff handoffId
  match handoff with
  | none => pure (false, false)
  | some handoff =>
    if handoff.status ∈ [.verified, .resolved, .cancelled, .expired] then pure (false, false)
    else do
      let objectives ← peek fun s => s.listVerificationObjectives handoff.caseId
      let required := requiredObjectives handoff objectives
      if required = [] ∨ ∃ objective ∈ required, ¬ objectiveSatisfied objective then
        pure (false, false)
      else v.verifyHandoff d handoffId

def verifyAll : List String → Nat × Nat → StoreM (Nat × Nat)
  | [], done => pure done
  | handoffId :: rest, done => do
    let (didVerify, didResolve) ← v.maybeVerifyHandoff d handoffId
    verifyAll rest (done.1 + didVerify.toNat, done.2 + didResolve.toNat)

/-- `for handoff_id in sorted(touched_handoffs):`, unless the run is dry. -/
def verifyTouched (tally : Tally) : StoreM (Nat × Nat) :=
  if v.settings.caseVerificationDryRun then pure (0, 0)
  else v.verifyAll d (tally.touchedHandoffs.insertionSort (· ≤ ·)) (0, 0)

/-- `run_once`. -/
def runOnce (now : Option String) (limit : Int) : StoreM VerificationRunReport :=
  let dryRun := v.settings.caseVerificationDryRun
  if v.settings.caseVerificationEnabled then do
    let now := orText (now.getD "") d.startedAt
    let due ← peek fun s => s.listDueVerificationObjectives now limit
    let tally ← v.checkAll d now due {}
    let done ← v.verifyTouched d tally
    pure {
      checked := tally.checked
      updated := tally.updated
      passed := tally.passed
      failed := tally.failed
      unknown := tally.unknown
      verifiedHandoffs := done.1
      resolvedCases := done.2
      dryRun := dryRun }
  else pure { dryRun := dryRun }

end CaseVerifier

/-! ## What a run keeps -/

theorem requireAtomicCase_keeps {I : Store → Prop} (caseId : String) :
    Keeps I (requireAtomicCase caseId) :=
  Keeps.bind (Keeps.peek _) fun _ => Keeps.orRaise _ _

/-- The writers that a run calls keep `I`. -/
structure VerifierKeeps (I : Store → Prop) : Prop where
  result : ∀ objective event, Keeps I (updateVerificationObjectiveResult objective event)
  verified : ∀ handoffId now event, Keeps I (markHandoffVerified handoffId now event)
  resolved : ∀ caseId handoffId outcome now event,
    Keeps I (resolveCaseWithOutcome caseId handoffId outcome now event)
  enqueued : ∀ intent, Keeps I (enqueueOutbox intent)
  logged : ∀ event, Keeps I (storeEvent event)

namespace VerifierKeeps

variable {I : Store → Prop} (h : VerifierKeeps I) (v : CaseVerifier) (d : VerifierDraws)

include h

theorem checkOne (now : String) (objective : VerificationObjective)
    (tally : CaseVerifier.Tally) : Keeps I (v.checkOne d now objective tally) := by
  refine Keeps.bind (Keeps.peek _) fun case => ?_
  cases hc : v.check d now objective case with
  | error e => exact Keeps.raise e
  | ok updated =>
    simp only []
    split
    · exact Keeps.pure _
    · exact Keeps.bind (h.result _ _) fun _ => Keeps.pure _

theorem checkAll (now : String) : ∀ (due : List VerificationObjective)
    (tally : CaseVerifier.Tally), Keeps I (v.checkAll d now due tally)
  | [], _ => Keeps.pure _
  | objective :: rest, tally =>
    Keeps.bind (h.checkOne v d now objective tally) fun tally =>
      checkAll now rest tally

theorem markLhpHandoffVerified (policy : CasePolicy) (handoffId : String) (draw : Draw) :
    Keeps I (markLhpHandoffVerified policy handoffId draw) :=
  Keeps.bind (Keeps.peek _) fun _ => Keeps.bind (Keeps.orRaise _ _) fun _ =>
    h.verified _ _ _

theorem resolveLhpCaseWithOutcome (policy : CasePolicy) (caseId : String)
    (outcome : OutcomeRecord) (handoffId : String) (draw : Draw) :
    Keeps I (resolveLhpCaseWithOutcome policy caseId outcome handoffId draw) :=
  h.resolved _ _ _ _ _

theorem verifyHandoff (handoffId : String) :
    Keeps I (v.verifyHandoff d handoffId) := by
  refine Keeps.bind (h.markLhpHandoffVerified _ _ _) fun verified => ?_
  split
  · refine Keeps.bind (Keeps.orRaise _ _) fun workItemId =>
      Keeps.bind (h.resolveLhpCaseWithOutcome _ _ _ _ _) fun _ => ?_
    split
    · refine Keeps.bind (Keeps.bind (requireAtomicCase_keeps _) fun _ => ?_) fun _ => Keeps.pure _
      exact Keeps.bind (h.enqueued _) fun _ =>
        Keeps.bind (h.logged _) fun _ => Keeps.pure _
    · exact Keeps.pure _
  · exact Keeps.pure _

theorem maybeVerifyHandoff (handoffId : String) :
    Keeps I (v.maybeVerifyHandoff d handoffId) := by
  refine Keeps.bind (Keeps.peek _) fun handoff => ?_
  cases handoff with
  | none => exact Keeps.pure _
  | some handoff =>
    simp only []
    split
    · exact Keeps.pure _
    · refine Keeps.bind (Keeps.peek _) fun objectives => ?_
      split
      · exact Keeps.pure _
      · exact h.verifyHandoff v d handoffId

theorem verifyAll : ∀ (ids : List String) (done : Nat × Nat),
    Keeps I (v.verifyAll d ids done)
  | [], _ => Keeps.pure _
  | id :: rest, _ =>
    Keeps.bind (h.maybeVerifyHandoff v d id) fun _ => verifyAll rest _

/-- **A run keeps what the writers it calls keep.** -/
theorem runOnce (now : Option String) (limit : Int) :
    Keeps I (v.runOnce d now limit) := by
  unfold CaseVerifier.runOnce
  split
  · refine Keeps.bind (Keeps.peek _) fun due => Keeps.bind (h.checkAll v d _ due _)
      fun tally => Keeps.bind ?_ fun _ => Keeps.pure _
    unfold CaseVerifier.verifyTouched
    split
    · exact Keeps.pure _
    · exact h.verifyAll v d _ _
  · exact Keeps.pure _

end VerifierKeeps

end NocAgent.Cases
