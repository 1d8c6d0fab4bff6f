import NocAgent.Cases.OperatorDecisions
import NocAgent.Lib.Stepwise

/-!
# Verification results from the loop console

* `applyConsoleResult` — an objective after one result.
* `loopConsoleVerificationResult` — the route: it reads the objective, looks for the event of the
  request, and writes the objective back.
* `ResultCall` — where a call of the route is; `resultCall_steps`: a call that nobody interrupts
  does what the route says.
-/

set_option autoImplicit false

namespace NocAgent.Cases

open Effects Effects.Action Keyed

/-- `LoopConsoleVerificationResultRequest`. -/
structure VerificationResultRequest where
  actorId : String := "observatory"
  idempotencyKey : String
  payload : JsonDict := []
  status : VerificationStatus
  evidenceRef : String := ""
  failureReason : String := ""

section Route

variable (py : Python) (policy : CasePolicy)

/-- `_loop_console_action_id`. -/
def consoleActionId (action idempotencyKey targetId : String) : String :=
  "evt_loop_console_" ++
    takeChars 16 (py.sha256 (action ++ ":" ++ targetId ++ ":" ++ idempotencyKey))

/-- `list_verification_objectives()`. -/
def Store.allVerificationObjectives (s : Store) : List VerificationObjective :=
  s.verificationObjectives.rows.insertionSort fun a b =>
    toLex (a.updatedAt, toLex (a.createdAt, a.objectiveId)) ≤
      toLex (b.updatedAt, toLex (b.createdAt, b.objectiveId))

/-- The objective after the result of a request. -/
def applyConsoleResult (objective : VerificationObjective) (request : VerificationResultRequest) :
    VerificationObjective :=
  let count := if request.status = .pass then objective.consecutivePassCount + 1 else 0
  { objective with
    evidenceRef := if request.evidenceRef ≠ "" then
        safeMonitorToken py 180 (.str request.evidenceRef) else ""
    failureReason := safeMonitorText py 800 (.str request.failureReason)
    consecutivePassCount := count
    status :=
      if request.status = .pass then
        if objective.requiredConsecutivePasses ≤ count then .pass else .pending
      else request.status
    resultPayload := dictMerge objective.resultPayload
      (dictMerge [("source", .str "loop_console"), ("actor_id", .str request.actorId)]
        request.payload) }

/-- `list_lhp_verification_objectives`, and the one with this id. -/
def findObjective (objectiveId : String) : StoreM VerificationObjective := do
  let objective ← peek fun s =>
    s.allVerificationObjectives.find? fun item => item.objectiveId = objectiveId
  orRaise objective (httpException 404 "Verification objective not found")

/-- `POST /loop-console/v1/verification-objectives/{objective_id}/result`; `now` is the time of
the event. -/
def loopConsoleVerificationResult (objectiveId : String) (request : VerificationResultRequest)
    (now : String) : StoreM VerificationObjective := do
  let objective ← findObjective objectiveId
  let eventId := consoleActionId py "verification_result" request.idempotencyKey objectiveId
  let repeated ← peek fun s => decide (s.HasEvent objective.caseId eventId)
  if repeated then pure objective
  else recordLhpVerificationResult policy (applyConsoleResult py objective request) ⟨eventId, now⟩

/-! ## A call of the route -/

/-- Where a call of the route is, with its local variables. -/
inductive ResultCall where
  | idle
  /-- before `list_lhp_verification_objectives` -/
  | listing (objectiveId : String) (request : VerificationResultRequest)
  /-- before `case_events` -/
  | looking (objective : VerificationObjective) (request : VerificationResultRequest)
  /-- before `record_lhp_verification_result` -/
  | recording (updated : VerificationObjective) (request : VerificationResultRequest)

/-- The next store call, and where the call is after it. -/
def ResultCall.next (now : String) : ResultCall → StoreM ResultCall
  | .idle => pure .idle
  | .listing objectiveId request => do
    let objective ← findObjective objectiveId
    pure (.looking objective request)
  | .looking objective request => do
    let eventId :=
      consoleActionId py "verification_result" request.idempotencyKey objective.objectiveId
    let repeated ← peek fun s => decide (s.HasEvent objective.caseId eventId)
    if repeated then pure .idle
    else pure (.recording (applyConsoleResult py objective request) request)
  | .recording updated request => do
    let eventId :=
      consoleActionId py "verification_result" request.idempotencyKey updated.objectiveId
    let _ ← recordLhpVerificationResult policy updated ⟨eventId, now⟩
    pure .idle

end Route

section Link

variable {py : Python} {policy : CasePolicy} {s : Store}

/-- The list is searched for the objective that is stored under the id. -/
theorem find_allVerificationObjectives (objectiveId : String) :
    (s.allVerificationObjectives.find? fun item => item.objectiveId = objectiveId) =
      s.verificationObjectives.get? objectiveId := by
  have hmem : ∀ row, row ∈ s.allVerificationObjectives ↔
      s.verificationObjectives.get? row.objectiveId = some row := by
    intro row
    unfold Store.allVerificationObjectives
    rw [List.mem_insertionSort, Table.mem_rows_iff]
  cases hrow : s.verificationObjectives.get? objectiveId with
  | none =>
    rw [List.find?_eq_none]
    intro row hin hid
    have hget := (hmem row).1 hin
    rw [of_decide_eq_true hid, hrow] at hget
    cases hget
  | some row =>
    have hid : row.objectiveId = objectiveId := Table.key_of_get? hrow
    cases hfound : s.allVerificationObjectives.find? fun item => item.objectiveId = objectiveId with
    | none =>
      rw [List.find?_eq_none] at hfound
      exact absurd (decide_eq_true hid) (hfound row ((hmem row).2 (by rw [hid, hrow])))
    | some other =>
      have hother := (hmem other).1 (List.mem_of_find?_eq_some hfound)
      have hkey : other.objectiveId = objectiveId := by simpa using List.find?_some hfound
      rw [hkey, hrow] at hother
      exact hother.symm

@[simp] theorem findObjective_bind_run {β : Type} (objectiveId : String)
    (f : VerificationObjective → StoreM β) (s : Store) :
    (findObjective objectiveId >>= f) s =
      match s.verificationObjectives.get? objectiveId with
      | some objective => f objective s
      | none => (.error (httpException 404 "Verification objective not found"), s) := by
  simp only [findObjective, bind_bind_run, peek_bind_run, find_allVerificationObjectives,
    orRaise_bind_run]
  cases s.verificationObjectives.get? objectiveId <;> rfl

/-- **The steps of a call do what the route does.** -/
theorem resultCall_steps (objectiveId : String) (request : VerificationResultRequest)
    (now : String) (s : Store) :
    Effects.Reaches (fun c => ResultCall.next py policy now c) .idle
      (.listing objectiveId request) s .idle
      (loopConsoleVerificationResult py policy objectiveId request now s).2 := by
  unfold loopConsoleVerificationResult
  simp only [findObjective_bind_run]
  cases hrow : s.verificationObjectives.get? objectiveId with
  | none =>
    refine .stop (e := httpException 404 "Verification objective not found") ?_
    simp only [ResultCall.next, findObjective_bind_run, hrow]
  | some objective =>
    have hid : objective.objectiveId = objectiveId := Table.key_of_get? hrow
    refine .go (m := .looking objective request) (t := s) ?_ ?_
    · simp only [ResultCall.next, findObjective_bind_run, hrow]
      rfl
    simp only [peek_bind_run, decide_eq_true_eq]
    by_cases hrepeated : s.HasEvent objective.caseId
        (consoleActionId py "verification_result" request.idempotencyKey objectiveId)
    · rw [if_pos hrepeated]
      refine .go ?_ (.refl _ _)
      simp only [ResultCall.next, peek_bind_run, hid, decide_eq_true_eq, if_pos hrepeated]
      rfl
    · rw [if_neg hrepeated]
      refine .go (m := .recording (applyConsoleResult py objective request) request) (t := s) ?_ ?_
      · simp only [ResultCall.next, peek_bind_run, hid, decide_eq_true_eq, if_neg hrepeated]
        rfl
      · refine (Performs.step (k := fun _ => ResultCall.idle) fun t => ?_).halts s
        have hkept : (applyConsoleResult py objective request).objectiveId = objectiveId := hid
        simp only [ResultCall.next, hkept]

end Link

end NocAgent.Cases
