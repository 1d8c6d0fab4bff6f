import NocAgent.Cases.HandoffLedger
import NocAgent.Cases.Outbox

/-!
# Cancelling a handoff

* `cancelLhpHandoff` — the update is recorded, the delivery intents are abandoned, the pending
  objectives are skipped.
* `CancelsOrLeaves` — a call that returns has cancelled its handoff, and one that has not cancelled
  it has left its intents and objectives alone.
* `ReusesEvent` — the call names an event that was recorded before, for a handoff that is not
  cancelled: the old update is returned, and the rest is done anyway.
* `cancelsOrLeaves_iff` — from every reachable store, it is the only call that does not.
-/

set_option autoImplicit false

namespace NocAgent.Cases

open Effects Effects.Action Keyed Lts

/-! ## The service -/

/-- What the event of an update tells besides the update. -/
structure UpdateNote where
  updateType : String
  summary : String := ""
  actorType : Option ActorType := none
  actorId : String := ""
  reason : String := ""

/-- What an operator asks to cancel, and why. -/
structure CancelRequest where
  handoffId : String
  actorId : String
  reason : String
  externalEventId : String

/-- What a call draws: the id and the time of the update, and the rest by intent and objective. -/
structure CancelDraws where
  updateId : String
  createdAt : String
  event : Draw
  abandonedAt : String → String
  skippedAt : String → String
  skip : String → Draw

section Service

variable (py : Python) (policy : CasePolicy)

def handoffUpdateEvent (update : HandoffUpdate) (note : UpdateNote) (draw : Draw) : CaseEvent where
  eventId := draw.eventId
  caseId := some update.caseId
  eventType := "lhp_handoff_update_recorded"
  actorType := note.actorType.getD (if update.sourceLoop = .noc then .system else .monitor)
  actorId := note.actorId
  source := update.sourceLoop.text
  occurredAt := draw.now
  policyVersion := policy.policyVersion
  payload := [("handoff_id", .str update.handoffId), ("update_id", .str update.updateId),
      ("update_type", .str note.updateType), ("status", .str update.status.text),
      ("external_event_id", .str update.externalEventId)] ++
    if note.reason = "" then [] else [("reason", .str (orText note.summary note.reason))]

def recordLhpHandoffUpdate (update : HandoffUpdate) (caseStatus : Option CaseStatus)
    (caseHandoffStatus : Option String) (note : UpdateNote) (draw : Draw) :
    StoreM HandoffUpdateResult :=
  appendHandoffUpdate update none (some (caseStatus.getD (caseStatusForHandoff update.status)))
    caseHandoffStatus (some (handoffUpdateEvent policy update note draw))

/-- `str(intent.payload.get("handoff_id") or "") == handoff_id`, for an intent to deliver it. -/
def OutboxIntent.Delivers (handoffId : String) (intent : OutboxIntent) : Prop :=
  intent.intentType = .engineeringHandoffRequested ∧
    textOf py (intent.payload.get "handoff_id") = handoffId

instance (handoffId : String) (intent : OutboxIntent) :
    Decidable (intent.Delivers py handoffId) := by
  unfold OutboxIntent.Delivers; infer_instance

def abandonIntent (handoffId : String) (draws : CancelDraws) (intent : OutboxIntent) : StoreM Unit :=
  if ¬ intent.Delivers py handoffId ∨ intent.status ∈ [.succeeded, .abandoned] then pure ()
  else do
    let _ ← updateOutboxIfStatus { intent with
      status := .abandoned
      completedAt := some ((truthyId intent.completedAt).getD (draws.abandonedAt intent.outboxId))
      error := "handoff_cancelled" } intent.status none
    pure ()

/-- `_abandon_handoff_delivery_intents`. -/
def abandonHandoffDeliveryIntents (handoffId : String) (draws : CancelDraws) : StoreM Unit := do
  let intents ← peek fun s => s.listOutbox none
  let _ ← forEach (abandonIntent py handoffId draws) intents
  pure ()

def skipObjective (handoff : CaseHandoff) (draws : CancelDraws) (objective : VerificationObjective) :
    StoreM Unit :=
  if objective.handoffId ≠ handoff.handoffId ∨ objective.status ≠ .pending then pure ()
  else do
    let _ ← recordLhpVerificationResult policy { objective with
      status := .skipped
      failureReason := "handoff_cancelled"
      nextCheckAt := ""
      updatedAt := draws.skippedAt objective.objectiveId } (draws.skip objective.objectiveId)
    pure ()

/-- `_skip_cancelled_handoff_objectives`. -/
def skipCancelledHandoffObjectives (handoff : CaseHandoff) (draws : CancelDraws) : StoreM Unit := do
  let objectives ← peek fun s => s.listVerificationObjectives handoff.caseId
  let _ ← forEach (skipObjective policy handoff draws) objectives
  pure ()

/-- The update of a cancellation, with the identifiers that were checked.  The correlation id of a
handoff is never blank. -/
def cancellation (handoff : CaseHandoff) (request : CancelRequest) (draws : CancelDraws)
    (handoffId caseId externalEventId : String) : HandoffUpdate :=
  let update : HandoffUpdate := {
    updateId := draws.updateId
    handoffId := handoffId
    caseId := caseId
    sourceLoop := .noc
    updateType := .cancelled
    status := .cancelled
    summary := sanitizeLhpText py (.str request.reason) 1200
    externalEventId := externalEventId
    correlationId := sanitizeLhpToken py handoff.correlationId 180
    payload := sanitizePayloadDict py [("actor_id", .str request.actorId),
      ("reason", .str request.reason), ("source", .str "loop_console")]
    createdAt := draws.createdAt }
  update.fillPayloadHash py

/-- `none` is `ValidationError`. -/
def cancelUpdate (handoff : CaseHandoff) (request : CancelRequest) (draws : CancelDraws) :
    Option HandoffUpdate := do
  let handoffId ← requireLhpToken py handoff.handoffId 180
  let caseId ← requireLhpToken py handoff.caseId 180
  let externalEventId ← requireLhpToken py request.externalEventId 180
  some (cancellation py handoff request draws handoffId caseId externalEventId)

/-- Between reading the handoff and abandoning its intents. -/
def recordCancellation (handoff : CaseHandoff) (request : CancelRequest) (draws : CancelDraws) :
    StoreM HandoffUpdateResult := do
  let update ← orRaise (cancelUpdate py handoff request draws) .validationError
  recordLhpHandoffUpdate policy update none none {
    updateType := "cancelled"
    summary := sanitizeLhpText py (.str request.reason) 1200
    actorType := some .operator
    actorId := request.actorId
    reason := request.reason } draws.event

/-- `cancel_lhp_handoff`, under the guard. -/
def cancelLhpHandoff (request : CancelRequest) (draws : CancelDraws) :
    StoreM HandoffUpdateResult := do
  let handoff ← getHandoff request.handoffId
  let handoff ← orRaise handoff .keyError
  let result ← recordCancellation py policy handoff request draws
  abandonHandoffDeliveryIntents py handoff.handoffId draws
  skipCancelledHandoffObjectives policy handoff draws
  pure result

end Service

/-! ## The update -/

section Updates

variable {py : Python} {s : Store}

theorem appendHandoffUpdate_creates {update : HandoffUpdate} {handoff : CaseHandoff}
    (h : Applied s update update.status handoff) (caseStatus : Option CaseStatus)
    (caseHandoffStatus : Option String) (event : Option CaseEvent) :
    ∃ result t, appendHandoffUpdate update none caseStatus caseHandoffStatus event s =
        (.ok result, t) ∧ result.created = true ∧
      t.handoffs = s.handoffs.put (update.applyTo update.status handoff) := by
  obtain ⟨case, hcase⟩ := Option.isSome_iff_exists.1 h.atomic
  have happlied : Applied s update (Option.getD none update.status) handoff := h
  have hhandoffs := congrArg Prod.fst ((appendHandoffUpdate_indexed happlied caseStatus
    caseHandoffStatus event).trans (replaceHandoff_indexed _ _ _))
  have hrun := appendHandoffUpdate_applied happlied hcase caseStatus caseHandoffStatus event
  simp only [putCase, alter_bind_run] at hrun
  obtain ⟨stored, ev, ix, hevent⟩ := storeEvent?_run event _
  rw [bind_ok hevent] at hrun
  rw [hrun] at hhandoffs
  exact ⟨_, _, hrun, rfl, hhandoffs⟩

/-- An update is a replay, or is applied, or is refused. -/
theorem appendHandoffUpdate_cases (hs : HandoffLedger py s) (update : HandoffUpdate)
    (caseStatus : Option CaseStatus) (caseHandoffStatus : Option String)
    (event : Option CaseEvent) :
    let seen := truthyId (s.handoffUpdateExternalIndex (update.sourceLoop, update.externalEventId))
    let append := appendHandoffUpdate update none caseStatus caseHandoffStatus event
    (seen.isSome ∧ ∃ result, append s = (.ok result, s) ∧ result.created = false) ∨
      (seen = none ∧ ∃ handoff result t, Applied s update update.status handoff ∧
        append s = (.ok result, t) ∧ result.created = true ∧
        t.handoffs = s.handoffs.put (update.applyTo update.status handoff)) ∨
      (seen = none ∧ ∃ e, append s = (.error e, s)) := by
  dsimp only
  cases hseen : truthyId (s.handoffUpdateExternalIndex
    (update.sourceLoop, update.externalEventId)) with
  | some id =>
    obtain ⟨existing, hexisting, hof⟩ := hs.booked.recorded _ id hseen
    obtain ⟨handoff, hhandoff⟩ := Option.isSome_iff_exists.1 hof
    obtain ⟨case, hcase⟩ := Option.isSome_iff_exists.1
      (hs.wellFormed.handoffCase handoff (Table.mem_of_get? hhandoff))
    refine Or.inl ⟨rfl, ⟨existing, handoff, case, none, false⟩, ?_, rfl⟩
    unfold appendHandoffUpdate
    simp only [peek_bind_run, hseen, Option.mem_def.1 hexisting, orRaise_bind_run,
      requireHandoff_bind_run, hhandoff, requireAtomicCase_bind_run, hcase]
    rfl
  | none =>
    refine Or.inr ?_
    by_cases happlied : ∃ handoff, Applied s update update.status handoff
    · obtain ⟨handoff, h⟩ := happlied
      obtain ⟨result, t, hrun, hcreated, hhandoffs⟩ :=
        appendHandoffUpdate_creates h caseStatus caseHandoffStatus event
      exact Or.inl ⟨rfl, handoff, result, t, h, hrun, hcreated, hhandoffs⟩
    · have hrefused : ∀ handoff, ¬ Applied s update (Option.getD none update.status) handoff :=
        not_exists.1 happlied
      exact Or.inr ⟨rfl, appendHandoffUpdate_raises hseen hrefused caseStatus caseHandoffStatus
        event⟩

end Updates

/-! ## The intents and the objectives -/

section Rest

variable (py : Python) (policy : CasePolicy)

theorem abandonIntent_run (handoffId : String) (draws : CancelDraws) (intent : OutboxIntent)
    (s : Store) : ∃ o ix, abandonIntent py handoffId draws intent s = (.ok (), { s with
      outbox := o
      outboxIndex := ix }) := by
  unfold abandonIntent
  split
  · exact ⟨s.outbox, s.outboxIndex, rfl⟩
  · rcases updateOutboxIfStatus_run { intent with
      status := .abandoned
      completedAt := some ((truthyId intent.completedAt).getD (draws.abandonedAt intent.outboxId))
      error := "handoff_cancelled" } intent.status none s with h | ⟨current, -, -, h⟩
    · exact ⟨s.outbox, s.outboxIndex, (bind_ok h).trans rfl⟩
    · exact ⟨_, _, (bind_ok h).trans rfl⟩

theorem abandonHandoffDeliveryIntents_run (handoffId : String) (draws : CancelDraws) (s : Store) :
    ∃ t, abandonHandoffDeliveryIntents py handoffId draws s = (.ok (), t) ∧
      t.handoffs = s.handoffs := by
  have hround : ∀ intent ∈ s.listOutbox none, ∀ u : Store, u.handoffs = s.handoffs →
      ∃ y t, abandonIntent py handoffId draws intent u = (.ok y, t) ∧ t.handoffs = s.handoffs := by
    intro intent _ u hu
    obtain ⟨o, ix, hrun⟩ := abandonIntent_run py handoffId draws intent u
    exact ⟨_, _, hrun, hu⟩
  obtain ⟨units, t, hrun, ht⟩ := forEach_returns hround s rfl
  exact ⟨t, (bind_ok hrun).trans rfl, ht⟩

/-- Skipping returns, as the objective is stored, and no objective is lost. -/
theorem skipObjective_run (handoff : CaseHandoff) (draws : CancelDraws)
    {objective : VerificationObjective} {s : Store}
    (hstored : (s.verificationObjectives.get? objective.objectiveId).isSome) :
    ∃ t, skipObjective policy handoff draws objective s = (.ok (), t) ∧
      t.handoffs = s.handoffs ∧ ∀ id, (s.verificationObjectives.get? id).isSome →
        (t.verificationObjectives.get? id).isSome := by
  unfold skipObjective
  split
  · exact ⟨s, rfl, rfl, fun _ h => h⟩
  · obtain ⟨existing, hexisting⟩ := Option.isSome_iff_exists.1 hstored
    generalize hskipped : { objective with
      status := VerificationStatus.skipped
      failureReason := "handoff_cancelled"
      nextCheckAt := ""
      updatedAt := draws.skippedAt objective.objectiveId } = skipped
    have hid : skipped.objectiveId = objective.objectiveId := by rw [← hskipped]
    rw [← hid] at hexisting
    obtain ⟨ix, ev, cix, hrun⟩ := recordLhpVerificationResult_run policy hexisting
      (draws.skip objective.objectiveId)
    refine ⟨_, (bind_ok hrun).trans rfl, rfl, fun id h => ?_⟩
    rw [Table.get?_put]
    split
    · rfl
    · exact h

theorem skipCancelledHandoffObjectives_run (handoff : CaseHandoff) (draws : CancelDraws)
    (s : Store) : ∃ t, skipCancelledHandoffObjectives policy handoff draws s = (.ok (), t) ∧
      t.handoffs = s.handoffs := by
  let rows := s.listVerificationObjectives handoff.caseId
  have hround : ∀ objective ∈ rows, ∀ u : Store,
      (u.handoffs = s.handoffs ∧
        ∀ row ∈ rows, (u.verificationObjectives.get? row.objectiveId).isSome) →
      ∃ y t, skipObjective policy handoff draws objective u = (.ok y, t) ∧
        t.handoffs = s.handoffs ∧
          ∀ row ∈ rows, (t.verificationObjectives.get? row.objectiveId).isSome := by
    intro objective hm u hu
    obtain ⟨t, hrun, hhandoffs, hkept⟩ :=
      skipObjective_run policy handoff draws (hu.2 objective hm)
    exact ⟨_, t, hrun, hhandoffs.trans hu.1, fun row hrow => hkept _ (hu.2 row hrow)⟩
  have hstored : ∀ row ∈ rows, (s.verificationObjectives.get? row.objectiveId).isSome := by
    intro row hrow
    have hrow := (List.mem_insertionSort _).1 hrow
    rw [Table.mem_rows_iff.1 (List.mem_filter.1 hrow).1]
    rfl
  obtain ⟨units, t, hrun, ht, -⟩ := forEach_returns hround s ⟨rfl, hstored⟩
  exact ⟨t, (bind_ok hrun).trans rfl, ht⟩

/-- After the update is recorded, the call returns and no handoff changes. -/
theorem cancelRest_run (handoff : CaseHandoff) (draws : CancelDraws) (result : HandoffUpdateResult)
    (s : Store) : ∃ t, (do
        abandonHandoffDeliveryIntents py handoff.handoffId draws
        skipCancelledHandoffObjectives policy handoff draws
        pure result : StoreM HandoffUpdateResult) s = (.ok result, t) ∧
      t.handoffs = s.handoffs := by
  obtain ⟨t, habandon, ht⟩ := abandonHandoffDeliveryIntents_run py handoff.handoffId draws s
  obtain ⟨u, hskip, hu⟩ := skipCancelledHandoffObjectives_run policy handoff draws t
  exact ⟨u, (bind_ok habandon).trans ((bind_ok hskip).trans rfl), hu.trans ht⟩

end Rest

/-! ## The call -/

/-- The call abandoned an intent to deliver the handoff. -/
def AbandonsIntents (py : Python) (s t : Store) (handoffId : String) : Prop :=
  ∃ id, ∃ intent ∈ s.outbox.get? id, ∃ after ∈ t.outbox.get? id, intent.Delivers py handoffId ∧
    intent.status ≠ .abandoned ∧ after.status = .abandoned

/-- The call skipped a pending objective of the handoff. -/
def SkipsObjectives (s t : Store) (handoffId : String) : Prop :=
  ∃ id, ∃ objective ∈ s.verificationObjectives.get? id, ∃ after ∈ t.verificationObjectives.get? id,
    objective.handoffId = handoffId ∧ objective.status = .pending ∧ after.status = .skipped

/-- **A call that returns has cancelled the handoff; one that left it uncancelled has abandoned no
intent of it and skipped no objective.** -/
def CancelsOrLeaves (py : Python) (s : Store) (handoffId : String)
    (r : Except PyExc HandoffUpdateResult × Store) : Prop :=
  ((∃ result, r.1 = .ok result) → IsCancelled r.2 handoffId) ∧
    (¬ IsCancelled r.2 handoffId →
      ¬ AbandonsIntents py s r.2 handoffId ∧ ¬ SkipsObjectives s r.2 handoffId)

/-- The handoff is not cancelled, and the event was recorded before. -/
def ReusesEvent (py : Python) (s : Store) (request : CancelRequest) : Prop :=
  (s.handoffs.get? request.handoffId).isSome ∧ ¬ IsCancelled s request.handoffId ∧
    ∃ token ∈ requireLhpToken py request.externalEventId 180,
      (truthyId (s.handoffUpdateExternalIndex (.noc, token))).isSome

section Call

variable {py : Python} {policy : CasePolicy} {s : Store}

/-- A call that raises before it writes anything. -/
theorem cancelsOrLeaves_error (py : Python) (s : Store) (handoffId : String) (e : PyExc) :
    CancelsOrLeaves py s handoffId (.error e, s) := by
  refine ⟨fun ⟨result, h⟩ => (by cases h), fun _ => ⟨?_, ?_⟩⟩
  · rintro ⟨id, intent, hintent, after, hafter, -, hne, habandoned⟩
    cases (Option.mem_def.1 hintent).symm.trans hafter
    exact hne habandoned
  · rintro ⟨id, objective, hobjective, after, hafter, -, hpending, hskipped⟩
    cases (Option.mem_def.1 hobjective).symm.trans hafter
    rw [hpending] at hskipped
    cases hskipped

theorem cancelUpdate_of_ledger (hs : HandoffLedger py s) {handoff : CaseHandoff} {id : String}
    (hstored : s.handoffs.get? id = some handoff) (request : CancelRequest) (draws : CancelDraws) :
    cancelUpdate py handoff request draws =
      (requireLhpToken py request.externalEventId 180).map
        (cancellation py handoff request draws handoff.handoffId handoff.caseId) := by
  have hm := Table.mem_of_get? hstored
  unfold cancelUpdate
  rw [hs.booked.token handoff hm, hs.wellFormed.handoffToken handoff hm]
  cases requireLhpToken py request.externalEventId 180 <;> rfl

theorem HandoffLedger.cancels (hs : HandoffLedger py s) (request : CancelRequest)
    (draws : CancelDraws) :
    CancelsOrLeaves py s request.handoffId (cancelLhpHandoff py policy request draws s) ↔
      ¬ ReusesEvent py s request := by
  unfold cancelLhpHandoff getHandoff
  simp only [peek_bind_run, orRaise_bind_run]
  cases hstored : s.handoffs.get? request.handoffId with
  | none =>
    refine iff_of_true (cancelsOrLeaves_error py s _ _) ?_
    rintro ⟨hsome, -⟩
    rw [hstored] at hsome
    cases hsome
  | some handoff =>
    simp only []
    unfold recordCancellation
    rw [cancelUpdate_of_ledger hs hstored]
    simp only [bind_bind_run, orRaise_bind_run]
    cases htoken : requireLhpToken py request.externalEventId 180 with
    | none =>
      refine iff_of_true (cancelsOrLeaves_error py s _ _) ?_
      rintro ⟨-, -, token, hmem, -⟩
      rw [htoken] at hmem
      cases hmem
    | some token =>
      have hkey : handoff.handoffId = request.handoffId := Table.key_of_get? hstored
      have hnew : ∀ {e}, truthyId (s.handoffUpdateExternalIndex (.noc, token)) = e → e = none →
          ¬ ReusesEvent py s request := by
        rintro e hseen rfl ⟨-, -, other, hother, hused⟩
        cases htoken.symm.trans hother
        rw [hseen] at hused
        cases hused
      simp only [Option.map_some]
      unfold recordLhpHandoffUpdate
      rcases appendHandoffUpdate_cases hs _ _ none _ with ⟨hseen, result, hrun, -⟩ |
        ⟨hseen, found, result, t, happlied, hrun, -, ht⟩ | ⟨hseen, e, hrun⟩
      · obtain ⟨u, hrest, hu⟩ := cancelRest_run py policy handoff draws result s
        rw [bind_ok hrun, hrest]
        constructor
        · rintro ⟨hcancels, -⟩ ⟨-, hlive, -⟩
          exact hlive ((hcancels ⟨_, rfl⟩).congr hu.symm)
        · intro hnot
          have hcancelled : IsCancelled s request.handoffId := by
            by_contra hlive
            exact hnot ⟨by rw [hstored]; rfl, hlive, token, htoken, hseen⟩
          exact ⟨fun _ => hcancelled.congr hu, fun hlive => absurd (hcancelled.congr hu) hlive⟩
      · obtain ⟨u, hrest, hu⟩ := cancelRest_run py policy handoff draws result t
        rw [bind_ok hrun, hrest]
        have hfound : found.handoffId = request.handoffId :=
          (Table.key_of_get? happlied.stored).trans hkey
        have hcancelled : IsCancelled u request.handoffId := by
          unfold IsCancelled
          rw [hu, ht, Table.get?_put]
          exact ⟨_, if_pos hfound, rfl⟩
        exact iff_of_true ⟨fun _ => hcancelled, fun hlive => absurd hcancelled hlive⟩ (hnew hseen rfl)
      · rw [bind_error hrun]
        exact iff_of_true (cancelsOrLeaves_error py s _ e) (hnew hseen rfl)

/-- **From every reachable store: a call cancels its handoff or leaves it alone exactly when it does
not reuse an event for a handoff that is not cancelled.** -/
theorem cancelsOrLeaves_iff {ops : List LedgerOp} (hrun : Run (ledgerStep py) {} ops s)
    (request : CancelRequest) (draws : CancelDraws) :
    CancelsOrLeaves py s request.handoffId (cancelLhpHandoff py policy request draws s) ↔
      ¬ ReusesEvent py s request :=
  (handoffLedger_run hrun).cancels request draws

end Call

/-! ## An event of another handoff -/

def sharedHandoff (handoffId objectiveKey : String) : CaseHandoff where
  handoffId := handoffId
  caseId := "case_1"
  targetLoop := .engineering
  objective := "restore service"
  objectiveKey := objectiveKey
  idempotencyKey := objectiveKey
  correlationId := "corr_1"
  createdAt := "2026-01-01T00:00:00+00:00"
  updatedAt := "2026-01-01T00:00:00+00:00"

/-- Two handoffs, one with an objective and an intent; the other is cancelled. -/
def cancelledFirst : List LedgerOp :=
  [.store (.handoff (.upsertCase (.atomic {
      caseId := "case_1"
      openedAt := "2026-01-01T00:00:00+00:00"
      updatedAt := "2026-01-01T00:00:00+00:00" }))),
    .store (.handoff (.createHandoffWithObjectives (sharedHandoff "handoff_1" "dns") [] none none none)),
    .store (.handoff (.createHandoffWithObjectives (sharedHandoff "handoff_2" "web") [{
      objectiveId := "vo_web"
      caseId := "case_1"
      handoffId := "handoff_2"
      objectiveKey := "web"
      objectiveType := "health_endpoint"
      name := "service answers"
      createdAt := "2026-01-01T00:00:00+00:00"
      updatedAt := "2026-01-01T00:00:00+00:00" }] none none (some {
        outboxId := "outbox_web"
        intentType := .engineeringHandoffRequested
        caseId := some "case_1"
        idempotencyKey := "engineering_handoff_requested:handoff_2"
        payload := [("handoff_id", .str "handoff_2")]
        nextAttemptAt := "2026-01-01T00:00:00+00:00"
        createdAt := "2026-01-01T00:00:00+00:00" }))),
    .store (.handoff (.appendHandoffUpdate {
      updateId := "hu_1"
      handoffId := "handoff_1"
      caseId := "case_1"
      sourceLoop := .noc
      updateType := .cancelled
      status := .cancelled
      externalEventId := "cancel_1"
      correlationId := "corr_1"
      createdAt := "2026-01-01T01:00:00+00:00" } none none none none))]

def sharedStore : Store := cancelledFirst.foldl (fun s op => op.run s) {}

theorem run_sharedStore : Run (ledgerStep asciiPython) {} cancelledFirst sharedStore := by
  have hother : ∀ {op call : HandoffOp}, op.Registered asciiPython {} →
      StoreOp.handoff op = .handoff call → call.Registered asciiPython {} := by
    rintro op call h heq
    cases heq
    exact h
  exact Run.cons ⟨⟨trivial, fun _ => hother trivial⟩, rfl⟩
    (Run.cons ⟨⟨rfl, fun _ => hother rfl⟩, rfl⟩ (Run.cons ⟨⟨rfl, fun _ => hother rfl⟩, rfl⟩
      (Run.single ⟨⟨trivial, fun _ => hother trivial⟩, rfl⟩)))

def eveningDraws : CancelDraws where
  updateId := "hu_2"
  createdAt := "2026-01-01T02:00:00+00:00"
  event := { eventId := "ce_2", now := "2026-01-01T02:00:00+00:00" }
  abandonedAt _ := "2026-01-01T02:00:00+00:00"
  skippedAt _ := "2026-01-01T02:00:00+00:00"
  skip id := { eventId := "ce_" ++ id, now := "2026-01-01T02:00:00+00:00" }

def cancelSecond (externalEventId : String) : CancelRequest where
  handoffId := "handoff_2"
  actorId := "operator"
  reason := "stale"
  externalEventId := externalEventId

theorem cancelsOrLeaves_fresh : CancelsOrLeaves asciiPython sharedStore "handoff_2"
    (cancelLhpHandoff asciiPython {} (cancelSecond "cancel_2") eveningDraws sharedStore) := by
  refine (cancelsOrLeaves_iff run_sharedStore (cancelSecond "cancel_2") eveningDraws).2 ?_
  rintro ⟨-, -, token, htoken, hused⟩
  have hsame : requireLhpToken asciiPython "cancel_2" 180 = some "cancel_2" := by decide +kernel
  cases hsame.symm.trans htoken
  exact absurd hused (by decide +kernel)

/-- The second handoff is cancelled with the event of the first: the call returns, the handoff is
still requested, its intent is abandoned and its objective skipped. -/
theorem not_cancelsOrLeaves_shared :
    Run (ledgerStep asciiPython) {} cancelledFirst sharedStore ∧
      ¬ CancelsOrLeaves asciiPython sharedStore "handoff_2"
        (cancelLhpHandoff asciiPython {} (cancelSecond "cancel_1") eveningDraws sharedStore) ∧
      AbandonsIntents asciiPython sharedStore
        (cancelLhpHandoff asciiPython {} (cancelSecond "cancel_1") eveningDraws sharedStore).2
        "handoff_2" ∧
      SkipsObjectives sharedStore
        (cancelLhpHandoff asciiPython {} (cancelSecond "cancel_1") eveningDraws sharedStore).2
        "handoff_2" := by
  refine ⟨run_sharedStore, ?_, ⟨"outbox_web", by decide +kernel⟩, ⟨"vo_web", by decide +kernel⟩⟩
  rintro ⟨hcancels, -⟩
  have hreturns : (cancelLhpHandoff asciiPython {} (cancelSecond "cancel_1") eveningDraws
      sharedStore).1.toOption.isSome = true := by decide +kernel
  refine absurd (hcancels ?_) (by decide +kernel)
  generalize (cancelLhpHandoff asciiPython {} (cancelSecond "cancel_1") eveningDraws
    sharedStore).1 = r at hreturns ⊢
  cases r with
  | error e => cases hreturns
  | ok result => exact ⟨result, rfl⟩

end NocAgent.Cases
