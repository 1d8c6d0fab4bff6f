import NocAgent.Cases.Service
import NocAgent.Lib.Stepwise
import NocAgent.Lib.Lts

/-!
# Outbox workers

* `OutboxWorker` — where a call of `process_pending` or `process_intent` stands between two
  accesses to the store, with its local variables.
* `OutboxWorker.next` — what the call does before others get a turn; a handler runs between the
  claim and the write of its result.
* `outboxStep` — any number of workers over one store, in any interleaving.
* `next_outbox` — a turn writes one intent, under one of four conditions, or none.
-/

set_option autoImplicit false

namespace NocAgent.Cases

open Effects Effects.Action Keyed Lts

/-! ## The processor -/

/-- What a handler reports of its side effect. -/
structure OutboxHandlerResult where
  externalId : String := ""
  externalUrl : String := ""
  payloadUpdates : JsonDict := []
  attentionDelivery : Option AttentionDelivery := none
  attentionLeaseToken : String := ""
  reportEvent : Option CaseEvent := none

/-- What became of a handler's call. -/
inductive HandlerOutcome where
  | raised (error : String)
  | returned (result : Option OutboxHandlerResult)

/-- What a pass over the outbox counts. -/
structure OutboxProcessReport where
  processed : Nat := 0
  succeeded : Nat := 0
  failed : Nat := 0
  skipped : Nat := 0

/-- The handlers and limits of a processor. -/
structure OutboxProcessor where
  py : Python
  /-- `intent_type in self.handlers` -/
  handles : OutboxIntentType → Bool
  retryBackoffS : Int := 60

/-- What a turn of a worker draws: the clock, a fresh `uuid4().hex`, the handler's outcome. -/
structure OutboxDraws where
  now : Int
  token : String
  outcome : HandlerOutcome := .returned none

/-- `dict.update`. -/
def JsonDict.update (d updates : JsonDict) : JsonDict :=
  updates.foldl (fun d entry => dictPut d entry.1 entry.2) d

section Processor

variable (p : OutboxProcessor)

/-- `_is_due`. -/
def isDue (intent : OutboxIntent) (now : Int) : Bool :=
  if intent.nextAttemptAt = "" then true
  else
    match p.py.parseIso intent.nextAttemptAt with
    | none => true
    | some dueAt => dueAt ≤ now

/-- `_claim_expired`; adding the lease interval may overflow. -/
def claimExpired (intent : OutboxIntent) (now : Int) : Except PyExc Bool :=
  match truthyId intent.claimExpiresAt with
  | some expiresAt =>
    match p.py.parseIso expiresAt with
    | none => .ok false
    | some expires => .ok (expires ≤ now)
  | none =>
    match p.py.parseIso intent.createdAt with
    | none => .ok false
    | some created =>
      match asInstant (created + 600000000) with
      | .error e => .error e
      | .ok expires => .ok (expires ≤ now)

def retryClaim (now : Int) (intent : OutboxIntent) : OutboxIntent :=
  { intent with
    status := .pending
    nextAttemptAt := p.py.isoformat now
    error := "Notification claim expired; retrying" }

def claim (now : Int) (token : String) (intent : OutboxIntent) : OutboxIntent :=
  { intent with
    status := .inProgress
    attempts := intent.attempts + 1
    claimToken := token
    claimExpiresAt := some (p.py.isoformat (now + 600000000)) }

def errored (now : Int) (error : String) (claimed : OutboxIntent) : OutboxIntent :=
  { claimed with
    status := .failed
    error := error
    nextAttemptAt := p.py.isoformat (now + p.retryBackoffS * 1000000) }

def completed (now : Int) (result : Option OutboxHandlerResult) (claimed : OutboxIntent) :
    OutboxIntent :=
  let succeeded := { claimed with
    status := .succeeded
    completedAt := some (p.py.isoformat now)
    error := "" }
  match result with
  | none => succeeded
  | some result =>
    { succeeded with
      externalId := result.externalId
      externalUrl := result.externalUrl
      payload := JsonDict.update claimed.payload result.payloadUpdates }

/-- The write after the handler has returned. -/
def storeCompletion (now : Int) (claimed : OutboxIntent) (result : Option OutboxHandlerResult) :
    StoreM (Option OutboxIntent) :=
  match result with
  | some { attentionDelivery := some delivery, attentionLeaseToken, reportEvent, .. } =>
    completeAttention p.py (completed p now result claimed) delivery (delivery.sequence - 1)
      claimed.claimToken attentionLeaseToken reportEvent now
  | _ =>
    updateOutboxIfStatus (completed p now result claimed) .inProgress (some claimed.claimToken)

/-! ## One worker -/

/-- Where a call stands, with its local variables. -/
inductive OutboxWorker where
  | idle
  /-- at the first of the intents in progress, whose claim may have expired by `now` -/
  | requeueing (inProgress : List OutboxIntent) (now limit : Int)
  /-- before `list_outbox(status="failed")` -/
  | listing (pending : List OutboxIntent) (limit : Int)
  /-- before the claim of the first of the candidates -/
  | processing (candidates : List OutboxIntent) (report : OutboxProcessReport)
  /-- after the claim, while the handler runs -/
  | handling (claimed : OutboxIntent) (rest : List OutboxIntent) (report : OutboxProcessReport)

/-- The call of `process_pending`, up to the first list it reads. -/
def OutboxWorker.start (limit now : Int) (s : Store) : OutboxWorker :=
  .requeueing (if p.handles .report then s.listOutbox (some .inProgress) else []) now limit

/-- One turn. -/
def OutboxWorker.next (d : OutboxDraws) : OutboxWorker → StoreM OutboxWorker
  | .idle => pure .idle
  | .requeueing (intent :: inProgress) now limit =>
    if intent.intentType ≠ .report then pure (.requeueing inProgress now limit)
    else
      match claimExpired p intent now with
      | .error e => raise e
      | .ok false => pure (.requeueing inProgress now limit)
      | .ok true => do
        let _ ← updateOutboxIfStatus (retryClaim p d.now intent) .inProgress
          (some intent.claimToken)
        pure (.requeueing inProgress now limit)
  | .requeueing [] _ limit => do
    let pending ← peek fun s => s.listOutbox (some .pending)
    pure (.listing pending limit)
  | .listing pending limit => do
    let failed ← peek fun s => s.listOutbox (some .failed)
    let candidates := pending ++ failed.filter fun intent => isDue p intent d.now
    pure (.processing (candidates.take limit.toNat) {})
  | .processing [] _ => pure .idle
  | .processing (intent :: rest) report =>
    if p.handles intent.intentType then do
      let stored ← updateOutboxIfStatus (claim p d.now d.token intent) intent.status
        (some intent.claimToken)
      match stored with
      | none => pure (.processing rest { report with skipped := report.skipped + 1 })
      | some claimed => pure (.handling claimed rest { report with processed := report.processed + 1 })
    else pure (.processing rest { report with skipped := report.skipped + 1 })
  | .handling claimed rest report =>
    match d.outcome with
    | .raised error => do
      let stored ← updateOutboxIfStatus (errored p d.now error claimed) .inProgress
        (some claimed.claimToken)
      match stored with
      | none => pure (.processing rest { report with skipped := report.skipped + 1 })
      | some _ => pure (.processing rest { report with failed := report.failed + 1 })
    | .returned result => do
      let stored ← storeCompletion p d.now claimed result
      match stored with
      | none => pure (.processing rest { report with skipped := report.skipped + 1 })
      | some _ => pure (.processing rest { report with succeeded := report.succeeded + 1 })

/-! ## Any number of workers -/

/-- The store, and any number of workers on its outbox. -/
structure OutboxSystem where
  store : Store
  workers : Nat → OutboxWorker
  /-- the claims that succeeded, counted for each intent -/
  claims : String → Nat
  /-- every version of an intent that was ever stored -/
  seen : List OutboxIntent

/-- No call is running. -/
def OutboxSystem.quiet (s : Store) : OutboxSystem where
  store := s
  workers _ := .idle
  claims _ := 0
  seen := s.outbox.rows

inductive OutboxLabel where
  | processPending (i : Nat) (limit now : Int)
  | processIntent (i : Nat) (intent : OutboxIntent)
  | work (i : Nat) (d : OutboxDraws)
  /-- a call is cancelled, or its process ends -/
  | stop (i : Nat)
  | enqueue (intent : OutboxIntent)
  /-- what others do to the store, which is nothing to its outbox -/
  | elsewhere (t : Store)

def OutboxSystem.atWorker (sys : OutboxSystem) (i : Nat) (w : OutboxWorker) : OutboxSystem :=
  { sys with workers := Function.update sys.workers i w }

def OutboxSystem.atStore (sys : OutboxSystem) (s : Store) : OutboxSystem :=
  { sys with
    store := s
    seen := s.outbox.rows ++ sys.seen }

/-- The claim that a turn makes. -/
def OutboxWorker.claimed? : OutboxWorker → Except PyExc OutboxWorker → Option String
  | .processing _ _, .ok (.handling claimed _ _) => some claimed.outboxId
  | _, _ => none

def countClaim (claims : String → Nat) : Option String → String → Nat
  | none => claims
  | some id => Function.update claims id (claims id + 1)

def OutboxSystem.after (sys : OutboxSystem) : OutboxLabel → OutboxSystem
  | .processPending i limit now => sys.atWorker i (.start p limit now sys.store)
  | .processIntent i intent => sys.atWorker i (.processing [intent] {})
  | .work i d =>
    let r := (sys.workers i).next p d sys.store
    { (sys.atWorker i (goto .idle r.1)).atStore r.2 with
      claims := countClaim sys.claims ((sys.workers i).claimed? r.1) }
  | .stop i => sys.atWorker i .idle
  | .enqueue intent => sys.atStore (enqueueOutbox intent sys.store).2
  | .elsewhere t => sys.atStore t

/-- A worker runs one call at a time, the intent given to `process_intent` is a stored version,
and the ids of new intents and the tokens of new claims are new. -/
def OutboxLabel.Allowed (sys : OutboxSystem) : OutboxLabel → Prop
  | .processPending i _ _ => sys.workers i = .idle
  | .processIntent i intent =>
    sys.workers i = .idle ∧ intent ∈ sys.seen ∧ intent.status = .pending
  | .work _ d => d.token ≠ "" ∧ ∀ intent ∈ sys.seen, intent.claimToken ≠ d.token
  | .stop _ => True
  | .enqueue intent => sys.store.outbox.get? intent.outboxId = none ∧ intent.status = .pending ∧
    intent.attempts = 0 ∧ intent.claimToken = ""
  | .elsewhere t => t.outbox = sys.store.outbox

def outboxStep (sys : OutboxSystem) (l : OutboxLabel) (t : OutboxSystem) : Prop :=
  l.Allowed sys ∧ t = sys.after p l

/-! ## What a turn writes -/

end Processor

theorem updateOutboxIfStatus_matches {intent current : OutboxIntent} {expectedStatus : OutboxStatus}
    {expectedClaimToken : Option String} {s : Store}
    (hget : s.outbox.get? intent.outboxId = some current)
    (hmatch : current.Matches expectedStatus expectedClaimToken) :
    updateOutboxIfStatus intent expectedStatus expectedClaimToken s = (.ok (some intent),
      { s with
        outbox := s.outbox.put intent
        outboxIndex := s.outboxIndex.set intent.idempotencyKey intent.outboxId }) := by
  unfold updateOutboxIfStatus
  simp only [peek_bind_run, hget, if_pos hmatch]
  rfl

theorem updateOutboxIfStatus_run (intent : OutboxIntent) (expectedStatus : OutboxStatus)
    (expectedClaimToken : Option String) (s : Store) :
    updateOutboxIfStatus intent expectedStatus expectedClaimToken s = (.ok none, s) ∨
      ∃ current, s.outbox.get? intent.outboxId = some current ∧
        current.Matches expectedStatus expectedClaimToken ∧
        updateOutboxIfStatus intent expectedStatus expectedClaimToken s = (.ok (some intent),
          { s with
            outbox := s.outbox.put intent
            outboxIndex := s.outboxIndex.set intent.idempotencyKey intent.outboxId }) := by
  cases hcurrent : s.outbox.get? intent.outboxId with
  | none =>
    refine Or.inl ?_
    unfold updateOutboxIfStatus
    simp only [peek_bind_run, hcurrent]
    rfl
  | some current =>
    by_cases h : current.Matches expectedStatus expectedClaimToken
    · exact Or.inr ⟨current, rfl, h, updateOutboxIfStatus_matches hcurrent h⟩
    · refine Or.inl ?_
      unfold updateOutboxIfStatus
      simp only [peek_bind_run, hcurrent, if_neg h]
      rfl

/-- No case is lost, and none changes its identity. -/
def KeepsIdentity (s t : Store) : Prop :=
  ∀ caseId case, s.atomicCase? caseId = some case →
    ∃ case', t.atomicCase? caseId = some case' ∧ case'.identity = case.identity

theorem keepsIdentity_of_cases {s t : Store} (h : t.cases = s.cases) : KeepsIdentity s t := by
  intro caseId case hcase
  refine ⟨case, ?_, rfl⟩
  unfold Store.atomicCase? at hcase ⊢
  rw [h]
  exact hcase

theorem keepsIdentity_put {s t : Store} {case written : AtomicCaseProjection}
    (hcase : s.atomicCase? written.caseId = some case) (hidentity : written.identity = case.identity)
    (h : t.cases = s.cases.put (.atomic written)) : KeepsIdentity s t := by
  intro caseId stored hstored
  rw [atomicCase?_put h]
  split
  · rename_i hid
    rw [hid, hstored] at hcase
    cases hcase
    exact ⟨written, rfl, hidentity⟩
  · exact ⟨stored, hstored, rfl⟩

theorem applyReportCompletion_same {py : Python} {case reported : AtomicCaseProjection}
    {event : CaseEvent} (h : applyReportCompletion py case event = .ok reported) :
    reported.caseId = case.caseId ∧ reported.identity = case.identity := by
  unfold applyReportCompletion at h
  split at h
  · cases h
  split at h
  · cases h
    exact ⟨rfl, rfl⟩
  · cases h

/-- `complete_attention` commits as a whole, or leaves the store as it is. -/
theorem completeAttention_run (py : Python) (intent : OutboxIntent) (delivery : AttentionDelivery)
    (expectedSequence : Nat) (expectedClaimToken leaseToken : String)
    (reportEvent : Option CaseEvent) (now : Int) (s : Store) :
    (∃ r, completeAttention py intent delivery expectedSequence expectedClaimToken leaseToken
        reportEvent now s = (r, s) ∧ ∀ stored, r ≠ .ok (some stored)) ∨
      intent.status = .succeeded ∧ intent.caseId = some delivery.caseId ∧
      delivery.sequence = expectedSequence + 1 ∧
      s.MayComplete intent delivery expectedSequence expectedClaimToken leaseToken now ∧
      ∃ cases ev ix, KeepsIdentity s { s with cases := cases } ∧
        completeAttention py intent delivery expectedSequence expectedClaimToken
          leaseToken reportEvent now s = (.ok (some intent), { s with
            cases := cases
            events := ev
            caseEvents := ix
            attention := s.attention.put delivery
            outbox := s.outbox.put intent
            attentionLeases := s.attentionLeases.pop delivery.caseId }) := by
  unfold completeAttention
  simp only [raiseIf_bind_run, peek_bind_run]
  split
  · exact Or.inl ⟨_, rfl, fun _ h => by cases h⟩
  rename_i hvalid
  simp only [not_or, not_not] at hvalid
  by_cases hready : s.MayComplete intent delivery expectedSequence expectedClaimToken leaseToken now
  · simp only [decide_eq_true hready, if_true, requireAtomicCase_bind_run]
    cases hcase : s.atomicCase? delivery.caseId with
    | none => exact Or.inl ⟨_, rfl, fun _ h => by cases h⟩
    | some case =>
      cases reportEvent with
      | none => exact Or.inr ⟨hvalid.1, hvalid.2.1, hvalid.2.2, hready, s.cases, s.events,
          s.caseEvents, keepsIdentity_of_cases rfl, rfl⟩
      | some event =>
        cases happly : applyReportCompletion py case event with
        | error e =>
          simp only [happly]
          exact Or.inl ⟨_, rfl, fun _ h => by cases h⟩
        | ok reported =>
          obtain ⟨hid, hidentity⟩ := applyReportCompletion_same happly
          have hstored : s.atomicCase? reported.caseId = some case := by
            rw [hid, caseId_of_atomicCase? hcase]
            exact hcase
          obtain ⟨stored, ev, ix, hrun⟩ := storeEvent_run event { s with
            cases := s.cases.put (.atomic reported) }
          refine Or.inr ⟨hvalid.1, hvalid.2.1, hvalid.2.2, hready,
            s.cases.put (.atomic reported), ev, ix, keepsIdentity_put hstored hidentity rfl, ?_⟩
          simp only [happly, putCase, alter_bind_run]
          rw [bind_ok hrun]
          rfl
  · simp only [decide_eq_false hready, Bool.false_eq_true, if_false]
    exact Or.inl ⟨_, rfl, fun _ h => by cases h⟩

section Processor

variable (p : OutboxProcessor) (d : OutboxDraws)

/-- What one turn does, with the conditions under which it writes. -/
inductive OutboxTurn (s : Store) : OutboxWorker → OutboxWorker → Store → Prop where
  | halt (w : OutboxWorker) : OutboxTurn s w .idle s
  | kept (intent : OutboxIntent) (rest : List OutboxIntent) (now limit : Int) :
      OutboxTurn s (.requeueing (intent :: rest) now limit) (.requeueing rest now limit) s
  | requeued (intent : OutboxIntent) (rest : List OutboxIntent) (now limit : Int)
      (current : OutboxIntent) (t : Store) (stored : s.outbox.get? intent.outboxId = some current)
      (running : current.status = .inProgress) (token : current.claimToken = intent.claimToken)
      (written : t.outbox = s.outbox.put (retryClaim p d.now intent)) :
      OutboxTurn s (.requeueing (intent :: rest) now limit) (.requeueing rest now limit) t
  | listed (now limit : Int) :
      OutboxTurn s (.requeueing [] now limit) (.listing (s.listOutbox (some .pending)) limit) s
  | chosen (pending : List OutboxIntent) (limit : Int) :
      OutboxTurn s (.listing pending limit) (.processing ((pending ++
        (s.listOutbox (some .failed)).filter fun intent => isDue p intent d.now).take limit.toNat)
        {}) s
  | skipped (intent : OutboxIntent) (rest : List OutboxIntent) (report report' : OutboxProcessReport) :
      OutboxTurn s (.processing (intent :: rest) report) (.processing rest report') s
  | claimed (intent : OutboxIntent) (rest : List OutboxIntent) (report report' : OutboxProcessReport)
      (current : OutboxIntent) (t : Store) (stored : s.outbox.get? intent.outboxId = some current)
      (status : current.status = intent.status) (token : current.claimToken = intent.claimToken)
      (written : t.outbox = s.outbox.put (claim p d.now d.token intent)) :
      OutboxTurn s (.processing (intent :: rest) report)
        (.handling (claim p d.now d.token intent) rest report') t
  | lost (claimed : OutboxIntent) (rest : List OutboxIntent) (report report' : OutboxProcessReport) :
      OutboxTurn s (.handling claimed rest report) (.processing rest report') s
  | finished (claimed : OutboxIntent) (rest : List OutboxIntent) (report report' : OutboxProcessReport)
      (current done : OutboxIntent) (t : Store)
      (stored : s.outbox.get? claimed.outboxId = some current)
      (running : current.status = .inProgress) (token : current.claimToken = claimed.claimToken)
      (same : done.outboxId = claimed.outboxId ∧ done.attempts = claimed.attempts ∧
        done.claimToken = claimed.claimToken) (written : t.outbox = s.outbox.put done) :
      OutboxTurn s (.handling claimed rest report) (.processing rest report') t

theorem completed_same (now : Int) (result : Option OutboxHandlerResult) (claimed : OutboxIntent) :
    (completed p now result claimed).outboxId = claimed.outboxId ∧
      (completed p now result claimed).attempts = claimed.attempts ∧
      (completed p now result claimed).claimToken = claimed.claimToken := by
  cases result <;> exact ⟨rfl, rfl, rfl⟩

/-- The result of a handler is stored against the claim, or nothing is. -/
theorem storeCompletion_run (now : Int) (claimed : OutboxIntent)
    (result : Option OutboxHandlerResult) (s : Store) :
    (∃ r, storeCompletion p now claimed result s = (r, s) ∧ ∀ stored, r ≠ .ok (some stored)) ∨
      ∃ current t, storeCompletion p now claimed result s =
          (.ok (some (completed p now result claimed)), t) ∧
        s.outbox.get? claimed.outboxId = some current ∧ current.status = .inProgress ∧
        current.claimToken = claimed.claimToken ∧
        t.outbox = s.outbox.put (completed p now result claimed) := by
  obtain ⟨hid, -, -⟩ := completed_same p now result claimed
  unfold storeCompletion
  split
  · rename_i delivery leaseToken reportEvent
    generalize completed p now _ claimed = done at hid ⊢
    rcases completeAttention_run p.py done delivery (delivery.sequence - 1) claimed.claimToken
      leaseToken reportEvent now s with hsame | ⟨-, -, -, ⟨hrow, -⟩, cases, ev, ix, -, hrun⟩
    · exact Or.inl hsame
    · obtain ⟨current, hget, hstatus, htoken, -⟩ := hrow
      exact Or.inr ⟨current, _, hrun, hid ▸ hget, hstatus, htoken, rfl⟩
  · rcases updateOutboxIfStatus_run (completed p now result claimed) .inProgress
      (some claimed.claimToken) s with hrun | ⟨current, hget, hmatch, hrun⟩
    · exact Or.inl ⟨_, hrun, fun _ h => by cases h⟩
    · exact Or.inr ⟨current, _, hrun, hid ▸ hget, hmatch.1, hmatch.2 _ rfl, rfl⟩

theorem next_turn (w : OutboxWorker) (s : Store) :
    OutboxTurn p d s w (goto .idle (w.next p d s).1) (w.next p d s).2 := by
  cases w with
  | idle => exact .halt _
  | requeueing inProgress now limit =>
    cases inProgress with
    | nil => exact .listed now limit
    | cons intent rest =>
      simp only [OutboxWorker.next]
      split
      · exact .kept intent rest now limit
      · rcases claimExpired p intent now with e | expired
        · exact .halt _
        cases expired with
        | false => exact .kept intent rest now limit
        | true =>
          simp only []
          rcases updateOutboxIfStatus_run (retryClaim p d.now intent) .inProgress
            (some intent.claimToken) s with hrun | ⟨current, hget, hmatch, hrun⟩
          · rw [bind_ok hrun]
            exact .kept intent rest now limit
          · rw [bind_ok hrun]
            exact .requeued intent rest now limit current _ hget hmatch.1 (hmatch.2 _ rfl) rfl
  | listing pending limit => exact .chosen pending limit
  | processing candidates report =>
    cases candidates with
    | nil => exact .halt _
    | cons intent rest =>
      simp only [OutboxWorker.next]
      split
      · rcases updateOutboxIfStatus_run (claim p d.now d.token intent) intent.status
          (some intent.claimToken) s with hrun | ⟨current, hget, hmatch, hrun⟩
        · rw [bind_ok hrun]
          exact .skipped intent rest _ _
        · rw [bind_ok hrun]
          exact .claimed intent rest _ _ current _ hget hmatch.1 (hmatch.2 _ rfl) rfl
      · exact .skipped intent rest _ _
  | handling claimed rest report =>
    simp only [OutboxWorker.next]
    cases d.outcome with
    | raised error =>
      simp only []
      rcases updateOutboxIfStatus_run (errored p d.now error claimed) .inProgress
        (some claimed.claimToken) s with hrun | ⟨current, hget, hmatch, hrun⟩
      · rw [bind_ok hrun]
        exact .lost claimed rest _ _
      · rw [bind_ok hrun]
        exact .finished claimed rest _ _ current (errored p d.now error claimed) _ hget hmatch.1
          (hmatch.2 _ rfl) ⟨rfl, rfl, rfl⟩ rfl
    | returned result =>
      simp only []
      rcases storeCompletion_run p d.now claimed result s with
        ⟨r, hrun, hnone⟩ | ⟨current, t, hrun, hget, hstatus, htoken, hput⟩
      · rcases r with e | stored
        · rw [bind_error hrun]
          exact .halt _
        · rw [bind_ok hrun]
          cases stored with
          | none => exact .lost claimed rest _ _
          | some stored => exact absurd rfl (hnone stored)
      · rw [bind_ok hrun]
        exact .finished claimed rest _ _ current _ _ hget hstatus htoken
          (completed_same p d.now result claimed) hput

end Processor

end NocAgent.Cases
