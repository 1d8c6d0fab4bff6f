import NocAgent.Cases.Attention
import NocAgent.Cases.OutboxFencing

/-!
# Report requests

* `reportIntent`, `reportRetry` — the intent of `request_report`, and what a call makes of the
  version it finds stored.
* `ReportRequester.next` — a call between two accesses to the store.
* `reportStep` — any number of calls beside any number of outbox workers.
* `SettledReport` — a suppressed version keeps its record from the workers until its next claim.
* `keepsDelivered_run_iff` — the runs in which no request reopens a delivered report.
-/

set_option autoImplicit false

namespace NocAgent.Cases

open Effects Effects.Action Keyed Lts

/-- The report was completed without a delivery. -/
def OutboxIntent.Suppressed (intent : OutboxIntent) : Prop :=
  intent.status = .succeeded ∧ intent.payload.has "notification_suppressed" = true

def OutboxIntent.Delivered (intent : OutboxIntent) : Prop :=
  intent.status = .succeeded ∧ intent.payload.has "notification_suppressed" = false

instance (intent : OutboxIntent) : Decidable intent.Delivered := by
  unfold OutboxIntent.Delivered; infer_instance

/-! ## The call -/

/-- The arguments of `request_report`, with the id and the times that its intent draws. -/
structure ReportCall where
  case : AtomicCaseProjection
  stateSignature : Option String := none
  payload : JsonDict := []
  outboxId : String
  nextAttemptAt : String
  createdAt : String

/-- What the decision draws: the clock, `utc_now()`, `attention_enabled()`, `get_verbosity()`. -/
structure ReportDraws where
  now : Int
  nextAttemptAt : String
  enabled : Bool
  verbosity : Int

/-- `isinstance(required_level, int)`; a `bool` is one. -/
def Json.int? : Json → Option Int
  | .int n => some n
  | .bool b => some (if b then 1 else 0)
  | _ => none

/-- The copy of a completed intent that waits again, without the marks `keys`. -/
def reopened (nextAttemptAt : String) (keys : List String) (intent : OutboxIntent) : OutboxIntent :=
  { intent with
    status := .pending
    completedAt := none
    nextAttemptAt := nextAttemptAt
    payload := keys.foldl dictWithout intent.payload }

section Requests

variable (p : OutboxProcessor) (policy : CasePolicy)

/-- A reminder is anchored to the delivery it repeats. -/
def reportIntent (call : ReportCall) : OutboxIntent :=
  let signature := orText (call.stateSignature.getD "") (reportStateSignature p.py call.case)
  let key := "report:" ++ call.case.caseId ++ ":" ++ signature
  let reminds := call.case.lastReportedAt ≠ "" ∧ call.case.lastReportedSignature = signature
  { outboxId := call.outboxId
    intentType := .report
    caseId := some call.case.caseId
    idempotencyKey := if reminds then key ++ ":reminder:" ++ call.case.lastReportedAt else key
    stateSignature := signature
    payload := if reminds then dictPut call.payload "reminder_since" (.str call.case.lastReportedAt)
      else call.payload
    nextAttemptAt := call.nextAttemptAt
    createdAt := call.createdAt }

/-- What the call writes over the version it was given. -/
def reportRetry (d : ReportDraws) (case : AtomicCaseProjection) (intent : OutboxIntent) :
    Except PyExc (Option OutboxIntent) :=
  let marker := intent.payload.get "notification_suppressed"
  if intent.status ≠ .succeeded then .ok none
  else if marker.isStr "reminder_no_longer_due" = true then
    match shouldRemind p.py policy d.enabled case d.now with
    | .error e => .error e
    | .ok true => .ok (some (reopened d.nextAttemptAt ["notification_suppressed"] intent))
    | .ok false => .ok none
  else if marker.isStr "verbosity" = true ∧
      ∃ level ∈ Json.int? (intent.payload.get "notification_level"), d.verbosity ≤ level then
    .ok (some (reopened d.nextAttemptAt ["notification_suppressed", "notification_level"] intent))
  else .ok none

/-- Where a call stands between two accesses to the store, with its local variables. -/
inductive ReportRequester where
  | idle
  /-- after `enqueue_outbox` -/
  | deciding (case : AtomicCaseProjection) (intent : OutboxIntent)
  /-- the compare-and-set was refused, before the second `enqueue_outbox` -/
  | again (intent : OutboxIntent)
  | returned (intent : OutboxIntent)

def requestReport (call : ReportCall) : StoreM ReportRequester := do
  let intent ← enqueueOutbox (reportIntent p call)
  pure (.deciding call.case intent)

/-- One turn. -/
def ReportRequester.next (d : ReportDraws) : ReportRequester → StoreM ReportRequester
  | .idle => pure .idle
  | .deciding case intent =>
    match reportRetry p policy d case intent with
    | .error e => raise e
    | .ok none => pure (.returned intent)
    | .ok (some retry) => do
      let updated ← updateOutboxIfStatus retry .succeeded none
      match updated with
      | some updated => pure (.returned updated)
      | none => pure (.again intent)
  | .again intent => do
    let stored ← enqueueOutbox intent
    pure (.returned stored)
  | .returned intent => pure (.returned intent)

/-! ## Any number of calls and workers -/

/-- The outbox with its workers, and any number of requesters. -/
structure ReportSystem where
  outbox : OutboxSystem
  requests : Nat → ReportRequester

def ReportSystem.quiet (s : Store) : ReportSystem where
  outbox := .quiet s
  requests _ := .idle

def ReportSystem.stored (sys : ReportSystem) (id : String) : Option OutboxIntent :=
  sys.outbox.store.outbox.get? id

inductive ReportLabel where
  /-- a worker, or somebody else who enqueues -/
  | outbox (l : OutboxLabel)
  | request (i : Nat) (call : ReportCall)
  | turn (i : Nat) (d : ReportDraws)
  /-- a call is cancelled, or its process ends -/
  | drop (i : Nat)

def ReportSystem.atRequest (sys : ReportSystem) (i : Nat) (r : Except PyExc ReportRequester × Store) :
    ReportSystem where
  outbox := sys.outbox.atStore r.2
  requests := Function.update sys.requests i (goto .idle r.1)

def ReportSystem.after (sys : ReportSystem) : ReportLabel → ReportSystem
  | .outbox l => { sys with outbox := sys.outbox.after p l }
  | .request i call => sys.atRequest i (requestReport p call sys.outbox.store)
  | .turn i d => sys.atRequest i ((sys.requests i).next p policy d sys.outbox.store)
  | .drop i => { sys with requests := Function.update sys.requests i .idle }

/-- The id drawn for a new intent is new. -/
def ReportLabel.Allowed (sys : ReportSystem) : ReportLabel → Prop
  | .outbox l => l.Allowed sys.outbox
  | .request _ call => sys.stored call.outboxId = none
  | .turn _ _ | .drop _ => True

def reportStep (sys : ReportSystem) (l : ReportLabel) (t : ReportSystem) : Prop :=
  l.Allowed sys ∧ t = sys.after p policy l

/-- A delivered report is not set back to pending by a request. -/
def KeepsDelivered (sys : ReportSystem) : ReportLabel → ReportSystem → Prop
  | .request _ _, t | .turn _ _, t => ∀ id before after, sys.stored id = some before →
      before.Delivered → t.stored id = some after → after.status ≠ .pending
  | .outbox _, _ | .drop _, _ => True

/-- A call is about to reopen a report that was claimed again, and delivered, since the call was
given its version. -/
def Overtaken (sys : ReportSystem) : ReportLabel → Prop
  | .turn i d => ∃ case intent retry current, sys.requests i = .deciding case intent ∧
      reportRetry p policy d case intent = .ok (some retry) ∧
      sys.stored intent.outboxId = some current ∧ current.Delivered ∧
      current.claimToken ≠ intent.claimToken
  | _ => False

end Requests

/-! ## Suppressed versions -/

/-- The stored record, as long as it is under the claim of `snapshot`, is neither claimed nor
delivered. -/
def SettledReport (s : Store) (snapshot : OutboxIntent) : Prop :=
  ∀ current, s.outbox.get? snapshot.outboxId = some current →
    current.claimToken = snapshot.claimToken → current.status ≠ .inProgress ∧ ¬ current.Delivered

/-- The version that a call still holds. -/
def ReportRequester.snapshot? : ReportRequester → Option OutboxIntent
  | .deciding _ intent | .again intent => some intent
  | .idle | .returned _ => none

/-- Every copy of a requester is a version the outbox had. -/
structure Snapshots (sys : ReportSystem) : Prop where
  rows : ∀ r ∈ sys.outbox.store.outbox.rows, r ∈ sys.outbox.seen
  held : ∀ i, ∀ snapshot ∈ (sys.requests i).snapshot?, snapshot ∈ sys.outbox.seen
  settled : ∀ i, ∀ snapshot ∈ (sys.requests i).snapshot?, snapshot.Suppressed →
    SettledReport sys.outbox.store snapshot
  again : ∀ i intent, sys.requests i = .again intent → intent.Suppressed

theorem OutboxIntent.Suppressed.not_delivered {intent : OutboxIntent} (h : intent.Suppressed) :
    ¬ intent.Delivered := by
  intro hdelivered
  have hmark := h.2
  rw [hdelivered.2] at hmark
  cases hmark

theorem OutboxIntent.Delivered.not_pending {intent : OutboxIntent} (h : intent.Delivered) :
    intent.status ≠ .pending := by
  rw [h.1]
  exact fun h => by cases h

theorem has_of_isStr {d : JsonDict} {k text : String} (h : (d.get k).isStr text = true) :
    d.has k = true := by
  unfold JsonDict.get at h
  unfold JsonDict.has
  cases hlookup : d.lookup k with
  | none =>
    rw [hlookup] at h
    cases h
  | some _ => rfl

section Turns

variable {p : OutboxProcessor} {policy : CasePolicy} {s t : Store}

theorem reportRetry_some {d : ReportDraws} {case : AtomicCaseProjection}
    {intent retry : OutboxIntent} (h : reportRetry p policy d case intent = .ok (some retry)) :
    intent.Suppressed ∧ retry.outboxId = intent.outboxId ∧ retry.status = .pending := by
  unfold reportRetry at h
  dsimp only at h
  split at h
  · cases h
  rename_i hstatus
  rw [not_not] at hstatus
  split at h
  · rename_i hmarker
    split at h
    · cases h
    · cases h
      exact ⟨⟨hstatus, has_of_isStr hmarker⟩, rfl, rfl⟩
    · cases h
  split at h
  · rename_i hmarker
    cases h
    exact ⟨⟨hstatus, has_of_isStr hmarker.1⟩, rfl, rfl⟩
  · cases h

theorem settled_of_get? {snapshot : OutboxIntent}
    (h : s.outbox.get? snapshot.outboxId = some snapshot) (hsuppressed : snapshot.Suppressed) :
    SettledReport s snapshot := by
  intro current hcurrent _
  cases h.symm.trans hcurrent
  refine ⟨?_, hsuppressed.not_delivered⟩
  rw [hsuppressed.1]
  exact fun h => by cases h

theorem SettledReport.unchanged {snapshot : OutboxIntent} (h : SettledReport s snapshot)
    (ht : t.outbox = s.outbox) : SettledReport t snapshot := by
  unfold SettledReport
  rw [ht]
  exact h

/-- A version is written over the record. -/
theorem SettledReport.put {snapshot r : OutboxIntent} (h : SettledReport s snapshot)
    (ht : t.outbox = s.outbox.put r)
    (hr : r.outboxId = snapshot.outboxId → r.claimToken = snapshot.claimToken →
      r.status ≠ .inProgress ∧ ¬ r.Delivered) : SettledReport t snapshot := by
  intro current hcurrent htoken
  rw [ht, Table.get?_put] at hcurrent
  split at hcurrent
  · rename_i hid
    cases hcurrent
    exact hr hid htoken
  · exact h current hcurrent htoken

theorem SettledReport.put_pending {snapshot r : OutboxIntent} (h : SettledReport s snapshot)
    (ht : t.outbox = s.outbox.put r) (hpending : r.status = .pending) : SettledReport t snapshot := by
  refine h.put ht fun _ _ => ⟨?_, fun hdelivered => ?_⟩
  · rw [hpending]
    exact fun h => by cases h
  · have hstatus := hdelivered.1
    rw [hpending] at hstatus
    cases hstatus

/-- **A worker does not touch a record that is settled, but to claim it.** -/
theorem SettledReport.turn {d : OutboxDraws} {w w' : OutboxWorker} {snapshot : OutboxIntent}
    (h : SettledReport s snapshot) (hturn : OutboxTurn p d s w w' t)
    (hfresh : snapshot.claimToken ≠ d.token) : SettledReport t snapshot := by
  cases hturn with
  | halt | kept | listed | chosen | skipped | lost => exact h
  | requeued _ _ _ _ _ _ _ _ _ written => exact h.put_pending written rfl
  | claimed _ _ _ _ _ _ _ _ _ written =>
    exact h.put written fun _ htoken => absurd htoken.symm hfresh
  | finished claimed _ _ _ current done _ stored running token same written =>
    refine h.put written fun hid htoken => absurd running ?_
    -- the worker's token is the record's, and the record is not in progress under the snapshot's
    refine (h current ?_ ?_).1
    · rw [← hid, same.1]
      exact stored
    · rw [token, ← same.2.2]
      exact htoken

end Turns

/-! ## The turns of a call -/

section Calls

variable {p : OutboxProcessor} {policy : CasePolicy}

/-- What a turn of a call does to the store, and where it takes the call. -/
inductive RequestTurn (p : OutboxProcessor) (policy : CasePolicy) (d : ReportDraws) (s : Store) :
    ReportRequester → ReportRequester → Store → Prop where
  | rested (r r' : ReportRequester) (t : Store) (done : r'.snapshot? = none)
      (same : t.outbox = s.outbox) : RequestTurn p policy d s r r' t
  | reopened (case : AtomicCaseProjection) (intent retry current : OutboxIntent) (t : Store)
      (due : reportRetry p policy d case intent = .ok (some retry))
      (stored : s.outbox.get? intent.outboxId = some current)
      (status : current.status = .succeeded) (written : t.outbox = s.outbox.put retry) :
      RequestTurn p policy d s (.deciding case intent) (.returned retry) t
  | refused (case : AtomicCaseProjection) (intent retry : OutboxIntent)
      (due : reportRetry p policy d case intent = .ok (some retry)) :
      RequestTurn p policy d s (.deciding case intent) (.again intent) s
  | enqueued (intent : OutboxIntent) (r' : ReportRequester) (t : Store)
      (done : r'.snapshot? = none) (written : t.outbox = s.outbox.put intent) :
      RequestTurn p policy d s (.again intent) r' t

/-- What `enqueue_outbox` returns is stored. -/
theorem enqueueOutbox_stored (intent : OutboxIntent) (s : Store) :
    ∃ r t, enqueueOutbox intent s = (r, t) ∧
      (t.outbox = s.outbox ∨ t.outbox = s.outbox.put intent) ∧
      ∀ stored, r = .ok stored → t.outbox.get? stored.outboxId = some stored := by
  rcases enqueueOutbox_cases intent s with
    ⟨_, existing, -, hexisting, hrun⟩ | ⟨_, -, -, hrun⟩ | ⟨-, hrun⟩
  · refine ⟨_, _, hrun, Or.inl rfl, fun stored hstored => ?_⟩
    cases hstored
    exact Table.get?_key hexisting
  · exact ⟨_, _, hrun, Or.inl rfl, fun stored hstored => by cases hstored⟩
  · refine ⟨_, _, hrun, Or.inr rfl, fun stored hstored => ?_⟩
    cases hstored
    exact (Table.get?_put ..).trans (if_pos rfl)

theorem next_request (d : ReportDraws) (r : ReportRequester) (s : Store) :
    RequestTurn p policy d s r (goto .idle (r.next p policy d s).1) (r.next p policy d s).2 := by
  cases r with
  | idle => exact .rested _ _ _ rfl rfl
  | returned intent => exact .rested _ _ _ rfl rfl
  | deciding case intent =>
    simp only [ReportRequester.next]
    cases hdue : reportRetry p policy d case intent with
    | error e => exact .rested _ _ _ rfl rfl
    | ok retry =>
      cases retry with
      | none => exact .rested _ _ _ rfl rfl
      | some retry =>
        obtain ⟨-, hid, -⟩ := reportRetry_some hdue
        simp only []
        rcases updateOutboxIfStatus_run retry .succeeded none s with
          hrun | ⟨current, hget, hmatch, hrun⟩
        · rw [bind_ok hrun]
          exact .refused case intent retry hdue
        · rw [bind_ok hrun]
          exact .reopened case intent retry current _ hdue (hid ▸ hget) hmatch.1 rfl
  | again intent =>
    simp only [ReportRequester.next]
    obtain ⟨stored, t, hrun, hwritten, -⟩ := enqueueOutbox_stored intent s
    cases stored with
    | error e =>
      rw [bind_error hrun]
      rcases hwritten with hsame | hput
      · exact .rested _ _ _ rfl hsame
      · exact .enqueued intent _ _ rfl hput
    | ok stored =>
      rw [bind_ok hrun]
      rcases hwritten with hsame | hput
      · exact .rested _ _ _ rfl hsame
      · exact .enqueued intent _ _ rfl hput

section RequestTurn

variable {d : ReportDraws} {s t : Store} {r r' : ReportRequester}

theorem RequestTurn.keeps (h : RequestTurn p policy d s r r' t)
    (hagain : ∀ intent, r = .again intent → intent.Suppressed) {snapshot : OutboxIntent}
    (hs : SettledReport s snapshot) : SettledReport t snapshot := by
  cases h with
  | rested _ _ _ _ same => exact hs.unchanged same
  | reopened _ _ _ _ _ due _ _ written =>
    exact hs.put_pending written (reportRetry_some due).2.2
  | refused => exact hs
  | enqueued intent _ _ _ written =>
    refine hs.put written fun _ _ => ⟨?_, (hagain intent rfl).not_delivered⟩
    rw [(hagain intent rfl).1]
    exact fun h => by cases h

theorem RequestTurn.held (h : RequestTurn p policy d s r r' t) {snapshot : OutboxIntent}
    (hs : snapshot ∈ r'.snapshot?) : snapshot ∈ r.snapshot? := by
  cases h with
  | rested _ _ _ done | enqueued _ _ _ done =>
    rw [done] at hs
    cases hs
  | reopened => cases hs
  | refused => exact hs

theorem RequestTurn.again (h : RequestTurn p policy d s r r' t) {intent : OutboxIntent}
    (ha : r' = .again intent) : intent.Suppressed := by
  subst ha
  cases h with
  | rested _ _ _ done | enqueued _ _ _ done => cases done
  | refused _ _ _ due => exact (reportRetry_some due).1

/-- A turn that sets a delivered report back to pending writes the copy it has decided on. -/
theorem RequestTurn.sets_back (h : RequestTurn p policy d s r r' t)
    (hagain : ∀ intent, r = .again intent → intent.Suppressed) {id : String}
    {before after : OutboxIntent} (hbefore : s.outbox.get? id = some before)
    (hdelivered : before.Delivered) (hafter : t.outbox.get? id = some after)
    (hpending : after.status = .pending) :
    ∃ case intent retry, r = .deciding case intent ∧
      reportRetry p policy d case intent = .ok (some retry) ∧ intent.outboxId = id := by
  have hkept : ∀ s' : Store, s'.outbox = s.outbox → s'.outbox.get? id = some after → False := by
    intro s' hs' hafter
    rw [hs', hbefore] at hafter
    cases hafter
    exact hdelivered.not_pending hpending
  cases h with
  | rested _ _ _ _ same => exact (hkept t same hafter).elim
  | refused => exact (hkept s rfl hafter).elim
  | reopened case intent retry _ _ due _ _ written =>
    refine ⟨case, intent, retry, rfl, due, ?_⟩
    rw [written, Table.get?_put] at hafter
    split at hafter
    · rename_i hid
      exact (reportRetry_some due).2.1.symm.trans hid
    · exact (hkept s rfl hafter).elim
  | enqueued intent _ _ _ written =>
    rw [written, Table.get?_put] at hafter
    split at hafter
    · cases hafter
      rw [(hagain after rfl).1] at hpending
      cases hpending
    · exact (hkept s rfl hafter).elim

end RequestTurn

/-! ## What every run keeps -/

variable {sys t : ReportSystem}

theorem SettledReport.outbox {l : OutboxLabel} {out : OutboxSystem} {snapshot : OutboxIntent}
    (h : SettledReport out.store snapshot) (hseen : snapshot ∈ out.seen) (hallowed : l.Allowed out) :
    SettledReport (out.after p l).store snapshot := by
  cases l with
  | processPending | processIntent | stop => exact h
  | work i d => exact h.turn (next_turn p d (out.workers i) out.store) (hallowed.2 snapshot hseen)
  | enqueue intent =>
    change SettledReport (enqueueOutbox intent out.store).2 snapshot
    rcases enqueueOutbox_outbox intent out.store with ht | ht
    · exact h.unchanged ht
    · exact h.put_pending ht hallowed.2.1
  | elsewhere s => exact h.unchanged hallowed

/-- Versions are only added. -/
theorem seen_after (l : OutboxLabel) (out : OutboxSystem) {r : OutboxIntent} (hr : r ∈ out.seen) :
    r ∈ (out.after p l).seen := by
  cases l with
  | processPending | processIntent | stop => exact hr
  | work | enqueue | elsewhere => exact List.mem_append_right _ hr

theorem rows_after (l : OutboxLabel) (out : OutboxSystem)
    (h : ∀ r ∈ out.store.outbox.rows, r ∈ out.seen) :
    ∀ r ∈ (out.after p l).store.outbox.rows, r ∈ (out.after p l).seen := by
  cases l with
  | processPending | processIntent | stop => exact h
  | work | enqueue | elsewhere => exact fun r hr => List.mem_append_left _ hr

/-- A call moves. -/
theorem Snapshots.atRequest (h : Snapshots sys) (i : Nat) {r : Except PyExc ReportRequester × Store}
    (hkeep : ∀ snapshot, SettledReport sys.outbox.store snapshot → SettledReport r.2 snapshot)
    (hheld : ∀ snapshot ∈ (goto .idle r.1).snapshot?,
      snapshot ∈ r.2.outbox.rows ∨ snapshot ∈ sys.outbox.seen)
    (hsettled : ∀ snapshot ∈ (goto .idle r.1).snapshot?, snapshot.Suppressed → SettledReport r.2 snapshot)
    (hagain : ∀ intent, goto .idle r.1 = .again intent → intent.Suppressed) :
    Snapshots (sys.atRequest i r) := by
  refine ⟨fun r hr => List.mem_append_left _ hr, fun j snapshot hj => ?_, fun j snapshot hj => ?_,
    fun j intent hj => ?_⟩
  all_goals
    simp only [ReportSystem.atRequest, Function.update_apply] at hj
    split at hj
  · exact List.mem_append.2 (hheld snapshot hj)
  · exact List.mem_append_right _ (h.held j snapshot hj)
  · exact hsettled snapshot hj
  · exact fun hsuppressed => hkeep snapshot (h.settled j snapshot hj hsuppressed)
  · exact hagain intent hj
  · exact h.again j intent hj

theorem Snapshots.turn (h : Snapshots sys) (i : Nat) (d : ReportDraws) :
    Snapshots (sys.after p policy (.turn i d)) := by
  have hturn : RequestTurn p policy d sys.outbox.store (sys.requests i) _ _ := next_request d _ _
  have hkeep : ∀ snapshot, SettledReport sys.outbox.store snapshot → SettledReport _ snapshot :=
    fun snapshot hs => hturn.keeps (h.again i) hs
  refine h.atRequest i hkeep (fun snapshot hs => ?_) (fun snapshot hs hsuppressed => ?_)
    fun intent ha => hturn.again ha
  · exact Or.inr (h.held i snapshot (hturn.held hs))
  · exact hkeep snapshot (h.settled i snapshot (hturn.held hs) hsuppressed)

theorem Snapshots.request (h : Snapshots sys) (i : Nat) (call : ReportCall) :
    Snapshots (sys.after p policy (.request i call)) := by
  obtain ⟨r, t, hrun, hwritten, hstored⟩ :=
    enqueueOutbox_stored (reportIntent p call) sys.outbox.store
  change Snapshots (sys.atRequest i (requestReport p call sys.outbox.store))
  unfold requestReport
  have hkeep : ∀ snapshot, SettledReport sys.outbox.store snapshot → SettledReport t snapshot := by
    intro snapshot hs
    rcases hwritten with hsame | hput
    · exact hs.unchanged hsame
    · exact hs.put_pending hput rfl
  cases r with
  | error e =>
    rw [bind_error hrun]
    refine h.atRequest i hkeep (fun _ hs => ?_) (fun _ hs => ?_) fun _ ha => ?_
    · cases hs
    · cases hs
    · cases ha
  | ok stored =>
    rw [bind_ok hrun]
    have hget := hstored stored rfl
    refine h.atRequest i hkeep (fun _ hs => ?_) (fun _ hs hsuppressed => ?_) fun _ ha => ?_
    · cases hs
      exact Or.inl (Table.mem_of_get? hget)
    · cases hs
      exact settled_of_get? hget hsuppressed
    · cases ha

theorem Snapshots.step (h : Snapshots sys) {l : ReportLabel}
    (hstep : reportStep p policy sys l t) : Snapshots t := by
  obtain ⟨hallowed, rfl⟩ := hstep
  cases l with
  | outbox l =>
    refine ⟨rows_after l sys.outbox h.rows, fun i snapshot hi => ?_, fun i snapshot hi hs => ?_,
      h.again⟩
    · exact seen_after l sys.outbox (h.held i snapshot hi)
    · exact (h.settled i snapshot hi hs).outbox (h.held i snapshot hi) hallowed
  | request i call => exact h.request i call
  | turn i d => exact h.turn i d
  | drop i =>
    have hrest : ∀ j, Function.update sys.requests i .idle j = .idle ∨
        Function.update sys.requests i .idle j = sys.requests j := by
      intro j
      rw [Function.update_apply]
      split
      · exact Or.inl rfl
      · exact Or.inr rfl
    refine ⟨h.rows, fun j snapshot hj => ?_, fun j snapshot hj => ?_, fun j intent hj => ?_⟩
    all_goals
      simp only [ReportSystem.after] at hj
      rcases hrest j with hidle | hsame
      · rw [hidle] at hj
        cases hj
      rw [hsame] at hj
    · exact h.held j snapshot hj
    · exact h.settled j snapshot hj
    · exact h.again j intent hj

theorem snapshots_quiet (s : Store) : Snapshots (.quiet s) := by
  refine ⟨fun r hr => hr, fun _ _ h => ?_, fun _ _ h => ?_, fun _ _ h => ?_⟩
  · cases h
  · cases h
  · cases h

/-! ## Which requests reopen a delivered report -/

theorem next_reopens {d : ReportDraws} {case : AtomicCaseProjection}
    {intent retry current : OutboxIntent} {s : Store}
    (hdue : reportRetry p policy d case intent = .ok (some retry))
    (hget : s.outbox.get? intent.outboxId = some current) (hstatus : current.status = .succeeded) :
    ((ReportRequester.deciding case intent).next p policy d s).2.outbox = s.outbox.put retry := by
  obtain ⟨-, hid, -⟩ := reportRetry_some hdue
  have hmatch : current.Matches .succeeded none := ⟨hstatus, fun _ h => by cases h⟩
  simp only [ReportRequester.next, hdue]
  rw [bind_ok (updateOutboxIfStatus_matches (hid ▸ hget) hmatch)]
  rfl

/-- A turn sets a delivered report back exactly if it is taken from an overtaken version. -/
theorem keepsDelivered_iff (h : Snapshots sys) {l : ReportLabel}
    (hstep : reportStep p policy sys l t) :
    KeepsDelivered sys l t ↔ ¬ Overtaken p policy sys l := by
  obtain ⟨hallowed, rfl⟩ := hstep
  cases l with
  | outbox | drop => exact iff_of_true trivial not_false
  | request i call =>
    refine iff_of_true (fun id before after hbefore hdelivered hafter => ?_) not_false
    obtain ⟨r, s, hrun, hwritten, -⟩ := enqueueOutbox_stored (reportIntent p call) sys.outbox.store
    have hstore : (sys.after p policy (.request i call)).outbox.store = s := by
      change (requestReport p call sys.outbox.store).2 = s
      unfold requestReport
      cases r with
      | error e => rw [bind_error hrun]
      | ok stored => rw [bind_ok hrun]; rfl
    have hsame : s.outbox.get? id = some before := by
      rcases hwritten with hsame | hput
      · rw [hsame]
        exact hbefore
      · rw [hput, Table.get?_put_of_ne _ fun hid => ?_]
        · exact hbefore
        · have hnew : sys.stored call.outboxId = none := hallowed
          rw [show call.outboxId = id from hid, hbefore] at hnew
          cases hnew
    unfold ReportSystem.stored at hafter
    rw [hstore, hsame] at hafter
    cases hafter
    exact hdelivered.not_pending
  | turn i d =>
    have hturn : RequestTurn p policy d sys.outbox.store (sys.requests i) _ _ := next_request d _ _
    constructor
    · rintro hkeeps ⟨case, intent, retry, current, hcall, hdue, hget, hdelivered, -⟩
      have hput : (sys.after p policy (.turn i d)).outbox.store.outbox =
          sys.outbox.store.outbox.put retry := by
        change ((sys.requests i).next p policy d sys.outbox.store).2.outbox = _
        rw [hcall]
        exact next_reopens hdue hget hdelivered.1
      obtain ⟨-, hid, hpending⟩ := reportRetry_some hdue
      refine hkeeps intent.outboxId current retry hget hdelivered ?_ hpending
      unfold ReportSystem.stored
      rw [hput, Table.get?_put, if_pos hid]
    · intro hcurrent id before after hbefore hdelivered hafter hpending
      refine hcurrent ?_
      obtain ⟨case, intent, retry, hcall, hdue, hid⟩ :=
        hturn.sets_back (h.again i) hbefore hdelivered hafter hpending
      have hsuppressed := (reportRetry_some hdue).1
      have hsettled := h.settled i intent (by rw [hcall]; rfl) hsuppressed
      refine ⟨case, intent, retry, before, hcall, hdue, hid ▸ hbefore, hdelivered, fun htoken => ?_⟩
      exact (hsettled before (hid ▸ hbefore) htoken).2 hdelivered

/-- **Whatever the interleaving, no request reopens a delivered report exactly as long as no call
reopens a record that was delivered under a later claim than its version.** -/
theorem keepsDelivered_run_iff {start : Store} {ls : List ReportLabel} :
    Run (Guarded (reportStep p policy) fun sys l => ¬ Overtaken p policy sys l)
        (.quiet start) ls t ↔
      Run (Doing (reportStep p policy) KeepsDelivered) (.quiet start) ls t := by
  refine Run.guarded_iff_doing_under (J := Snapshots) (fun sys l t h hstep => ?_)
    (fun sys l t h hstep => ?_) (snapshots_quiet start)
  · exact h.step hstep
  · exact keepsDelivered_iff h hstep

end Calls

/-! ## Two calls with one suppressed version -/

def quietReport (outboxId : String) : ReportCall where
  case := {
    caseId := "case_1"
    openedAt := "2026-01-01T00:00:00+00:00"
    updatedAt := "2026-01-01T00:00:00+00:00" }
  stateSignature := some "high"
  outboxId := outboxId
  nextAttemptAt := "2026-01-01T00:00:00+00:00"
  createdAt := "2026-01-01T00:00:00+00:00"

def quietDraws : ReportDraws where
  now := 1767226800000000
  nextAttemptAt := "2026-01-01T00:20:00+00:00"
  enabled := false
  verbosity := 20

/-- A worker's pass over the one intent: two lists, the claim, the handler's result, the end. -/
def deliverOnce (now : Int) (token : String) (updates : JsonDict) : List ReportLabel :=
  .outbox (.processPending 0 10 now) ::
    ([token, token, token, "unused", "unused"].map fun token =>
      .outbox (.work 0 ⟨now, token, .returned (some { payloadUpdates := updates })⟩))

/-- At 00:10 the report is suppressed under a verbosity of 30.  Calls 0 and 1 are given that
version; call 0 reopens it under a verbosity of 20, and at 00:30 it is delivered. -/
def overtakenCalls : List ReportLabel :=
  .request 0 (quietReport "out_1") ::
    deliverOnce 1767226200000000 "a"
      [("notification_suppressed", .str "verbosity"), ("notification_level", .int 20)] ++
    [.request 0 (quietReport "out_2"), .request 1 (quietReport "out_3"), .turn 0 quietDraws] ++
    deliverOnce 1767227400000000 "b" [("state_signature", .str "high")]

def overtakenSystem : ReportSystem :=
  overtakenCalls.foldl (ReportSystem.after reportProcessor {}) (.quiet {})

def ReportLabel.Scheduled (sys : ReportSystem) : ReportLabel → Prop
  | .outbox l => l.Scheduled sys.outbox
  | .request _ call => sys.stored call.outboxId = none
  | .turn _ _ | .drop _ => True

instance ReportLabel.decidableScheduled (sys : ReportSystem) (l : ReportLabel) :
    Decidable (l.Scheduled sys) := by
  unfold ReportLabel.Scheduled
  cases l <;> infer_instance

theorem ReportLabel.Scheduled.allowed {sys : ReportSystem} {l : ReportLabel}
    (h : l.Scheduled sys) : l.Allowed sys := by
  cases l with
  | outbox l => exact OutboxLabel.Scheduled.allowed h
  | _ => exact h

theorem run_overtakenSystem :
    Run (reportStep reportProcessor {}) (.quiet {}) overtakenCalls overtakenSystem :=
  (Run.of_valid (p := ReportLabel.Scheduled) (by decide +kernel)).carry (I := fun _ => True)
    (fun _ _ _ _ h => ⟨trivial, h.1.allowed, h.2⟩) trivial

/-- Call 1 sets the delivered report back to pending. -/
theorem not_keepsDelivered_overtaken :
    Run (reportStep reportProcessor {}) (.quiet {}) overtakenCalls overtakenSystem ∧
      ∃ t, reportStep reportProcessor {} overtakenSystem (.turn 1 quietDraws) t ∧
        ¬ KeepsDelivered overtakenSystem (.turn 1 quietDraws) t := by
  refine ⟨run_overtakenSystem, _, ⟨trivial, rfl⟩, fun hkeeps => ?_⟩
  have hdelivered : ∃ before ∈ overtakenSystem.stored "out_1", before.Delivered := by decide +kernel
  have hpending : ∃ after ∈ (overtakenSystem.after reportProcessor {} (.turn 1 quietDraws)).stored
      "out_1", after.status = .pending := by decide +kernel
  obtain ⟨before, hbefore, hdelivered⟩ := hdelivered
  obtain ⟨after, hafter, hpending⟩ := hpending
  exact hkeeps "out_1" before after hbefore hdelivered hafter hpending

end NocAgent.Cases
