import NocAgent.Cases.AttentionLease

/-!
# Attention policy and delivery

* `attentionDue` — what attention a case needs after its last delivery.
* `shouldRemind`, `bridged` — the reminder policy that attention replaces, and the delivery times
  it borrows from attention.
* `AttentionWorker.next` — both handlers, cut at every access to the store and at the send.
* `attentionStep` — any number of handlers, under a clock that does not go back.
-/

set_option autoImplicit false

namespace NocAgent.Cases

open Effects Effects.Action Keyed Lts

/-! ## Policy -/

inductive AttentionKind where
  | new
  | recurrence
  | escalation
  | recovery
  | reminder
  deriving DecidableEq, Repr

def AttentionKind.text : AttentionKind → String
  | .new => "new"
  | .recurrence => "recurrence"
  | .escalation => "escalation"
  | .recovery => "recovery"
  | .reminder => "reminder"

/-- What an attention intent asks to deliver. -/
structure AttentionRequest where
  kind : AttentionKind
  generation : Nat
  phase : AttentionPhase
  severity : Severity
  expectedSequence : Nat
  idempotencyKey : String
  deriving DecidableEq, Repr

/-- `_future`. -/
def isFuture (py : Python) (value : String) (now : Int) : Bool :=
  if value = "" then false
  else
    match py.parseIso value with
    | none => false
    | some stamp => now < stamp

def hours6 : Int := 21600000000

/-- Why the case needs attention now, in a phase. -/
def attentionKind (case : AtomicCaseProjection) (previous : Option AttentionDelivery)
    (phase : AttentionPhase) (now reminderSeconds : Int) : Option AttentionKind :=
  match phase with
  | .recovered =>
    if case.resolutionReason ≠ "positive_clean_observation" then none
    else
      match previous with
      | none => none
      | some previous => if previous.phase = .firing then some .recovery else none
  | .firing =>
    if case.acknowledgedAt ≠ "" ∨ case.acknowledgedBy ≠ "" then none
    else
      match previous with
      | none => some .new
      | some previous =>
        if previous.phase = .recovered then some .recurrence
        else if SEVERITY_RANK previous.severity < SEVERITY_RANK case.severity then some .escalation
        else if case.reportGeneration ≠ previous.generation then some .recurrence
        else if case.severity = .high ∧
            max hours6 (reminderSeconds * 1000000) ≤ now - previous.deliveredAt then some .reminder
        else none

/-- Recovery is announced at the severity of the notification it closes. -/
def attentionSeverity (case : AtomicCaseProjection) (previous : Option AttentionDelivery)
    (kind : AttentionKind) : Severity :=
  match kind, previous with
  | .recovery, some previous => previous.severity
  | _, _ => case.severity

def attentionDue (py : Python) (case : AtomicCaseProjection) (previous : Option AttentionDelivery)
    (now reminderSeconds : Int) : Except PyExc (Option AttentionRequest) :=
  if ∃ d ∈ previous, d.caseId ≠ case.caseId then .error .valueError
  else if case.status ∈ [.closed, .expired, .linked, .recoveredPending] then .ok none
  else if case.coveredByMetaCase = true ∧ case.independentActionRequired = false then .ok none
  else if isFuture py case.suppressedUntil now = true ∨ isFuture py case.snoozedUntil now = true then
    .ok none
  else
    let phase : AttentionPhase := if case.status = .resolved then .recovered else .firing
    match attentionKind case previous phase now reminderSeconds with
    | none => .ok none
    | some kind =>
      let sequence := (previous.map AttentionDelivery.sequence).getD 0
      let severity := attentionSeverity case previous kind
      .ok (some {
        kind := kind
        generation := case.reportGeneration
        phase := phase
        severity := severity
        expectedSequence := sequence
        idempotencyKey := "attention:" ++ case.caseId ++ ":" ++ toString case.reportGeneration ++
          ":" ++ phase.text ++ ":" ++ severity.text ++ ":" ++ toString sequence ++ ":" ++ kind.text })

/-- `identity.get("source") in {"alertmanager", "icinga2"}`. -/
def AtomicCaseProjection.owned (case : AtomicCaseProjection) : Bool :=
  (case.identity.get "source").isStr "alertmanager" || (case.identity.get "source").isStr "icinga2"

def reportStateSignature (py : Python) (case : AtomicCaseProjection) : String :=
  takeChars 16 (py.sha256 (py.stableJson (.dict
    [("case_id", .str case.caseId), ("report_generation", .int case.reportGeneration),
      ("status", .str case.status.text), ("severity", .str case.severity.text),
      ("signal_signature", .str case.signalSignature),
      ("resolution_reason", .str case.resolutionReason), ("issue_url", .str case.issueUrl)])))

/-- The last part of `legacy_reminder_projection`: the case with the time of its last attention. -/
def bridged (py : Python) (case : AtomicCaseProjection) (attention : Option AttentionDelivery) :
    Except PyExc AtomicCaseProjection :=
  match parseIsoTime py case.lastReportedAt with
  | .error e => .error e
  | .ok reported =>
    match attention with
    | none => .ok case
    | some attention =>
      if ∀ t ∈ reported, t < attention.deliveredAt then
        .ok { case with lastReportedAt := py.isoformat attention.deliveredAt }
      else .ok case

/-- `deadline is not None and deadline > now`. -/
def deadlineAhead (py : Python) (value : String) (now : Int) : Except PyExc Bool :=
  match parseIsoTime py value with
  | .error e => .error e
  | .ok none => .ok false
  | .ok (some deadline) => .ok (now < deadline)

/-- `enabled` is `attention_enabled()`. -/
def shouldRemind (py : Python) (policy : CasePolicy) (enabled : Bool) (case : AtomicCaseProjection)
    (now : Int) : Except PyExc Bool :=
  if enabled = true ∧ case.owned = true then .ok false
  else if case.severity ≠ .high ∨ case.acknowledgedAt ≠ "" ∨ case.acknowledgedBy ≠ "" then .ok false
  else if case.status ∈ [.resolved, .closed, .expired, .linked, .recoveredPending] then .ok false
  else if case.coveredByMetaCase = true ∧ case.independentActionRequired = false then .ok false
  else
    match deadlineAhead py case.suppressedUntil now with
    | .error e => .error e
    | .ok true => .ok false
    | .ok false =>
      match deadlineAhead py case.snoozedUntil now with
      | .error e => .error e
      | .ok true => .ok false
      | .ok false =>
        if case.lastReportedSignature ≠ reportStateSignature py case then .ok false
        else
          match parseIsoTime py case.lastReportedAt with
          | .error e => .error e
          | .ok none => .ok false
          | .ok (some last) => .ok (max hours6 (policy.reportReassertS * 1000000) ≤ now - last)

def Store.hasPendingAttention (s : Store) (caseId : String) : Bool :=
  s.outbox.rows.any fun item => decide (item.caseId = some caseId ∧ item.intentType = .report ∧
    item.status ∈ [.pending, .failed, .inProgress] ∧ item.payload.has "attention_request" = true)

/-! ## Delivery -/

/-- What the transport makes of a card. -/
inductive NotifierOutcome where
  | raised (error : String)
  /-- `False` -/
  | refused
  /-- `True`, or `None` from a custom callback -/
  | delivered
  /-- `CardDeliveryOutcome.SUPERSEDED` -/
  | superseded
  /-- `SupersededCardDelivery(verified_at)` -/
  | receipt (verifiedAt : Int)

/-- What the delivery of attention is set up with. -/
structure AttentionSettings where
  py : Python
  policy : CasePolicy
  /-- `_case_url` -/
  caseUrl : AtomicCaseProjection → String := fun _ => ""
  /-- `AttentionRequest.model_validate` -/
  validate : Json → Except PyExc AttentionRequest

/-- What a turn of a handler draws.  `failed`: the access raises, or the deadline passes. -/
structure AttentionDraws where
  token : String
  eventId : String := ""
  enabled : Bool := true
  verbosity : Nat := 20
  notifier : NotifierOutcome := .delivered
  failed : Bool := false

/-- `attention_level`. -/
def attentionLevel (severity : Severity) : Nat :=
  match severity with
  | .high => 40
  | .medium => 30
  | .low | .unknown => 20

/-- What `build_attention_sender` makes of the transport's answer: whether the notification was
delivered, and when. -/
def attentionSent (kind : AttentionKind) (outcome : NotifierOutcome) (now : Int) : Option Int :=
  match outcome with
  | .delivered => some now
  | .receipt verifiedAt => if kind = .new then some verifiedAt else none
  | .raised _ | .refused | .superseded => none

def suppressed (reason : String) : HandlerOutcome :=
  .returned (some { payloadUpdates := [("notification_suppressed", .str reason)] })

def failedWith (error : String) : HandlerOutcome := .raised error

/-- Where a handler stands between two accesses to the store, with its local variables.  The first
seven places are those of `build_attention_handler`, the next seven those of the leased report. -/
inductive AttentionWorker where
  | idle
  /-- before the `get_case` of the first `eligible` -/
  | checking (claimed : OutboxIntent) (request : AttentionRequest) (caseId : String)
  /-- before its `get_attention` -/
  | checked (claimed : OutboxIntent) (request : AttentionRequest) (case : AtomicCaseProjection)
  /-- before `claim_attention` -/
  | claiming (claimed : OutboxIntent) (request : AttentionRequest) (caseId : String)
  /-- before the `get_case` of the second `eligible` -/
  | rechecking (claimed : OutboxIntent) (request : AttentionRequest) (caseId lease : String)
  /-- before its `get_attention` -/
  | rechecked (claimed : OutboxIntent) (request : AttentionRequest) (case : AtomicCaseProjection)
      (lease : String)
  /-- before the sender returns -/
  | sending (claimed : OutboxIntent) (request : AttentionRequest) (case : AtomicCaseProjection)
      (lease : String)
  /-- before the `get_case` of `handle` -/
  | reporting (claimed : OutboxIntent) (caseId : String)
  /-- before its `get_attention` -/
  | reported (claimed : OutboxIntent) (caseId : String)
  /-- before `claim_attention` -/
  | leasing (claimed : OutboxIntent) (caseId : String) (sequence : Nat)
  /-- before the `get_case` of `deliver` -/
  | delivering (claimed : OutboxIntent) (caseId : String) (sequence : Nat) (lease : String)
  /-- before `has_pending_attention` -/
  | projecting (claimed : OutboxIntent) (case : AtomicCaseProjection) (sequence : Nat)
      (lease : String)
  /-- before the `get_attention` of `legacy_reminder_projection` -/
  | reminding (claimed : OutboxIntent) (case : AtomicCaseProjection) (sequence : Nat)
      (lease : String)
  /-- before the notifier returns -/
  | notifying (claimed : OutboxIntent) (case : AtomicCaseProjection) (sequence : Nat)
      (lease : String)
  /-- before `release_attention` -/
  | releasing (claimed : OutboxIntent) (caseId lease : String) (outcome : HandlerOutcome)
  /-- before the processor's write -/
  | completing (claimed : OutboxIntent) (outcome : HandlerOutcome)

/-- `intent.payload.get("reminder_since")` is truthy. -/
def OutboxIntent.reminds (claimed : OutboxIntent) : Bool :=
  (claimed.payload.get "reminder_since").truthy

section Handlers

variable (env : AttentionSettings)

/-- The handler is called.  A report that is neither an attention request nor a leased report
writes no delivery, and neither does an update of a card. -/
def AttentionWorker.enter (enabled : Bool) (claimed : OutboxIntent) : AttentionWorker :=
  if claimed.payload.has "attention_request" then
    match env.validate (claimed.payload.get "attention_request"), truthyId claimed.caseId with
    | .error _, _ => .completing claimed (failedWith "ValidationError")
    | .ok request, caseId =>
      if request.idempotencyKey ≠ claimed.idempotencyKey then
        .completing claimed (failedWith "ValueError: attention identity mismatch")
      else
        match caseId with
        | none => .completing claimed (failedWith "ValueError: attention requires a case")
        | some caseId => .checking claimed request caseId
  else
    match truthyId claimed.caseId with
    | none => .completing claimed (failedWith "ValueError: report intent requires case_id")
    | some caseId =>
      if claimed.reminds = false ∧
          (enabled = false ∨ (claimed.payload.get "card_update").dict?.isSome) then .idle
      else .reporting claimed caseId

/-- The end of `eligible`. -/
def stillDue (case : AtomicCaseProjection) (previous : Option AttentionDelivery)
    (request : AttentionRequest) (now : Int) : Except PyExc Bool :=
  match attentionDue env.py case previous now env.policy.reportReassertS with
  | .error e => .error e
  | .ok current => .ok (current = some request)

/-- The delivery of an attention request. -/
def AttentionRequest.delivery (request : AttentionRequest) (caseId : String) (deliveredAt : Int) :
    AttentionDelivery where
  caseId := caseId
  generation := request.generation
  phase := request.phase
  severity := request.severity
  deliveredAt := deliveredAt
  sequence := request.expectedSequence + 1
  sequence_pos := Nat.le_add_left 1 _

/-- The delivery of a leased report. -/
def reportDelivery (case : AtomicCaseProjection) (sequence : Nat) (now : Int) :
    AttentionDelivery where
  caseId := case.caseId
  generation := case.reportGeneration
  phase := .firing
  severity := case.severity
  deliveredAt := now
  sequence := sequence + 1
  sequence_pos := Nat.le_add_left 1 _

/-- The result of a leased report. -/
def reportResult (d : AttentionDraws) (claimed : OutboxIntent) (case : AtomicCaseProjection)
    (sequence : Nat) (lease : String) (now : Int) : OutboxHandlerResult :=
  let signature := orText claimed.stateSignature (reportStateSignature env.py case)
  { externalId := orText case.caseNumber case.caseId
    externalUrl := env.caseUrl case
    payloadUpdates := [("state_signature", .str signature), ("case_number", .str case.caseNumber)]
    attentionDelivery := some (reportDelivery case sequence now)
    attentionLeaseToken := lease
    reportEvent := some {
      eventId := d.eventId
      caseId := some case.caseId
      eventType := if case.lastReportedSignature ≠ "" ∧ case.lastReportedSignature = signature then
        "case_reasserted" else "case_reported"
      occurredAt := env.py.isoformat now
      policyVersion := env.policy.policyVersion
      payload := [("state_signature", .str signature)] } }

/-- A reminder is still due: the case has not been reported since, nor changed. -/
def reminderDue (enabled : Bool) (claimed : OutboxIntent) (case : AtomicCaseProjection) (now : Int) :
    Except PyExc Bool :=
  if (claimed.payload.get "reminder_since").isStr case.lastReportedAt = false ∨
      orText claimed.stateSignature (reportStateSignature env.py case) ≠
        reportStateSignature env.py case then .ok false
  else shouldRemind env.py env.policy enabled case now

/-- The processor that calls the handlers. -/
def AttentionSettings.processor : OutboxProcessor where
  py := env.py
  handles := fun _ => true

/-- One turn; `now` is the clock.  What raises under the lease releases it. -/
def AttentionWorker.next (d : AttentionDraws) (now : Int) : AttentionWorker → StoreM AttentionWorker
  | .idle => pure .idle
  | .checking claimed request caseId => peek fun s =>
    if d.failed then .completing claimed (failedWith "TimeoutError")
    else
      match s.atomicCase? caseId with
      | none => .completing claimed (failedWith "KeyError: attention case unavailable")
      | some case =>
        if case.owned then .checked claimed request case
        else .completing claimed (suppressed "attention_no_longer_due")
  | .checked claimed request case => peek fun s =>
    if d.failed then .completing claimed (failedWith "TimeoutError")
    else
      match stillDue env case (s.attention.get? case.caseId) request now with
      | .error _ => .completing claimed (failedWith "ValueError")
      | .ok true => .claiming claimed request case.caseId
      | .ok false => .completing claimed (suppressed "attention_no_longer_due")
  | .claiming claimed request caseId => fun s =>
    match claimAttention claimed request.expectedSequence 120 now d.token s with
    | (.ok (some lease), t) => (.ok (.rechecking claimed request caseId lease), t)
    | (_, t) => (.ok (.completing claimed
        (failedWith "RuntimeError: attention delivery already claimed or superseded")), t)
  | .rechecking claimed request caseId lease => peek fun s =>
    if d.failed then .releasing claimed caseId lease (failedWith "TimeoutError")
    else
      match s.atomicCase? caseId with
      | none => .releasing claimed caseId lease (failedWith "KeyError")
      | some case =>
        if case.owned then .rechecked claimed request case lease
        else .releasing claimed caseId lease (suppressed "attention_no_longer_due")
  | .rechecked claimed request case lease => peek fun s =>
    if d.failed then .releasing claimed case.caseId lease (failedWith "TimeoutError")
    else
      match stillDue env case (s.attention.get? case.caseId) request now with
      | .error _ => .releasing claimed case.caseId lease (failedWith "ValueError")
      | .ok true => .sending claimed request case lease
      | .ok false => .releasing claimed case.caseId lease (suppressed "attention_no_longer_due")
  | .sending claimed request case lease => peek fun _ =>
    if d.failed then .releasing claimed case.caseId lease (failedWith "TimeoutError")
    else if attentionLevel request.severity < d.verbosity then
      .releasing claimed case.caseId lease (suppressed "attention_verbosity")
    else
      match attentionSent request.kind d.notifier now with
      | none => .releasing claimed case.caseId lease
          (failedWith "RuntimeError: attention notification was not delivered")
      | some deliveredAt => .completing claimed (.returned (some {
          payloadUpdates := [("attention_delivered", .str request.kind.text)]
          attentionDelivery := some (request.delivery case.caseId deliveredAt)
          attentionLeaseToken := lease }))
  | .reporting claimed caseId => peek fun s =>
    match s.atomicCase? caseId with
    | none => .idle
    | some case => if case.owned then .reported claimed caseId else .idle
  | .reported claimed caseId => peek fun s =>
    match s.attention.get? caseId with
    | none => .leasing claimed caseId 0
    | some previous => if claimed.reminds then .leasing claimed caseId previous.sequence else .idle
  | .leasing claimed caseId sequence => fun s =>
    match claimAttention claimed sequence 120 now d.token s with
    | (.ok (some lease), t) => (.ok (.delivering claimed caseId sequence lease), t)
    | (_, t) => (.ok (.completing claimed
        (failedWith "RuntimeError: incident notification already claimed or superseded")), t)
  | .delivering claimed caseId sequence lease => peek fun s =>
    if d.failed then .releasing claimed caseId lease (failedWith "TimeoutError")
    else
      match s.atomicCase? caseId with
      | none => .releasing claimed caseId lease (failedWith "KeyError")
      | some case =>
        if claimed.reminds = false then .notifying claimed case sequence lease
        else if case.owned then .projecting claimed case sequence lease
        else
          match reminderDue env d.enabled claimed case now with
          | .error _ => .releasing claimed caseId lease (failedWith "OverflowError")
          | .ok true => .notifying claimed case sequence lease
          | .ok false => .releasing claimed caseId lease (suppressed "reminder_no_longer_due")
  | .projecting claimed case sequence lease => peek fun s =>
    if d.failed then .releasing claimed case.caseId lease (failedWith "TimeoutError")
    else if s.hasPendingAttention case.caseId then
      .releasing claimed case.caseId lease (suppressed "reminder_no_longer_due")
    else .reminding claimed case sequence lease
  | .reminding claimed case sequence lease => peek fun s =>
    if d.failed then .releasing claimed case.caseId lease (failedWith "TimeoutError")
    else
      match bridged env.py case (s.attention.get? case.caseId) with
      | .error _ => .releasing claimed case.caseId lease (failedWith "OverflowError")
      | .ok projection =>
        match reminderDue env d.enabled claimed projection now with
        | .error _ => .releasing claimed case.caseId lease (failedWith "OverflowError")
        | .ok true => .notifying claimed projection sequence lease
        | .ok false => .releasing claimed case.caseId lease (suppressed "reminder_no_longer_due")
  | .notifying claimed case sequence lease => peek fun _ =>
    if d.failed then .releasing claimed case.caseId lease (failedWith "TimeoutError")
    else if (claimed.payload.get "card_update").dict?.isSome then
      .releasing claimed case.caseId lease (.returned (some {
        payloadUpdates := [("card_update_delivered", .bool true)] }))
    else if attentionLevel case.severity < d.verbosity then
      .releasing claimed case.caseId lease (suppressed "verbosity")
    else
      match d.notifier with
      | .raised error => .releasing claimed case.caseId lease (failedWith error)
      | .superseded => .releasing claimed case.caseId lease (.returned (some {
          payloadUpdates := [("notification_superseded", .bool true)] }))
      | .refused => .releasing claimed case.caseId lease
          (failedWith "RuntimeError: Discord case notification was not delivered")
      | .delivered | .receipt _ =>
        .completing claimed (.returned (some (reportResult env d claimed case sequence lease now)))
  | .releasing claimed caseId lease outcome =>
    if d.failed then pure (.completing claimed outcome)
    else do
      releaseAttention caseId lease
      pure (.completing claimed outcome)
  | .completing claimed outcome => do
    let _ ← OutboxWorker.next env.processor ⟨now, d.token, outcome⟩ (.handling claimed [] {})
    pure .idle

/-- A handler that is idle stays idle. -/
theorem AttentionWorker.next_idle (d : AttentionDraws) (now : Int) (s : Store) :
    AttentionWorker.idle.next env d now s = (.ok .idle, s) := by
  simp only [AttentionWorker.next, pure_run]

/-! ## Any number of handlers -/

/-- The leases, and any number of workers that deliver attention. -/
structure AttentionSystem where
  leases : LeaseSystem
  workers : Nat → AttentionWorker

/-- No handler is running, and nothing was delivered yet. -/
def AttentionSystem.fresh (s : Store) (now : Int) : AttentionSystem where
  leases := .fresh s now
  workers _ := .idle

inductive AttentionLabel where
  | handle (i : Nat) (enabled : Bool) (claimed : OutboxIntent)
  | work (i : Nat) (d : AttentionDraws)
  /-- a handler is cancelled, or its process ends -/
  | stop (i : Nat)
  | tick (now : Int)
  /-- what others do to the store, which is nothing to its deliveries and leases -/
  | elsewhere (t : Store)

/-- What a turn does to the leases and the deliveries, where it ends in the store `t`. -/
def AttentionWorker.leaseLabel (d : AttentionDraws) (now : Int) (t : Store) :
    AttentionWorker → LeaseLabel
  | .claiming claimed request _ => .claim claimed request.expectedSequence 120 d.token
  | .leasing claimed _ sequence => .claim claimed sequence 120 d.token
  | .releasing _ caseId lease _ => if d.failed then .elsewhere t else .release caseId lease
  | .completing claimed (.returned (some result)) =>
    match result.attentionDelivery with
    | none => .elsewhere t
    | some delivery =>
      .complete (completed env.processor now (some result) claimed) delivery
        (delivery.sequence - 1) claimed.claimToken result.attentionLeaseToken result.reportEvent
  | _ => .elsewhere t

def AttentionSystem.after (sys : AttentionSystem) : AttentionLabel → AttentionSystem
  | .handle i enabled claimed =>
    { sys with workers := Function.update sys.workers i (.enter env enabled claimed) }
  | .work i d =>
    let r := (sys.workers i).next env d sys.leases.now sys.leases.store
    { leases := sys.leases.after env.py ((sys.workers i).leaseLabel env d sys.leases.now r.2)
      workers := Function.update sys.workers i (goto .idle r.1) }
  | .stop i => { sys with workers := Function.update sys.workers i .idle }
  | .tick now => { sys with leases := sys.leases.after env.py (.tick now) }
  | .elsewhere t => { sys with leases := sys.leases.after env.py (.elsewhere t) }

/-- A handler starts where none is running, and the clock does not go back. -/
def AttentionLabel.Allowed (sys : AttentionSystem) : AttentionLabel → Prop
  | .handle i _ _ => sys.workers i = .idle
  | .work _ _ | .stop _ => True
  | .tick now => sys.leases.now ≤ now
  | .elsewhere t => t.attention = sys.leases.store.attention ∧
    t.attentionLeases = sys.leases.store.attentionLeases ∧ KeepsIdentity sys.leases.store t

def attentionStep (sys : AttentionSystem) (l : AttentionLabel) (t : AttentionSystem) : Prop :=
  l.Allowed sys ∧ t = sys.after env l

end Handlers

end NocAgent.Cases
