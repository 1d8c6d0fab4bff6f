import NocAgent.Cases.HandoffIndex
import NocAgent.Cases.Investigation
import NocAgent.Cases.Linking
import NocAgent.Cases.OperatorDecisions
import NocAgent.Cases.OutboxKeys

/-!
# The event log of the case store

* `Store.listCaseEvents`, `Store.countCaseEvents` — what `case_events` and `count_case_events`
  answer.
* `CaseEvent.namings` — how often an event is listed for a case: once for each of its two fields
  that names the case.
* `EventLog` — the log has grown from what it was, and every case has the list of its events.
* `StoreMethod`, `methodStep` — the methods of the store, called by anybody in any order.
* `auditTrail_run` — in every run the log is only appended to, and the answers are read off it.
-/

set_option autoImplicit false

namespace NocAgent.Cases

open Effects Effects.Action Keyed Lts

/-! ## What is answered -/

/-- `(row.occurred_at, row.event_id)`. -/
def CaseEvent.order (event : CaseEvent) : String ×ₗ String :=
  toLex (event.occurredAt, event.eventId)

/-- `case_events`. -/
def Store.listCaseEvents (s : Store) (caseId : String) (limit : Option Int) (newestFirst : Bool) :
    List CaseEvent :=
  let rows := ((s.caseEvents caseId).getD []).filterMap s.events.get?
  let rows :=
    if newestFirst then rows.insertionSort fun a b => b.order ≤ a.order
    else rows.insertionSort fun a b => a.order ≤ b.order
  match limit with
  | none => rows
  | some limit => rows.take (boundedLimit limit)

/-- `count_case_events`. -/
def Store.countCaseEvents (s : Store) (caseId : String) : Nat :=
  (((s.caseEvents caseId).getD []).filter fun eventId => (s.events.get? eventId).isSome).length

/-- How often a field of an event has it listed for a case. -/
def names (target : Option String) (caseId : String) : Nat :=
  if target = some caseId ∧ caseId ≠ "" then 1 else 0

/-- How often an event is listed for a case: its two fields may name the same one. -/
def CaseEvent.namings (event : CaseEvent) (caseId : String) : Nat :=
  names event.caseId caseId + names event.metaCaseId caseId

/-- The events that name a case, in the order in which they were stored. -/
def Store.eventsNaming (s : Store) (caseId : String) : List CaseEvent :=
  s.events.rows.flatMap fun event => List.replicate (event.namings caseId) event

/-! ## The log -/

/-- The log has grown from `past`, and every case has the list of its events. -/
structure EventLog (past : List CaseEvent) (s : Store) : Prop where
  appended : past <+: s.events.rows
  listed : ∀ caseId, (s.caseEvents caseId).getD [] = (s.eventsNaming caseId).map CaseEvent.eventId

/-- What the log is made of. -/
def Store.log (s : Store) : Table CaseEvent.eventId × Index String (List String) :=
  (s.events, s.caseEvents)

section Log

variable {past : List CaseEvent} {s t : Store}

theorem EventLog.congr (h : EventLog past s) (hlog : t.log = s.log) : EventLog past t := by
  obtain ⟨hevents, hindex⟩ := Prod.mk.inj hlog
  refine ⟨?_, fun caseId => ?_⟩
  · rw [hevents]
    exact h.appended
  · unfold Store.eventsNaming
    rw [hevents, hindex]
    exact h.listed caseId

theorem listEvent_getD (ix : Index String (List String)) (eventId : String)
    (target : Option String) (caseId : String) :
    (listEvent ix eventId target caseId).getD [] =
      (ix caseId).getD [] ++ List.replicate (names target caseId) eventId := by
  unfold listEvent names
  cases target with
  | none => simp
  | some target =>
    dsimp only
    by_cases hblank : target = ""
    · have hnot : ¬ (some target = some caseId ∧ caseId ≠ "") := by
        rintro ⟨hsame, hne⟩
        exact hne ((Option.some.inj hsame).symm.trans hblank)
      rw [if_pos hblank, if_neg hnot]
      simp
    · rw [if_neg hblank, Index.set_apply]
      by_cases hsame : target = caseId
      · subst hsame
        simp [hblank]
      · have hother : caseId ≠ target := fun heq => hsame heq.symm
        simp [hsame, hother]

/-- **An event is appended once, and listed for the cases that it names.** -/
theorem EventLog.storeEvent (event : CaseEvent) : Keeps (EventLog past) (storeEvent event) := by
  intro s hs
  unfold Cases.storeEvent
  rw [peek_bind_run]
  cases hnew : s.events.get? event.eventId with
  | some existing => exact hs
  | none =>
    have hrows := Table.rows_put_new hnew
    refine ⟨?_, fun caseId => ?_⟩
    · change past <+: (s.events.put event).rows
      rw [hrows]
      exact hs.appended.trans (List.prefix_append _ _)
    · change (listEvent (listEvent s.caseEvents event.eventId event.caseId) event.eventId
        event.metaCaseId caseId).getD [] = List.map CaseEvent.eventId
          ((s.events.put event).rows.flatMap fun e => List.replicate (e.namings caseId) e)
      rw [listEvent_getD, listEvent_getD, hs.listed, hrows, List.flatMap_append, List.map_append,
        List.append_assoc, ← List.replicate_add]
      simp [Store.eventsNaming, CaseEvent.namings]

theorem EventLog.storeEvent? (event : Option CaseEvent) :
    Keeps (EventLog past) (storeEvent? event) := by
  cases event with
  | none => exact Keeps.pure _
  | some event => exact Keeps.bind (EventLog.storeEvent event) fun _ => Keeps.pure _

/-- What does not write the log. -/
theorem EventLog.of_fixes {α : Type} {x : StoreM α} (h : Fixes Store.log x) :
    Keeps (EventLog past) x :=
  h.keeps fun _ _ hlog hs => hs.congr hlog

theorem EventLog.alter {f : Store → Store} (h : ∀ s, (f s).log = s.log) :
    Keeps (EventLog past) (alter f : StoreM Unit) :=
  Keeps.alter fun s hs => hs.congr (h s)

theorem EventLog.putCase (case : AtomicCaseProjection) : Keeps (EventLog past) (putCase case) :=
  EventLog.alter fun _ => rfl

theorem EventLog.storeAlias (entry : CaseIdentityAlias) :
    Keeps (EventLog past) (storeAlias entry) :=
  EventLog.alter fun _ => rfl

/-! ## The methods of the store -/

theorem log_indexIfActive (s : Store) (handoff : CaseHandoff) :
    (s.indexIfActive handoff).log = s.log := by
  unfold Store.indexIfActive
  split <;> rfl

theorem log_replaceHandoff (s : Store) (old new : CaseHandoff) :
    (s.replaceHandoff old new).log = s.log :=
  log_indexIfActive _ _

theorem requireHandoff_keeps (handoffId : String) :
    Keeps (EventLog past) (requireHandoff handoffId) :=
  Keeps.bind (Keeps.peek _) fun _ => Keeps.orRaise _ _

theorem EventLog.existingHandoff (handoff : CaseHandoff) :
    Keeps (EventLog past) (existingHandoff handoff) := by
  refine Keeps.bind (Keeps.peek _) fun existingId => ?_
  cases existingId with
  | some existingId => exact Keeps.bind (requireHandoff_keeps _) fun _ => Keeps.pure _
  | none =>
    refine Keeps.bind (Keeps.peek _) fun activeId => ?_
    cases activeId with
    | some activeId => exact Keeps.bind (requireHandoff_keeps _) fun _ => Keeps.pure _
    | none => exact Keeps.pure _

theorem EventLog.createAtomicCase (case : AtomicCaseProjection)
    (aliases : List CaseIdentityAlias) (events : List CaseEvent) :
    Keeps (EventLog past) (createAtomicCase case aliases events) := by
  refine Keeps.bind (EventLog.of_fixes (aliasedCase_fixes aliases)) fun aliased => ?_
  cases aliased with
  | some existing => exact Keeps.pure _
  | none =>
    refine Keeps.bind (Keeps.peek _) fun same => ?_
    cases same with
    | some existing => exact Keeps.pure _
    | none =>
      exact Keeps.bind (EventLog.putCase case) fun _ =>
        Keeps.bind (Keeps.forEach EventLog.storeAlias aliases) fun _ =>
        Keeps.bind (Keeps.forEach EventLog.storeEvent events) fun _ => Keeps.pure _

theorem EventLog.putObservation (observation : ObservationRecord) :
    Keeps (EventLog past) (putObservation observation) := by
  refine Keeps.bind (Keeps.peek _) fun existing => ?_
  cases existing with
  | some existing => exact Keeps.pure _
  | none => exact Keeps.bind (EventLog.alter fun _ => rfl) fun _ => Keeps.pure _

theorem EventLog.recordFeedback (feedback : OperatorFeedback) :
    Keeps (EventLog past) (recordFeedback feedback) := by
  refine Keeps.bind (Keeps.peek _) fun existing => ?_
  cases existing with
  | some existing => exact Keeps.pure _
  | none => exact Keeps.bind (EventLog.alter fun _ => rfl) fun _ => Keeps.pure _

theorem EventLog.recordAcknowledgementScope (caseId acknowledgedAt : String)
    (severity : Severity) :
    Keeps (EventLog past) (recordAcknowledgementScope caseId acknowledgedAt severity) :=
  Keeps.bind (requireAtomicCase_keeps _) fun _ => EventLog.alter fun _ => rfl

theorem EventLog.updateOutbox (intent : OutboxIntent) :
    Keeps (EventLog past) (updateOutbox intent) :=
  Keeps.bind (Keeps.peek _) fun _ => Keeps.bind (Keeps.orRaise _ _) fun _ =>
    Keeps.bind (EventLog.alter fun _ => rfl) fun _ => Keeps.pure _

theorem EventLog.claimInvestigation (request : ClaimRequest) :
    Keeps (EventLog past) (claimInvestigation request) := by
  refine Keeps.bind (Keeps.peek _) fun case => ?_
  cases case with
  | none => exact Keeps.pure _
  | some case =>
    dsimp only
    split
    · exact Keeps.pure _
    · split
      · exact Keeps.bind (EventLog.putCase _) fun _ =>
          Keeps.bind (EventLog.storeEvent _) fun _ => Keeps.pure _
      · exact Keeps.pure _

/-- What `record_alias` does with the alias that is active under the key, if there is one. -/
theorem EventLog.enterAlias {entry : CaseIdentityAlias} {f : Store → Store}
    (h : ∀ s, (f s).log = s.log) (existing : Option CaseIdentityAlias) : Keeps (EventLog past)
      (match existing with
        | some existing => pure existing
        | none => do
          Action.alter f
          pure entry : StoreM CaseIdentityAlias) := by
  cases existing with
  | some existing => exact Keeps.pure _
  | none => exact Keeps.bind (EventLog.alter h) fun _ => Keeps.pure _

theorem EventLog.recordAlias (entry : CaseIdentityAlias) :
    Keeps (EventLog past) (recordAlias entry) := by
  refine Keeps.bind (Keeps.raiseIf _ _) fun _ => Keeps.bind (Keeps.peek _) fun existingId => ?_
  cases existingId with
  | none => exact Keeps.bind (Keeps.pure _) (EventLog.enterAlias fun _ => rfl)
  | some existingId =>
    exact Keeps.bind (Keeps.peek _) fun _ => Keeps.bind (Keeps.orRaise _ _) fun _ =>
      Keeps.bind (Keeps.raiseIf _ _) fun _ =>
      Keeps.bind (Keeps.pure _) (EventLog.enterAlias fun _ => rfl)

theorem EventLog.reassignAlias (toCaseId now : String) (draws : LinkDraws)
    (entry : CaseIdentityAlias) :
    Keeps (EventLog past) (reassignAlias toCaseId now draws entry) := by
  refine Keeps.bind (Keeps.peek _) fun indexedId => Keeps.bind (Keeps.peek _) fun indexed =>
    Keeps.bind (EventLog.alter fun s => ?_) fun _ =>
    Keeps.bind (EventLog.alter fun _ => rfl) fun _ =>
    Keeps.bind (Keeps.peek _) fun held => ?_
  · split <;> rfl
  · dsimp only
    split
    · exact Keeps.pure _
    · exact Keeps.bind (EventLog.alter fun _ => rfl) fun _ => Keeps.pure _

theorem EventLog.linkChildCase (childCaseId parentCaseId reason : String)
    (evidenceRefs : List String) (now : String) (draws : LinkDraws) : Keeps (EventLog past)
      (linkChildCase childCaseId parentCaseId reason evidenceRefs now draws) := by
  unfold Cases.linkChildCase
  split
  · exact Keeps.pure _
  · refine Keeps.bind (Keeps.peek _) fun child => Keeps.bind (Keeps.peek _) fun parent => ?_
    cases child with
    | none => exact Keeps.pure _
    | some child =>
      cases parent with
      | none => exact Keeps.pure _
      | some parent =>
        dsimp only
        split
        · split <;> exact Keeps.pure _
        · refine Keeps.bind (EventLog.putCase _) fun _ => Keeps.bind (EventLog.putCase _) fun _ =>
            Keeps.bind ?_ fun _ => Keeps.bind (Keeps.forEach EventLog.storeEvent _) fun _ =>
              Keeps.pure _
          exact Keeps.bind (Keeps.peek _) fun _ =>
            Keeps.bind (Keeps.forEach (EventLog.reassignAlias _ _ _) _) fun _ => Keeps.pure _

theorem EventLog.claimAttention (intent : OutboxIntent) (expectedSequence : Nat)
    (leaseSeconds now : Int) (token : String) : Keeps (EventLog past)
      (claimAttention intent expectedSequence leaseSeconds now token) := by
  unfold Cases.claimAttention
  split
  · exact Keeps.raise _
  · refine Keeps.bind (Keeps.raiseIf _ _) fun _ => Keeps.bind (Keeps.peek _) fun current =>
      Keeps.bind (Keeps.peek _) fun _ => Keeps.bind (Keeps.peek _) fun _ => ?_
    cases current with
    | none => exact Keeps.pure _
    | some current =>
      dsimp only
      split
      · exact Keeps.pure _
      · exact Keeps.bind (requireAtomicCase_keeps _) fun _ =>
          Keeps.bind (EventLog.alter fun _ => rfl) fun _ => Keeps.pure _

theorem EventLog.releaseAttention (caseId leaseToken : String) :
    Keeps (EventLog past) (releaseAttention caseId leaseToken) := by
  refine EventLog.alter fun s => ?_
  split
  · split <;> rfl
  · rfl

theorem EventLog.completeAttention (py : Python) (intent : OutboxIntent)
    (delivery : AttentionDelivery) (expectedSequence : Nat) (expectedClaimToken leaseToken : String)
    (reportEvent : Option CaseEvent) (now : Int) : Keeps (EventLog past)
      (completeAttention py intent delivery expectedSequence expectedClaimToken leaseToken
        reportEvent now) := by
  refine Keeps.bind (Keeps.raiseIf _ _) fun _ => Keeps.bind (Keeps.peek _) fun ready => ?_
  cases ready with
  | false => exact Keeps.pure _
  | true =>
    refine Keeps.bind (requireAtomicCase_keeps _) fun case => ?_
    cases reportEvent with
    | none => exact Keeps.bind (EventLog.alter fun _ => rfl) fun _ => Keeps.pure _
    | some event =>
      dsimp only
      cases applyReportCompletion py case event with
      | error e => exact Keeps.bind (Keeps.raise e) fun _ =>
          Keeps.bind (EventLog.alter fun _ => rfl) fun _ => Keeps.pure _
      | ok reported =>
        exact Keeps.bind (EventLog.putCase reported) fun _ =>
          Keeps.bind (EventLog.storeEvent event) fun _ =>
          Keeps.bind (EventLog.alter fun _ => rfl) fun _ => Keeps.pure _

theorem EventLog.createHandoffWithObjectives (handoff : CaseHandoff)
    (objectives : List VerificationObjective) (caseStatus : Option CaseStatus)
    (event : Option CaseEvent) (outboxIntent : Option OutboxIntent) : Keeps (EventLog past)
      (createHandoffWithObjectives handoff objectives caseStatus event outboxIntent) := by
  refine Keeps.bind (Keeps.raiseIf _ _) fun _ => Keeps.bind (requireAtomicCase_keeps _) fun case =>
    Keeps.bind (EventLog.existingHandoff handoff) fun existing => ?_
  cases existing with
  | some existing => exact Keeps.bind (Keeps.peek _) fun _ => Keeps.pure _
  | none =>
    refine Keeps.bind (EventLog.alter fun s => log_indexIfActive _ _) fun _ =>
      Keeps.bind (Keeps.forEach (fun objective => EventLog.of_fixes
        (storeObjective_fixes (fun _ _ _ => rfl) handoff objective)) objectives) fun _ =>
      Keeps.bind (EventLog.putCase _) fun _ => Keeps.bind (EventLog.storeEvent? event) fun _ =>
      Keeps.bind ?_ fun _ => Keeps.pure _
    cases outboxIntent with
    | none => exact Keeps.pure _
    | some intent =>
      exact Keeps.bind (EventLog.of_fixes (enqueueOutbox_fixes (fun _ _ _ => rfl) intent)) fun _ =>
        Keeps.pure _

theorem EventLog.appendHandoffUpdate (update : HandoffUpdate)
    (handoffStatus : Option HandoffStatus) (caseStatus : Option CaseStatus)
    (caseHandoffStatus : Option String) (event : Option CaseEvent) : Keeps (EventLog past)
      (appendHandoffUpdate update handoffStatus caseStatus caseHandoffStatus event) := by
  refine Keeps.bind (Keeps.peek _) fun existingId => ?_
  cases existingId with
  | some existingId =>
    exact Keeps.bind (Keeps.peek _) fun _ => Keeps.bind (Keeps.orRaise _ _) fun _ =>
      Keeps.bind (requireHandoff_keeps _) fun _ => Keeps.bind (requireAtomicCase_keeps _) fun _ =>
      Keeps.pure _
  | none =>
    exact Keeps.bind (requireHandoff_keeps _) fun _ =>
      Keeps.bind (requireAtomicCase_keeps _) fun _ => Keeps.bind (Keeps.raiseIf _ _) fun _ =>
      Keeps.bind (Keeps.raiseIf _ _) fun _ =>
      Keeps.bind (EventLog.alter fun s => log_replaceHandoff _ _ _) fun _ =>
      Keeps.bind (Keeps.peek _) fun _ => Keeps.bind (EventLog.putCase _) fun _ =>
      Keeps.bind (EventLog.storeEvent? event) fun _ => Keeps.pure _

theorem EventLog.markHandoffVerified (handoffId now : String) (event : Option CaseEvent) :
    Keeps (EventLog past) (markHandoffVerified handoffId now event) :=
  Keeps.bind (requireHandoff_keeps _) fun _ => Keeps.bind (Keeps.raiseIf _ _) fun _ =>
    Keeps.bind (EventLog.alter fun _ => log_replaceHandoff _ _ _) fun _ =>
    Keeps.bind (requireAtomicCase_keeps _) fun _ => Keeps.bind (EventLog.putCase _) fun _ =>
    Keeps.bind (EventLog.storeEvent? event) fun _ => Keeps.pure _

theorem EventLog.resolveHandoff (handoffId now : String) :
    Keeps (EventLog past) (resolveHandoff handoffId now) := by
  unfold Cases.resolveHandoff
  split
  · exact Keeps.pure _
  · exact Keeps.bind (requireHandoff_keeps _) fun _ => Keeps.bind (Keeps.raiseIf _ _) fun _ =>
      EventLog.alter fun _ => log_replaceHandoff _ _ _

theorem EventLog.resolveCaseWithOutcome (caseId handoffId : String) (outcome : OutcomeRecord)
    (now : String) (event : Option CaseEvent) :
    Keeps (EventLog past) (resolveCaseWithOutcome caseId handoffId outcome now event) :=
  Keeps.bind (requireAtomicCase_keeps caseId) fun _ => Keeps.bind (Keeps.raiseIf _ _) fun _ =>
    Keeps.bind (EventLog.resolveHandoff handoffId now) fun _ =>
    Keeps.bind (EventLog.alter fun _ => rfl) fun _ => Keeps.bind (EventLog.putCase _) fun _ =>
    Keeps.bind (EventLog.storeEvent? event) fun _ => Keeps.pure _

theorem EventLog.recordOutcome (outcome : OutcomeRecord) (event : Option CaseEvent) :
    Keeps (EventLog past) (recordOutcome outcome event) := by
  refine Keeps.bind (requireAtomicCase_keeps _) fun _ =>
    Keeps.bind (Keeps.peek _) fun existing => ?_
  cases existing with
  | some existing => exact Keeps.pure _
  | none =>
    exact Keeps.bind (EventLog.alter fun _ => rfl) fun _ =>
      Keeps.bind (EventLog.storeEvent? event) fun _ => Keeps.pure _

theorem EventLog.upsertVerificationObjective (objective : VerificationObjective)
    (event : Option CaseEvent) :
    Keeps (EventLog past) (upsertVerificationObjective objective event) :=
  Keeps.bind (requireAtomicCase_keeps _) fun _ =>
    Keeps.bind (EventLog.of_fixes (upsertObjective_fixes (fun _ _ _ => rfl) objective)) fun _ =>
    Keeps.bind (EventLog.storeEvent? event) fun _ => Keeps.pure _

theorem EventLog.updateVerificationObjectiveResult (objective : VerificationObjective)
    (event : Option CaseEvent) :
    Keeps (EventLog past) (updateVerificationObjectiveResult objective event) :=
  Keeps.bind (Keeps.peek _) fun _ => Keeps.bind (Keeps.orRaise _ _) fun _ =>
    Keeps.bind (EventLog.alter fun _ => rfl) fun _ =>
    Keeps.bind (EventLog.storeEvent? event) fun _ => Keeps.pure _

end Log

/-! ## Runs -/

/-- A method that writes the store.  `record_handoff_delivery`, `update_handoff_delivery`,
`claim_callback_event` and `record_trace`, which write it too but not the log, are left out. -/
inductive StoreMethod where
  | handoff (op : HandoffOp)
  | putObservation (observation : ObservationRecord)
  | recordAcknowledgementScope (caseId acknowledgedAt : String) (severity : Severity)
  | createAtomicCase (case : AtomicCaseProjection) (aliases : List CaseIdentityAlias)
      (events : List CaseEvent)
  | claimInvestigation (request : ClaimRequest)
  /-- also what the methods for knowledge artifacts do to the log -/
  | appendEvent (event : CaseEvent)
  | recordAlias (entry : CaseIdentityAlias)
  | linkChildCase (childCaseId parentCaseId reason : String) (evidenceRefs : List String)
      (now : String) (draws : LinkDraws)
  | enqueueOutbox (intent : OutboxIntent)
  | updateOutbox (intent : OutboxIntent)
  | updateOutboxIfStatus (intent : OutboxIntent) (expectedStatus : OutboxStatus)
      (expectedClaimToken : Option String)
  | claimAttention (intent : OutboxIntent) (expectedSequence : Nat) (leaseSeconds now : Int)
      (token : String)
  | releaseAttention (caseId leaseToken : String)
  | completeAttention (py : Python) (intent : OutboxIntent) (delivery : AttentionDelivery)
      (expectedSequence : Nat) (expectedClaimToken leaseToken : String)
      (reportEvent : Option CaseEvent) (now : Int)
  | upsertVerificationObjective (objective : VerificationObjective) (event : Option CaseEvent)
  | updateVerificationObjectiveResult (objective : VerificationObjective)
      (event : Option CaseEvent)
  | recordOutcome (outcome : OutcomeRecord) (event : Option CaseEvent)
  | recordFeedback (feedback : OperatorFeedback)

/-- The store after the call, whether it returned or raised. -/
def StoreMethod.run : StoreMethod → Store → Store
  | .handoff op, s => op.run s
  | .putObservation observation, s => (Cases.putObservation observation s).2
  | .recordAcknowledgementScope caseId acknowledgedAt severity, s =>
    (Cases.recordAcknowledgementScope caseId acknowledgedAt severity s).2
  | .createAtomicCase case aliases events, s => (Cases.createAtomicCase case aliases events s).2
  | .claimInvestigation request, s => (Cases.claimInvestigation request s).2
  | .appendEvent event, s => (Cases.storeEvent event s).2
  | .recordAlias entry, s => (Cases.recordAlias entry s).2
  | .linkChildCase childCaseId parentCaseId reason evidenceRefs now draws, s =>
    (Cases.linkChildCase childCaseId parentCaseId reason evidenceRefs now draws s).2
  | .enqueueOutbox intent, s => (Cases.enqueueOutbox intent s).2
  | .updateOutbox intent, s => (Cases.updateOutbox intent s).2
  | .updateOutboxIfStatus intent expectedStatus expectedClaimToken, s =>
    (Cases.updateOutboxIfStatus intent expectedStatus expectedClaimToken s).2
  | .claimAttention intent expectedSequence leaseSeconds now token, s =>
    (Cases.claimAttention intent expectedSequence leaseSeconds now token s).2
  | .releaseAttention caseId leaseToken, s => (Cases.releaseAttention caseId leaseToken s).2
  | .completeAttention py intent delivery expectedSequence expectedClaimToken leaseToken
      reportEvent now, s =>
    (Cases.completeAttention py intent delivery expectedSequence expectedClaimToken leaseToken
      reportEvent now s).2
  | .upsertVerificationObjective objective event, s =>
    (Cases.upsertVerificationObjective objective event s).2
  | .updateVerificationObjectiveResult objective event, s =>
    (Cases.updateVerificationObjectiveResult objective event s).2
  | .recordOutcome outcome event, s => (Cases.recordOutcome outcome event s).2
  | .recordFeedback feedback, s => (Cases.recordFeedback feedback s).2

def methodStep (s : Store) (method : StoreMethod) (t : Store) : Prop := t = method.run s

/-- What the readers of the log can rely on, between two moments. -/
structure AuditTrail (earlier later : Store) : Prop where
  /-- no event was changed, dropped or moved -/
  appended : earlier.events.rows <+: later.events.rows
  /-- for each case the new events come after the old ones -/
  grown : ∀ caseId, earlier.eventsNaming caseId <+: later.eventsNaming caseId
  /-- the answer has the events that name the case, and no others -/
  answered : ∀ caseId newestFirst,
    (later.listCaseEvents caseId none newestFirst).Perm (later.eventsNaming caseId)
  counted : ∀ caseId, later.countCaseEvents caseId = (later.eventsNaming caseId).length
  /-- a request that was found to be repeated is found so for ever -/
  remembered : ∀ caseId eventId, earlier.HasEvent caseId eventId → later.HasEvent caseId eventId
  /-- oldest first, or newest first -/
  ordered : ∀ caseId, (later.listCaseEvents caseId none false).Pairwise (·.order ≤ ·.order) ∧
    (later.listCaseEvents caseId none true).Pairwise (·.order ≥ ·.order)

section Runs

variable {past : List CaseEvent} {s t : Store}

theorem EventLog.handoff (h : EventLog past s) (op : HandoffOp) : EventLog past (op.run s) := by
  cases op with
  | upsertCase case => exact h.congr rfl
  | createHandoffWithObjectives handoff objectives caseStatus event outboxIntent =>
    exact EventLog.createHandoffWithObjectives handoff objectives caseStatus event outboxIntent s h
  | appendHandoffUpdate update handoffStatus caseStatus caseHandoffStatus event =>
    exact EventLog.appendHandoffUpdate update handoffStatus caseStatus caseHandoffStatus event s h
  | markHandoffVerified handoffId now event =>
    exact EventLog.markHandoffVerified handoffId now event s h
  | resolveCaseWithOutcome caseId handoffId outcome now event =>
    exact EventLog.resolveCaseWithOutcome caseId handoffId outcome now event s h

/-- **A method appends its events to the log and does nothing else to it.** -/
theorem eventLog_step {method : StoreMethod} (h : EventLog past s)
    (hstep : methodStep s method t) : EventLog past t := by
  obtain rfl := hstep
  cases method with
  | handoff op => exact h.handoff op
  | putObservation observation => exact EventLog.putObservation observation s h
  | recordAcknowledgementScope caseId acknowledgedAt severity =>
    exact EventLog.recordAcknowledgementScope caseId acknowledgedAt severity s h
  | createAtomicCase case aliases events => exact EventLog.createAtomicCase case aliases events s h
  | claimInvestigation request => exact EventLog.claimInvestigation request s h
  | appendEvent event => exact EventLog.storeEvent event s h
  | recordAlias entry => exact EventLog.recordAlias entry s h
  | linkChildCase childCaseId parentCaseId reason evidenceRefs now draws =>
    exact EventLog.linkChildCase childCaseId parentCaseId reason evidenceRefs now draws s h
  | enqueueOutbox intent =>
    exact EventLog.of_fixes (enqueueOutbox_fixes (fun _ _ _ => rfl) intent) s h
  | updateOutbox intent => exact EventLog.updateOutbox intent s h
  | updateOutboxIfStatus intent expectedStatus expectedClaimToken =>
    exact EventLog.of_fixes (updateOutboxIfStatus_fixes (fun _ _ _ => rfl) intent expectedStatus
      expectedClaimToken) s h
  | claimAttention intent expectedSequence leaseSeconds now token =>
    exact EventLog.claimAttention intent expectedSequence leaseSeconds now token s h
  | releaseAttention caseId leaseToken => exact EventLog.releaseAttention caseId leaseToken s h
  | completeAttention py intent delivery expectedSequence expectedClaimToken leaseToken
      reportEvent now =>
    exact EventLog.completeAttention py intent delivery expectedSequence expectedClaimToken
      leaseToken reportEvent now s h
  | upsertVerificationObjective objective event =>
    exact EventLog.upsertVerificationObjective objective event s h
  | updateVerificationObjectiveResult objective event =>
    exact EventLog.updateVerificationObjectiveResult objective event s h
  | recordOutcome outcome event => exact EventLog.recordOutcome outcome event s h
  | recordFeedback feedback => exact EventLog.recordFeedback feedback s h

theorem EventLog.start (h : EventLog past s) : EventLog s.events.rows s :=
  ⟨List.prefix_rfl, h.listed⟩

theorem eventLog_empty : EventLog [] {} :=
  ⟨List.prefix_rfl, fun _ => rfl⟩

theorem get?_of_naming {caseId : String} {event : CaseEvent} (h : event ∈ s.eventsNaming caseId) :
    s.events.get? event.eventId = some event := by
  obtain ⟨row, hrow, hmem⟩ := List.mem_flatMap.1 h
  rw [List.eq_of_mem_replicate hmem]
  exact Table.mem_rows_iff.1 hrow

/-- Every id that is listed leads to its event. -/
theorem EventLog.found (h : EventLog past s) (caseId : String) :
    ((s.caseEvents caseId).getD []).filterMap s.events.get? = s.eventsNaming caseId := by
  rw [h.listed, List.filterMap_map]
  calc (s.eventsNaming caseId).filterMap (s.events.get? ∘ CaseEvent.eventId)
      = (s.eventsNaming caseId).filterMap some :=
        List.filterMap_congr fun _ hmem => get?_of_naming hmem
    _ = s.eventsNaming caseId := List.filterMap_some

/-- The log is asked for an event by its id. -/
theorem EventLog.hasEvent_iff (h : EventLog past s) (caseId eventId : String) :
    s.HasEvent caseId eventId ↔ eventId ∈ (s.eventsNaming caseId).map CaseEvent.eventId := by
  unfold Store.HasEvent
  rw [h.listed]
  constructor
  · rintro ⟨id, hid, event, hevent, rfl⟩
    rwa [Table.key_of_get? hevent]
  · intro hmem
    obtain ⟨event, hevent, rfl⟩ := List.mem_map.1 hmem
    exact ⟨event.eventId, hmem, event, get?_of_naming hevent, rfl⟩

theorem EventLog.counted (h : EventLog past s) (caseId : String) :
    s.countCaseEvents caseId = (s.eventsNaming caseId).length := by
  unfold Store.countCaseEvents
  rw [List.filter_eq_self.2, h.listed, List.length_map]
  intro eventId hmem
  rw [h.listed] at hmem
  obtain ⟨event, hevent, rfl⟩ := List.mem_map.1 hmem
  rw [get?_of_naming hevent]
  rfl

/-- What names a case is read off the log. -/
theorem eventsNaming_grown (h : s.events.rows <+: t.events.rows) (caseId : String) :
    s.eventsNaming caseId <+: t.eventsNaming caseId := by
  obtain ⟨new, hnew⟩ := h
  refine ⟨new.flatMap fun event => List.replicate (event.namings caseId) event, ?_⟩
  unfold Store.eventsNaming
  rw [← hnew, List.flatMap_append]

theorem EventLog.auditTrail (hs : EventLog past s) (h : EventLog s.events.rows t) :
    AuditTrail s t where
  appended := h.appended
  grown := eventsNaming_grown h.appended
  answered caseId newestFirst := by
    unfold Store.listCaseEvents
    rw [h.found]
    cases newestFirst <;> exact List.perm_insertionSort _ _
  counted := h.counted
  remembered caseId eventId hevent := by
    rw [hs.hasEvent_iff] at hevent
    rw [h.hasEvent_iff]
    exact ((eventsNaming_grown h.appended caseId).map CaseEvent.eventId).subset hevent
  ordered caseId := by
    constructor
    · exact List.pairwise_insertionSort (fun a b : CaseEvent => a.order ≤ b.order) _
    · exact List.pairwise_insertionSort (fun a b : CaseEvent => b.order ≤ a.order) _

/-- **In every run the log is only appended to, and what is answered is read off it.** -/
theorem auditTrail_run {before after : List StoreMethod} (hs : Run methodStep {} before s)
    (h : Run methodStep s after t) : AuditTrail s t := by
  have hlog : EventLog [] s :=
    hs.invariant (fun _ _ _ hlog hstep => eventLog_step hlog hstep) eventLog_empty
  have hgrown : EventLog s.events.rows t :=
    h.invariant (fun _ _ _ hlog hstep => eventLog_step hlog hstep) hlog.start
  exact hlog.auditTrail hgrown

end Runs

/-! ## An event that is stored again -/

def openedEvent : CaseEvent where
  eventId := "ev_1"
  caseId := some "case_1"
  eventType := "case_created"
  occurredAt := "2026-05-01T10:00:00+00:00"

def groupedEvent : CaseEvent where
  eventId := "ev_2"
  caseId := some "case_1"
  metaCaseId := some "meta_1"
  eventType := "child_attached"
  occurredAt := "2026-05-01T10:05:00+00:00"

def openedLog : Store := StoreMethod.run (.appendEvent openedEvent) {}

/-- The first event comes again, as something else. -/
def repeatedLog : Store :=
  StoreMethod.run (.appendEvent { openedEvent with eventType := "case_resolved" })
    (StoreMethod.run (.appendEvent groupedEvent) openedLog)

theorem auditTrail_repeated :
    (repeatedLog.eventsNaming "case_1").map CaseEvent.eventType =
        ["case_created", "child_attached"] ∧
      repeatedLog.countCaseEvents "meta_1" = 1 ∧ AuditTrail openedLog repeatedLog :=
  ⟨by decide, by decide, auditTrail_run (Run.single rfl) (Run.cons rfl (Run.single rfl))⟩

end NocAgent.Cases
