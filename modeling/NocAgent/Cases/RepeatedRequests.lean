import NocAgent.Cases.ConsoleRequests
import NocAgent.Cases.VerifierRuns

/-!
# Repeated loop-console requests

* `EventOnCase` — the event of the requests is nowhere but on their case.
* `caseRequest_before`, `resultRequest_before` — a request looks for its event, makes its changes
  and leaves the event with the last of them.
* `ConsoleSystem` — requests with one key and target, observations and anything else on one store.
* `changes_run` — over every run in which no request overlaps another one, every change is made at
  most once.
-/

set_option autoImplicit false

namespace NocAgent.Cases

open Effects Effects.Action Effects.Script Keyed Lts

/-! ## The event of a request -/

/-- The event is on the case, if it is stored. -/
def EventOnCase (caseId eventId : String) (s : Store) : Prop :=
  (s.events.get? eventId).isSome = true → s.HasEvent caseId eventId

theorem hasEvent_iff {s : Store} {caseId eventId : String} : s.HasEvent caseId eventId ↔
    eventId ∈ (s.caseEvents caseId).getD [] ∧ (s.events.get? eventId).isSome = true := by
  constructor
  · rintro ⟨id, hlisted, event, hevent, rfl⟩
    have hid : event.eventId = id := Table.key_of_get? hevent
    subst hid
    exact ⟨hlisted, Option.isSome_iff_exists.2 ⟨event, hevent⟩⟩
  · rintro ⟨hlisted, hstored⟩
    obtain ⟨event, hevent⟩ := Option.isSome_iff_exists.1 hstored
    exact ⟨eventId, hlisted, event, hevent, Table.key_of_get? hevent⟩

section Calm

variable {caseId eventId : String}

/-- The event is as it was. -/
def LeavesEvent (caseId eventId : String) {α : Type} (x : StoreM α) : Prop :=
  Calm (EventOnCase caseId eventId) (fun s => s.HasEvent caseId eventId) x

theorem leavesEvent_of_fixes {α : Type} {x : StoreM α}
    (hx : Fixes (fun s : Store => (s.events, s.caseEvents)) x) : LeavesEvent caseId eventId x := by
  refine Calm.of_fixes hx fun s t h => ?_
  obtain ⟨hevents, hlists⟩ := Prod.mk.inj h
  have hsame : t.HasEvent caseId eventId ↔ s.HasEvent caseId eventId := by
    rw [hasEvent_iff, hasEvent_iff, hevents, hlists]
  refine ⟨fun hs hstored => hsame.2 (hs ?_), hsame⟩
  rwa [hevents] at hstored

theorem mem_listEvent_of_ne {ix : Index String (List String)} {id : String} (hne : id ≠ eventId)
    (target : Option String) : eventId ∈ (listEvent ix id target caseId).getD [] ↔
      eventId ∈ (ix caseId).getD [] := by
  cases target with
  | none => exact Iff.rfl
  | some target =>
    unfold listEvent
    dsimp only
    split
    · exact Iff.rfl
    · rw [Index.set_apply]
      split
      · rename_i hcase
        subst hcase
        rw [Option.getD_some, List.mem_append, List.mem_singleton]
        exact or_iff_left (Ne.symm hne)
      · exact Iff.rfl

/-- Storing an event that is not theirs. -/
theorem storeEvent_leavesEvent {event : CaseEvent} (hne : event.eventId ≠ eventId) :
    LeavesEvent caseId eventId (storeEvent event) := by
  refine Calm.bind (Calm.peek _) fun existing => ?_
  cases existing with
  | some existing => exact Calm.pure _
  | none =>
    refine Calm.bind (fun p s hs => ?_) fun _ => Calm.pure _
    have hstored : (s.events.put event).get? eventId = s.events.get? eventId :=
      Table.get?_put_of_ne _ hne
    have hlisted : eventId ∈ (listEvent (listEvent s.caseEvents event.eventId event.caseId)
        event.eventId event.metaCaseId caseId).getD [] ↔ eventId ∈ (s.caseEvents caseId).getD [] :=
      (mem_listEvent_of_ne hne _).trans (mem_listEvent_of_ne hne _)
    have hsame : ({ s with
        events := s.events.put event
        caseEvents := listEvent (listEvent s.caseEvents event.eventId event.caseId)
          event.eventId event.metaCaseId } : Store).HasEvent caseId eventId ↔
        s.HasEvent caseId eventId := by
      rw [hasEvent_iff, hasEvent_iff, hstored]
      exact and_congr_left' hlisted
    refine ⟨fun h => hsame.2 (hs.1 ?_), hsame.trans hs.2⟩
    rwa [← hstored]

/-- Storing the event of the requests. -/
theorem storeEvent_records {event : CaseEvent} (hid : event.eventId = eventId)
    (hcase : event.caseId = some caseId) (hne : caseId ≠ "") :
    Records (EventOnCase caseId eventId) (fun s => s.HasEvent caseId eventId)
      (storeEvent event) := by
  intro s hs hR
  have hnone : s.events.get? event.eventId = none := by
    rw [hid]
    by_contra hstored
    exact hR (hs (Option.isSome_iff_ne_none.2 hstored))
  have hrun : storeEvent event s = (.ok event, { s with
      events := s.events.put event
      caseEvents := listEvent (listEvent s.caseEvents event.eventId event.caseId)
        event.eventId event.metaCaseId }) := by
    unfold storeEvent
    rw [peek_bind_run, hnone]
    rfl
  have hlisted : ∀ (ix : Index String (List String)) (target : Option String),
      eventId ∈ (ix caseId).getD [] → eventId ∈ (listEvent ix eventId target caseId).getD [] := by
    intro ix target hmem
    cases target with
    | none => exact hmem
    | some target =>
      unfold listEvent
      dsimp only
      split
      · exact hmem
      · rw [Index.set_apply]
        split
        · rename_i htarget
          rw [← htarget, Option.getD_some]
          exact List.mem_append_left _ hmem
        · exact hmem
  have hafter : (storeEvent event s).2.HasEvent caseId eventId := by
    rw [hrun, hasEvent_iff]
    refine ⟨?_, ?_⟩
    · change eventId ∈ (listEvent (listEvent s.caseEvents event.eventId event.caseId)
        event.eventId event.metaCaseId caseId).getD []
      rw [hid, hcase]
      refine hlisted _ _ ?_
      unfold listEvent
      dsimp only
      rw [if_neg hne, Index.set_apply, if_pos rfl, Option.getD_some]
      exact List.mem_append_right _ List.mem_cons_self
    · change ((s.events.put event).get? eventId).isSome = true
      rw [← hid, Table.get?_put_self]
      rfl
  refine ⟨fun _ => hafter, iff_of_true hafter ?_⟩
  rw [hrun]
  rfl

theorem putCase_leavesEvent (case : AtomicCaseProjection) :
    LeavesEvent caseId eventId (putCase case) :=
  leavesEvent_of_fixes (putCase_fixes (fun _ _ => rfl) case)

theorem requireAtomicCase_leavesEvent (target : String) :
    LeavesEvent caseId eventId (requireAtomicCase target) :=
  Calm.bind (Calm.peek _) fun _ => Calm.orRaise _ _

theorem recordAcknowledgementScope_leavesEvent (target acknowledgedAt : String)
    (severity : Severity) :
    LeavesEvent caseId eventId (recordAcknowledgementScope target acknowledgedAt severity) :=
  Calm.bind (requireAtomicCase_leavesEvent target) fun _ =>
    leavesEvent_of_fixes (Fixes.alter fun _ => rfl)

theorem caseWriteGuard_leavesEvent {α : Type} (target : String) {body : StoreM α}
    (hbody : LeavesEvent caseId eventId body) :
    LeavesEvent caseId eventId (caseWriteGuard target body) :=
  Calm.bind (Calm.peek _) fun _ => Calm.bind (Calm.raiseIf _ _) fun _ => hbody

/-! ## Observations -/

section Observers

variable (py : Python) (policy : CasePolicy) {draws : ObserveDraws}

theorem coveredSeverity_leavesEvent (case : AtomicCaseProjection) :
    LeavesEvent caseId eventId (coveredSeverity case) := by
  unfold coveredSeverity
  split
  · refine Calm.bind (Calm.peek _) fun scope => ?_
    cases scope with
    | some scope => exact Calm.pure _
    | none =>
      exact Calm.bind (recordAcknowledgementScope_leavesEvent _ _ _) fun _ => Calm.pure _
  · exact Calm.pure _

theorem guardedCaseWrite_leavesEvent {α : Type} (case : AtomicCaseProjection)
    {method : AtomicCaseProjection → StoreM α}
    (hmethod : ∀ case, LeavesEvent caseId eventId (method case)) :
    LeavesEvent caseId eventId (guardedCaseWrite case method) := by
  unfold guardedCaseWrite
  split
  · exact hmethod case
  · exact Calm.bind (requireAtomicCase_leavesEvent _) hmethod

theorem updateUnhealthy_leavesEvent (hne : draws.update.eventId ≠ eventId)
    (observation : ObservationRecord) (case : AtomicCaseProjection) :
    LeavesEvent caseId eventId (updateUnhealthy policy observation draws case) :=
  Calm.bind (coveredSeverity_leavesEvent case) fun _ =>
    Calm.bind (putCase_leavesEvent _) fun _ =>
    Calm.bind (storeEvent_leavesEvent hne) fun _ => Calm.pure _

theorem recordClean_leavesEvent (hne : draws.update.eventId ≠ eventId)
    (observation : ObservationRecord) (case : AtomicCaseProjection) :
    LeavesEvent caseId eventId (recordClean policy observation draws case) :=
  Calm.bind (putCase_leavesEvent _) fun _ =>
    Calm.bind (storeEvent_leavesEvent hne) fun _ => Calm.pure _

theorem createAtomicCase_leavesEvent (case : AtomicCaseProjection)
    (aliases : List CaseIdentityAlias) {events : List CaseEvent}
    (hne : ∀ event ∈ events, event.eventId ≠ eventId) :
    LeavesEvent caseId eventId (createAtomicCase case aliases events) := by
  have hevents : ∀ {rest : List CaseEvent}, (∀ event ∈ rest, event.eventId ≠ eventId) →
      LeavesEvent caseId eventId (forEach storeEvent rest) := by
    intro rest
    induction rest with
    | nil => exact fun _ => Calm.pure _
    | cons event rest ih =>
      intro hrest
      rw [List.forall_mem_cons] at hrest
      exact Calm.bind (storeEvent_leavesEvent hrest.1) fun _ =>
        Calm.bind (ih hrest.2) fun _ => Calm.pure _
  refine Calm.bind (leavesEvent_of_fixes (aliasedCase_fixes aliases)) fun aliased => ?_
  cases aliased with
  | some existing => exact Calm.pure _
  | none =>
    refine Calm.bind (Calm.peek _) fun same => ?_
    cases same with
    | some existing => exact Calm.pure _
    | none =>
      exact Calm.bind (putCase_leavesEvent case) fun _ =>
        Calm.bind (Calm.forEach (k := storeAlias)
          (fun _ => leavesEvent_of_fixes (Fixes.alter fun _ => rfl)) aliases) fun _ =>
        Calm.bind (hevents hne) fun _ => Calm.pure _

/-- The ids that an observation draws for its events are not the one of the requests. -/
def ObserveDraws.Avoids (draws : ObserveDraws) (eventId : String) : Prop :=
  draws.update.eventId ≠ eventId ∧ draws.created.eventId ≠ eventId ∧
    draws.unhealthy.eventId ≠ eventId

instance (draws : ObserveDraws) (eventId : String) : Decidable (draws.Avoids eventId) := by
  unfold ObserveDraws.Avoids; infer_instance

theorem createdEvents_avoid (h : draws.Avoids eventId) (observation : ObservationRecord)
    (aliasType : AliasType) :
    ∀ event ∈ createdEvents policy observation aliasType draws, event.eventId ≠ eventId := by
  intro event hevent
  unfold createdEvents at hevent
  rw [List.mem_cons, List.mem_singleton] at hevent
  rcases hevent with rfl | rfl
  · exact h.2.1
  · exact h.2.2

/-- Observing a case writes an event of the case, or creates it. -/
theorem observeCase_leavesEvent (h : draws.Avoids eventId) (observation : ObservationRecord)
    (case : Option AtomicCaseProjection) :
    LeavesEvent caseId eventId (observeCase py policy observation draws case) := by
  have hevent : ∀ {event : CaseEvent} (f : CaseEvent → ObserveResult),
      event.eventId = draws.update.eventId →
      LeavesEvent caseId eventId (storeEvent event >>= fun event => pure (f event)) :=
    fun f hid => Calm.bind (storeEvent_leavesEvent (hid ▸ h.1)) fun _ => Calm.pure _
  unfold observeCase
  cases case with
  | none =>
    cases observation.status with
    | clean => exact hevent _ rfl
    | resolved => exact hevent _ rfl
    | unknown => exact hevent _ rfl
    | firing =>
      refine Calm.bind (createAtomicCase_leavesEvent _ _ (createdEvents_avoid policy h _ _)) ?_
      rintro ⟨case, events, created⟩
      cases created with
      | true => exact Calm.pure _
      | false =>
        exact guardedCaseWrite_leavesEvent case (updateUnhealthy_leavesEvent policy h.1 observation)
  | some case =>
    cases observation.status with
    | firing =>
      exact guardedCaseWrite_leavesEvent case (updateUnhealthy_leavesEvent policy h.1 observation)
    | clean =>
      exact guardedCaseWrite_leavesEvent case (recordClean_leavesEvent policy h.1 observation)
    | resolved =>
      exact guardedCaseWrite_leavesEvent case (recordClean_leavesEvent policy h.1 observation)
    | unknown => exact hevent _ rfl

/-- **No store call of an observation touches the event of a request.** -/
theorem observer_leavesEvent (h : draws.Avoids eventId) (c : Observer) :
    LeavesEvent caseId eventId (c.next py policy draws) := by
  cases c with
  | idle => exact Calm.pure _
  | storing observation =>
    refine Calm.bind (Calm.bind (Calm.peek _) fun existing => ?_) fun _ => Calm.pure _
    cases existing with
    | some existing => exact Calm.pure _
    | none => exact Calm.bind (leavesEvent_of_fixes (Fixes.alter fun _ => rfl)) fun _ => Calm.pure _
  | aliasing observation => exact Calm.bind (Calm.peek _) fun _ => Calm.pure _
  | loading observation id =>
    refine Calm.bind (Calm.bind (Calm.peek _) fun case => ?_) fun _ => Calm.pure _
    rcases case with _ | case | case
    · exact Calm.pure _
    · exact Calm.pure _
    · exact Calm.raise _
  | writing observation case =>
    change LeavesEvent caseId eventId (if _ then _ else _)
    split
    · refine Calm.bind (createAtomicCase_leavesEvent _ _ (createdEvents_avoid policy h _ _)) ?_
      rintro ⟨case, events, created⟩
      cases created <;> exact Calm.pure _
    · exact Calm.bind (observeCase_leavesEvent py policy h observation case) fun _ => Calm.pure _
  | updating observation case =>
    exact Calm.bind (guardedCaseWrite_leavesEvent case
      (updateUnhealthy_leavesEvent policy h.1 observation)) fun _ => Calm.pure _

end Observers

/-! ## The writes of a request -/

section Writes

variable (py : Python) (policy : CasePolicy) (resume : GraphResume)

/-- What leaves the event on its case exactly when it returns. -/
def LeavesItsEvent (caseId eventId : String) {α : Type} (x : StoreM α) : Prop :=
  Records (EventOnCase caseId eventId) (fun s => s.HasEvent caseId eventId) x

theorem requireAtomicCase_caseId {target : String} {s t : Store} {case : AtomicCaseProjection}
    (h : requireAtomicCase target s = (.ok case, t)) : case.caseId = target := by
  unfold requireAtomicCase at h
  rw [peek_bind_run] at h
  cases hcase : s.atomicCase? target with
  | none =>
    rw [hcase] at h
    cases h
  | some stored =>
    rw [hcase] at h
    cases h
    exact caseId_of_atomicCase? hcase

theorem orText_of_ne {text : String} (h : text ≠ "") (other : String) : orText text other = text :=
  if_neg h

theorem ack_leavesItsEvent (hcase : caseId ≠ "") (hid : eventId ≠ "") (operator now : String)
    (draw : Draw) : LeavesItsEvent caseId eventId (ack policy caseId operator eventId now draw) := by
  refine Records.bind_of (requireAtomicCase_leavesEvent caseId)
    (fun s case t h => requireAtomicCase_caseId h) fun case hown => ?_
  refine Records.bind (recordAcknowledgementScope_leavesEvent _ _ _) fun _ =>
    Records.bind (putCase_leavesEvent _) fun _ => Records.returns ?_ _
  refine storeEvent_records (orText_of_ne hid _) ?_ hcase
  rw [← hown]

theorem suppress_leavesItsEvent (hcase : caseId ≠ "") (hid : eventId ≠ "") (reason : String)
    (source : SuppressionSource) (operator : String) (ttlSeconds : Option Nat) (now : Int)
    (draw : Draw) : LeavesItsEvent caseId eventId
      (suppress py policy caseId reason source operator ttlSeconds eventId now draw) := by
  refine Records.bind_of (requireAtomicCase_leavesEvent caseId)
    (fun s case t h => requireAtomicCase_caseId h) fun case hown => ?_
  refine Records.bind (fun _ _ hs => hs) fun _ =>
    Records.bind (putCase_leavesEvent _) fun _ => Records.returns ?_ _
  refine storeEvent_records (orText_of_ne hid _) ?_ hcase
  rw [← hown]

/-- A verdict on the case of the requests. -/
theorem applyDecision_leavesItsEvent (hcase : caseId ≠ "") (hid : eventId ≠ "")
    {case : AtomicCaseProjection} (hown : case.caseId = caseId) {request : DecisionRequest}
    (hverdict : request.decision ∈ ["approved", "rejected"]) (dump : JsonDict)
    (summary : Option JsonDict) (draws : DecisionDraws) : LeavesItsEvent caseId eventId
      (applyPrimaryDecisionState py (.atomic case) request dump summary eventId draws) := by
  unfold applyPrimaryDecisionState
  dsimp only
  rw [if_neg (not_not.2 hverdict)]
  refine Records.bind (Calm.peek _) fun _ => Records.bind (Calm.raiseIf _ _) fun _ => ?_
  refine Records.bind_of (Calm.peek _) (P := fun latest : Option CaseProjection =>
    ∀ stored ∈ latest.bind CaseProjection.atomic?, stored.caseId = caseId) ?_ fun latest hlatest => ?_
  · intro s latest t h stored hstored
    cases h
    exact (caseId_of_atomicCase? hstored).trans hown
  refine Records.bind (Calm.raiseIf _ _) fun _ =>
    Records.bind (putCase_leavesEvent _) fun _ => Records.returns ?_ _
  refine storeEvent_records (orText_of_ne hid _) (congrArg some ?_) hcase
  change (((latest.bind CaseProjection.atomic?).getD case)).caseId = caseId
  cases hstored : latest.bind CaseProjection.atomic? with
  | none => exact hown
  | some stored => exact hlatest stored hstored

theorem recordResult_leavesItsEvent (hcase : caseId ≠ "") {objective : VerificationObjective}
    (hown : objective.caseId = caseId) (now : String) : LeavesItsEvent caseId eventId
      (recordLhpVerificationResult policy objective ⟨eventId, now⟩) := by
  refine Records.bind (Calm.peek _) fun _ => Records.bind (Calm.orRaise _ _) fun _ =>
    Records.bind (leavesEvent_of_fixes (Fixes.alter fun _ => rfl)) fun _ => Records.returns ?_ _
  unfold storeEvent?
  refine Records.returns ?_ _
  exact storeEvent_records rfl (congrArg some hown) hcase

/-! ## The patterns -/

/-- The ids that a request draws for events of its own are not the one it looks for. -/
def ConsoleDraws.Avoids (draws : ConsoleDraws) (eventId : String) : Prop :=
  draws.summary.event.eventId ≠ eventId ∧ draws.update.event.eventId ≠ eventId ∧
    draws.feedback.eventId ≠ eventId

instance (draws : ConsoleDraws) (eventId : String) : Decidable (draws.Avoids eventId) := by
  unfold ConsoleDraws.Avoids; infer_instance

/-- The record of the requests is their event on their case. -/
abbrev Through (caseId eventId : String) {α : Type} (calls : Calls α) : Prop :=
  calls.After (EventOnCase caseId eventId) fun s => s.HasEvent caseId eventId

abbrev Makes (caseId eventId : String) (changes : List StateChange) {α : Type} (calls : Calls α) :
    Prop :=
  calls.Changing (EventOnCase caseId eventId) (fun s => s.HasEvent caseId eventId) changes

abbrev ComesIn (caseId eventId : String) {α : Type} (calls : Calls α) : Prop :=
  calls.Before (EventOnCase caseId eventId) fun s => s.HasEvent caseId eventId

theorem plain_through {α : Type} {x : StoreM α} (hx : LeavesEvent caseId eventId x) :
    Through caseId eventId (Calls.plain x) :=
  After.ofAction hx

theorem resolveByAlias_through (text : String) : ∀ aliasTypes : List AliasType,
    Through caseId eventId (Calls.resolveByAlias text aliasTypes)
  | [] => plain_through (Calm.peek _)
  | _ :: rest => by
    refine After.bind (plain_through (Calm.peek _)) fun id => ?_
    cases truthyId id with
    | some id => exact After.pure _
    | none => exact resolveByAlias_through text rest

theorem resolveCaseIdentifier_through (identifier : String) :
    Through caseId eventId (Calls.resolveCaseIdentifier identifier) := by
  unfold Calls.resolveCaseIdentifier
  dsimp only
  split
  · exact After.pure _
  · refine After.bind (plain_through (Calm.peek _)) fun direct => ?_
    cases direct.bind CaseProjection.atomic? with
    | some case => exact After.pure _
    | none => exact resolveByAlias_through _ _

theorem graphCase_through (incidentId : String) :
    Through caseId eventId (Calls.graphCase incidentId) :=
  After.bind (resolveCaseIdentifier_through incidentId) fun _ =>
    After.bind (plain_through (Calm.peek _)) fun _ => After.pure _

theorem requireGraphCase_through (incidentId : String) :
    Through caseId eventId (Calls.requireGraphCase incidentId) :=
  After.bind (graphCase_through incidentId) fun _ => After.orStop _ _

theorem getSummary_through (incidentId : String) :
    Through caseId eventId (Calls.getSummary py incidentId) :=
  After.bind (graphCase_through incidentId) fun _ => After.pure _

theorem checkSummaryId_through (target : String) :
    Through caseId eventId (Calls.checkSummaryId py target) :=
  After.bind (After.orStop _ _) fun _ => After.pure _

/-! ## What the graph's memory reads and writes -/

theorem resolveByAlias_leavesEvent (text : String) : ∀ aliasTypes : List AliasType,
    LeavesEvent caseId eventId (resolveByAlias text aliasTypes)
  | [] => Calm.peek _
  | _ :: rest => by
    refine Calm.bind (Calm.peek _) fun id => ?_
    cases truthyId id with
    | some id => exact Calm.pure _
    | none => exact resolveByAlias_leavesEvent text rest

theorem requireGraphCase_leavesEvent (incidentId : String) :
    LeavesEvent caseId eventId (requireGraphCase incidentId) := by
  have hresolve : LeavesEvent caseId eventId (resolveCaseIdentifier incidentId) := by
    unfold resolveCaseIdentifier
    dsimp only
    split
    · exact Calm.pure _
    · refine Calm.bind (Calm.peek _) fun direct => ?_
      cases direct.bind CaseProjection.atomic? with
      | some case => exact Calm.pure _
      | none => exact resolveByAlias_leavesEvent _ _
  exact Calm.bind (Calm.bind hresolve fun _ => Calm.bind (Calm.peek _) fun _ => Calm.pure _)
    fun _ => Calm.orRaise _ _

theorem writeSummary_leavesEvent {graph : GraphDraws} (hne : graph.event.eventId ≠ eventId)
    (target : String) (summary : JsonDict) :
    LeavesEvent caseId eventId (writeSummary py target summary graph) :=
  Calm.bind (requireGraphCase_leavesEvent target) fun _ => Calm.bind (putCase_leavesEvent _)
    fun _ => Calm.bind (storeEvent_leavesEvent hne) fun _ => Calm.pure _

theorem writeCaseUpdate_leavesEvent {graph : GraphDraws} (hne : graph.event.eventId ≠ eventId)
    (target : String) (fields : JsonDict) :
    LeavesEvent caseId eventId (writeCaseUpdate py target fields graph) :=
  Calm.bind (requireGraphCase_leavesEvent target) fun _ => Calm.bind (putCase_leavesEvent _)
    fun _ => Calm.bind (storeEvent_leavesEvent hne) fun _ => Calm.pure _

theorem recordOperatorFeedback_leavesEvent {draw : Draw} (hne : draw.eventId ≠ eventId)
    (feedback : OperatorFeedback) (now : String) :
    LeavesEvent caseId eventId (recordOperatorFeedback policy feedback now draw) := by
  have hrecord : LeavesEvent caseId eventId (recordFeedback feedback) := by
    refine Calm.bind (Calm.peek _) fun existing => ?_
    cases existing with
    | some existing => exact Calm.pure _
    | none => exact Calm.bind (leavesEvent_of_fixes (Fixes.alter fun _ => rfl)) fun _ => Calm.pure _
  refine Calm.bind hrecord fun stored => ?_
  cases truthyId stored.caseId with
  | none => exact Calm.pure _
  | some target =>
    refine Calm.bind (requireAtomicCase_leavesEvent target) fun case => ?_
    split
    · exact Calm.pure _
    · exact Calm.bind (putCase_leavesEvent _) fun _ =>
        Calm.bind (storeEvent_leavesEvent hne) fun _ => Calm.pure _

variable {draws : ConsoleDraws}

theorem writeOperatorFeedback_through (h : draws.Avoids eventId) (target : String)
    (request : DecisionRequest) (payload : JsonDict) (submittedIdentifier feedbackId : String) :
    Through caseId eventId (Calls.writeOperatorFeedback py policy target request payload
      submittedIdentifier feedbackId draws.toDecisionDraws) :=
  plain_through (Calm.bind (Calm.raiseIf _ _) fun _ =>
    caseWriteGuard_leavesEvent target (recordOperatorFeedback_leavesEvent policy h.2.2 _ _))

theorem storeDecision_makes (h : draws.Avoids eventId) (incidentId : String)
    (decision summary : JsonDict) : Makes caseId eventId [.summarized]
      (Calls.storeDecision py incidentId decision summary draws.toDecisionDraws) := by
  have hput : Makes caseId eventId [.summarized]
      (Calls.putSummary py incidentId summary draws.summary) :=
    Changing.bind (Changing.of_after (requireGraphCase_through incidentId) []) fun _ =>
      Changing.change (caseWriteGuard_leavesEvent _ (writeSummary_leavesEvent py h.1 _ _))
  have hupdate : Through caseId eventId
      (Calls.updateCase py incidentId (decisionFields decision summary) draws.update) :=
    After.bind (requireGraphCase_through incidentId) fun _ =>
      plain_through (caseWriteGuard_leavesEvent _ (writeCaseUpdate_leavesEvent py h.2.1 _ _))
  exact Changing.bind hput fun _ =>
    Changing.of_after (After.bind hupdate fun _ => After.pure _) []

theorem persistFinalDecision_makes (h : draws.Avoids eventId) (incidentId : String)
    (decision finalState : JsonDict) : Makes caseId eventId [.summarized]
      (Calls.persistFinalDecision py incidentId decision finalState draws.toDecisionDraws) := by
  refine Changing.bind (Changing.of_after (getSummary_through py incidentId) []) fun summary => ?_
  cases truthyDict summary with
  | none => exact Changing.of_after (After.pure _) _
  | some summary =>
    refine Changing.bind (Changing.of_after (After.ofExcept _) []) fun executed =>
      Changing.bind (Changing.of_after (After.ofExcept _) []) fun results =>
      Changing.bind (Changing.of_after (After.stopIf _ _) []) fun _ => ?_
    exact Changing.bind (storeDecision_makes py h _ _ _) fun _ =>
      Changing.of_after (After.pure _) []

theorem settleDecision_makes (h : draws.Avoids eventId) (incidentId : String)
    (decision summary : JsonDict) (status : Json) (finalState : Option JsonDict) :
    Makes caseId eventId [.summarized] (Calls.settleDecision py incidentId decision summary status
      draws.toDecisionDraws finalState) := by
  unfold Calls.settleDecision
  cases finalState with
  | none =>
    exact Changing.bind (storeDecision_makes py h _ _ _) fun _ => Changing.of_after (After.pure _) []
  | some finalState =>
    exact Changing.bind (persistFinalDecision_makes py h _ _ _) fun _ =>
      Changing.of_after (After.pure _) []

variable {resume}

theorem resumeInvestigation_makes
    (hresume : ∀ threadId decision, LeavesEvent caseId eventId (resume threadId decision))
    (incidentId : String) (decision : JsonDict) : Makes caseId eventId [.resumed]
      (Calls.resumeInvestigation py resume incidentId decision) := by
  refine Changing.bind (Changing.of_after (resolveCaseIdentifier_through incidentId) [])
    fun resolved => ?_
  refine Changing.bind (Changing.of_after (getSummary_through py _) []) fun summary => ?_
  cases truthyDict summary with
  | none => exact Changing.of_after (After.pure _) _
  | some summary =>
    dsimp only
    split
    · exact Changing.of_after (After.pure _) _
    · refine Changing.bind (Changing.of_after (After.stopIf _ _) []) fun _ => ?_
      exact Changing.bind (Changing.attempt (hresume _ _)) fun _ =>
        Changing.of_after (After.pure _) []

theorem recordOperatorDecision_makes (h : draws.Avoids eventId)
    (hresume : ∀ threadId decision, LeavesEvent caseId eventId (resume threadId decision))
    (incidentId : String) (decision : JsonDict) :
    Makes caseId eventId [.resumed, .summarized]
      (Calls.recordOperatorDecision py resume incidentId decision draws.toDecisionDraws) := by
  refine Changing.bind (Changing.of_after (resolveCaseIdentifier_through incidentId) [])
    fun resolved => ?_
  refine Changing.bind (Changing.of_after (getSummary_through py _) []) fun summary => ?_
  cases truthyDict summary with
  | none => exact Changing.of_after (After.pure _) _
  | some summary =>
    dsimp only
    split
    · exact Changing.bind (resumeInvestigation_makes py hresume _ _) fun finalState =>
        settleDecision_makes py h _ _ _ _ finalState
    · refine Changing.bind (Changing.of_after (After.pure none) [.resumed]) fun finalState =>
        settleDecision_makes py h _ _ _ _ finalState

theorem recordPrimaryDecision_makes (h : draws.Avoids eventId)
    (hresume : ∀ threadId decision, LeavesEvent caseId eventId (resume threadId decision))
    (case : CaseProjection) (request : DecisionRequest) :
    Makes caseId eventId [.resumed, .summarized]
      (Calls.recordPrimaryDecision py resume case request draws.toDecisionDraws) :=
  Changing.bind (recordOperatorDecision_makes py h hresume _ _) fun _ =>
    Changing.of_after (After.bind (After.stopIf _ _) fun _ => After.pure _) []

theorem consoleActionId_ne_empty (action idempotencyKey targetId : String) :
    consoleActionId py action idempotencyKey targetId ≠ "" := by
  intro h
  have hlength := congrArg String.length h
  have hprefix : "evt_loop_console_".length = 17 := by decide
  have hempty : "".length = 0 := by decide
  unfold consoleActionId at hlength
  rw [String.length_append, hprefix, hempty] at hlength
  omega

theorem CaseRequest.eventId_ne_empty (request : CaseRequest) (target : String) :
    request.eventId py target ≠ "" := by
  cases request <;> exact consoleActionId_ne_empty py _ _ _

/-- A decision that has found no event of its own. -/
theorem decision_pending (h : draws.Avoids eventId) (hid : eventId ≠ "")
    (hresume : ∀ threadId decision, LeavesEvent caseId eventId (resume threadId decision))
    {case : AtomicCaseProjection} (hown : case.caseId = caseId) (hcase : caseId ≠ "")
    (request : ConsoleDecision) {β : Type} {f : String → Calls β}
    (hf : ∀ target, Through caseId eventId (f target)) :
    (request.calls py policy resume case eventId draws false >>= f).Pending
      (EventOnCase caseId eventId) (fun s => s.HasEvent caseId eventId) [] := by
  unfold ConsoleDecision.calls
  dsimp only
  split
  · rw [Script.bind_bind]
    refine Pending.last List.not_mem_nil ?_ fun acked =>
      After.bind (After.bind (checkSummaryId_through py _) fun _ => After.pure _) hf
    rw [hown]
    exact ack_leavesItsEvent policy hcase hid _ _ _
  · rename_i hverdict
    have hdecision : request.decision ∈ ["approved", "rejected"] := by
      have hallowed := request.allowed
      unfold DECISIONS at hallowed
      simp only [List.mem_cons, List.not_mem_nil, or_false] at hallowed ⊢
      tauto
    rw [Script.bind_bind]
    refine Pending.after_changes (recordPrimaryDecision_makes py h hresume _ _) (by decide)
      (fun c _ => List.not_mem_nil) fun summary passed hpassed => ?_
    rw [Script.bind_bind]
    refine Pending.last (fun hdecided => ?_)
      (applyDecision_leavesItsEvent py hcase hid hown hdecision _ _ _) fun updated =>
        After.bind (After.pure _) hf
    rcases hpassed _ hdecided with hin | hin
    · cases hin
    · exact absurd hin (by decide)

/-- **A request looks for its event, and leaves it with the last of its changes.** -/
theorem caseRequest_before {case : AtomicCaseProjection} (hcase : case.caseId ≠ "")
    (request : CaseRequest) (h : draws.Avoids (request.eventId py case.caseId))
    (hresume : ∀ threadId decision,
      LeavesEvent case.caseId (request.eventId py case.caseId) (resume threadId decision))
    (identifier : String) : ComesIn case.caseId (request.eventId py case.caseId)
      (request.calls py policy resume identifier case draws) := by
  have hid := request.eventId_ne_empty py case.caseId
  unfold CaseRequest.calls
  dsimp only
  cases request with
  | ack actorId idempotencyKey =>
    refine Before.look (After.pure _) ?_
    refine Pending.last List.not_mem_nil ?_ fun _ => After.pure _
    exact ack_leavesItsEvent policy hcase hid _ _ _
  | suppress actorId idempotencyKey reason ttlSeconds =>
    refine Before.look (After.pure _) ?_
    refine Pending.last List.not_mem_nil ?_ fun _ => After.pure _
    exact suppress_leavesItsEvent py policy hcase hid _ _ _ _ _ _
  | decision request idempotencyKey =>
    have hfeedback : ∀ target, Through case.caseId
        ((CaseRequest.decision request idempotencyKey).eventId py case.caseId)
        (Calls.writeOperatorFeedback py policy target request.toDecisionRequest
          [("source", .str "loop_console"), ("decision", .str request.decision)] identifier
          (loopConsoleFeedbackId py idempotencyKey target) draws.toDecisionDraws) :=
      fun target => writeOperatorFeedback_through py policy h target _ _ _ _
    refine Before.look ?_ ?_
    · exact After.bind (After.bind (checkSummaryId_through py _) fun _ => After.pure _) hfeedback
    · exact decision_pending py policy h hid hresume rfl hcase request hfeedback

theorem resultRequest_before {objective : VerificationObjective} (hcase : objective.caseId ≠ "")
    (request : VerificationResultRequest) (now : String) : ComesIn objective.caseId
      (consoleActionId py "verification_result" request.idempotencyKey objective.objectiveId)
      (request.calls py policy objective now) := by
  refine Before.look (After.pure _) ?_
  refine Pending.last List.not_mem_nil ?_ fun _ => After.pure _
  have hown : (applyConsoleResult py objective request).caseId = objective.caseId := rfl
  exact recordResult_leavesItsEvent policy hcase hown now

end Writes

end Calm

/-! ## The system -/

/-- Requests and observations on one store. -/
structure ConsoleSystem (ι : Type) extends Requests ι Store PyExc StateChange where
  observers : Nat → Observer

/-- Nothing has come in. -/
def ConsoleSystem.quiet (ι : Type) (store : Store) : ConsoleSystem ι where
  toRequests := .quiet store
  observers _ := .idle

/-- A request is received when it has found its case or objective; `elsewhere` is anything else
that touches the store. -/
inductive ConsoleLabel (ι : Type) where
  | observation (i : Nat) (observation : ObservationRecord)
  | observe (i : Nat) (draws : ObserveDraws)
  | receive (j : ι) (identifier : String) (request : CaseRequest) (draws : ConsoleDraws)
  | receiveResult (j : ι) (objectiveId : String) (request : VerificationResultRequest)
      (now : String)
  | call (j : ι)
  | elsewhere (after : Store)

section System

variable {ι : Type} [DecidableEq ι]
variable (py : Python) (policy : CasePolicy) (resume : GraphResume) (caseId eventId : String)

def ConsoleSystem.observeNext (sys : ConsoleSystem ι) (i : Nat) (draws : ObserveDraws) :
    ConsoleSystem ι :=
  let r := (sys.observers i).next py policy draws sys.store
  { sys with
    store := r.2
    observers := Function.update sys.observers i (goto .idle r.1) }

def ConsoleSystem.after (sys : ConsoleSystem ι) : ConsoleLabel ι → ConsoleSystem ι
  | .observation i observation =>
    { sys with observers := Function.update sys.observers i (.storing observation) }
  | .observe i draws => sys.observeNext py policy i draws
  | .receive j identifier request draws =>
    match (loopConsoleAtomicCase py identifier sys.store).1 with
    | .ok case =>
      { sys with
        toRequests := sys.receive j (request.calls py policy resume identifier case draws) }
    | .error _ => sys
  | .receiveResult j objectiveId request now =>
    match (findObjective objectiveId sys.store).1 with
    | .ok objective =>
      { sys with toRequests := sys.receive j (request.calls py policy objective now) }
    | .error _ => sys
  | .call j =>
    { sys with toRequests := sys.toRequests.call (fun s => s.HasEvent caseId eventId) j }
  | .elsewhere after => { sys with store := after }

/-- The requests have one key and one target, so that they look for one event on one case; nobody
else writes an event with its id or removes it. -/
def ConsoleLabel.Allowed (sys : ConsoleSystem ι) : ConsoleLabel ι → Prop
  | .observation i _ => sys.observers i = .idle
  | .observe _ draws => draws.Avoids eventId
  | .receive j identifier request draws =>
    (sys.requests j).script.isDone = true ∧ draws.Avoids eventId ∧
      ∀ case, (loopConsoleAtomicCase py identifier sys.store).1 = .ok case →
        case.caseId = caseId ∧ request.eventId py case.caseId = eventId
  | .receiveResult j objectiveId request _ =>
    (sys.requests j).script.isDone = true ∧
      ∀ objective, (findObjective objectiveId sys.store).1 = .ok objective →
        objective.caseId = caseId ∧ consoleActionId py "verification_result"
          request.idempotencyKey objective.objectiveId = eventId
  | .call _ => True
  | .elsewhere after => EventOnCase caseId eventId after ∧
      (after.HasEvent caseId eventId ↔ sys.store.HasEvent caseId eventId)

def consoleStep (sys : ConsoleSystem ι) (l : ConsoleLabel ι) (t : ConsoleSystem ι) : Prop :=
  l.Allowed py caseId eventId sys ∧ t = sys.after py policy resume caseId eventId l

/-- A request finds no event although another one is between its look and its event, or has stopped
there after a change. -/
def RequestsOverlap (sys : ConsoleSystem ι) : ConsoleLabel ι → Prop
  | .call j => sys.toRequests.Overlaps (fun s => s.HasEvent caseId eventId) j
  | _ => False

end System

/-! ## Runs -/

section Runs

variable {ι : Type} [DecidableEq ι]
variable {py : Python} {policy : CasePolicy} {resume : GraphResume} {caseId eventId : String}

/-- The record of the requests is their event on their case. -/
def ConsoleSystem.Once (caseId eventId : String) (sys : ConsoleSystem ι) : Prop :=
  Requests.Once (EventOnCase caseId eventId) (fun s => s.HasEvent caseId eventId) sys.toRequests

theorem once_step (hcase : caseId ≠ "")
    (hresume : ∀ threadId decision, LeavesEvent caseId eventId (resume threadId decision))
    {sys t : ConsoleSystem ι} {l : ConsoleLabel ι} (h : sys.Once caseId eventId)
    (hstep : Guarded (consoleStep py policy resume caseId eventId)
      (fun sys l => ¬ RequestsOverlap caseId eventId sys l) sys l t) : t.Once caseId eventId := by
  obtain ⟨hguard, hallowed, rfl⟩ := hstep
  cases l with
  | observation i observation => exact h
  | observe i draws =>
    have hobserve : LeavesEvent caseId eventId ((sys.observers i).next py policy draws) :=
      observer_leavesEvent py policy hallowed _
    exact Requests.Once.elsewhere h (hobserve.good h.good) (hobserve.record h.good)
  | receive j identifier request draws =>
    obtain ⟨hidle, havoids, htarget⟩ := hallowed
    unfold ConsoleSystem.after
    dsimp only
    cases hfound : (loopConsoleAtomicCase py identifier sys.store).1 with
    | error e => exact h
    | ok case =>
      obtain ⟨hown, hid⟩ := htarget case hfound
      subst hown hid
      exact Requests.Once.receive h hidle
        (caseRequest_before py policy hcase request havoids hresume identifier)
  | receiveResult j objectiveId request now =>
    obtain ⟨hidle, htarget⟩ := hallowed
    unfold ConsoleSystem.after
    dsimp only
    cases hfound : (findObjective objectiveId sys.store).1 with
    | error e => exact h
    | ok objective =>
      obtain ⟨hown, hid⟩ := htarget objective hfound
      subst hown hid
      exact Requests.Once.receive h hidle (resultRequest_before py policy hcase request now)
  | call j => exact Requests.Once.call h j hguard
  | elsewhere after => exact Requests.Once.elsewhere h hallowed.1 hallowed.2

/-- **Over every run of requests with one key and target, of observations and of anything else, in
which no request overlaps another one, every change is made at most once.** -/
theorem changes_run (hcase : caseId ≠ "")
    (hresume : ∀ threadId decision, LeavesEvent caseId eventId (resume threadId decision))
    {start : Store} (hstart : EventOnCase caseId eventId start) {labels : List (ConsoleLabel ι)}
    {sys : ConsoleSystem ι} (hrun : Run (Guarded (consoleStep py policy resume caseId eventId)
      fun sys l => ¬ RequestsOverlap caseId eventId sys l) (.quiet ι start) labels sys) :
    sys.changes.Nodup :=
  (hrun.invariant (I := ConsoleSystem.Once caseId eventId)
    (fun _ _ _ h hstep => once_step hcase hresume h hstep) (Requests.Once.quiet hstart)).nodup

theorem loopConsoleAtomicCase_fixes (py : Python) (identifier : String) :
    Fixes (id : Store → Store) (loopConsoleAtomicCase py identifier) := by
  have hfind : Fixes (id : Store → Store) (caseForIdentifier py identifier) := by
    unfold caseForIdentifier
    refine Fixes.bind (Fixes.orRaise _ _) fun text => Fixes.bind (Fixes.peek _) fun case => ?_
    cases case with
    | some case => exact Fixes.pure _
    | none => exact Fixes.peek _
  unfold loopConsoleAtomicCase
  exact Fixes.bind hfind fun _ => Fixes.bind (Fixes.orRaise _ _) fun _ => Fixes.orRaise _ _

/-- **A request that nobody interrupts does what its route does.** -/
theorem request_finishes (sys : ConsoleSystem ι) (j : ι) (identifier : String)
    (request : CaseRequest) (draws : ConsoleDraws) :
    ∃ n, ((fun sys => sys.after py policy resume caseId eventId (.call j))^[n]
      (sys.after py policy resume caseId eventId (.receive j identifier request draws))).store =
      (request.route py policy resume identifier draws sys.store).2 := by
  have hstate : (loopConsoleAtomicCase py identifier sys.store).2 = sys.store :=
    loopConsoleAtomicCase_fixes py identifier sys.store
  rw [caseRequest_run]
  rcases hr : loopConsoleAtomicCase py identifier sys.store with ⟨e | case, s⟩
  · rw [hr] at hstate
    subst hstate
    refine ⟨0, ?_⟩
    rw [bind_error hr]
    unfold ConsoleSystem.after
    simp only [hr]
    rfl
  · rw [hr] at hstate
    subst hstate
    rw [bind_ok hr]
    have hreceive : sys.after py policy resume caseId eventId
        (.receive j identifier request draws) = { sys with
          toRequests := sys.receive j
            (request.calls py policy resume identifier case draws) } := by
      unfold ConsoleSystem.after
      simp only [hr]
    rw [hreceive]
    generalize request.calls py policy resume identifier case draws = script
    obtain ⟨n, hn⟩ := Requests.call_finishes (fun s : Store => s.HasEvent caseId eventId)
      (sys.receive j script) j
    have hview : Function.Semiconj ConsoleSystem.toRequests
        (fun sys : ConsoleSystem ι => sys.after py policy resume caseId eventId (.call j))
        fun sys => sys.call (fun s : Store => s.HasEvent caseId eventId) j := fun _ => rfl
    have hiterate := congrArg Requests.store
      (hview.iterate_right n { sys with toRequests := sys.receive j script })
    have hscript : ((sys.receive j script).requests j).script = script := by
      change (Function.update sys.requests j (Request.mk script none) j).script = script
      rw [Function.update_self]
    refine ⟨n, hiterate.trans (hn.trans ?_)⟩
    rw [hscript]
    rfl

end Runs

/-! ## Two acknowledgements with one key -/

def consoleDraws (now : String) : ConsoleDraws where
  decidedAt := now
  summarizedAt := now
  summary := { resolvedAt := now, updatedAt := now, event := ⟨"evt_summary", now⟩ }
  update := { resolvedAt := now, updatedAt := now, event := ⟨"evt_update", now⟩ }
  ackedAt := now
  ack := ⟨"evt_ack", now⟩
  appliedAt := now
  applied := ⟨"evt_applied", now⟩
  feedbackId := "fb_1"
  feedbackCreatedAt := now
  feedbackAt := now
  feedback := ⟨"evt_feedback", now⟩
  suppressedAt := 0
  suppressed := ⟨"evt_suppressed", now⟩

/-- An investigation that ends at once. -/
def endsAtOnce : GraphResume := fun _ _ => pure []

theorem endsAtOnce_leavesEvent (caseId eventId : String) (threadId : Json) (decision : JsonDict) :
    LeavesEvent caseId eventId (endsAtOnce threadId decision) :=
  Calm.pure _

def ackEventId : String := consoleActionId asciiPython "ack" "key" "case_1"

/-- An acknowledgement, and the same again. -/
def ackAt (j : Fin 2) (now : String) : ConsoleLabel (Fin 2) :=
  .receive j "case_1" (.ack "operator" "key") (consoleDraws now)

def raisedAt (now : String) : ObserveDraws where
  caseId := "case_2"
  aliasId n := "alias_2" ++ toString n
  now := now
  created := ⟨"evt_created", now⟩
  unhealthy := ⟨"evt_unhealthy", now⟩
  updatedAt := now
  update := ⟨"evt_updated", now⟩

/-- A firing observation that raises the severity. -/
def raises : List (ConsoleLabel (Fin 2)) :=
  .observation 0 {
      observationId := "obs_1"
      sourceFingerprint := "fp_1"
      severity := .high
      status := .firing
      observedAt := "2026-01-01T01:00:00+00:00" } ::
    List.replicate 4 (.observe 0 (raisedAt "2026-01-01T01:00:00+00:00"))

/-- Both requests look before one of them acts, and the severity rises between their acts. -/
def bothLook : List (ConsoleLabel (Fin 2)) :=
  [ackAt 0 "2026-01-01T00:30:00+00:00", ackAt 1 "2026-01-01T00:31:00+00:00", .call 0, .call 1,
    .call 0] ++ raises ++ [.call 1]

/-- The second request comes after the first has acted. -/
def oneAfterTheOther : List (ConsoleLabel (Fin 2)) :=
  [ackAt 0 "2026-01-01T00:30:00+00:00", .call 0, .call 0] ++ raises ++
    [ackAt 1 "2026-01-01T00:31:00+00:00", .call 1, .call 1]

def consoleSystem (labels : List (ConsoleLabel (Fin 2))) : ConsoleSystem (Fin 2) :=
  labels.foldl (ConsoleSystem.after asciiPython {} endsAtOnce "case_1" ackEventId)
    (.quiet (Fin 2) mediumStore)

def Observer.isIdle : Observer → Bool
  | .idle => true
  | _ => false

theorem Observer.eq_idle {c : Observer} (h : c.isIdle = true) : c = .idle := by
  cases c <;> first | rfl | cases h

/-- The labels that can be checked by evaluation. -/
def ConsoleLabel.Scheduled (sys : ConsoleSystem (Fin 2)) : ConsoleLabel (Fin 2) → Bool
  | .observation i _ => (sys.observers i).isIdle
  | .observe _ draws => decide (draws.Avoids ackEventId)
  | .receive j identifier request draws =>
    (sys.requests j).script.isDone && decide (draws.Avoids ackEventId) &&
      match (loopConsoleAtomicCase asciiPython identifier sys.store).1 with
      | .ok case => case.caseId == "case_1" && request.eventId asciiPython case.caseId == ackEventId
      | .error _ => true
  | .receiveResult .. => false
  | .call _ => true
  | .elsewhere _ => false

theorem ConsoleLabel.Scheduled.allowed {sys : ConsoleSystem (Fin 2)} {l : ConsoleLabel (Fin 2)}
    (h : l.Scheduled sys = true) : l.Allowed asciiPython "case_1" ackEventId sys := by
  cases l with
  | observation i observation => exact Observer.eq_idle h
  | observe i draws =>
    have havoids : draws.Avoids ackEventId := of_decide_eq_true h
    exact havoids
  | receive j identifier request draws =>
    unfold ConsoleLabel.Scheduled at h
    rw [Bool.and_eq_true, Bool.and_eq_true, decide_eq_true_eq] at h
    refine ⟨h.1.1, h.1.2, fun case hcase => ?_⟩
    have hfound := h.2
    rw [hcase] at hfound
    rwa [Bool.and_eq_true, beq_iff_eq, beq_iff_eq] at hfound
  | receiveResult j objectiveId request now => cases h
  | call j => exact trivial
  | elsewhere after => cases h

instance (sys : ConsoleSystem (Fin 2)) (l : ConsoleLabel (Fin 2)) :
    Decidable (RequestsOverlap "case_1" ackEventId sys l) := by
  cases l <;> unfold RequestsOverlap <;> try unfold Requests.Overlaps
  all_goals infer_instance

theorem console_scheduled (guard : ConsoleSystem (Fin 2) → ConsoleLabel (Fin 2) → Prop)
    {labels : List (ConsoleLabel (Fin 2))}
    (h : Valid (fun sys l => l.Scheduled sys = true ∧ guard sys l)
      (ConsoleSystem.after asciiPython {} endsAtOnce "case_1" ackEventId)
      (.quiet (Fin 2) mediumStore) labels) :
    Run (Guarded (consoleStep asciiPython {} endsAtOnce "case_1" ackEventId) guard)
      (.quiet (Fin 2) mediumStore) labels (consoleSystem labels) :=
  (Run.of_valid h).carry (I := fun _ => True)
    (fun _ _ _ _ hstep =>
      ⟨trivial, hstep.1.2, ConsoleLabel.Scheduled.allowed hstep.1.1, hstep.2⟩) trivial

theorem eventOnCase_mediumStore : EventOnCase "case_1" ackEventId mediumStore := by
  unfold EventOnCase
  decide +kernel

/-- One request after the other acknowledges once. -/
theorem changes_run_oneAfterTheOther : (consoleSystem oneAfterTheOther).changes.Nodup :=
  changes_run (by decide) (endsAtOnce_leavesEvent _ _) eventOnCase_mediumStore
    (console_scheduled _ (by decide +kernel))

/-- **Both requests acknowledge the case, and the second one acknowledges a severity that nobody
has acknowledged.** -/
theorem not_changedOnce_bothLook :
    Run (consoleStep asciiPython {} endsAtOnce "case_1" ackEventId) (.quiet (Fin 2) mediumStore)
        bothLook (consoleSystem bothLook) ∧
      (consoleSystem bothLook).changes = [.acknowledged, .acknowledged] ∧
      ∃ case ∈ (consoleSystem bothLook).store.atomicCase? "case_1",
        case.Acknowledged ∧ case.severity = .high := by
  have hrun : Run (Guarded (consoleStep asciiPython {} endsAtOnce "case_1" ackEventId)
      fun _ _ => True) (.quiet (Fin 2) mediumStore) bothLook (consoleSystem bothLook) :=
    console_scheduled _ (by decide +kernel)
  exact ⟨hrun.of_guarded, by decide +kernel, by decide +kernel⟩

end NocAgent.Cases
