import NocAgent.Cases.ActiveFingerprint
import NocAgent.Cases.CaseTraffic

/-!
# Firing observations and cases that have ended

* `Observer.returns` — the case a call of `observe` returns with.
* `Shown` — a firing observation that returns with a case leaves it open.
* `Swallows` — the write of a firing observation finds its case closed, expired or linked.
* `shown_run_iff` — the runs in which no observation is swallowed are those in which every
  firing observation is shown.
-/

set_option autoImplicit false

namespace NocAgent.Cases

open Effects Effects.Action Keyed Lts

section Returns

variable (py : Python) (policy : CasePolicy) (draws : ObserveDraws)

/-- The case the call returns with, when its next store call is the last. -/
def Observer.returns : Observer → StoreM (Option AtomicCaseProjection)
  | .writing observation case =>
    if observation.status = .firing ∧ case = none then do
      let (aliasType, aliasValue) := observationAlias py observation
      let (case, _, created) ← createAtomicCase (newCase py policy observation aliasValue draws)
        (newAliases observation aliasType aliasValue draws)
        (createdEvents policy observation aliasType draws)
      pure (if created then some case else none)
    else do
      let result ← observeCase py policy observation draws case
      pure result.case
  | .updating observation case => do
    let result ← guardedCaseWrite case (updateUnhealthy policy observation draws)
    pure result.case
  | _ => pure none

/-- The observation of a call that is about to write. -/
def Observer.writes? : Observer → Option ObservationRecord
  | .writing observation _ => some observation
  | .updating observation _ => some observation
  | _ => none

/-- That store call is the one the observer makes. -/
theorem returns_state {c : Observer} {observation : ObservationRecord}
    (hwrites : c.writes? = some observation) (s : Store) :
    (c.returns py policy draws s).2 = (c.next py policy draws s).2 := by
  cases c with
  | idle | storing | aliasing | loading => cases hwrites
  | updating observation case =>
    unfold Observer.returns Observer.next
    dsimp only
    rw [bind_pure_state, bind_pure_state]
  | writing observation case =>
    unfold Observer.returns Observer.next
    dsimp only
    split
    · generalize createAtomicCase _ _ _ = creation
      have hnext : ∀ (a : AtomicCaseProjection × List CaseEvent × Bool) (t : Store),
          (((if a.2.2 = true then pure .idle else pure (.updating observation a.1)) :
            StoreM Observer) t).2 = t := by
        rintro ⟨case, events, created⟩ t
        cases created <;> rfl
      exact (bind_state (fun _ _ => rfl) creation s).trans (bind_state hnext creation s).symm
    · rw [bind_pure_state, bind_pure_state]

end Returns

/-! ## The law -/

/-- The case is stored, and it has not ended. -/
def Store.Open (s : Store) (caseId : String) : Prop :=
  ∃ case ∈ s.atomicCase? caseId, case.status ∉ TERMINAL_CASE_STATUSES

/-- **A firing observation is not swallowed**: when its call returns with a case, that case is open
right after the write. -/
def Shown (py : Python) (policy : CasePolicy) (sys : Traffic) : TrafficLabel → Traffic → Prop
  | .observe j draws, t =>
    ∀ observation ∈ (sys.observers j).writes?, observation.status = .firing →
      ∀ case, ((sys.observers j).returns py policy draws sys.store).1 = .ok (some case) →
        t.store.Open case.caseId
  | _, _ => True

/-- The case an update writes: it is read again under the guard.  A case without an id is not, and
has to be stored when its acknowledgement has no scope yet. -/
def Store.target? (s : Store) (case : AtomicCaseProjection) : Option AtomicCaseProjection :=
  if case.caseId ≠ "" then s.atomicCase? case.caseId
  else if case.Acknowledged ∧ s.scope? case = none ∧ s.atomicCase? case.caseId = none then none
  else some case

/-- The case a call that is about to write has found. -/
def Observer.case? : Observer → Option AtomicCaseProjection
  | .writing _ case => case
  | .updating _ case => some case
  | _ => none

/-- The write of a firing observation finds its case closed, expired or linked. -/
def Swallows (sys : Traffic) : TrafficLabel → Prop
  | .observe j _ =>
    ∃ observation ∈ (sys.observers j).writes?, observation.status = .firing ∧
      ∃ case ∈ (sys.observers j).case?, ∃ target ∈ sys.store.target? case,
        target.status ∈ [.closed, .expired, .linked]
  | _ => False

/-! ## What the writes leave -/

section Writes

variable {s : Store} {case : AtomicCaseProjection}

/-- An acknowledgement without a scope is adopted only for a stored case. -/
theorem coveredSeverity_missing (hack : case.Acknowledged) (hscope : s.scope? case = none)
    (hmissing : s.atomicCase? case.caseId = none) :
    coveredSeverity case s = (.error .keyError, s) := by
  have hrun : acknowledgementScope case.caseId case.acknowledgedAt s = (.ok none, s) := by
    rw [← hscope]
    rfl
  unfold coveredSeverity
  rw [if_pos (show case.acknowledgedAt ≠ "" ∨ case.acknowledgedBy ≠ "" from hack), bind_ok hrun]
  simp only [recordAcknowledgementScope, bind_bind_run, requireAtomicCase_bind_run, hmissing]

theorem coveredSeverity_ok (h : ¬ (case.Acknowledged ∧ s.scope? case = none ∧
    s.atomicCase? case.caseId = none)) : ∃ covered scopes, coveredSeverity case s =
      (.ok covered, { s with acknowledgementScopes := scopes }) := by
  cases hstored : s.atomicCase? case.caseId with
  | some stored => exact ⟨_, _, coveredSeverity_run hstored⟩
  | none =>
    unfold coveredSeverity
    by_cases hack : case.acknowledgedAt ≠ "" ∨ case.acknowledgedBy ≠ ""
    · rw [if_pos hack]
      cases hscope : s.scope? case with
      | none => exact absurd ⟨hack, hscope, hstored⟩ h
      | some scope =>
        have hrun : acknowledgementScope case.caseId case.acknowledgedAt s = (.ok (some scope), s) := by
          rw [← hscope]
          rfl
        exact ⟨scope, s.acknowledgementScopes, bind_ok hrun⟩
    · rw [if_neg hack]
      exact ⟨case.severity, s.acknowledgementScopes, rfl⟩

/-- An update writes its target, or raises when there is none. -/
theorem guardedUpdate_run (policy : CasePolicy) (observation : ObservationRecord)
    (draws : ObserveDraws) (s : Store) (case : AtomicCaseProjection) :
    match s.target? case with
    | some target => ∃ covered result t,
        guardedCaseWrite case (updateUnhealthy policy observation draws) s = (.ok result, t) ∧
        result.case = some (unhealthyCase policy target observation covered draws.updatedAt) ∧
        t.cases = s.cases.put
          (.atomic (unhealthyCase policy target observation covered draws.updatedAt))
    | none => ∃ e t, guardedCaseWrite case (updateUnhealthy policy observation draws) s =
        (.error e, t) := by
  have hwrite : ∀ target, ¬ (target.Acknowledged ∧ s.scope? target = none ∧
      s.atomicCase? target.caseId = none) → ∃ covered result t,
        updateUnhealthy policy observation draws target s = (.ok result, t) ∧
        result.case = some (unhealthyCase policy target observation covered draws.updatedAt) ∧
        t.cases = s.cases.put
          (.atomic (unhealthyCase policy target observation covered draws.updatedAt)) := by
    intro target hok
    obtain ⟨covered, scopes, hcovered⟩ := coveredSeverity_ok hok
    obtain ⟨event, ev, ix, hevent⟩ := storeEvent_run (unhealthyEvent policy (unhealthyCase policy
      target observation covered draws.updatedAt) target.signalSignature observation draws.update)
      { s with
        acknowledgementScopes := scopes
        cases := s.cases.put
          (.atomic (unhealthyCase policy target observation covered draws.updatedAt)) }
    have hrun : updateUnhealthy policy observation draws target s = _ :=
      (bind_ok hcovered).trans ((alter_bind_run _ _ _).trans (bind_ok hevent))
    exact ⟨covered, _, _, hrun, rfl, rfl⟩
  unfold Store.target? guardedCaseWrite
  by_cases hid : case.caseId = ""
  · rw [if_neg (not_not.2 hid), if_pos hid]
    by_cases hmissing : case.Acknowledged ∧ s.scope? case = none ∧ s.atomicCase? case.caseId = none
    · rw [if_pos hmissing]
      refine ⟨.keyError, s, ?_⟩
      unfold updateUnhealthy
      exact bind_error (coveredSeverity_missing hmissing.1 hmissing.2.1 hmissing.2.2)
    · rw [if_neg hmissing]
      exact hwrite case hmissing
  · rw [if_pos hid, if_neg hid]
    simp only [requireAtomicCase_bind_run]
    cases hstored : s.atomicCase? case.caseId with
    | none => exact ⟨_, _, rfl⟩
    | some target =>
      refine hwrite target fun h => ?_
      have hmissing := h.2.2
      rw [caseId_of_atomicCase? hstored, hstored] at hmissing
      cases hmissing

/-- An update reopens a resolved case, and leaves any other status. -/
theorem unhealthyCase_ended_iff (policy : CasePolicy) (target : AtomicCaseProjection)
    (observation : ObservationRecord) (covered : Severity) (now : String) :
    (unhealthyCase policy target observation covered now).status ∈ TERMINAL_CASE_STATUSES ↔
      target.status ∈ [CaseStatus.closed, .expired, .linked] := by
  change (if target.status = .recoveredPending ∨ target.status = .resolved then
    CaseStatus.investigating else target.status) ∈ TERMINAL_CASE_STATUSES ↔ _
  cases target.status <;> decide

/-- A case that was just written is open exactly when its new status is not a terminal one. -/
theorem open_put {t : Store} {written : AtomicCaseProjection}
    (h : t.cases = s.cases.put (.atomic written)) :
    t.Open written.caseId ↔ written.status ∉ TERMINAL_CASE_STATUSES := by
  unfold Store.Open
  rw [atomicCase?_put h, if_pos rfl]
  simp

/-- A case that was created is stored as it was drawn. -/
theorem createAtomicCase_returns {case : AtomicCaseProjection} {aliases : List CaseIdentityAlias}
    {events : List CaseEvent} {s : Store} {created : AtomicCaseProjection}
    (h : ((createAtomicCase case aliases events >>= fun result =>
      pure (if result.2.2 then some result.1 else none)) s).1 = .ok (some created)) :
    created = case ∧ (createAtomicCase case aliases events s).2.cases = s.cases.put (.atomic case) := by
  have haliased := aliasedCase_run aliases s
  cases hfree : s.aliased aliases with
  | error e =>
    rw [hfree] at haliased
    have hrun : createAtomicCase case aliases events s = (.error e, s) := bind_error haliased
    rw [bind_error hrun] at h
    cases h
  | ok found =>
    rw [hfree] at haliased
    cases found with
    | some existing =>
      have hrun : createAtomicCase case aliases events s = (.ok (existing, [], false), s) :=
        bind_ok haliased
      rw [bind_ok hrun] at h
      cases h
    | none =>
      cases hsame : s.sameFingerprint case.fingerprint with
      | some existing =>
        have hrun : createAtomicCase case aliases events s = (.ok (existing, [], false), s) := by
          unfold createAtomicCase
          rw [bind_ok haliased]
          simp only [peek_bind_run, hsame]
          rfl
        rw [bind_ok hrun] at h
        cases h
      | none =>
        obtain ⟨stored, ev, ix, hrun⟩ := createAtomicCase_created case hfree hsame events
        rw [bind_ok hrun] at h
        rw [hrun]
        cases h
        exact ⟨rfl, rfl⟩

end Writes

/-! ## One step, and a run -/

section Steps

variable {py : Python} {policy : CasePolicy}

/-- The write of an update is shown exactly when its target has not ended for good. -/
theorem update_shown_iff (observation : ObservationRecord) (draws : ObserveDraws) (s : Store)
    (case : AtomicCaseProjection) :
    (∀ written, ((guardedCaseWrite case (updateUnhealthy policy observation draws) >>=
        fun result => pure result.case) s).1 = .ok (some written) →
      ((guardedCaseWrite case (updateUnhealthy policy observation draws) >>=
        fun result => pure result.case) s).2.Open written.caseId) ↔
      ¬ ∃ target ∈ s.target? case, target.status ∈ [CaseStatus.closed, .expired, .linked] := by
  have hrun := guardedUpdate_run policy observation draws s case
  cases htarget : s.target? case with
  | none =>
    rw [htarget] at hrun
    obtain ⟨e, t, hrun⟩ := hrun
    rw [bind_error hrun]
    refine iff_of_true (fun written h => by cases h) ?_
    rintro ⟨target, hnone, -⟩
    cases hnone
  | some target =>
    rw [htarget] at hrun
    obtain ⟨covered, result, t, hrun, hcase, hcases⟩ := hrun
    have hreturn : (guardedCaseWrite case (updateUnhealthy policy observation draws) >>=
        fun result => pure result.case) s = (.ok (some (unhealthyCase policy target observation
          covered draws.updatedAt)), t) := by
      rw [bind_ok hrun, hcase]
      rfl
    have hopen := open_put hcases
    rw [unhealthyCase_ended_iff] at hopen
    rw [hreturn]
    constructor
    · rintro h ⟨other, hother, hended⟩
      cases hother
      exact hopen.1 (h _ rfl) hended
    · intro h written hwritten
      cases hwritten
      exact hopen.2 fun hended => h ⟨target, rfl, hended⟩

/-- **A step shows its firing observation exactly when it does not swallow it.** -/
theorem shown_iff {sys t : Traffic} {l : TrafficLabel} (hstep : trafficStep py policy sys l t) :
    Shown py policy sys l t ↔ ¬ Swallows sys l := by
  obtain ⟨-, rfl⟩ := hstep
  cases l with
  | receive | begin | write | link | resolve | append =>
    exact iff_of_true trivial fun h => h
  | observe j draws =>
    unfold Shown Swallows
    dsimp only
    change (∀ observation ∈ (sys.observers j).writes?, observation.status = .firing → ∀ case,
      ((sys.observers j).returns py policy draws sys.store).1 = .ok (some case) →
        Store.Open ((sys.observers j).next py policy draws sys.store).2 case.caseId) ↔ _
    cases hwrites : (sys.observers j).writes? with
    | none =>
      refine iff_of_true (fun _ h => by cases h) ?_
      rintro ⟨_, h, -⟩
      cases h
    | some observation =>
      rw [← returns_state py policy draws hwrites]
      by_cases hfiring : observation.status = .firing
      · have hboth : ∀ {A : AtomicCaseProjection → Prop} {B : Prop}, ((∀ case, A case) ↔ ¬ B) →
            ((∀ o ∈ some observation, o.status = .firing → ∀ case, A case) ↔
              ¬ ∃ o ∈ some observation, o.status = .firing ∧ B) := by
          intro A B h
          simp [hfiring, h]
        refine hboth ?_
        cases hc : sys.observers j with
        | idle | storing | aliasing | loading =>
          rw [hc] at hwrites
          cases hwrites
        | updating other case =>
          rw [hc] at hwrites
          cases hwrites
          refine (update_shown_iff observation draws sys.store case).trans ?_
          simp [Observer.case?]
        | writing other case =>
          rw [hc] at hwrites
          cases hwrites
          cases case with
          | some case =>
            have hreturns : (Observer.writing observation (some case)).returns py policy draws =
                (guardedCaseWrite case (updateUnhealthy policy observation draws) >>=
                  fun result => pure result.case) := by
              unfold Observer.returns observeCase
              dsimp only
              rw [if_neg (by simp)]
              simp only [hfiring]
            rw [hreturns]
            refine (update_shown_iff observation draws sys.store case).trans ?_
            simp [Observer.case?]
          | none =>
            refine iff_of_true ?_ fun ⟨_, h, _⟩ => by cases h
            have hreturns : (Observer.writing observation none).returns py policy draws =
                (createAtomicCase (newCase py policy observation (observationAlias py observation).2
                    draws)
                  (newAliases observation (observationAlias py observation).1
                    (observationAlias py observation).2 draws)
                  (createdEvents policy observation (observationAlias py observation).1 draws) >>=
                  fun result => pure (if result.2.2 then some result.1 else none)) := by
              unfold Observer.returns
              dsimp only
              rw [if_pos ⟨hfiring, rfl⟩]
            rw [hreturns]
            intro case hcase
            obtain ⟨rfl, hcases⟩ := createAtomicCase_returns hcase
            rw [bind_pure_state]
            exact (open_put hcases).2 (show CaseStatus.investigating ∉ _ by decide)
      · refine iff_of_true (fun o ho h => ?_) ?_
        · cases ho
          exact absurd h hfiring
        · rintro ⟨o, ho, h, -⟩
          cases ho
          exact hfiring h

/-- **The runs in which no firing observation is swallowed are those in which every firing
observation is shown.** -/
theorem shown_run_iff (sys t : Traffic) (ls : List TrafficLabel) :
    Run (Guarded (trafficStep py policy) fun sys l => ¬ Swallows sys l) sys ls t ↔
      Run (Doing (trafficStep py policy) (Shown py policy)) sys ls t := by
  have hstep : ∀ s l t, trafficStep py policy s l t → (Shown py policy s l t ↔ ¬ Swallows s l) :=
    fun _ _ _ h => shown_iff h
  exact Run.guarded_iff_doing hstep

end Steps

/-! ## A case that is linked after it was looked up -/

/-- A call of `observe`, from receipt on. -/
def observing (call : ObserveCall) (steps : Nat) : List TrafficLabel :=
  .receive 0 call.observation :: List.replicate steps (.observe 0 call.draws)

/-- The alert fires for the second time. -/
def secondFiring : ObserveCall :=
  alertCall "obs_3" 3 .firing "a" "" "2026-01-01T03:00:00+00:00"

/-- Two alerts fire; when the first fires again, its case is linked to the other one between the
lookup and the write. -/
def linkedMeanwhile : List TrafficLabel :=
  observing (alertCall "obs_1" 1 .firing "a" "" "2026-01-01T01:00:00+00:00") 4 ++
    (observing (alertCall "obs_2" 2 .firing "b" "" "2026-01-01T02:00:00+00:00") 4 ++
    (observing secondFiring 3 ++
    [.link {
      childCaseId := "case_1"
      parentCaseId := "case_2"
      reason := "same host"
      evidenceRefs := []
      now := "2026-01-01T03:00:00+00:00"
      draws := {
        aliasId := fun id => id ++ "_moved"
        childEventId := "evt_child"
        parentEventId := "evt_parent" } }]))

def linkedTraffic : Traffic :=
  linkedMeanwhile.foldl (Traffic.after (tablePython []) {}) (.quiet {})

theorem not_shown_linked :
    Run (trafficStep (tablePython []) {}) (.quiet {}) linkedMeanwhile linkedTraffic ∧
    ¬ Shown (tablePython []) {} linkedTraffic (.observe 0 secondFiring.draws)
      (linkedTraffic.after (tablePython []) {} (.observe 0 secondFiring.draws)) := by
  have hstep : trafficStep (tablePython []) {} linkedTraffic (.observe 0 secondFiring.draws)
      (linkedTraffic.after (tablePython []) {} (.observe 0 secondFiring.draws)) := ⟨trivial, rfl⟩
  have hswallows : Swallows linkedTraffic (.observe 0 secondFiring.draws) := by
    change ∃ observation ∈ (linkedTraffic.observers 0).writes?, observation.status = .firing ∧
      ∃ case ∈ (linkedTraffic.observers 0).case?, ∃ target ∈ linkedTraffic.store.target? case,
        target.status ∈ [CaseStatus.closed, .expired, .linked]
    decide +kernel
  exact ⟨Run.of_valid (by decide +kernel), fun h => (shown_iff hstep).1 h hswallows⟩

end NocAgent.Cases
