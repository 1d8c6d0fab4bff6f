import NocAgent.Cases.ActiveFingerprint
import NocAgent.Cases.ChildCounts
import NocAgent.Proactive.Outcomes

/-!
# The outcome of one prediction

The evaluation reads one moment of each stored case: when the case was last seen.

* `collectRealAlerts` — `_collect_real_alerts` on the store of the case service.
* `applyStep` — one call of `observe` that applies its observation to a case.
* `Shows` — what the case says of the observations that were applied to it.
* `outcome_run_iff` — over every run that applies observations to one reactive case, the outcome is
  confirmed when an alert fired in the window of the prediction and unconfirmed otherwise exactly
  when the last firing observation tells this.
-/

set_option autoImplicit false

namespace NocAgent.Proactive

open NocAgent.Cases Keyed Lts

/-! ## The alerts -/

section Alerts

variable (py : Python)

/-- The alert that a case stands for. -/
def realAlert? (case : AtomicCaseProjection) : Option RealAlert :=
  match parseTs py (Cases.orText case.lastSeen (Cases.orText case.updatedAt case.openedAt)) with
  | none => none
  | some ts =>
    if case.resourceId = "" then none
    else some {
      resource := case.resourceId
      ts := ts
      source := case.origin
      alertname := Cases.orText case.detector case.ruleId }

/-- `_collect_real_alerts`. -/
def collectRealAlerts (s : Store) : List RealAlert :=
  ((s.listCasesOf "atomic" "" 500).filterMap CaseProjection.atomic?).filterMap (realAlert? py)

/-- The outcome of a prediction, evaluated on the store. -/
def outcomeOn (settings : EvaluationSettings) (now : ℚ) (s : Store) (obs : ObservationRow) :
    PredictionOutcome :=
  classifyObservation py settings (collectRealAlerts py s) now obs

end Alerts

/-! ## The observations of a case -/

/-- An observation as it was applied to a case, and the clock of the write. -/
structure CaseWrite where
  observation : ObservationRecord
  now : String

/-- The clock of the write of a call. -/
def writeClock (draws : ObserveDraws) : ObserveAction → String
  | .created => draws.now
  | _ => draws.updatedAt

/-- One call of `observe` that applies a firing or clean observation to the case; the id drawn for a
new case is new. -/
def applyStep (py : Python) (policy : CasePolicy) (caseId : String) (s : Store)
    (applied : CaseWrite) (t : Store) : Prop :=
  ∃ (call : ObserveCall) (result : ObserveResult), s.cases.get? call.draws.caseId = none ∧
    observe py policy call.observation call.draws s = (.ok result, t) ∧
    result.observation.status ≠ .unknown ∧
    result.case.map AtomicCaseProjection.caseId = some caseId ∧
    applied = ⟨result.observation, writeClock call.draws result.action⟩

/-- The firing observations of a run. -/
def firings (run : List CaseWrite) : List ObservationRecord :=
  (run.map CaseWrite.observation).filter fun observation => observation.status = .firing

/-- When the last firing observation was made. -/
def lastFiring (run : List CaseWrite) : String :=
  ((firings run).map ObservationRecord.observedAt).getLastD ""

/-- The clock of the last write, or of the first. -/
def lastWrite (run : List CaseWrite) : String :=
  Cases.orText ((run.map CaseWrite.now).getLastD "") ((run.map CaseWrite.now).headD "")

/-! ## The property -/

section Property

variable (py : Python)

/-- The text is a moment in the window of the prediction. -/
def InWindow (settings : EvaluationSettings) (detected : ℚ) (text : String) : Prop :=
  ∃ ts, parseTs py text = some ts ∧ detected ≤ ts ∧ ts ≤ detected + settings.windowH * 3600

/-- An alert fired in the window of the prediction. -/
def Fired (settings : EvaluationSettings) (detected : ℚ) (run : List CaseWrite) : Prop :=
  ∃ observation ∈ firings run, InWindow py settings detected observation.observedAt

/-- The outcome is confirmed when an alert fired in the window, and unconfirmed otherwise. -/
structure Reflects (settings : EvaluationSettings) (detected : ℚ) (run : List CaseWrite)
    (outcome : PredictionOutcome) : Prop where
  confirmed : outcome = .confirmed ↔ Fired py settings detected run
  unconfirmed : outcome = .unconfirmed ↔ ¬ Fired py settings detected run

/-- The last firing observation tells whether an alert fired in the window. -/
structure LastTells (settings : EvaluationSettings) (detected now : ℚ) (resource : String)
    (run : List CaseWrite) : Prop where
  /-- the prediction is old enough to be evaluated -/
  aged : settings.minAgeH ≤ (now - detected) / 3600
  /-- when an alert fired in the window, so did the last one, on a resource with a name -/
  last : Fired py settings detected run →
    resource ≠ "" ∧ InWindow py settings detected (Cases.orText (lastFiring run) (lastWrite run))
  /-- a last firing observation without a time is not written in the window by itself -/
  timed : lastFiring run = "" → resource ≠ "" →
    InWindow py settings detected (lastWrite run) → Fired py settings detected run

end Property

/-! ## The case over a run -/

section Run

variable {py : Python} {policy : CasePolicy} {caseId : String}

/-- What the case says of the observations that were applied to it. -/
structure Shows (caseId : String) (run : List CaseWrite) (case : AtomicCaseProjection) : Prop where
  caseId : case.caseId = caseId
  lastSeen : case.lastSeen = lastFiring run
  updatedAt : case.updatedAt = (run.map CaseWrite.now).getLastD ""
  openedAt : case.openedAt = (run.map CaseWrite.now).headD ""

variable {run : List CaseWrite} {observation : ObservationRecord} {now : String}

theorem lastFiring_append_firing (h : observation.status = .firing) :
    lastFiring (run ++ [⟨observation, now⟩]) = observation.observedAt := by
  unfold lastFiring firings
  simp [h]

theorem lastFiring_append_clean (h : observation.status ≠ .firing) :
    lastFiring (run ++ [⟨observation, now⟩]) = lastFiring run := by
  unfold lastFiring firings
  simp [h]

theorem getLastD_now_append :
    ((run ++ [CaseWrite.mk observation now]).map CaseWrite.now).getLastD "" = now := by
  simp

theorem headD_now_append (h : run ≠ []) :
    ((run ++ [CaseWrite.mk observation now]).map CaseWrite.now).headD "" =
      (run.map CaseWrite.now).headD "" := by
  cases run with
  | nil => exact absurd rfl h
  | cons first rest => rfl

/-- A firing observation moves the case on. -/
theorem Shows.unhealthy {case : AtomicCaseProjection} (h : Shows caseId run case) (hrun : run ≠ [])
    (hfiring : observation.status = .firing) (covered : Cases.Severity) :
    Shows caseId (run ++ [⟨observation, now⟩])
      (unhealthyCase policy case observation covered now) where
  caseId := h.caseId
  lastSeen := (lastFiring_append_firing hfiring).symm
  updatedAt := getLastD_now_append.symm
  openedAt := h.openedAt.trans (headD_now_append hrun).symm

/-- A clean one leaves when it was last seen. -/
theorem Shows.clean {case : AtomicCaseProjection} (h : Shows caseId run case) (hrun : run ≠ [])
    (hclean : observation.status ≠ .firing) :
    Shows caseId (run ++ [⟨observation, now⟩]) (cleanCase policy case observation now) where
  caseId := h.caseId
  lastSeen := h.lastSeen.trans (lastFiring_append_clean hclean).symm
  updatedAt := getLastD_now_append.symm
  openedAt := h.openedAt.trans (headD_now_append hrun).symm

/-- The store has the one case, or none before the first observation. -/
def OneCase (caseId : String) (run : List CaseWrite) (s : Store) : Prop :=
  (run = [] ∧ s.cases = Table.empty) ∨
    ∃ case, run ≠ [] ∧ s.cases.rows = [.atomic case] ∧ Shows caseId run case

theorem rows_put_self {rows : Table CaseProjection.caseId} {case written : AtomicCaseProjection}
    (h : rows.rows = [.atomic case]) (hkey : case.caseId = written.caseId) :
    (rows.put (.atomic written)).rows = [.atomic written] := by
  change putRow CaseProjection.caseId rows.rows (.atomic written) = _
  rw [h]
  exact if_pos hkey

/-- A case that is stored beside no other is the one. -/
theorem eq_of_rows {s : Store} {case other : AtomicCaseProjection}
    (h : s.cases.rows = [.atomic case]) (hget : s.atomicCase? other.caseId = some other) :
    other = case := by
  have hmem := Table.mem_of_get? (atomicCase?_eq_some.1 hget)
  rw [h] at hmem
  exact CaseProjection.atomic.inj (List.mem_singleton.1 hmem)

/-- **One observation keeps the case telling of them.** -/
theorem oneCase_step {s t : Store} {applied : CaseWrite}
    (hs : OneCase caseId run s) (hstep : applyStep py policy caseId s applied t) :
    OneCase caseId (run ++ [applied]) t := by
  obtain ⟨call, result, hfresh, hobserve, hstatus, hcase, rfl⟩ := hstep
  have hends := observe_observes py policy s call.observation call.draws
  rw [hobserve] at hends
  dsimp only at hends
  have hne : run ++ [⟨result.observation, writeClock call.draws result.action⟩] ≠ [] := by simp
  generalize s.stored call.observation = observation at hends
  cases hends with
  | noted hnot haction hnone hobservation htables =>
    rw [hobservation] at hstatus
    obtain h | ⟨h, -⟩ := hnone
    · exact absurd h hstatus
    · rw [h] at hcase
      cases hcase
  | @unhealthy case events _ hfiring hfound hstored htables =>
    obtain ⟨-, hempty⟩ | ⟨stored, hrun, hrows, hshows⟩ := hs
    · rw [atomicCase?_eq_some, hempty] at hstored
      cases hstored
    · obtain rfl := eq_of_rows hrows hstored
      refine Or.inr ⟨unhealthyCase policy case observation (s.covered case) call.draws.updatedAt,
        hne, ?_, hshows.unhealthy hrun hfiring (s.covered case)⟩
      rw [cases_of_caseTables htables]
      exact rows_put_self hrows rfl
  | @clean case events _ hclean hresolved hstored htables =>
    obtain ⟨-, hempty⟩ | ⟨stored, hrun, hrows, hshows⟩ := hs
    · rw [atomicCase?_eq_some, hempty] at hstored
      cases hstored
    · obtain rfl := eq_of_rows hrows hstored
      have hnot : observation.status ≠ .firing := by
        rcases hclean with h | h <;> simp [h]
      have hclock : ∀ resolves : Bool, writeClock call.draws
          (if resolves then .resolvedPositiveClean else .updated) = call.draws.updatedAt := by
        rintro (_ | _) <;> rfl
      refine Or.inr ⟨cleanCase policy case observation call.draws.updatedAt, hne, ?_, ?_⟩
      · rw [cases_of_caseTables htables]
        exact rows_put_self hrows rfl
      · rw [hclock]
        exact hshows.clean hrun hnot
  | created hfiring hnone hfree hsame htables =>
    have hid : call.draws.caseId = caseId := Option.some.inj hcase
    obtain ⟨rfl, hempty⟩ | ⟨stored, hrun, hrows, hshows⟩ := hs
    · refine Or.inr ⟨newCase py policy observation (observationAlias py observation).2 call.draws,
        hne, ?_, ?_⟩
      · rw [cases_of_caseTables htables, hempty]
        rfl
      · exact ⟨hid, (lastFiring_append_firing hfiring).symm, rfl, rfl⟩
    · rw [hid, Table.get?_eq_none_iff] at hfresh
      refine absurd hshows.caseId (hfresh (.atomic stored) ?_)
      rw [hrows]
      exact List.mem_singleton_self _

theorem oneCase_run {s : Store}
    (h : Run (applyStep py policy caseId) {} run s) : OneCase caseId run s :=
  h.history (I := OneCase caseId) (fun _ _ _ _ => oneCase_step) (Or.inl ⟨rfl, rfl⟩)

end Run

/-! ## The outcome -/

section Outcome

variable {py : Python} {settings : EvaluationSettings} {detected now : ℚ} {obs : ObservationRow}

/-- The one case is the one alert. -/
theorem collectRealAlerts_one {s : Store} {case : AtomicCaseProjection}
    (h : s.cases.rows = [.atomic case]) :
    collectRealAlerts py s = (realAlert? py case).toList := by
  unfold collectRealAlerts Store.listCasesOf
  rw [h]
  cases hcase : realAlert? py case <;>
    simp [CaseProjection.kind, CaseProjection.atomic?, hcase]

/-- The alert of a reactive case counts when its moment is in the window. -/
theorem any_realAlert?_iff {case : AtomicCaseProjection} (horigin : case.origin = "reactive")
    (hresource : case.resourceId = obs.resource) :
    ((realAlert? py case).toList.any fun alert => alert.source ≠ "proactive" &&
      alert.resource = obs.resource && detected ≤ alert.ts &&
        alert.ts ≤ detected + settings.windowH * 3600) ↔
      obs.resource ≠ "" ∧ InWindow py settings detected
        (Cases.orText case.lastSeen (Cases.orText case.updatedAt case.openedAt)) := by
  unfold realAlert? InWindow
  cases parseTs py (Cases.orText case.lastSeen (Cases.orText case.updatedAt case.openedAt)) with
  | none => simp
  | some ts =>
    by_cases hblank : obs.resource = ""
    · simp [hresource, hblank]
    · simp [hresource, hblank, horigin]

/-- **What the evaluation of a closed window says of the one case.** -/
theorem outcomeOn_one {s : Store} {case : AtomicCaseProjection}
    (hrows : s.cases.rows = [.atomic case]) (horigin : case.origin = "reactive")
    (hresource : case.resourceId = obs.resource)
    (hdetected : parseTs py obs.createdAt = some detected)
    (hclosed : detected + settings.windowH * 3600 ≤ now)
    (haged : settings.minAgeH ≤ (now - detected) / 3600) :
    (outcomeOn py settings now s obs = .confirmed ↔
      obs.resource ≠ "" ∧ InWindow py settings detected
        (Cases.orText case.lastSeen (Cases.orText case.updatedAt case.openedAt))) ∧
    (outcomeOn py settings now s obs = .unconfirmed ↔
      outcomeOn py settings now s obs ≠ .confirmed) := by
  unfold outcomeOn classifyObservation
  rw [collectRealAlerts_one hrows, hdetected]
  dsimp only
  rw [if_neg (not_lt.2 haged), ← any_realAlert?_iff horigin hresource, if_pos hclosed]
  split
  · rename_i hany
    exact ⟨iff_of_true rfl hany, by decide⟩
  · rename_i hany
    exact ⟨iff_of_false (by decide) hany, by decide⟩

/-- A prediction that is too young is pending. -/
theorem outcomeOn_young {s : Store} (hdetected : parseTs py obs.createdAt = some detected)
    (hyoung : (now - detected) / 3600 < settings.minAgeH) :
    outcomeOn py settings now s obs = .pending := by
  unfold outcomeOn classifyObservation
  rw [hdetected]
  exact if_pos hyoung

/-- The time of the last firing observation is the time of one. -/
theorem exists_lastFiring {run : List CaseWrite} (h : lastFiring run ≠ "") :
    ∃ observation ∈ firings run, observation.observedAt = lastFiring run := by
  unfold lastFiring at h ⊢
  rw [List.getLastD_eq_getLast?] at h ⊢
  cases hlast : ((firings run).map ObservationRecord.observedAt).getLast? with
  | none =>
    rw [hlast] at h
    exact absurd rfl h
  | some observedAt => exact List.mem_map.1 (List.mem_of_getLast? hlast)

/-- Confirming what the case says reflects the firing observations exactly when the last of them
tells. -/
theorem lastTells_iff {resource : String} {run : List CaseWrite}
    (haged : settings.minAgeH ≤ (now - detected) / 3600) :
    LastTells py settings detected now resource run ↔
      (resource ≠ "" ∧
          InWindow py settings detected (Cases.orText (lastFiring run) (lastWrite run)) ↔
        Fired py settings detected run) := by
  constructor
  · intro h
    refine ⟨?_, h.last⟩
    rintro ⟨hname, hseen⟩
    unfold Cases.orText at hseen
    by_cases hblank : lastFiring run = ""
    · rw [if_pos hblank] at hseen
      exact h.timed hblank hname hseen
    · rw [if_neg hblank] at hseen
      obtain ⟨observation, hmem, htime⟩ := exists_lastFiring hblank
      exact ⟨observation, hmem, htime ▸ hseen⟩
  · intro h
    refine ⟨haged, h.2, fun hblank hresource hwrite => h.1 ⟨hresource, ?_⟩⟩
    unfold Cases.orText
    rwa [if_pos hblank]

/-- **Over every run that applies observations to one reactive case, and at every time after the
window, the outcome is confirmed when an alert fired in the window and unconfirmed otherwise exactly
when the last firing observation tells this.** -/
theorem outcome_run_iff {policy : CasePolicy} {caseId : String} {run : List CaseWrite} {s : Store}
    {case : AtomicCaseProjection} (hrun : Run (applyStep py policy caseId) {} run s)
    (hcase : s.atomicCase? caseId = some case) (horigin : case.origin = "reactive")
    (hresource : case.resourceId = obs.resource)
    (hdetected : parseTs py obs.createdAt = some detected)
    (hclosed : detected + settings.windowH * 3600 ≤ now) :
    Reflects py settings detected run (outcomeOn py settings now s obs) ↔
      LastTells py settings detected now obs.resource run := by
  obtain ⟨-, hempty⟩ | ⟨stored, -, hrows, hshows⟩ := oneCase_run hrun
  · rw [atomicCase?_eq_some, hempty] at hcase
    cases hcase
  obtain rfl : case = stored := by
    have hid := caseId_of_atomicCase? hcase
    rw [← hid] at hcase
    exact eq_of_rows hrows hcase
  by_cases haged : settings.minAgeH ≤ (now - detected) / 3600
  · obtain ⟨hconfirmed, hunconfirmed⟩ :=
      outcomeOn_one hrows horigin hresource hdetected hclosed haged
    rw [hshows.lastSeen, hshows.updatedAt, hshows.openedAt] at hconfirmed
    rw [lastTells_iff haged]
    constructor
    · intro h
      exact hconfirmed.symm.trans h.confirmed
    · intro h
      have hfired := hconfirmed.trans h
      exact ⟨hfired, hunconfirmed.trans (not_congr hfired)⟩
  · refine iff_of_false (fun h => ?_) fun h => haged h.aged
    have hpending := outcomeOn_young (s := s) hdetected (not_le.1 haged)
    by_cases hfired : Fired py settings detected run
    · cases hpending.symm.trans (h.confirmed.2 hfired)
    · cases hpending.symm.trans (h.unconfirmed.2 hfired)

end Outcome

/-! ## An alert that fires in the window, and once more after it -/

/-- The case that a call returns, and what it did. -/
def ranAs (result : ObserveResult) : Option String × ObserveAction :=
  (result.case.map AtomicCaseProjection.caseId, result.action)

theorem applyStep_call {py : Python} {policy : CasePolicy} {caseId : String} {s : Store}
    {call : ObserveCall} {action : ObserveAction} (hfresh : s.cases.get? call.draws.caseId = none)
    (hnew : s.observations.get? call.observation.observationId = none)
    (hstatus : call.observation.status ≠ .unknown)
    (hran : (observe py policy call.observation call.draws s).1.toOption.map ranAs =
      some (some caseId, action)) :
    applyStep py policy caseId s ⟨call.observation, writeClock call.draws action⟩
      (observe py policy call.observation call.draws s).2 := by
  have hends := observe_observes py policy s call.observation call.draws
  have hstored : s.stored call.observation = call.observation := by
    unfold Store.stored
    rw [hnew]
    rfl
  rw [hstored] at hends
  obtain ⟨result, hresult, has⟩ := Option.map_eq_some_iff.1 hran
  obtain ⟨hcase, rfl⟩ := Prod.mk.inj has
  have hok : (observe py policy call.observation call.draws s).1 = .ok result := by
    cases h : (observe py policy call.observation call.draws s).1 with
    | error e => rw [h] at hresult; cases hresult
    | ok other => rw [h] at hresult; rw [Option.some.inj hresult]
  rw [hok] at hends
  have hobservation : result.observation = call.observation := by
    cases hends with
    | noted _ _ _ hobservation _ => exact hobservation
    | unhealthy => rfl
    | clean => rfl
    | created => rfl
  refine ⟨call, result, hfresh, Prod.ext hok rfl, ?_, hcase, ?_⟩
  · rwa [hobservation]
  · rw [hobservation]

/-- The alert of a host fires. -/
def hostFiring (observationId : String) (n : Nat) (observedAt : String) : ObserveCall :=
  let call := alertCall observationId n .firing "x" "" observedAt
  { call with
    observation := { call.observation with
      resource := "r1" } }

def firstFiring : ObserveCall := hostFiring "obs_1" 1 "2026-01-01T01:00:00+00:00"

def secondFiring : ObserveCall := hostFiring "obs_2" 2 "2026-01-01T09:00:00+00:00"

def hostPython : Python :=
  tablePython [("2026-01-01T00:00:00+00:00", 0), ("2026-01-01T01:00:00+00:00", 3600000000),
    ("2026-01-01T09:00:00+00:00", 32400000000)]

/-- The store after the calls. -/
def hostStore (calls : List ObserveCall) : Store :=
  calls.foldl (fun s call => (observe hostPython {} call.observation call.draws s).2) {}

def hostApplied (call : ObserveCall) : CaseWrite := ⟨call.observation, call.draws.now⟩

def hostPrediction : ObservationRow where
  createdAt := "2026-01-01T00:00:00+00:00"
  resource := "r1"

theorem host_first : Run (applyStep hostPython {} "case_1") {} [hostApplied firstFiring]
    (hostStore [firstFiring]) :=
  Run.single (applyStep_call rfl rfl (by decide) (by decide +kernel :
    (observe hostPython {} firstFiring.observation firstFiring.draws {}).1.toOption.map ranAs =
      some (some "case_1", .created)))

theorem host_again : Run (applyStep hostPython {} "case_1") {}
    [hostApplied firstFiring, hostApplied secondFiring] (hostStore [firstFiring, secondFiring]) :=
  host_first.snoc (applyStep_call (by decide +kernel) (by decide +kernel) (by decide)
    (by decide +kernel : (observe hostPython {} secondFiring.observation secondFiring.draws
      (hostStore [firstFiring])).1.toOption.map ranAs = some (some "case_1", .updated)))

/-- The first firing is in the window of the prediction. -/
theorem host_inWindow :
    InWindow hostPython {} 0 firstFiring.observation.observedAt :=
  ⟨3600, by decide +kernel, by decide +kernel, by decide +kernel⟩

theorem host_fired {run : List CaseWrite} (h : hostApplied firstFiring ∈ run) :
    Fired hostPython {} 0 run := by
  refine ⟨firstFiring.observation, ?_, host_inWindow⟩
  unfold firings
  rw [List.mem_filter]
  exact ⟨List.mem_map.2 ⟨_, h, rfl⟩, rfl⟩

/-- A single firing in the window is confirmed. -/
theorem reflects_first : Reflects hostPython {} 0 [hostApplied firstFiring]
    (outcomeOn hostPython {} 36000 (hostStore [firstFiring]) hostPrediction) := by
  obtain ⟨case, hcase, horigin, hresource⟩ : ∃ case,
      (hostStore [firstFiring]).atomicCase? "case_1" = some case ∧
      case.origin = "reactive" ∧ case.resourceId = hostPrediction.resource :=
    ⟨_, rfl, rfl, rfl⟩
  refine (outcome_run_iff host_first hcase horigin hresource (by decide +kernel)
    (by decide +kernel)).2 ⟨by decide +kernel, fun _ => ⟨by decide, host_inWindow⟩, fun h => ?_⟩
  exact absurd h (by decide)

/-- The alert fired an hour after the prediction, and again when the window was closed: the
prediction is not confirmed. -/
theorem not_reflects_again :
    Run (applyStep hostPython {} "case_1") {} [hostApplied firstFiring, hostApplied secondFiring]
      (hostStore [firstFiring, secondFiring]) ∧
    ((hostStore [firstFiring, secondFiring]).atomicCase? "case_1").map (fun case =>
      (case.origin, case.resourceId)) = some ("reactive", hostPrediction.resource) ∧
    parseTs hostPython hostPrediction.createdAt = some 0 ∧
    outcomeOn hostPython {} 36000 (hostStore [firstFiring, secondFiring]) hostPrediction =
      .unconfirmed ∧
    ¬ Reflects hostPython {} 0 [hostApplied firstFiring, hostApplied secondFiring]
      (outcomeOn hostPython {} 36000 (hostStore [firstFiring, secondFiring]) hostPrediction) := by
  have houtcome : outcomeOn hostPython {} 36000 (hostStore [firstFiring, secondFiring])
      hostPrediction = .unconfirmed := by decide +kernel
  refine ⟨host_again, by decide +kernel, by decide +kernel, houtcome, fun h => ?_⟩
  cases houtcome.symm.trans (h.confirmed.2 (host_fired List.mem_cons_self))

end NocAgent.Proactive
