import NocAgent.Cases.ActiveFingerprint
import NocAgent.Cases.Investigation

/-!
# Claimants, observations and results

* `Investigations` — the store, the clock, every version of a case there was, and the claimants.
* `investigationStep` — an observation, a claimant that asks whether its snapshot is due, its claim
  some time later, a result that is recorded.
* `Claimant.won_later` — a claim that succeeds is dated after what it finds on the case.
* `claims_spaced` — two claims that succeed on one snapshot there are not, and without a change of
  the signal in between they are a cooldown apart.
* `keepsChangedSignal_run_iff` — the runs in which no result hides a signal that changed since its
  claim.
-/

set_option autoImplicit false

namespace NocAgent.Cases

open Effects Effects.Action Keyed Lts

/-- The clock's text of an instant reads back. -/
def Reads (py : Python) (t : Int) : Prop := parseIsoTime py (py.isoformat t) = .ok (some t)

instance (py : Python) (t : Int) : Decidable (Reads py t) := by unfold Reads; infer_instance

/-- A claimant that found its snapshot due. -/
structure Claimant where
  snapshot : AtomicCaseProjection
  asked : Int
  now : Int
  request : ClaimRequest

/-- The store, the clock and the versions of its cases. -/
structure Investigations where
  store : Store
  clock : Int
  /-- every version of a case there was -/
  seen : List AtomicCaseProjection
  claimants : List Claimant := []
  /-- the case of each claim that succeeded, and its signal -/
  running : List (String × String) := []

inductive InvestigationLabel where
  | observe (call : ObserveCall)
  | ask (snapshot : AtomicCaseProjection) (status : String) (asked now : Int) (draw : Draw)
  | claim (claimant : Claimant)
  /-- `asked`: when the case is looked at next; `claimed`: the signal at the matching claim -/
  | record (result : InvestigationResult) (draw : Draw) (now asked : Int)
      (claimed : Option String)

def Store.atomicCases (s : Store) : List AtomicCaseProjection :=
  s.cases.rows.filterMap CaseProjection.atomic?

/-- The store was written. -/
def Investigations.moved (sys : Investigations) (s : Store) : Investigations :=
  { sys with
    store := s
    seen := s.atomicCases ++ sys.seen }

def Investigations.signal? (sys : Investigations) (caseId : String) : Option String :=
  (sys.store.atomicCase? caseId).map AtomicCaseProjection.signalSignature

/-- The store takes the claim. -/
def Claimant.Wins (claimant : Claimant) (s : Store) : Prop :=
  ∃ case, (claimInvestigation claimant.request s).1 = .ok (some case)

section Steps

variable (py : Python) (policy : CasePolicy)

def Investigations.asked (sys : Investigations) (snapshot : AtomicCaseProjection) (status : String)
    (asked now : Int) (draw : Draw) : Investigations :=
  match claimRequest py policy snapshot status asked (py.isoformat now) draw with
  | .ok (some request) => { sys with
      clock := now
      claimants := ⟨snapshot, asked, now, request⟩ :: sys.claimants }
  | _ => { sys with clock := now }

def Investigations.claimed (sys : Investigations) (claimant : Claimant) : Investigations :=
  let r := claimInvestigation claimant.request sys.store
  let sys := sys.moved r.2
  match r.1 with
  | .ok (some case) => { sys with running := (case.caseId, case.signalSignature) :: sys.running }
  | _ => sys

/-- The clock only goes on, and the id drawn for a new case is new. -/
def investigationStep (sys : Investigations) :
    InvestigationLabel → Investigations → Prop
  | .observe call, t => call.draws.caseId ≠ "" ∧ sys.store.cases.get? call.draws.caseId = none ∧
      t = sys.moved (observe py policy call.observation call.draws sys.store).2
  | .ask snapshot status asked now draw, t => snapshot ∈ sys.seen ∧ sys.clock < asked ∧
      asked < now ∧ Reads py now ∧ t = sys.asked py policy snapshot status asked now draw
  | .claim claimant, t => claimant ∈ sys.claimants ∧ t = sys.claimed claimant
  | .record result draw now asked claimed, t => sys.clock < now ∧ now < asked ∧
      asked ≤ MAX_INSTANT ∧ Reads py now ∧
      (∀ signature ∈ claimed, (result.caseId, signature) ∈ sys.running) ∧
      t = { sys.moved (recordInvestigationResult policy result (py.isoformat now) draw sys.store).2
        with clock := asked }

/-- The result of an investigation leaves a case due whose signal changed since its claim. -/
def KeepsChangedSignal (sys : Investigations) : InvestigationLabel → Investigations → Prop
  | .record result _ _ asked claimed, t => ∀ signature ∈ claimed, ∀ case,
      sys.store.atomicCase? result.caseId = some case → case.status ∉ TERMINAL_CASE_STATUSES →
      result.status ≠ "failed" → case.signalSignature ≠ "" → case.signalSignature ≠ signature →
      ∃ recorded, t.store.atomicCase? result.caseId = some recorded ∧
        shouldInvestigate py policy recorded asked = .ok true
  | _, _ => True

/-- The signal of the case changed since the claim, and the cooldown has not passed when the case
is looked at next. -/
def AbsorbsSignal (sys : Investigations) : InvestigationLabel → Prop
  | .record result _ now asked claimed => ∃ signature ∈ claimed, ∃ case,
      sys.store.atomicCase? result.caseId = some case ∧ case.status ∉ TERMINAL_CASE_STATUSES ∧
      result.status ≠ "failed" ∧ case.signalSignature ≠ "" ∧ case.signalSignature ≠ signature ∧
      asked - now < policy.investigationCooldownS * 1000000
  | _ => False

end Steps

/-! ## Reading the clock -/

section Due

variable {py : Python} {policy : CasePolicy}

theorem Reads.ne_empty {t : Int} (h : Reads py t) : py.isoformat t ≠ "" := by
  intro hempty
  unfold Reads parseIsoTime at h
  rw [if_pos hempty] at h
  cases h

theorem Reads.inj {t t' : Int} (h : Reads py t) (h' : Reads py t')
    (heq : py.isoformat t = py.isoformat t') : t = t' := by
  unfold Reads at h h'
  rw [heq, h'] at h
  cases h
  rfl

theorem Reads.instant {t : Int} (h : Reads py t) : MIN_INSTANT ≤ t ∧ t ≤ MAX_INSTANT := by
  have hne := h.ne_empty
  unfold Reads parseIsoTime at h
  rw [if_neg hne] at h
  split at h
  · cases h
  rename_i t' _
  by_cases hbound : MIN_INSTANT ≤ t' ∧ t' ≤ MAX_INSTANT
  · simp only [asInstant, if_pos hbound] at h
    cases h
    exact hbound
  · simp only [asInstant, if_neg hbound] at h
    cases h

/-- A case that was investigated at a time that can be read. -/
theorem investigatedBefore_iff {case : AtomicCaseProjection} {last now : Int} {seconds : Nat}
    (hlast : case.lastInvestigatedAt = py.isoformat last) (hreads : Reads py last) :
    investigatedBefore py case seconds now = .ok true ↔
      seconds ≤ 86399999999999 ∧ (seconds : Int) * 1000000 ≤ now - last := by
  unfold investigatedBefore timedeltaSeconds
  rw [hlast, hreads]
  by_cases hseconds : seconds ≤ 86399999999999 <;> simp [hseconds]

/-- **A case whose last investigation was of the signal it has is due after one of the delays.** -/
theorem shouldInvestigate_elapsed {case : AtomicCaseProjection} {last now : Int}
    (hlast : case.lastInvestigatedAt = py.isoformat last) (hreads : Reads py last)
    (hdiagnosis : case.diagnosisSignature ≠ "")
    (hsignal : case.signalSignature ≠ "" → case.diagnosisSignature = case.signalSignature)
    (h : shouldInvestigate py policy case now = .ok true) :
    (min policy.investigationCooldownS policy.investigationFailureRetryS : Int) * 1000000 ≤
      now - last := by
  unfold shouldInvestigate at h
  split at h
  · cases h
  split at h
  · have helapsed := ((investigatedBefore_iff hlast hreads).1 h).2
    omega
  split at h
  · rename_i hnone
    rcases hnone with hnone | hnone
    · rw [hlast] at hnone
      exact absurd hnone hreads.ne_empty
    · exact absurd hnone hdiagnosis
  split at h
  · rename_i hchanged
    exact absurd (hsignal hchanged.1) hchanged.2
  · have helapsed := ((investigatedBefore_iff hlast hreads).1 h).2
    omega

theorem claimRequest_some {snapshot : AtomicCaseProjection} {status now : String} {asked : Int}
    {draw : Draw} {request : ClaimRequest}
    (h : claimRequest py policy snapshot status asked now draw = .ok (some request)) :
    shouldInvestigate py policy snapshot asked = .ok true ∧ request.caseId = snapshot.caseId ∧
      request.now = now ∧ ∀ case, request.Current case ↔
        case.signalSignature = snapshot.signalSignature ∧
        case.diagnosisSignature = snapshot.diagnosisSignature ∧
        case.lastInvestigatedAt = snapshot.lastInvestigatedAt := by
  unfold claimRequest at h
  split at h
  · cases h
  · cases h
  · rename_i hdue
    cases h
    exact ⟨hdue, rfl, rfl, fun _ => Iff.rfl⟩

end Due

/-! ## A signal that changed during an investigation -/

section Results

variable {py : Python} {policy : CasePolicy}

/-- **A case with a signal, on which a result was recorded, is due after the cooldown, whatever
signal was investigated.** -/
theorem shouldInvestigate_recorded {case : AtomicCaseProjection} {result : InvestigationResult}
    {now asked : Int} (hreads : Reads py now) (hasked : asked ≤ MAX_INSTANT)
    (hopen : case.status ∉ TERMINAL_CASE_STATUSES) (hstatus : result.status ≠ "failed")
    (hsignal : case.signalSignature ≠ "") :
    shouldInvestigate py policy (recordedCase policy case result (py.isoformat now)) asked =
        .ok true ↔ (policy.investigationCooldownS : Int) * 1000000 ≤ asked - now := by
  have hsame : investigationSignature case = case.signalSignature := if_neg hsignal
  have hnever : ¬ (py.isoformat now = "" ∨ investigationSignature case = "") := by
    rw [hsame]
    exact not_or.2 ⟨hreads.ne_empty, hsignal⟩
  have hunchanged : ¬ (case.signalSignature ≠ "" ∧
      investigationSignature case ≠ case.signalSignature) := fun h => h.2 hsame
  unfold shouldInvestigate
  rw [if_neg (by exact hopen), if_neg (by exact hstatus), if_neg (by exact hnever),
    if_neg (by exact hunchanged), investigatedBefore_iff rfl hreads]
  refine ⟨And.right, fun helapsed => ⟨?_, helapsed⟩⟩
  -- a cooldown that a timedelta cannot hold is longer than the calendar
  have hmin := hreads.instant.1
  unfold MAX_INSTANT at hasked
  unfold MIN_INSTANT at hmin
  omega

/-- **A result keeps a changed signal due exactly when it does not absorb it.** -/
theorem keepsChangedSignal_iff {sys t : Investigations} {label : InvestigationLabel}
    (hstep : investigationStep py policy sys label t) :
    KeepsChangedSignal py policy sys label t ↔ ¬ AbsorbsSignal policy sys label := by
  cases label with
  | observe | ask | claim => exact iff_of_true trivial not_false
  | record result draw now asked claimed =>
    obtain ⟨-, -, hasked, hreads, -, rfl⟩ := hstep
    have hdue : ∀ case, sys.store.atomicCase? result.caseId = some case →
        case.status ∉ TERMINAL_CASE_STATUSES → result.status ≠ "failed" →
        case.signalSignature ≠ "" →
        ((∃ recorded, (recordInvestigationResult policy result (py.isoformat now) draw
            sys.store).2.atomicCase? result.caseId = some recorded ∧
          shouldInvestigate py policy recorded asked = .ok true) ↔
          (policy.investigationCooldownS : Int) * 1000000 ≤ asked - now) := by
      intro case hcase hopen hstatus hsignal
      rcases recordInvestigationResult_cases policy result (py.isoformat now) draw sys.store with
        ⟨case', hcase', -, hcases⟩ | ⟨hnone, -⟩
      · cases hcase.symm.trans hcase'
        have hid : (recordedCase policy case result (py.isoformat now)).caseId = result.caseId :=
          (recordedCase_caseId ..).trans (caseId_of_atomicCase? hcase)
        rw [atomicCase?_put hcases, if_pos hid,
          ← shouldInvestigate_recorded hreads hasked hopen hstatus hsignal]
        exact ⟨fun ⟨_, hrecorded, h⟩ => (by cases hrecorded; exact h), fun h => ⟨_, rfl, h⟩⟩
      · cases hcase.symm.trans hnone
    constructor
    · rintro hkeeps ⟨signature, hclaimed, case, hcase, hopen, hstatus, hsignal, hne, hearly⟩
      have helapsed := (hdue case hcase hopen hstatus hsignal).1
        (hkeeps signature hclaimed case hcase hopen hstatus hsignal hne)
      omega
    · intro hnot signature hclaimed case hcase hopen hstatus hsignal hne
      refine (hdue case hcase hopen hstatus hsignal).2 ?_
      by_contra hearly
      exact hnot ⟨signature, hclaimed, case, hcase, hopen, hstatus, hsignal, hne, by omega⟩

/-- **Over every run: no result absorbs a changed signal exactly when every result leaves a case
due whose signal changed since the claim.** -/
theorem keepsChangedSignal_run_iff {s t : Investigations} {labels : List InvestigationLabel} :
    Run (Guarded (investigationStep py policy) fun sys label => ¬ AbsorbsSignal policy sys label)
        s labels t ↔
      Run (Doing (investigationStep py policy) (KeepsChangedSignal py policy)) s labels t := by
  refine Run.guarded_iff_doing ?_
  intro s label t hstep
  exact keepsChangedSignal_iff hstep

end Results

/-! ## What a step does to a case -/

/-- The case was last investigated at no instant after `bound`. -/
def Dated (py : Python) (bound : Int) (case : AtomicCaseProjection) : Prop :=
  ∀ t, Reads py t → case.lastInvestigatedAt = py.isoformat t → t ≤ bound

/-- What happens to the investigation of a case in one step. -/
inductive CaseMoves (py : Python) (clock : Int) :
    Option AtomicCaseProjection → Option AtomicCaseProjection → Prop where
  | same (case : Option AtomicCaseProjection) : CaseMoves py clock case case
  | kept {old new : AtomicCaseProjection} (hlast : new.lastInvestigatedAt = old.lastInvestigatedAt)
      (hdiagnosis : new.diagnosisSignature = old.diagnosisSignature) :
      CaseMoves py clock (some old) (some new)
  | opened {new : AtomicCaseProjection} (hid : new.caseId ≠ "")
      (hlast : new.lastInvestigatedAt = "") :
      CaseMoves py clock none (some new)
  | investigated {old new : AtomicCaseProjection} {now : Int} (hreads : Reads py now)
      (hnow : now ≤ clock) (hlast : new.lastInvestigatedAt = py.isoformat now)
      (hdiagnosis : new.diagnosisSignature = investigationSignature new)
      (hlater : ∀ t, Reads py t → old.lastInvestigatedAt = py.isoformat t → t < now) :
      CaseMoves py clock (some old) (some new)

/-- What a claimant knows when it asks the store. -/
structure Claimant.Ready (py : Python) (policy : CasePolicy) (clock : Int) (claimant : Claimant) :
    Prop where
  later : claimant.asked < claimant.now
  past : claimant.now ≤ clock
  reads : Reads py claimant.now
  now : claimant.request.now = py.isoformat claimant.now
  caseId : claimant.request.caseId = claimant.snapshot.caseId
  due : shouldInvestigate py policy claimant.snapshot claimant.asked = .ok true
  current : ∀ case, claimant.request.Current case ↔
    case.signalSignature = claimant.snapshot.signalSignature ∧
    case.diagnosisSignature = claimant.snapshot.diagnosisSignature ∧
    case.lastInvestigatedAt = claimant.snapshot.lastInvestigatedAt
  dated : Dated py claimant.asked claimant.snapshot

/-- Nothing on a case or a snapshot is dated in the future. -/
structure Timely (py : Python) (policy : CasePolicy) (sys : Investigations) : Prop where
  named : ∀ caseId case, sys.store.atomicCase? caseId = some case → caseId ≠ ""
  stored : ∀ caseId case, sys.store.atomicCase? caseId = some case → Dated py sys.clock case
  seen : ∀ case ∈ sys.seen, Dated py sys.clock case
  claimants : ∀ claimant ∈ sys.claimants, claimant.Ready py policy sys.clock

section Moves

variable {py : Python} {policy : CasePolicy}

theorem Dated.mono {bound later : Int} {case : AtomicCaseProjection} (h : Dated py bound case)
    (hle : bound ≤ later) : Dated py later case :=
  fun t hreads hlast => (h t hreads hlast).trans hle

theorem Claimant.Ready.mono {clock later : Int} {claimant : Claimant}
    (h : claimant.Ready py policy clock) (hle : clock ≤ later) :
    claimant.Ready py policy later :=
  { h with past := h.past.trans hle }

theorem mem_atomicCases {s : Store} {case : AtomicCaseProjection} :
    case ∈ s.atomicCases ↔ s.atomicCase? case.caseId = some case := by
  unfold Store.atomicCases
  rw [List.mem_filterMap]
  constructor
  · rintro ⟨row, hrow, hatomic⟩
    rw [CaseProjection.atomic?_eq_some.1 hatomic] at hrow
    exact atomicCase?_of_mem_rows hrow
  · intro h
    exact ⟨.atomic case, mem_rows_of_atomicCase? h, rfl⟩

/-- A case that moved is dated no later than the clock. -/
theorem CaseMoves.dated {clock : Int} {old : Option AtomicCaseProjection}
    {new : AtomicCaseProjection} (h : CaseMoves py clock old (some new))
    (hold : ∀ case, old = some case → Dated py clock case) : Dated py clock new := by
  cases h with
  | same => exact hold new rfl
  | kept hlast =>
    intro t hreads hdated
    exact hold _ rfl t hreads (hlast.symm.trans hdated)
  | opened _ hlast =>
    intro t hreads hdated
    exact absurd (hdated.symm.trans hlast) hreads.ne_empty
  | investigated hnow hpast hlast =>
    intro t hreads hdated
    have heq := hnow.inj hreads (hlast.symm.trans hdated)
    omega

/-- An observation keeps what the last investigation left, and opens cases without one. -/
theorem observe_caseMoves {call : ObserveCall} {s : Store} (hid : call.draws.caseId ≠ "")
    (hfresh : s.cases.get? call.draws.caseId = none) (clock : Int) (caseId : String) :
    CaseMoves py clock (s.atomicCase? caseId)
      ((observe py policy call.observation call.draws s).2.atomicCase? caseId) := by
  have hends := observe_observes py policy s call.observation call.draws
  have hput : ∀ {t : Store} {case written : AtomicCaseProjection},
      s.atomicCase? case.caseId = some case → t.cases = s.cases.put (.atomic written) →
      written.caseId = case.caseId → written.lastInvestigatedAt = case.lastInvestigatedAt →
      written.diagnosisSignature = case.diagnosisSignature →
      CaseMoves py clock (s.atomicCase? caseId) (t.atomicCase? caseId) := by
    intro t case written hstored hcases hid hlast hdiagnosis
    rw [atomicCase?_put hcases]
    split
    · rename_i hcaseId
      rw [← hcaseId, hid, hstored]
      exact .kept hlast hdiagnosis
    · exact .same _
  revert hends
  generalize observe py policy call.observation call.draws s = r
  obtain ⟨r, t⟩ := r
  intro hends
  dsimp only at hends ⊢
  cases hends with
  | raised _ _ htables | noted _ _ _ _ htables =>
    rw [atomicCase?_of_caseTables htables]
    exact .same _
  | unhealthy _ _ hstored htables =>
    exact hput hstored (congrArg CaseTables.cases htables) rfl rfl rfl
  | clean _ _ hstored htables =>
    exact hput hstored (congrArg CaseTables.cases htables) rfl rfl rfl
  | created _ _ _ _ htables =>
    rw [atomicCase?_put (congrArg CaseTables.cases htables)]
    split
    · rename_i hcaseId
      have hnone : s.atomicCase? caseId = none := by
        unfold Store.atomicCase?
        rw [← hcaseId, newCase_caseId, hfresh]
        rfl
      rw [hnone]
      exact .opened hid rfl
    · exact .same _

/-- **A claim that succeeds is dated after what it finds on the case.** -/
theorem Claimant.won_later {clock : Int} {claimant : Claimant}
    (h : claimant.Ready py policy clock) {case : AtomicCaseProjection}
    (hcurrent : claimant.request.Current case) (t : Int) (hreads : Reads py t)
    (hlast : case.lastInvestigatedAt = py.isoformat t) : t < claimant.now := by
  have hsnapshot := ((h.current case).1 hcurrent).2.2
  have hasked := h.dated t hreads (hsnapshot.symm.trans hlast)
  have hlater := h.later
  omega

theorem claim_caseMoves {clock : Int} {claimant : Claimant} (h : claimant.Ready py policy clock)
    (s : Store) (caseId : String) :
    CaseMoves py clock (s.atomicCase? caseId)
      ((claimInvestigation claimant.request s).2.atomicCase? caseId) := by
  rcases claimInvestigation_cases claimant.request s with
    ⟨case, hcase, -, hcurrent, -, hcases⟩ | hnothing
  · rw [atomicCase?_put hcases]
    split
    · rename_i hcaseId
      have hid : claimant.request.caseId = caseId :=
        (caseId_of_atomicCase? hcase).symm.trans hcaseId
      rw [← hid, hcase]
      exact .investigated h.reads h.past h.now rfl (Claimant.won_later h hcurrent)
    · exact .same _
  · rw [hnothing]
    exact .same _

theorem record_caseMoves {s : Store} {before now clock : Int}
    (hdated : ∀ caseId case, s.atomicCase? caseId = some case → Dated py before case)
    (hlater : before < now) (hclock : now ≤ clock) (hreads : Reads py now)
    (result : InvestigationResult) (draw : Draw) (caseId : String) :
    CaseMoves py clock (s.atomicCase? caseId)
      ((recordInvestigationResult policy result (py.isoformat now) draw s).2.atomicCase?
        caseId) := by
  rcases recordInvestigationResult_cases policy result (py.isoformat now) draw s with
    ⟨case, hcase, -, hcases⟩ | ⟨-, hnothing⟩
  · rw [atomicCase?_put hcases]
    split
    · rename_i hcaseId
      have hid : result.caseId = caseId := (caseId_of_atomicCase? hcase).symm.trans hcaseId
      rw [← hid, hcase]
      refine .investigated hreads hclock rfl rfl fun t ht hlast => ?_
      have hpast := hdated _ _ hcase t ht hlast
      omega
    · exact .same _
  · rw [hnothing]
    exact .same _

end Moves

/-! ## Runs of claimants -/

section Runs

variable {py : Python} {policy : CasePolicy}

/-- The parts of the system that a step leaves, however it went. -/
theorem investigationStep_moves {sys t : Investigations} {label : InvestigationLabel}
    (h : Timely py policy sys) (hstep : investigationStep py policy sys label t) :
    sys.clock ≤ t.clock ∧
      ∀ caseId, CaseMoves py t.clock (sys.store.atomicCase? caseId) (t.store.atomicCase? caseId) := by
  cases label with
  | observe call =>
    obtain ⟨hid, hfresh, rfl⟩ := hstep
    exact ⟨le_refl _, observe_caseMoves hid hfresh _⟩
  | ask snapshot status asked now draw =>
    obtain ⟨-, hasked, hnow, -, rfl⟩ := hstep
    have hle : sys.clock ≤ now := by omega
    unfold Investigations.asked
    split
    · exact ⟨hle, fun _ => .same _⟩
    · exact ⟨hle, fun _ => .same _⟩
  | claim claimant =>
    obtain ⟨hmem, rfl⟩ := hstep
    have hmoves := claim_caseMoves (h.claimants claimant hmem) sys.store
    unfold Investigations.claimed
    dsimp only
    split
    · exact ⟨le_refl _, hmoves⟩
    · exact ⟨le_refl _, hmoves⟩
  | record result draw now asked claimed =>
    obtain ⟨hnow, hasked, -, hreads, -, rfl⟩ := hstep
    have hle : now ≤ asked := by omega
    refine ⟨by exact (by omega : sys.clock ≤ asked), ?_⟩
    exact record_caseMoves h.stored hnow hle hreads result draw

/-- The snapshots and the claimants that a step adds. -/
theorem investigationStep_adds {sys t : Investigations} {label : InvestigationLabel}
    (h : Timely py policy sys) (hstep : investigationStep py policy sys label t) :
    (∀ case ∈ t.seen, case ∈ t.store.atomicCases ∨ case ∈ sys.seen) ∧
      ∀ claimant ∈ t.claimants, claimant ∈ sys.claimants ∨ claimant.Ready py policy t.clock := by
  cases label with
  | observe call =>
    obtain ⟨-, -, rfl⟩ := hstep
    exact ⟨fun _ => List.mem_append.1, fun _ => Or.inl⟩
  | ask snapshot status asked now draw =>
    obtain ⟨hseen, hasked, hnow, hreads, rfl⟩ := hstep
    unfold Investigations.asked
    split
    · rename_i request hrequest
      refine ⟨fun _ => Or.inr, fun claimant hmem => ?_⟩
      rcases List.mem_cons.1 hmem with rfl | hold
      · obtain ⟨hdue, hcaseId, hnowText, hcurrent⟩ := claimRequest_some hrequest
        refine Or.inr ⟨hnow, le_refl _, hreads, hnowText, hcaseId, hdue, hcurrent, ?_⟩
        exact (h.seen snapshot hseen).mono (by exact hasked.le)
      · exact Or.inl hold
    · exact ⟨fun _ => Or.inr, fun _ => Or.inl⟩
  | claim claimant =>
    obtain ⟨-, rfl⟩ := hstep
    unfold Investigations.claimed
    dsimp only
    split
    · exact ⟨fun _ => List.mem_append.1, fun _ => Or.inl⟩
    · exact ⟨fun _ => List.mem_append.1, fun _ => Or.inl⟩
  | record result draw now asked claimed =>
    obtain ⟨-, -, -, -, -, rfl⟩ := hstep
    exact ⟨fun _ => List.mem_append.1, fun _ => Or.inl⟩

/-- **Every step keeps everything dated in the past.** -/
theorem Timely.step {sys t : Investigations} {label : InvestigationLabel}
    (h : Timely py policy sys) (hstep : investigationStep py policy sys label t) :
    Timely py policy t := by
  obtain ⟨hclock, hmoves⟩ := investigationStep_moves h hstep
  obtain ⟨hseen, hclaimants⟩ := investigationStep_adds h hstep
  have hstored : ∀ caseId case, t.store.atomicCase? caseId = some case →
      Dated py t.clock case := by
    intro caseId case hcase
    have hmove := hmoves caseId
    rw [hcase] at hmove
    exact hmove.dated fun old hold => (h.stored caseId old hold).mono hclock
  refine ⟨?_, hstored, ?_, ?_⟩
  · intro caseId case hcase
    have hmove := hmoves caseId
    have hid := caseId_of_atomicCase? hcase
    rw [hcase] at hmove
    generalize hold : sys.store.atomicCase? caseId = old at hmove
    cases hmove with
    | same => exact h.named caseId case hold
    | kept | investigated => exact h.named caseId _ hold
    | opened hne =>
      rw [← hid]
      exact hne
  · intro case hmem
    rcases hseen case hmem with hnew | hold
    · exact hstored case.caseId case (mem_atomicCases.1 hnew)
    · exact (h.seen case hold).mono hclock
  · intro claimant hmem
    rcases hclaimants claimant hmem with hold | hnew
    · exact (h.claimants claimant hold).mono hclock
    · exact hnew

theorem Timely.run {sys t : Investigations} {labels : List InvestigationLabel}
    (h : Timely py policy sys) (hrun : Run (investigationStep py policy) sys labels t) :
    Timely py policy t :=
  hrun.invariant (fun _ _ _ hs hstep => hs.step hstep) h

/-- The case was investigated at `since` or later. -/
def HeldSince (py : Python) (caseId : String) (since : Int) (sys : Investigations) : Prop :=
  ∃ case last, sys.store.atomicCase? caseId = some case ∧ Reads py last ∧
    case.lastInvestigatedAt = py.isoformat last ∧ since ≤ last

/-- What was investigated then was the signal that the case has now. -/
def Diagnosed (caseId : String) (sys : Investigations) : Prop :=
  ∀ case, sys.store.atomicCase? caseId = some case → case.diagnosisSignature ≠ "" ∧
    (case.signalSignature ≠ "" → case.diagnosisSignature = case.signalSignature)

theorem HeldSince.step {caseId : String} {since : Int} {sys t : Investigations}
    {label : InvestigationLabel} (h : HeldSince py caseId since sys) (htimely : Timely py policy sys)
    (hstep : investigationStep py policy sys label t) : HeldSince py caseId since t := by
  obtain ⟨case, last, hcase, hreads, hlast, hsince⟩ := h
  have hmove := (investigationStep_moves htimely hstep).2 caseId
  rw [hcase] at hmove
  unfold HeldSince
  generalize t.store.atomicCase? caseId = new at hmove ⊢
  cases hmove with
  | same => exact ⟨case, last, rfl, hreads, hlast, hsince⟩
  | kept hkept => exact ⟨_, last, rfl, hreads, hkept.trans hlast, hsince⟩
  | @investigated _ new now hreads' _ hlast' _ hlater =>
    have hgrows := hlater last hreads hlast
    exact ⟨new, now, rfl, hreads', hlast', by omega⟩

theorem diagnosed_of_signature {case : AtomicCaseProjection} (hid : case.caseId ≠ "")
    (hdiagnosis : case.diagnosisSignature = investigationSignature case) :
    case.diagnosisSignature ≠ "" ∧
      (case.signalSignature ≠ "" → case.diagnosisSignature = case.signalSignature) := by
  rw [hdiagnosis]
  exact ⟨investigationSignature_ne hid, fun hsignal => if_neg hsignal⟩

/-- A step that leaves the signal of an investigated case alone. -/
theorem Diagnosed.step {caseId : String} {sys t : Investigations} {label : InvestigationLabel}
    (h : Diagnosed caseId sys) (hheld : (sys.store.atomicCase? caseId).isSome)
    (htimely : Timely py policy sys) (hstep : investigationStep py policy sys label t)
    (hsignal : t.signal? caseId = sys.signal? caseId) : Diagnosed caseId t := by
  have hmove := (investigationStep_moves htimely hstep).2 caseId
  have hnamed := (htimely.step hstep).named caseId
  unfold Investigations.signal? at hsignal
  unfold Diagnosed at h ⊢
  have hid : ∀ case, t.store.atomicCase? caseId = some case → case.caseId = caseId :=
    fun case => caseId_of_atomicCase?
  generalize t.store.atomicCase? caseId = new at hmove hsignal hnamed hid ⊢
  generalize sys.store.atomicCase? caseId = old at hmove hsignal hheld h
  cases hmove with
  | same => exact h
  | @kept old new _ hdiagnosis =>
    intro case hcase
    cases hcase
    have hsame : new.signalSignature = old.signalSignature := by simpa using hsignal
    rw [hdiagnosis, hsame]
    exact h old rfl
  | opened => cases hheld
  | @investigated _ new _ _ _ _ hdiagnosis =>
    intro case hcase
    cases hcase
    refine diagnosed_of_signature ?_ hdiagnosis
    rw [hid new rfl]
    exact hnamed new rfl

theorem HeldSince.run {caseId : String} {since : Int} {sys t : Investigations}
    {labels : List InvestigationLabel} (h : HeldSince py caseId since sys)
    (htimely : Timely py policy sys) (hrun : Run (investigationStep py policy) sys labels t) :
    HeldSince py caseId since t := by
  have hboth : Timely py policy t ∧ HeldSince py caseId since t :=
    hrun.invariant (I := fun x => Timely py policy x ∧ HeldSince py caseId since x)
      (fun _ _ _ hs hstep => ⟨hs.1.step hstep, hs.2.step hs.1 hstep⟩) ⟨htimely, h⟩
  exact hboth.2

/-- A run that leaves the signal of an investigated case alone. -/
theorem Diagnosed.run {caseId : String} {signal : Option String} {since : Int}
    {sys t : Investigations} {labels : List InvestigationLabel} (h : Diagnosed caseId sys)
    (hheld : HeldSince py caseId since sys) (htimely : Timely py policy sys)
    (hsignal : sys.signal? caseId = signal)
    (hrun : Run (Upheld (investigationStep py policy) fun x => x.signal? caseId = signal)
      sys labels t) : Diagnosed caseId t := by
  have hall : (Timely py policy t ∧ HeldSince py caseId since t) ∧ Diagnosed caseId t ∧
      t.signal? caseId = signal := by
    refine hrun.invariant (I := fun x => (Timely py policy x ∧ HeldSince py caseId since x) ∧
      Diagnosed caseId x ∧ x.signal? caseId = signal) ?_ ⟨⟨htimely, hheld⟩, h, hsignal⟩
    rintro x label y ⟨⟨ht, hx⟩, hd, hsame⟩ ⟨hstep, hsame'⟩
    obtain ⟨case, -, hcase, -⟩ := id hx
    refine ⟨⟨ht.step hstep, hx.step ht hstep⟩, ?_, hsame'⟩
    exact hd.step (by rw [hcase]; rfl) ht hstep (hsame'.trans hsame.symm)
  exact hall.2.1

/-- What a claim that succeeds leaves on the case. -/
theorem Claimant.Wins.claimed {claimant : Claimant} {s : Store} (hwins : claimant.Wins s) :
    ∃ case, s.atomicCase? claimant.request.caseId = some case ∧ claimant.request.Current case ∧
      (claimInvestigation claimant.request s).2.atomicCase? claimant.request.caseId =
        some (claimedCase case claimant.request) := by
  obtain ⟨won, hwon⟩ := hwins
  rcases claimInvestigation_cases claimant.request s with
    ⟨case, hcase, -, hcurrent, -, hcases⟩ | hnothing
  · refine ⟨case, hcase, hcurrent, ?_⟩
    rw [atomicCase?_put hcases, claimedCase_caseId, if_pos (caseId_of_atomicCase? hcase)]
  · rw [hnothing] at hwon
    cases hwon

theorem Investigations.claimed_store (sys : Investigations) (claimant : Claimant) :
    (sys.claimed claimant).store = (claimInvestigation claimant.request sys.store).2 := by
  unfold Investigations.claimed
  dsimp only
  split <;> rfl

/-- The systems in which nobody has asked yet, and no case is dated in the future. -/
structure Begins (py : Python) (sys : Investigations) : Prop where
  claimants : sys.claimants = []
  named : ∀ caseId case, sys.store.atomicCase? caseId = some case → caseId ≠ ""
  past : ∀ case, case ∈ sys.seen ∨ case ∈ sys.store.atomicCases → Dated py sys.clock case

theorem Begins.timely {sys : Investigations} (h : Begins py sys) : Timely py policy sys := by
  refine ⟨h.named, ?_, fun case hmem => h.past case (Or.inl hmem), ?_⟩
  · intro caseId case hcase
    refine h.past case (Or.inr (mem_atomicCases.2 ?_))
    rw [caseId_of_atomicCase? hcase]
    exact hcase
  · intro claimant hmem
    rw [h.claimants] at hmem
    cases hmem

/-- **Of two claims of one case that succeed, the second is not made on the snapshot of the first;
and when the signal of the case did not change between them, a cooldown lies between them.** -/
theorem claims_spaced {s t u v w : Investigations} {before between : List InvestigationLabel}
    {first second : Claimant} (hbegins : Begins py s)
    (hbefore : Run (investigationStep py policy) s before t)
    (hfirst : investigationStep py policy t (.claim first) u) (hwins : first.Wins t.store)
    (hbetween : Run (investigationStep py policy) u between v)
    (hsecond : investigationStep py policy v (.claim second) w) (hwins' : second.Wins v.store)
    (hcase : second.request.caseId = first.request.caseId) :
    second.snapshot ≠ first.snapshot ∧
      (Run (Upheld (investigationStep py policy) fun sys =>
          sys.signal? first.request.caseId = u.signal? first.request.caseId) u between v →
        (min policy.investigationCooldownS policy.investigationFailureRetryS : Int) * 1000000 ≤
          second.now - first.now) := by
  have htimely : Timely py policy t := Timely.run hbegins.timely hbefore
  have hready := htimely.claimants first hfirst.1
  have htimelyU := htimely.step hfirst
  have hready' := (htimelyU.run hbetween).claimants second hsecond.1
  obtain ⟨case, hstored, hcurrent, hclaimed⟩ := hwins.claimed
  have hcaseU : u.store.atomicCase? first.request.caseId =
      some (claimedCase case first.request) := by
    rw [hfirst.2, Investigations.claimed_store]
    exact hclaimed
  have hheld : HeldSince py first.request.caseId first.now u :=
    ⟨_, first.now, hcaseU, hready.reads, hready.now, le_refl _⟩
  obtain ⟨found, last, hfound, hreads, hlast, hsince⟩ := hheld.run htimelyU hbetween
  obtain ⟨found', hfound', hcurrent', -⟩ := hwins'.claimed
  rw [hcase, hfound] at hfound'
  cases hfound'
  obtain ⟨hsignal, hdiagnosis, hlastSnapshot⟩ := (hready'.current found).1 hcurrent'
  have hlast' : second.snapshot.lastInvestigatedAt = py.isoformat last :=
    hlastSnapshot.symm.trans hlast
  constructor
  · intro hsame
    have hpast := hready.dated last hreads (by rw [← hsame]; exact hlast')
    have hlater := hready.later
    omega
  · intro hunchanged
    have hdiagnosedU : Diagnosed first.request.caseId u := by
      intro written hwritten
      rw [hcaseU] at hwritten
      cases hwritten
      refine diagnosed_of_signature ?_ rfl
      rw [claimedCase_caseId, caseId_of_atomicCase? hstored]
      exact htimely.named _ _ hstored
    obtain ⟨hne, hsame⟩ := hdiagnosedU.run hheld htimelyU rfl hunchanged found hfound
    have helapsed := shouldInvestigate_elapsed hlast' hreads (by rw [← hdiagnosis]; exact hne)
      (by rw [← hsignal, ← hdiagnosis]; exact hsame) hready'.due
    have hlater := hready'.later
    omega

end Runs

/-! ## A case that is investigated twice, and one whose signal changes -/

def investigatedPython : Python :=
  tablePython [("2026-01-01T01:00:00+00:00", 1767229200000000),
    ("2026-01-01T02:00:00+00:00", 1767232800000000),
    ("2026-01-01T08:00:00+00:00", 1767254400000000)]

def instantA : Int := 1767229200000000

def instantR : Int := 1767232800000000

def instantB : Int := 1767254400000000

/-- The alert `x` fires with a signal. -/
def signalCall (n : Nat) (signal : String) : ObserveCall :=
  let call := alertCall (toString n) n .firing "x" "" "2026-01-01T00:00:00+00:00"
  { call with observation := { call.observation with signalSignature := signal } }

def beganCase : AtomicCaseProjection :=
  newCase investigatedPython {} (signalCall 1 "a").observation "x" (signalCall 1 "a").draws

/-- The alert fired once. -/
def began : Investigations where
  store := (observe investigatedPython {} (signalCall 1 "a").observation (signalCall 1 "a").draws
    {}).2
  clock := 0
  seen := [beganCase]

/-- Somebody who asked whether the case is due, a moment before `now`. -/
def claimantAt (snapshot : AtomicCaseProjection) (now : Int) : Claimant where
  snapshot := snapshot
  asked := now - 1
  now := now
  request := requestFor {} snapshot "in_progress" (investigatedPython.isoformat now)
    ⟨"evt_i", investigatedPython.isoformat now⟩

def askedAt (snapshot : AtomicCaseProjection) (now : Int) : InvestigationLabel :=
  .ask snapshot "in_progress" (now - 1) now ⟨"evt_i", investigatedPython.isoformat now⟩

def claimantA : Claimant := claimantAt beganCase instantA

/-- The case after the first claim. -/
def claimedA : AtomicCaseProjection := claimedCase beganCase claimantA.request

def claimantB : Claimant := claimantAt claimedA instantB

def askedA : Investigations := { began with
  clock := instantA
  claimants := [claimantA] }

def wonA : Investigations := askedA.claimed claimantA

def askedB : Investigations := { wonA with
  clock := instantB
  claimants := [claimantB, claimantA] }

theorem began_run : Run (investigationStep investigatedPython {}) began
    [askedAt beganCase instantA] askedA :=
  Run.single ⟨List.mem_singleton_self _, by decide, by decide, by decide +kernel, rfl⟩

theorem askedA_claim : investigationStep investigatedPython {} askedA (.claim claimantA) wonA :=
  ⟨List.mem_singleton_self _, rfl⟩

theorem wonA_ask : investigationStep investigatedPython {} wonA (askedAt claimedA instantB) askedB :=
  ⟨List.mem_cons_self, by decide, by decide, by decide +kernel, rfl⟩

theorem began_begins : Begins investigatedPython began := by
  have hcases : began.store.atomicCases = [beganCase] := rfl
  refine ⟨rfl, ?_, ?_⟩
  · intro caseId case hcase
    have hmem : case ∈ began.store.atomicCases := by
      rw [mem_atomicCases, caseId_of_atomicCase? hcase]
      exact hcase
    rw [hcases, List.mem_singleton] at hmem
    rw [← caseId_of_atomicCase? hcase, hmem]
    decide
  · intro case hmem t hreads hlast
    have hcase : case = beganCase := by
      rcases hmem with hmem | hmem
      · exact List.mem_singleton.1 hmem
      · rw [hcases] at hmem
        exact List.mem_singleton.1 hmem
    rw [hcase] at hlast
    exact absurd hlast.symm hreads.ne_empty

theorem claims_spaced_twice : claimantB.snapshot ≠ claimantA.snapshot ∧
    (21600 : Int) * 1000000 ≤ claimantB.now - claimantA.now := by
  have hbetween : Run (investigationStep investigatedPython {}) wonA [askedAt claimedA instantB]
      askedB := Run.single wonA_ask
  obtain ⟨hdiffer, hspaced⟩ := claims_spaced began_begins began_run askedA_claim ⟨claimedA, rfl⟩
    hbetween ⟨List.mem_cons_self, rfl⟩ ⟨claimedCase claimedA claimantB.request, rfl⟩ rfl
  exact ⟨hdiffer, hspaced (Run.single ⟨wonA_ask, rfl⟩)⟩

def changedA : Investigations :=
  wonA.moved (observe investigatedPython {} (signalCall 2 "b").observation
    (signalCall 2 "b").draws wonA.store).2

/-- The result of the investigation of the signal `a`; the case is looked at a second later. -/
def resultA : InvestigationLabel :=
  .record {
    caseId := "case_1"
    diagnosis := [] } ⟨"evt_r", investigatedPython.isoformat instantR⟩ instantR
    (instantR + 1000000) (some "a")

def recordedA : Investigations := { changedA.moved (recordInvestigationResult {} {
    caseId := "case_1"
    diagnosis := [] } (investigatedPython.isoformat instantR)
    ⟨"evt_r", investigatedPython.isoformat instantR⟩ changedA.store).2 with
  clock := instantR + 1000000 }

/-- The signal changes while the first one is investigated, and its result is recorded. -/
theorem not_keepsChangedSignal_recorded :
    Run (investigationStep investigatedPython {}) began
      [askedAt beganCase instantA, .claim claimantA, .observe (signalCall 2 "b")] changedA ∧
    investigationStep investigatedPython {} changedA resultA recordedA ∧
    ¬ KeepsChangedSignal investigatedPython {} changedA resultA recordedA := by
  have hstep : investigationStep investigatedPython {} changedA resultA recordedA :=
    ⟨by decide +kernel, by decide, by decide, by decide +kernel,
      fun signature hsignature => (by cases hsignature; exact List.mem_singleton_self _), rfl⟩
  refine ⟨?_, hstep, ?_⟩
  · exact began_run.append (Run.cons askedA_claim
      (Run.single ⟨by decide, by decide +kernel, rfl⟩))
  · rw [keepsChangedSignal_iff hstep, Classical.not_not]
    exact ⟨"a", rfl, _, rfl, by decide +kernel, by decide, by decide +kernel, by decide +kernel,
      by decide⟩

end NocAgent.Cases
