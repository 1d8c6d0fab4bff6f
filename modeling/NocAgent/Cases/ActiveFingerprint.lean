import NocAgent.Cases.ObserveSpec
import NocAgent.Lib.Lts
import NocAgent.Lib.UniqueIndex

/-!
# One active case for a fingerprint

* `OneActive` — at most one atomic case with a fingerprint has not ended.
* `activeFingerprint` — the partial key of `cases_active_atomic_fingerprint_idx`.
* `observe_oneActive` — the observations that keep it so, which are those whose write the index
  accepts: the ones that do not revive a case beside another.
* `oneActive_run_iff` — over every run of observations of an empty store.
-/

set_option autoImplicit false

namespace NocAgent.Cases

open Effects Effects.Action Keyed Lts

/-- At most one atomic case with a fingerprint has a status that is not terminal. -/
def OneActive (s : Store) : Prop :=
  ∀ caseId case otherId other, s.atomicCase? caseId = some case →
    s.atomicCase? otherId = some other → case.fingerprint ≠ "" →
    other.fingerprint = case.fingerprint → case.status ∉ TERMINAL_CASE_STATUSES →
    other.status ∉ TERMINAL_CASE_STATUSES → caseId = otherId

/-- The case is indexed by `cases_active_atomic_fingerprint_idx`. -/
def AtomicCaseProjection.Indexed (case : AtomicCaseProjection) : Prop :=
  case.fingerprint ≠ "" ∧ case.status ∉ TERMINAL_CASE_STATUSES

instance (case : AtomicCaseProjection) : Decidable case.Indexed := by
  unfold AtomicCaseProjection.Indexed; infer_instance

/-- The partial key of `cases_active_atomic_fingerprint_idx`. -/
def activeFingerprint : CaseProjection → Option String
  | .atomic case => if case.Indexed then some case.fingerprint else none
  | .storm _ => none

/-- The case a call of `observe` writes. -/
def writtenCase : Except PyExc ObserveResult → Option AtomicCaseProjection
  | .ok result =>
    match result.action with
    | .created | .updated | .resolvedPositiveClean => result.case
    | .cleanWithoutCase | .ignoredUnknownStatus => none
  | .error _ => none

section Steps

variable (py : Python) (policy : CasePolicy)

/-- One observation; the id drawn for a new case is new. -/
def observeStep (s : Store) (call : ObserveCall) (t : Store) : Prop :=
  s.cases.get? call.draws.caseId = none ∧
    t = (observe py policy call.observation call.draws s).2

/-- The index accepts what the call writes. -/
def IndexAccepts (s : Store) (call : ObserveCall) : Prop :=
  ∀ case ∈ writtenCase (observe py policy call.observation call.draws s).1,
    s.cases.Accepts activeFingerprint (.atomic case)

/-- A firing observation finds a resolved case while another case with its fingerprint is
active. -/
def Revives (s : Store) (call : ObserveCall) : Prop :=
  (s.stored call.observation).status = .firing ∧
  ∃ case, Found py s (s.stored call.observation) call.draws case ∧
    case.status = .resolved ∧ case.fingerprint ≠ "" ∧
    ∃ otherId other, s.atomicCase? otherId = some other ∧ otherId ≠ case.caseId ∧
      other.fingerprint = case.fingerprint ∧ other.status ∉ TERMINAL_CASE_STATUSES

end Steps

/-! ## The index -/

theorem activeFingerprint_eq_some {row : CaseProjection} {fingerprint : String} :
    activeFingerprint row = some fingerprint ↔
      ∃ case, row = .atomic case ∧ case.Indexed ∧ case.fingerprint = fingerprint := by
  cases row with
  | storm case => simp [activeFingerprint]
  | atomic case =>
    unfold activeFingerprint
    by_cases h : case.Indexed <;> simp [h]

theorem activeFingerprint_indexed {case : AtomicCaseProjection} (h : case.Indexed) :
    activeFingerprint (.atomic case) = some case.fingerprint := if_pos h

theorem activeFingerprint_not_indexed {case : AtomicCaseProjection} (h : ¬ case.Indexed) :
    activeFingerprint (.atomic case) = none := if_neg h

theorem activeFingerprint_congr {case written : AtomicCaseProjection}
    (hfp : written.fingerprint = case.fingerprint) (hstatus : written.status = case.status) :
    activeFingerprint (.atomic written) = activeFingerprint (.atomic case) := by
  have hindexed : written.Indexed ↔ case.Indexed := by
    unfold AtomicCaseProjection.Indexed
    rw [hfp, hstatus]
  exact if_congr hindexed (congrArg some hfp) rfl

/-- A stored case is a row of the table. -/
theorem mem_rows_of_atomicCase? {s : Store} {caseId : String} {case : AtomicCaseProjection}
    (h : s.atomicCase? caseId = some case) : CaseProjection.atomic case ∈ s.cases.rows :=
  Table.mem_of_get? (atomicCase?_eq_some.1 h)

theorem atomicCase?_of_mem_rows {s : Store} {case : AtomicCaseProjection}
    (h : CaseProjection.atomic case ∈ s.cases.rows) : s.atomicCase? case.caseId = some case :=
  atomicCase?_eq_some.2 (Table.mem_rows_iff.1 h)

/-- **What the index enforces is that a fingerprint has one active case.** -/
theorem oneActive_iff {s : Store} : OneActive s ↔ s.cases.UniqueBy activeFingerprint := by
  constructor
  · intro h row hrow other hother hsome heq
    obtain ⟨fingerprint, hfp⟩ := Option.isSome_iff_exists.1 hsome
    obtain ⟨case, rfl, hindexed, hcase⟩ := activeFingerprint_eq_some.1 hfp
    obtain ⟨case', rfl, hindexed', hcase'⟩ := activeFingerprint_eq_some.1 (heq.trans hfp)
    have hsame : case'.fingerprint = case.fingerprint := hcase'.trans hcase.symm
    exact (h case.caseId case case'.caseId case' (atomicCase?_of_mem_rows hrow)
      (atomicCase?_of_mem_rows hother) hindexed.1 hsame hindexed.2 hindexed'.2).symm
  · intro h caseId case otherId other hget hget' hne hsame hopen hopen'
    have hindexed : case.Indexed := ⟨hne, hopen⟩
    have hindexed' : other.Indexed := ⟨hsame ▸ hne, hopen'⟩
    have hid := h _ (mem_rows_of_atomicCase? hget) _ (mem_rows_of_atomicCase? hget')
      (by rw [activeFingerprint_indexed hindexed]; rfl)
      (by rw [activeFingerprint_indexed hindexed, activeFingerprint_indexed hindexed', hsame])
    have hcase : case.caseId = caseId := caseId_of_atomicCase? hget
    have hother : other.caseId = otherId := caseId_of_atomicCase? hget'
    have hid' : other.caseId = case.caseId := hid
    rw [← hcase, ← hother, hid']

/-- What the index says of a case that is not indexed elsewhere. -/
theorem accepts_atomic {s : Store} {case : AtomicCaseProjection} (hindexed : case.Indexed) :
    s.cases.Accepts activeFingerprint (.atomic case) ↔
      ∀ otherId other, s.atomicCase? otherId = some other →
        other.fingerprint = case.fingerprint → other.status ∉ TERMINAL_CASE_STATUSES →
        otherId = case.caseId := by
  constructor
  · intro h otherId other hget hsame hopen
    have hother : other.Indexed := ⟨hsame ▸ hindexed.1, hopen⟩
    have hid := h _ (mem_rows_of_atomicCase? hget)
      (by rw [activeFingerprint_indexed hindexed]; rfl)
      (by rw [activeFingerprint_indexed hindexed, activeFingerprint_indexed hother, hsame])
    exact (caseId_of_atomicCase? hget).symm.trans hid
  · intro h row hrow _ heq
    rw [activeFingerprint_indexed hindexed] at heq
    obtain ⟨other, rfl, hother, hsame⟩ := activeFingerprint_eq_some.1 heq
    exact h other.caseId other (atomicCase?_of_mem_rows hrow) hsame hother.2

section Proofs

variable {py : Python} {policy : CasePolicy} {s : Store}

theorem oneActive_same {t : Store} (htables : t.caseTables = s.caseTables) (hs : OneActive s) :
    OneActive t := by
  have hcases : t.cases = s.cases := cases_of_caseTables htables
  rw [oneActive_iff] at hs ⊢
  rw [hcases]
  exact hs

theorem oneActive_put {t : Store} {case : AtomicCaseProjection} (hs : OneActive s)
    (hcases : t.cases = s.cases.put (.atomic case)) :
    OneActive t ↔ s.cases.Accepts activeFingerprint (.atomic case) := by
  rw [oneActive_iff] at hs ⊢
  rw [hcases]
  exact Table.uniqueBy_put_iff hs

/-- A firing observation makes an ended case active only when the case was resolved. -/
theorem unhealthyCase_indexed {case : AtomicCaseProjection} {observation : ObservationRecord}
    {covered : Severity} {now : String} :
    (unhealthyCase policy case observation covered now).Indexed ↔
      case.Indexed ∨ case.fingerprint ≠ "" ∧ case.status = .resolved := by
  unfold AtomicCaseProjection.Indexed
  have hfp : (unhealthyCase policy case observation covered now).fingerprint = case.fingerprint :=
    rfl
  have hstatus : (unhealthyCase policy case observation covered now).status =
      if case.status = .recoveredPending ∨ case.status = .resolved then .investigating
      else case.status := rfl
  rw [hfp, hstatus]
  by_cases hresolved : case.status = .resolved
  · simp [hresolved, TERMINAL_CASE_STATUSES]
  · by_cases hrecovered : case.status = .recoveredPending
    · simp [hrecovered, TERMINAL_CASE_STATUSES]
    · simp [hresolved, hrecovered]

/-- The index accepts a firing observation unless it revives a case beside an active one. -/
theorem accepts_unhealthyCase (policy : CasePolicy) (hs : OneActive s) {case : AtomicCaseProjection}
    (hstored : s.atomicCase? case.caseId = some case) (observation : ObservationRecord)
    (covered : Severity) (now : String) :
    s.cases.Accepts activeFingerprint
        (.atomic (unhealthyCase policy case observation covered now)) ↔
      ¬ (case.status = .resolved ∧ case.fingerprint ≠ "" ∧
        ∃ otherId other, s.atomicCase? otherId = some other ∧ otherId ≠ case.caseId ∧
          other.fingerprint = case.fingerprint ∧ other.status ∉ TERMINAL_CASE_STATUSES) := by
  by_cases hindexed : case.Indexed
  · -- an active case keeps its place in the index
    refine iff_of_true ?_ fun h => ?_
    · refine (oneActive_iff.1 hs).accepts (mem_rows_of_atomicCase? hstored) rfl ?_
      rw [activeFingerprint_indexed hindexed,
        activeFingerprint_indexed (unhealthyCase_indexed.2 (Or.inl hindexed))]
      rfl
    · have hopen := hindexed.2
      rw [h.1] at hopen
      simp [TERMINAL_CASE_STATUSES] at hopen
  · by_cases hrevived : case.fingerprint ≠ "" ∧ case.status = .resolved
    · rw [accepts_atomic (unhealthyCase_indexed.2 (Or.inr hrevived))]
      constructor
      · rintro h ⟨-, -, otherId, other, hget, hne, hsame, hopen⟩
        exact hne (h otherId other hget hsame hopen)
      · intro h otherId other hget hsame hopen
        by_contra hne
        exact h ⟨hrevived.2, hrevived.1, otherId, other, hget, hne, hsame, hopen⟩
    · refine iff_of_true (Table.accepts_of_none (activeFingerprint_not_indexed ?_)) ?_
      · rw [unhealthyCase_indexed]
        exact not_or.2 ⟨hindexed, hrevived⟩
      · intro h
        exact hrevived ⟨h.2.1, h.1⟩

/-- The index accepts every clean observation. -/
theorem accepts_cleanCase (policy : CasePolicy) (hs : OneActive s) {case : AtomicCaseProjection}
    (hstored : s.atomicCase? case.caseId = some case) (observation : ObservationRecord)
    (now : String) :
    s.cases.Accepts activeFingerprint (.atomic (cleanCase policy case observation now)) := by
  have hstatus : (cleanCase policy case observation now).status =
      if resolvesPositiveClean policy observation then .resolved else case.status := rfl
  cases hresolves : resolvesPositiveClean policy observation with
  | true =>
    refine Table.accepts_of_none (activeFingerprint_not_indexed fun h => ?_)
    have hopen := h.2
    rw [hstatus, hresolves] at hopen
    simp [TERMINAL_CASE_STATUSES] at hopen
  | false =>
    refine (oneActive_iff.1 hs).accepts (mem_rows_of_atomicCase? hstored) rfl
      (activeFingerprint_congr rfl ?_)
    rw [hstatus, hresolves]
    rfl

/-- The index accepts a new case whose fingerprint no active case has. -/
theorem accepts_newCase (py : Python) (policy : CasePolicy) (observation : ObservationRecord)
    (draws : ObserveDraws) {aliasValue : String} (hsame : s.sameFingerprint aliasValue = none) :
    s.cases.Accepts activeFingerprint
      (.atomic (newCase py policy observation aliasValue draws)) := by
  by_cases hindexed : (newCase py policy observation aliasValue draws).Indexed
  · rw [accepts_atomic hindexed]
    intro otherId other hget hfp hopen
    have hended := (sameFingerprint_none hindexed.1).1 hsame otherId other hget hfp
    exact absurd hended hopen
  · exact Table.accepts_of_none (activeFingerprint_not_indexed hindexed)

/-- **An observation keeps one active case for a fingerprint unless it revives a case beside
another, and these are the observations whose write the index accepts.** -/
theorem observe_oneActive (hs : OneActive s) (call : ObserveCall) :
    (OneActive (observe py policy call.observation call.draws s).2 ↔ ¬ Revives py s call) ∧
      (IndexAccepts py policy s call ↔ ¬ Revives py s call) := by
  unfold IndexAccepts Revives
  have hends := observe_observes py policy s call.observation call.draws
  revert hends
  generalize observe py policy call.observation call.draws s = r
  obtain ⟨r, t⟩ := r
  intro hends
  generalize s.stored call.observation = observation at hends ⊢
  dsimp only at hends ⊢
  cases hends with
  | raised hfound _ htables =>
    have hnot : ¬ (observation.status = .firing ∧ ∃ case, Found py s observation call.draws case ∧
        case.status = .resolved ∧ case.fingerprint ≠ "" ∧
        ∃ otherId other, s.atomicCase? otherId = some other ∧ otherId ≠ case.caseId ∧
          other.fingerprint = case.fingerprint ∧ other.status ∉ TERMINAL_CASE_STATUSES) := by
      rintro ⟨-, case, hcase, -⟩
      exact hfound case hcase
    refine ⟨iff_of_true (oneActive_same htables hs) hnot, iff_of_true (fun case h => ?_) hnot⟩
    cases h
  | @noted result _ hstatus haction _ _ htables =>
    refine ⟨iff_of_true (oneActive_same htables hs) fun h => hstatus h.1,
      iff_of_true (fun case h => ?_) fun h => hstatus h.1⟩
    have hnone : writtenCase (.ok result) = none := by
      unfold writtenCase
      rcases haction with h | h <;> simp only [h]
    rw [hnone] at h
    cases h
  | @unhealthy case _ _ hfiring hfound hstored htables =>
    have haccepts := accepts_unhealthyCase policy hs hstored observation
      (s.covered case) call.draws.updatedAt
    have hrevives : (observation.status = .firing ∧
        ∃ case, Found py s observation call.draws case ∧ case.status = .resolved ∧
          case.fingerprint ≠ "" ∧ ∃ otherId other, s.atomicCase? otherId = some other ∧
            otherId ≠ case.caseId ∧ other.fingerprint = case.fingerprint ∧
            other.status ∉ TERMINAL_CASE_STATUSES) ↔
        (case.status = .resolved ∧ case.fingerprint ≠ "" ∧
          ∃ otherId other, s.atomicCase? otherId = some other ∧ otherId ≠ case.caseId ∧
            other.fingerprint = case.fingerprint ∧ other.status ∉ TERMINAL_CASE_STATUSES) := by
      constructor
      · rintro ⟨-, found, hother, h⟩
        cases hfound.unique hother
        exact h
      · intro h
        exact ⟨hfiring, case, hfound, h⟩
    rw [hrevives, ← haccepts]
    refine ⟨oneActive_put hs (congrArg CaseTables.cases htables), fun h => h _ rfl, ?_⟩
    intro h written hwritten
    cases hwritten
    exact h
  | @clean case _ _ hclean hresolved hstored htables =>
    have haccepts := accepts_cleanCase policy hs hstored observation
      call.draws.updatedAt
    have hnot : observation.status ≠ .firing := by
      rcases hclean with h | h <;> simp [h]
    refine ⟨iff_of_true ((oneActive_put hs (congrArg CaseTables.cases htables)).2 haccepts)
      fun h => hnot h.1, iff_of_true (fun written h => ?_) fun h => hnot h.1⟩
    have hwritten : written = cleanCase policy case observation call.draws.updatedAt := by
      cases hresolves : resolvesPositiveClean policy observation <;> rw [hresolves] at h <;>
        exact (Option.some.inj h).symm
    rw [hwritten]
    exact haccepts
  | created hfiring hnone hfree hsame htables =>
    have haccepts := accepts_newCase py policy observation call.draws hsame
    have hfound : ∀ case, ¬ Found py s observation call.draws case := by
      intro case h
      cases h with
      | byAlias h => cases hnone.symm.trans h
      | byNewAlias _ h => cases hfree.symm.trans h
      | byFingerprint _ _ h => cases hsame.symm.trans h
    refine ⟨iff_of_true ((oneActive_put hs (congrArg CaseTables.cases htables)).2 haccepts) ?_,
      iff_of_true (fun written h => ?_) ?_⟩
    · rintro ⟨-, case, hcase, -⟩
      exact hfound case hcase
    · cases h
      exact haccepts
    · rintro ⟨-, case, hcase, -⟩
      exact hfound case hcase

theorem oneActive_empty : OneActive {} := oneActive_iff.2 Table.uniqueBy_empty

end Proofs

/-! ## A case that is resolved and comes back by another alias -/

def alertCall (observationId : String) (n : Nat) (status : ObservationStatus)
    (sourceFingerprint dedupKey observedAt : String) : ObserveCall where
  observation := {
    observationId := observationId
    sourceFingerprint := sourceFingerprint
    dedupKey := dedupKey
    status := status
    sourceHealth := .healthy
    observedAt := observedAt }
  draws := {
    caseId := "case_" ++ toString n
    aliasId := fun i => "alias_" ++ toString n ++ "_" ++ toString i
    now := observedAt
    created := ⟨"evt_a" ++ observationId, observedAt⟩
    unhealthy := ⟨"evt_b" ++ observationId, observedAt⟩
    updatedAt := observedAt
    update := ⟨"evt_c" ++ observationId, observedAt⟩ }

/-- The alert fires and clears, fires under its deduplication key, and fires again. -/
def revivingCalls : List ObserveCall :=
  [alertCall "obs_1" 1 .firing "x" "" "2026-01-01T01:00:00+00:00",
    alertCall "obs_2" 2 .clean "x" "" "2026-01-01T02:00:00+00:00",
    alertCall "obs_3" 3 .firing "" "x" "2026-01-01T03:00:00+00:00",
    alertCall "obs_4" 4 .firing "x" "" "2026-01-01T04:00:00+00:00"]

def observedBy (calls : List ObserveCall) : Store :=
  calls.foldl (fun s call => (observe (tablePython []) {} call.observation call.draws s).2) {}

instance (py : Python) (policy : CasePolicy) (s : Store) (call : ObserveCall) :
    Decidable (IndexAccepts py policy s call) := by
  unfold IndexAccepts; infer_instance

end NocAgent.Cases
