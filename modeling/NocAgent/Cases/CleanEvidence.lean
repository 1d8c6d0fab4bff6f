import NocAgent.Cases.ObserveSpec
import NocAgent.Cases.Verifier
import NocAgent.Lib.Lts

/-!
# Evidence that an alert is clear

* `EvidenceSystem` — the store, and the positive-clean observations that were applied to a case.
* `Evidenced` — the default check of an alert-clear objective passes on positive evidence only.
* `evidenced_step` — the observations that keep it so: `Backed`.
* `evidenced_run_iff` — over every run of observations.
-/

set_option autoImplicit false

namespace NocAgent.Cases

open Effects Effects.Action Keyed Lts

/-- One observation that was applied to a case. -/
structure Sighting where
  caseId : String
  observedAt : String
  deriving DecidableEq, Repr

/-- The store, and the clean sightings that were positive. -/
structure EvidenceSystem where
  store : Store
  positives : List Sighting

/-- A positive-clean observation that was applied to a case. -/
def positiveOf : Except PyExc ObserveResult → Option Sighting
  | .ok result =>
    if result.observation.isPositiveClean then
      result.case.map fun case => ⟨case.caseId, result.observation.observedAt⟩
    else none
  | .error _ => none

section Steps

variable (py : Python) (policy : CasePolicy)

def EvidenceSystem.after (sys : EvidenceSystem) (call : ObserveCall) : EvidenceSystem :=
  let r := observe py policy call.observation call.draws sys.store
  { store := r.2
    positives := sys.positives ++ (positiveOf r.1).toList }

def evidenceStep (sys : EvidenceSystem) (call : ObserveCall) (t : EvidenceSystem) : Prop :=
  t = sys.after py policy call

/-- A clean observation at the one time is not earlier than an unhealthy one at the other. -/
def NotEarlier (clean unhealthy : String) : Prop :=
  observedCleanAfterUnhealthy py clean unhealthy = .ok true

/-- Positive evidence about a case that is not earlier than the given unhealthy observation. -/
def EvidenceSystem.Backs (sys : EvidenceSystem) (caseId unhealthy : String) : Prop :=
  ∃ sighting ∈ sys.positives, sighting.caseId = caseId ∧
    NotEarlier py sighting.observedAt unhealthy

/-- **The check of an alert-clear objective passes on positive evidence only.** -/
def Evidenced (sys : EvidenceSystem) : Prop :=
  ∀ objective : VerificationObjective, objective.objectiveType = "monitoring_alert_clear" →
    ∀ result, defaultVerificationCheck py objective (sys.store.atomicCase? objective.caseId) =
        .ok result → result.status = .pass →
      ∃ case ∈ sys.store.atomicCase? objective.caseId,
        sys.Backs py objective.caseId case.lastObservedUnhealthy

/-- If these times pass the check, then on positive evidence. -/
def EvidenceSystem.Supported (sys : EvidenceSystem) (caseId clean unhealthy : String) : Prop :=
  NotEarlier py clean unhealthy → sys.Backs py caseId unhealthy

/-- The observation gives its case no pair of times that passes the check without positive
evidence: not a firing one by moving the last unhealthy observation back, and not one from a
degraded or failed source by moving the last clean one forth. -/
def Backed (sys : EvidenceSystem) (call : ObserveCall) : Prop :=
  let observation := sys.store.stored call.observation
  ∀ case,
    (observation.status = .firing → Found py sys.store observation call.draws case →
      sys.Supported py case.caseId case.lastObservedClean observation.observedAt) ∧
    (observation.status = .clean ∨ observation.status = .resolved →
      observation.isPositiveClean = false →
      sys.store.resolved? (observationAlias py observation).1 (observationAlias py observation).2 =
        some case →
      sys.Supported py case.caseId observation.observedAt case.lastObservedUnhealthy)

end Steps

section Proofs

variable {py : Python} {policy : CasePolicy} {sys : EvidenceSystem}

/-- When the default check of an alert-clear objective passes. -/
theorem defaultVerificationCheck_pass (py : Python) {objective : VerificationObjective}
    (htype : objective.objectiveType = "monitoring_alert_clear")
    (case : Option AtomicCaseProjection) :
    (∃ result, defaultVerificationCheck py objective case = .ok result ∧ result.status = .pass) ↔
      ∃ c ∈ case, NotEarlier py c.lastObservedClean c.lastObservedUnhealthy := by
  unfold defaultVerificationCheck NotEarlier
  simp only [htype, if_true]
  cases case with
  | none => simp
  | some c =>
    simp only []
    rcases hpass : observedCleanAfterUnhealthy py c.lastObservedClean c.lastObservedUnhealthy with
      e | _ | _ <;> simp [hpass]

/-- An objective to check one case by. -/
def clearObjective (caseId : String) : VerificationObjective where
  objectiveId := "vo_clear"
  caseId := caseId
  objectiveKey := "clear"
  objectiveType := "monitoring_alert_clear"
  name := "alert clear"
  createdAt := ""
  updatedAt := ""

theorem evidenced_iff : Evidenced py sys ↔
    ∀ caseId case, sys.store.atomicCase? caseId = some case →
      sys.Supported py caseId case.lastObservedClean case.lastObservedUnhealthy := by
  constructor
  · intro h caseId case hget hpass
    have htype : (clearObjective caseId).objectiveType = "monitoring_alert_clear" := rfl
    obtain ⟨result, hresult, hstatus⟩ := (defaultVerificationCheck_pass py htype
      (sys.store.atomicCase? caseId)).2 ⟨case, hget, hpass⟩
    obtain ⟨other, hother, hbacks⟩ := h (clearObjective caseId) htype result hresult hstatus
    have hother : sys.store.atomicCase? caseId = some other := hother
    cases hget.symm.trans hother
    exact hbacks
  · intro h objective htype result hresult hstatus
    obtain ⟨case, hget, hpass⟩ := (defaultVerificationCheck_pass py htype _).1 ⟨result, hresult, hstatus⟩
    exact ⟨case, hget, h _ case hget hpass⟩

theorem not_notEarlier_empty (unhealthy : String) : ¬ NotEarlier py "" unhealthy := by
  intro h
  cases h

/-- Writing one case with other sightings kept: what the other cases need is what they needed. -/
theorem evidenced_put {t : EvidenceSystem} {written : AtomicCaseProjection}
    (hs : Evidenced py sys) (hcases : t.store.cases = sys.store.cases.put (.atomic written))
    (hgrows : ∀ p ∈ sys.positives, p ∈ t.positives) : Evidenced py t ↔
      t.Supported py written.caseId written.lastObservedClean written.lastObservedUnhealthy := by
  rw [evidenced_iff] at hs ⊢
  constructor
  · intro h
    exact h written.caseId written ((atomicCase?_put hcases _).trans (if_pos rfl))
  · intro h caseId case hget
    rw [atomicCase?_put hcases] at hget
    split at hget
    · rename_i hid
      cases hget
      rw [← hid]
      exact h
    · intro hpass
      obtain ⟨p, hp, hcase, hlate⟩ := hs caseId case hget hpass
      exact ⟨p, hgrows p hp, hcase, hlate⟩

theorem evidenced_same {t : EvidenceSystem} (hs : Evidenced py sys)
    (htables : t.store.caseTables = sys.store.caseTables) (hsame : t.positives = sys.positives) :
    Evidenced py t := by
  rw [evidenced_iff] at hs ⊢
  intro caseId case hget hpass
  rw [atomicCase?_of_caseTables htables] at hget
  obtain ⟨p, hp, hrest⟩ := hs caseId case hget hpass
  exact ⟨p, by rw [hsame]; exact hp, hrest⟩

theorem positiveOf_not {result : ObserveResult} (h : result.observation.isPositiveClean = false) :
    positiveOf (.ok result) = none := by
  simp [positiveOf, h]

theorem not_positive_of_status {observation : ObservationRecord}
    (hclean : observation.status ≠ .clean) (hresolved : observation.status ≠ .resolved) :
    observation.isPositiveClean = false := by
  simp [ObservationRecord.isPositiveClean, hclean, hresolved]

/-- **The calls that keep it are the backed ones.** -/
theorem evidenced_step (hs : Evidenced py sys) (call : ObserveCall) :
    Evidenced py (sys.after py policy call) ↔ Backed py sys call := by
  unfold EvidenceSystem.after
  have hends := observe_observes py policy sys.store call.observation call.draws
  revert hends
  generalize observe py policy call.observation call.draws sys.store = r
  obtain ⟨r, t⟩ := r
  intro hends
  unfold Backed
  generalize sys.store.stored call.observation = observation at hends
  dsimp only at hends ⊢
  cases hends with
  | raised hfound _ htables =>
    refine iff_of_true (evidenced_same hs htables (List.append_nil _)) fun case =>
      ⟨fun _ h => absurd h (hfound case), fun _ _ h => absurd (.byAlias h) (hfound case)⟩
  | noted hstatus _ hcase hobservation htables =>
    refine iff_of_true (evidenced_same hs htables ?_) fun case =>
      ⟨fun h => absurd h hstatus, fun hclean _ h => ?_⟩
    · dsimp only
      rcases hcase with hunknown | ⟨hnone, -⟩
      · rw [positiveOf_not, Option.toList_none, List.append_nil]
        rw [hobservation]
        exact not_positive_of_status (by simp [hunknown]) (by simp [hunknown])
      · simp [positiveOf, hnone]
    · rcases hcase with hunknown | ⟨-, hnone⟩
      · rcases hclean with h | h <;> cases hunknown.symm.trans h
      · rw [hnone] at h
        cases h
  | @unhealthy case _ _ hfiring hfound hstored htables =>
    have hnot : observation.isPositiveClean = false :=
      not_positive_of_status (by simp [hfiring]) (by simp [hfiring])
    rw [positiveOf_not (by exact hnot), Option.toList_none, List.append_nil]
    refine (evidenced_put (t := ⟨t, sys.positives⟩) hs (congrArg CaseTables.cases htables)
        fun p hp => hp).trans ?_
    constructor
    · intro h other
      refine ⟨fun _ hother => ?_, fun hclean => ?_⟩
      · cases hfound.unique hother
        exact h
      · rcases hclean with hclean | hclean <;> cases hfiring.symm.trans hclean
    · intro h
      exact (h case).1 hfiring hfound
  | @clean case _ _ hclean hresolved hstored htables =>
    have hnot : observation.status ≠ .firing := by
      rcases hclean with h | h <;> simp [h]
    cases hpositive : observation.isPositiveClean with
    | true =>
      refine iff_of_true ((evidenced_put (t := ⟨t, _⟩) hs (congrArg CaseTables.cases htables)
        fun p hp => List.mem_append_left _ hp).2 fun hpass => ?_) fun other =>
          ⟨fun h => absurd h hnot, fun _ h => by cases h⟩
      refine ⟨⟨case.caseId, observation.observedAt⟩, List.mem_append_right _ ?_, rfl, hpass⟩
      simp [positiveOf, hpositive]
    | false =>
      rw [positiveOf_not (by exact hpositive), Option.toList_none, List.append_nil]
      refine (evidenced_put (t := ⟨t, sys.positives⟩) hs (congrArg CaseTables.cases htables)
        fun p hp => hp).trans ?_
      constructor
      · intro h other
        refine ⟨fun h => absurd h hnot, fun _ _ hother => ?_⟩
        cases hresolved.symm.trans hother
        exact h
      · intro h
        exact (h case).2 hclean rfl hresolved
  | created hfiring hnone hfree hsame htables =>
    have hfound : ∀ case, ¬ Found py sys.store observation call.draws case := by
      intro case h
      cases h with
      | byAlias h => rw [hnone] at h; cases h
      | byNewAlias _ h => rw [hfree] at h; cases h
      | byFingerprint _ _ h => rw [hsame] at h; cases h
    refine iff_of_true ((evidenced_put (t := ⟨t, _⟩) hs (congrArg CaseTables.cases htables)
      fun p hp => List.mem_append_left _ hp).2 fun hpass => ?_) fun case =>
        ⟨fun _ h => absurd h (hfound case), fun _ _ h => absurd (.byAlias h) (hfound case)⟩
    exact absurd hpass (not_notEarlier_empty _)

/-- **Over every run, the check passes on positive evidence only exactly when every call is
backed.** -/
theorem evidenced_run_iff {start : EvidenceSystem} (hstart : Evidenced py start)
    {calls : List ObserveCall} :
    Run (Guarded (evidenceStep py policy) (Backed py)) start calls sys ↔
      Run (Upheld (evidenceStep py policy) (Evidenced py)) start calls sys :=
  Run.guarded_iff_upheld (J := fun _ => True) (fun _ _ _ _ _ => trivial)
    (fun s call t _ hs h => by rw [h]; exact evidenced_step hs call) trivial hstart

/-- Only stored cases matter. -/
theorem evidenced_of_rows (h : ∀ row ∈ sys.store.cases.rows, ∀ case ∈ row.atomic?,
    sys.Supported py case.caseId case.lastObservedClean case.lastObservedUnhealthy) :
    Evidenced py sys := by
  refine evidenced_iff.2 fun caseId case hget => ?_
  have hid := caseId_of_atomicCase? hget
  have hrow := Table.mem_of_get? (atomicCase?_eq_some.1 hget)
  rw [← hid]
  exact h _ hrow case rfl

end Proofs

instance (py : Python) (clean unhealthy : String) : Decidable (NotEarlier py clean unhealthy) := by
  unfold NotEarlier; infer_instance

instance (py : Python) (sys : EvidenceSystem) (caseId clean unhealthy : String) :
    Decidable (sys.Supported py caseId clean unhealthy) := by
  unfold EvidenceSystem.Supported EvidenceSystem.Backs; infer_instance

/-! ## A degraded source and a healthy one -/

def sightingPython : Python :=
  tablePython [("2026-01-01T01:00:00+00:00", 1767229200000000),
    ("2026-01-01T02:00:00+00:00", 1767232800000000)]

def sightingCall (observationId : String) (status : ObservationStatus) (health : SourceHealth)
    (observedAt : String) : ObserveCall where
  observation := {
    observationId := observationId
    sourceFingerprint := "fp_1"
    status := status
    sourceHealth := health
    observedAt := observedAt }
  draws := {
    caseId := "case_1"
    aliasId := fun n => "alias_" ++ toString n
    now := observedAt
    created := ⟨"evt_a" ++ observationId, observedAt⟩
    unhealthy := ⟨"evt_b" ++ observationId, observedAt⟩
    updatedAt := observedAt
    update := ⟨"evt_c" ++ observationId, observedAt⟩ }

/-- An alert, and a clean observation an hour later. -/
def clearedBy (health : SourceHealth) : List ObserveCall :=
  [sightingCall "1" .firing .healthy "2026-01-01T01:00:00+00:00",
    sightingCall "2" .clean health "2026-01-01T02:00:00+00:00"]

def clearedSystemBy (health : SourceHealth) : EvidenceSystem :=
  (clearedBy health).foldl (EvidenceSystem.after sightingPython {}) ⟨{}, []⟩

theorem not_evidenced_degraded :
    Run (evidenceStep sightingPython {}) ⟨{}, []⟩ (clearedBy .degraded)
      (clearedSystemBy .degraded) ∧
    ¬ Evidenced sightingPython (clearedSystemBy .degraded) := by
  refine ⟨Run.cons rfl (Run.single rfl), fun h => ?_⟩
  have hbad : ∃ case ∈ (clearedSystemBy .degraded).store.atomicCase? "case_1",
      ¬ (clearedSystemBy .degraded).Supported sightingPython "case_1" case.lastObservedClean
        case.lastObservedUnhealthy := by decide +kernel
  obtain ⟨case, hget, hnot⟩ := hbad
  exact hnot (evidenced_iff.1 h "case_1" case hget)

theorem evidenced_healthy :
    Run (Guarded (evidenceStep sightingPython {}) (Backed sightingPython)) ⟨{}, []⟩
      (clearedBy .healthy) (clearedSystemBy .healthy) ∧
    ∃ case ∈ (clearedSystemBy .healthy).store.atomicCase? "case_1",
      NotEarlier sightingPython case.lastObservedClean case.lastObservedUnhealthy := by
  have hfresh : Evidenced sightingPython ⟨{}, []⟩ := evidenced_of_rows fun _ h => by cases h
  refine ⟨(evidenced_run_iff hfresh).2 (Run.cons ⟨rfl, ?_⟩ (Run.single ⟨rfl, ?_⟩)),
    by decide +kernel⟩
  · exact evidenced_of_rows (by decide +kernel)
  · exact evidenced_of_rows (by decide +kernel)

end NocAgent.Cases
