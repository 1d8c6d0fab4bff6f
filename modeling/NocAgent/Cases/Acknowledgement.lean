import NocAgent.Cases.ObserveSpec
import NocAgent.Lib.Lts

/-!
# What an acknowledgement covers

* `ack` — an operator acknowledges a case at the severity it has.
* `Arrival`, `Covers.after` — the purpose: an acknowledgement stands until a recurrence or a
  severity above the one it was given at.
* `coverage_step` — the store's timestamps, scopes and severities do that.
* `ackCovers_run` — over every run of observations and acknowledgements.
-/

set_option autoImplicit false

namespace NocAgent.Cases

open Effects Effects.Action Keyed Lts

/-! ## Acknowledging -/

/-- The case after an acknowledgement. -/
def acknowledgedCase (policy : CasePolicy) (case : AtomicCaseProjection) (operator now : String) :
    AtomicCaseProjection :=
  { case with
    acknowledgedBy := operator
    acknowledgedAt := now
    updatedAt := now
    policyVersion := policy.policyVersion }

/-- `ack`; `now` is the reading of the acknowledgement, an empty `eventId` draws a fresh one. -/
def ack (policy : CasePolicy) (caseId operator eventId now : String) (draw : Draw) :
    StoreM AtomicCaseProjection := do
  let case ← requireAtomicCase caseId
  recordAcknowledgementScope case.caseId now case.severity
  let acknowledged := acknowledgedCase policy case operator now
  putCase acknowledged
  let _ ← storeEvent {
    eventId := orText eventId draw.eventId
    caseId := some case.caseId
    eventType := "case_acknowledged"
    actorType := .operator
    actorId := operator
    occurredAt := draw.now
    policyVersion := policy.policyVersion }
  pure acknowledged

theorem ack_run (policy : CasePolicy) {caseId : String} {s : Store} {case : AtomicCaseProjection}
    (h : s.atomicCase? caseId = some case) (operator eventId now : String) (draw : Draw) :
    ∃ ev ix, ack policy caseId operator eventId now draw s =
      (.ok (acknowledgedCase policy case operator now), { s with
        acknowledgementScopes := s.acknowledgementScopes.set caseId (now, case.severity)
        cases := s.cases.put (.atomic (acknowledgedCase policy case operator now))
        events := ev
        caseEvents := ix }) := by
  have hid := caseId_of_atomicCase? h
  subst hid
  unfold ack recordAcknowledgementScope putCase
  simp only [requireAtomicCase_bind_run, h, bind_bind_run, alter_bind_run]
  obtain ⟨stored, ev, ix, hrun⟩ := storeEvent_run _ _
  exact ⟨ev, ix, (bind_ok hrun).trans rfl⟩

/-! ## The purpose -/

/-- What happens to one case; `recurs` says that it was resolved or thought recovered. -/
inductive Arrival where
  | fires (recurs : Bool) (severity : Severity)
  | acknowledged (severity : Severity)
  | other

/-- The severity a standing acknowledgement was given at. -/
abbrev Covers := Option Severity

/-- A firing observation that the acknowledgement does not cover, or that no acknowledgement
could: it reports the case anew. -/
def Covers.Reopens (covers : Covers) : Arrival → Prop
  | .fires recurs severity =>
    recurs = true ∨ ∃ covered ∈ covers, SEVERITY_RANK covered < SEVERITY_RANK severity
  | _ => False

instance (covers : Covers) (a : Arrival) : Decidable (covers.Reopens a) := by
  unfold Covers.Reopens
  cases a <;> infer_instance

def Covers.after (covers : Covers) (a : Arrival) : Covers :=
  if covers.Reopens a then none
  else
    match a with
    | .acknowledged severity => some severity
    | _ => covers

/-- A firing observation of at most the given severity, of a case that had not ended. -/
def Arrival.Within (severity : Severity) : Arrival → Prop
  | .fires recurs s => recurs = false ∧ SEVERITY_RANK s ≤ SEVERITY_RANK severity
  | _ => True

def Arrival.Observed : Arrival → Prop
  | .acknowledged _ => False
  | _ => True

instance (severity : Severity) (a : Arrival) : Decidable (a.Within severity) := by
  unfold Arrival.Within
  cases a <;> infer_instance

theorem covers_none {as : List Arrival} (has : ∀ a ∈ as, a.Observed) :
    as.foldl Covers.after none = none := by
  induction as with
  | nil => rfl
  | cons a as ih =>
    rw [List.forall_mem_cons] at has
    have hnone : Covers.after none a = none := by
      unfold Covers.after
      split
      · rfl
      · cases a with
        | acknowledged => exact has.1.elim
        | _ => rfl
    rw [List.foldl_cons, hnone]
    exact ih has.2

/-- **Between acknowledgements, one stands exactly while every firing observation is within it.** -/
theorem covers_iff {severity : Severity} {as : List Arrival} (has : ∀ a ∈ as, a.Observed) :
    (as.foldl Covers.after (some severity)).isSome ↔ ∀ a ∈ as, a.Within severity := by
  induction as with
  | nil => simp
  | cons a as ih =>
    rw [List.forall_mem_cons] at has ⊢
    have hwithin : Covers.Reopens (some severity) a ↔ ¬ a.Within severity := by
      cases a with
      | fires recurs s =>
        cases recurs <;> simp [Covers.Reopens, Arrival.Within]
      | acknowledged => exact has.1.elim
      | other => simp [Covers.Reopens, Arrival.Within]
    rw [List.foldl_cons]
    by_cases h : a.Within severity
    · have hstays : Covers.after (some severity) a = some severity := by
        unfold Covers.after
        rw [if_neg (fun hr => hwithin.1 hr h)]
        cases a with
        | acknowledged => exact has.1.elim
        | _ => rfl
      rw [hstays, ih has.2]
      simp [h]
    · have hends : Covers.after (some severity) a = none := if_pos (hwithin.2 h)
      rw [hends, covers_none has.2]
      simp [h]

/-! ## The store -/

/-- The severity the store holds an acknowledgement of the case to cover. -/
def Store.covers (s : Store) (caseId : String) : Covers :=
  (s.atomicCase? caseId).bind fun case => if case.Acknowledged then some (s.covered case) else none

def Store.generation (s : Store) (caseId : String) : Nat :=
  ((s.atomicCase? caseId).map AtomicCaseProjection.reportGeneration).getD 0

/-- The case is resolved or thought recovered. -/
def Store.ended (s : Store) (caseId : String) : Bool :=
  (s.atomicCase? caseId).any fun case => case.status = .resolved ∨ case.status = .recoveredPending

inductive CaseOp where
  | observe (observation : ObservationRecord) (draws : ObserveDraws)
  | ack (caseId operator eventId now : String) (draw : Draw)

section Store

variable (py : Python) (policy : CasePolicy)

def CaseOp.run (s : Store) : CaseOp → Store
  | .observe observation draws => (Cases.observe py policy observation draws s).2
  | .ack caseId operator eventId now draw =>
    (Cases.ack policy caseId operator eventId now draw s).2

/-- The id drawn for a new case is new, and a reading of the clock is not empty. -/
def CaseOp.Drawn (s : Store) : CaseOp → Prop
  | .observe _ draws => s.cases.get? draws.caseId = none
  | .ack _ _ _ now _ => now ≠ ""

instance (s : Store) (op : CaseOp) : Decidable (op.Drawn s) := by
  unfold CaseOp.Drawn
  cases op <;> infer_instance

/-- What an observation is for one case: it fires when it was applied to that case. -/
def arrivalOf (s : Store) (caseId : String) : Except PyExc ObserveResult → Arrival
  | .ok result =>
    if result.observation.status = .firing ∧
        result.case.map AtomicCaseProjection.caseId = some caseId then
      .fires (s.ended caseId) result.observation.severity
    else .other
  | .error _ => .other

/-- What a call is for one case, in the state it comes in. -/
def CaseOp.arrival (caseId : String) (s : Store) : CaseOp → Arrival
  | .observe observation draws =>
    arrivalOf s caseId (Cases.observe py policy observation draws s).1
  | .ack target _ _ _ _ =>
    match s.atomicCase? caseId with
    | some case => if target = caseId then .acknowledged case.severity else .other
    | none => .other

end Store

/-- The acknowledgement and the number of reports of a case, after an arrival. -/
def coverAndCount (a : Covers × Nat) (arrival : Arrival) : Covers × Nat :=
  (a.1.after arrival, a.2 + if a.1.Reopens arrival then 1 else 0)

def Store.coverage (s : Store) (caseId : String) : Covers × Nat :=
  (s.covers caseId, s.generation caseId)

theorem coverage_of_case {s : Store} {caseId : String} {case : AtomicCaseProjection}
    (h : s.atomicCase? caseId = some case) : s.coverage caseId =
      (if case.Acknowledged then some (s.covered case) else none, case.reportGeneration) := by
  unfold Store.coverage Store.covers Store.generation
  rw [h]
  rfl

theorem coverage_of_none {s : Store} {caseId : String} (h : s.atomicCase? caseId = none) :
    s.coverage caseId = (none, 0) := by
  unfold Store.coverage Store.covers Store.generation
  rw [h]
  rfl

theorem coverAndCount_other (a : Covers × Nat) : coverAndCount a .other = a := rfl

/-- What a case covers depends on its acknowledgement and the scope recorded for it. -/
theorem covered_congr {s t : Store} {case written : AtomicCaseProjection}
    (hscope : t.acknowledgementScopes written.caseId = s.acknowledgementScopes case.caseId)
    (hat : written.acknowledgedAt = case.acknowledgedAt)
    (hby : written.acknowledgedBy = case.acknowledgedBy)
    (hseverity : written.severity = case.severity) :
    (written.Acknowledged ↔ case.Acknowledged) ∧ t.covered written = s.covered case := by
  have hack : written.Acknowledged ↔ case.Acknowledged := by
    unfold AtomicCaseProjection.Acknowledged
    rw [hat, hby]
  have hrecorded : t.scope? written = s.scope? case := by
    unfold Store.scope?
    rw [hscope, hat]
  refine ⟨hack, ?_⟩
  unfold Store.covered
  rw [hrecorded, hseverity]
  exact if_congr hack rfl rfl

theorem coverage_congr {s t : Store} {caseId : String}
    (hcase : t.atomicCase? caseId = s.atomicCase? caseId)
    (hscope : t.acknowledgementScopes caseId = s.acknowledgementScopes caseId) :
    t.coverage caseId = s.coverage caseId := by
  cases hget : s.atomicCase? caseId with
  | none => rw [coverage_of_none hget, coverage_of_none (hcase.trans hget)]
  | some case =>
    have hid := caseId_of_atomicCase? hget
    rw [coverage_of_case hget, coverage_of_case (hcase.trans hget),
      (covered_congr (hid ▸ hscope) rfl rfl rfl).2]

/-- A firing observation ends the acknowledgement and the report of a case. -/
def AtomicCaseProjection.Reopened (case : AtomicCaseProjection) (covered severity : Severity) :
    Prop :=
  case.status = .resolved ∨ case.status = .recoveredPending ∨
    case.Acknowledged ∧ SEVERITY_RANK covered < SEVERITY_RANK severity

section Unhealthy

variable (policy : CasePolicy) {case : AtomicCaseProjection} {observation : ObservationRecord}
  {covered : Severity} (now : String)

theorem unhealthyCase_reopened (h : case.Reopened covered observation.severity) :
    ¬ (unhealthyCase policy case observation covered now).Acknowledged ∧
    (unhealthyCase policy case observation covered now).reportGeneration =
      case.reportGeneration + 1 := by
  have hat : (unhealthyCase policy case observation covered now).acknowledgedAt = "" := if_pos h
  have hby : (unhealthyCase policy case observation covered now).acknowledgedBy = "" := if_pos h
  refine ⟨?_, if_pos h⟩
  unfold AtomicCaseProjection.Acknowledged
  rw [hat, hby]
  simp

theorem unhealthyCase_kept (h : ¬ case.Reopened covered observation.severity) :
    (unhealthyCase policy case observation covered now).acknowledgedAt = case.acknowledgedAt ∧
    (unhealthyCase policy case observation covered now).acknowledgedBy = case.acknowledgedBy ∧
    (unhealthyCase policy case observation covered now).reportGeneration = case.reportGeneration :=
  ⟨if_neg h, if_neg h, if_neg h⟩

/-- An acknowledgement that stands has its scope on record after an observation, adopted if need
be, and covers what it covered. -/
theorem covered_adopted {s t : Store} {written : AtomicCaseProjection}
    (hscopes : t.acknowledgementScopes = s.adopted case) (hid : written.caseId = case.caseId)
    (hat : written.acknowledgedAt = case.acknowledgedAt)
    (hby : written.acknowledgedBy = case.acknowledgedBy) (hack : case.Acknowledged) :
    written.Acknowledged ∧ t.covered written = s.covered case := by
  have hack' : written.Acknowledged := by
    unfold AtomicCaseProjection.Acknowledged
    rw [hat, hby]
    exact hack
  have hrecorded : t.scope? written = some (s.covered case) := by
    unfold Store.scope? Store.covered
    rw [if_pos hack, hscopes, hid, hat]
    unfold Store.adopted
    cases hscope : s.scope? case with
    | none => simp [hack]
    | some severity =>
      rw [if_neg (by simp)]
      exact hscope
  refine ⟨hack', ?_⟩
  conv_lhs => unfold Store.covered
  rw [if_pos hack', hrecorded]
  rfl

/-- **A firing observation moves the coverage of its case as the abstract step does.** -/
theorem coverage_unhealthy {s t : Store} (hstored : s.atomicCase? case.caseId = some case)
    (htables : t.caseTables = { s.caseTables with
      cases := s.cases.put (.atomic (unhealthyCase policy case observation (s.covered case) now))
      acknowledgementScopes := s.adopted case }) :
    t.coverage case.caseId = coverAndCount (s.coverage case.caseId)
      (.fires (s.ended case.caseId) observation.severity) := by
  have hget : t.atomicCase? case.caseId =
      some (unhealthyCase policy case observation (s.covered case) now) := by
    rw [atomicCase?_put (congrArg CaseTables.cases htables)]
    exact if_pos rfl
  have hscopes : t.acknowledgementScopes = s.adopted case :=
    congrArg CaseTables.acknowledgementScopes htables
  have hreopens : Covers.Reopens (if case.Acknowledged then some (s.covered case) else none)
      (.fires (s.ended case.caseId) observation.severity) ↔
      case.Reopened (s.covered case) observation.severity := by
    unfold Covers.Reopens AtomicCaseProjection.Reopened Store.ended
    rw [hstored]
    by_cases hack : case.Acknowledged <;> simp [hack, or_assoc]
  rw [coverage_of_case hget, coverage_of_case hstored]
  unfold coverAndCount Covers.after
  by_cases h : case.Reopened (s.covered case) observation.severity
  · obtain ⟨hnot, hgeneration⟩ := unhealthyCase_reopened policy now h
    simp only [if_pos (hreopens.2 h), if_neg hnot, hgeneration]
  · obtain ⟨hat, hby, hgeneration⟩ := unhealthyCase_kept policy now h
    simp only [if_neg (fun hr => h (hreopens.1 hr)), hgeneration, Nat.add_zero]
    by_cases hack : case.Acknowledged
    · obtain ⟨hack', hcovered⟩ : (unhealthyCase policy case observation (s.covered case)
          now).Acknowledged ∧ t.covered (unhealthyCase policy case observation (s.covered case) now) =
            s.covered case := covered_adopted hscopes rfl hat hby hack
      simp only [if_pos hack, if_pos hack', hcovered]
    · have hack' : ¬ (unhealthyCase policy case observation (s.covered case) now).Acknowledged := by
        unfold AtomicCaseProjection.Acknowledged
        rw [hat, hby]
        exact hack
      simp only [if_neg hack, if_neg hack']

end Unhealthy

/-! ## Runs -/

section Runs

variable {py : Python} {policy : CasePolicy}

/-- The tables of another case. -/
theorem coverage_other {s t : Store} {case : AtomicCaseProjection} {caseId : String}
    (hcases : t.cases = s.cases.put (.atomic case)) (hother : case.caseId ≠ caseId)
    (hscope : t.acknowledgementScopes caseId = s.acknowledgementScopes caseId) :
    t.coverage caseId = s.coverage caseId := by
  refine coverage_congr ?_ hscope
  rw [atomicCase?_put hcases]
  exact if_neg hother

theorem adopted_other {s : Store} {case : AtomicCaseProjection} {caseId : String}
    (hother : case.caseId ≠ caseId) : s.adopted case caseId = s.acknowledgementScopes caseId := by
  unfold Store.adopted
  split
  · rw [Index.set_apply, if_neg fun h => hother h.symm]
  · rfl

/-- The case is still there, and its coverage moved by one arrival. -/
def Moves (s : Store) (caseId : String) (arrival : Arrival) (t : Store) : Prop :=
  (t.atomicCase? caseId).isSome ∧ t.coverage caseId = coverAndCount (s.coverage caseId) arrival

theorem observe_moves {s : Store} {caseId : String} (hcase : (s.atomicCase? caseId).isSome)
    (observation : ObservationRecord) {draws : ObserveDraws}
    (hfresh : s.cases.get? draws.caseId = none) :
    Moves s caseId (arrivalOf s caseId (observe py policy observation draws s).1)
      (observe py policy observation draws s).2 := by
  have hends := observe_observes py policy s observation draws
  revert hends
  generalize (observe py policy observation draws s).1 = r
  generalize (observe py policy observation draws s).2 = t
  intro hends
  have hsame : t.caseTables = s.caseTables → Moves s caseId .other t := fun h =>
    ⟨by rw [atomicCase?_of_caseTables h]; exact hcase, coverage_congr
      (atomicCase?_of_caseTables h caseId)
      (congrFun (congrArg CaseTables.acknowledgementScopes h) caseId)⟩
  cases hends with
  | raised _ _ htables => exact hsame htables
  | noted hstatus _ _ hobservation htables =>
    unfold arrivalOf
    simp only [hobservation, hstatus, false_and, if_false]
    exact hsame htables
  | @unhealthy case _ _ hfiring hfound hstored htables =>
    have hcases : t.cases = s.cases.put (.atomic (unhealthyCase policy case (s.stored observation)
      (s.covered case) draws.updatedAt)) := congrArg CaseTables.cases htables
    unfold arrivalOf
    by_cases hid : case.caseId = caseId
    · subst hid
      simp only [hfiring, Option.map_some, true_and, unhealthyCase_caseId, if_true]
      exact ⟨isSome_atomicCase?_put hcases hcase, coverage_unhealthy policy _ hstored htables⟩
    · have hid' : ¬ some case.caseId = some caseId := fun h => hid (Option.some.inj h)
      simp only [Option.map_some, unhealthyCase_caseId, hid', and_false, if_false]
      refine ⟨isSome_atomicCase?_put hcases hcase, coverage_other hcases hid ?_⟩
      have hscopes : t.acknowledgementScopes = s.adopted case :=
        congrArg CaseTables.acknowledgementScopes htables
      rw [hscopes]
      exact adopted_other hid
  | @clean case _ _ hclean hresolved hstored htables =>
    have hcases : t.cases = s.cases.put (.atomic (cleanCase policy case (s.stored observation)
      draws.updatedAt)) := congrArg CaseTables.cases htables
    have hscopes : t.acknowledgementScopes = s.acknowledgementScopes :=
      congrArg CaseTables.acknowledgementScopes htables
    have hnot : ¬ (s.stored observation).status = .firing := by
      rcases hclean with h | h <;> simp [h]
    unfold arrivalOf
    simp only [hnot, false_and, if_false]
    by_cases hid : case.caseId = caseId
    · subst hid
      have hget : t.atomicCase? case.caseId =
          some (cleanCase policy case (s.stored observation) draws.updatedAt) := by
        rw [atomicCase?_put hcases]
        exact if_pos rfl
      obtain ⟨hack, hcovered⟩ : ((cleanCase policy case (s.stored observation)
          draws.updatedAt).Acknowledged ↔ case.Acknowledged) ∧ t.covered (cleanCase policy case
            (s.stored observation) draws.updatedAt) = s.covered case :=
        covered_congr (congrFun hscopes case.caseId) rfl rfl rfl
      refine ⟨isSome_atomicCase?_put hcases hcase, ?_⟩
      rw [coverage_of_case hget, coverage_of_case hstored, hcovered, coverAndCount_other]
      exact Prod.ext (if_congr hack rfl rfl) rfl
    · exact ⟨isSome_atomicCase?_put hcases hcase,
        coverage_other hcases hid (congrFun hscopes caseId)⟩
  | created hfiring hnone hfree hsame' htables =>
    have hcases : t.cases = s.cases.put (.atomic (newCase py policy (s.stored observation)
      (observationAlias py (s.stored observation)).2 draws)) := congrArg CaseTables.cases htables
    have hid : draws.caseId ≠ caseId := by
      rintro rfl
      unfold Store.atomicCase? at hcase
      rw [hfresh] at hcase
      cases hcase
    have hid' : ¬ some draws.caseId = some caseId := fun h => hid (Option.some.inj h)
    unfold arrivalOf
    simp only [Option.map_some, newCase_caseId, hid', and_false, if_false]
    exact ⟨isSome_atomicCase?_put hcases hcase, coverage_other hcases hid
      (congrFun (congrArg CaseTables.acknowledgementScopes htables) caseId)⟩

theorem ack_moves (policy : CasePolicy) {s : Store} {caseId : String} {case : AtomicCaseProjection}
    (hcase : s.atomicCase? caseId = some case) (target operator eventId : String) {now : String}
    (hnow : now ≠ "") (draw : Draw) :
    Moves s caseId (if target = caseId then .acknowledged case.severity else .other)
      (ack policy target operator eventId now draw s).2 := by
  have hsome : (s.atomicCase? caseId).isSome := by rw [hcase]; rfl
  by_cases hid : target = caseId
  · subst hid
    obtain ⟨ev, ix, hrun⟩ := ack_run policy hcase operator eventId now draw
    rw [hrun, if_pos rfl]
    refine ⟨isSome_atomicCase?_put rfl hsome, ?_⟩
    have hkey : case.caseId = target := caseId_of_atomicCase? hcase
    have hkey : (acknowledgedCase policy case operator now).caseId = target := hkey
    have hack : (acknowledgedCase policy case operator now).Acknowledged := Or.inl hnow
    rw [coverage_of_case ((atomicCase?_put rfl target).trans (if_pos hkey)), coverage_of_case hcase,
      if_pos hack]
    refine Prod.ext (congrArg some ?_) rfl
    unfold Store.covered Store.scope?
    rw [if_pos hack]
    have hat : (acknowledgedCase policy case operator now).acknowledgedAt = now := rfl
    simp only [hkey, Index.set_self, Option.bind_some, hat, if_true, Option.getD_some]
  · rw [if_neg hid]
    cases htarget : s.atomicCase? target with
    | none =>
      have hrun : ack policy target operator eventId now draw s = (.error .keyError, s) := by
        unfold ack
        simp only [requireAtomicCase_bind_run, htarget]
      rw [hrun]
      exact ⟨hsome, rfl⟩
    | some other =>
      obtain ⟨ev, ix, hrun⟩ := ack_run policy htarget operator eventId now draw
      have hkey : other.caseId = target := caseId_of_atomicCase? htarget
      have hkey : (acknowledgedCase policy other operator now).caseId = target := hkey
      rw [hrun]
      refine ⟨isSome_atomicCase?_put rfl hsome, coverage_other rfl (hkey ▸ hid) ?_⟩
      change s.acknowledgementScopes.set target _ caseId = _
      rw [Index.set_apply, if_neg fun h => hid h.symm]

/-- **The store moves the coverage of a case as the abstract step does**, in every call. -/
theorem coverage_step (caseId : String) (s : Store) (op : CaseOp)
    (hcase : (s.atomicCase? caseId).isSome) (hop : op.Drawn s) :
    ((op.run py policy s).atomicCase? caseId).isSome ∧
    (op.run py policy s).coverage caseId =
      coverAndCount (s.coverage caseId) (op.arrival py policy caseId s) := by
  cases op with
  | observe observation draws => exact observe_moves hcase observation hop
  | ack target operator eventId now draw =>
    obtain ⟨case, hget⟩ := Option.isSome_iff_exists.1 hcase
    have hmoves := ack_moves policy hget target operator eventId hop draw
    unfold CaseOp.arrival
    simp only [hget]
    exact hmoves

/-- The calls of a run that are observations. -/
def CaseOp.isObservation : CaseOp → Bool
  | .observe _ _ => true
  | .ack _ _ _ _ _ => false

/-- What a run of calls is for one case, call by call. -/
def arrivals (py : Python) (policy : CasePolicy) (caseId : String) (s : Store)
    (ops : List CaseOp) : List Arrival :=
  reading (CaseOp.arrival py policy caseId) (CaseOp.run py policy) s ops

theorem arrivalOf_observed (s : Store) (caseId : String) :
    ∀ r : Except PyExc ObserveResult, (arrivalOf s caseId r).Observed
  | .error _ => trivial
  | .ok result => by
    dsimp only [arrivalOf]
    split <;> trivial

theorem arrivals_observed (caseId : String) : ∀ {ops : List CaseOp} (s : Store),
    (∀ op ∈ ops, op.isObservation) → ∀ a ∈ arrivals py policy caseId s ops, a.Observed
  | [], _, _ => fun _ h => by cases h
  | op :: ops, s, h => by
    rw [List.forall_mem_cons] at h
    intro a ha
    rcases List.mem_cons.1 ha with rfl | ha
    · cases op with
      | observe observation draws => exact arrivalOf_observed s caseId _
      | ack => exact absurd h.1 Bool.false_ne_true
    · exact arrivals_observed caseId _ h.2 a ha

/-- **What an acknowledgement covers.**  After an acknowledgement of a case at its severity, the
case is still acknowledged after a run of observations exactly when every firing observation it
got was of at most that severity and found it neither resolved nor thought recovered; and over
every run of observations and acknowledgements the report generation grows by the number of
firing observations that found the case ended or exceeded the severity of the standing
acknowledgement. -/
theorem ackCovers_run {s : Store} {caseId : String} {case : AtomicCaseProjection}
    (hcase : s.atomicCase? caseId = some case) (operator eventId : String) {now : String}
    (hnow : now ≠ "") (draw : Draw) {ops : List CaseOp}
    (hops : Valid CaseOp.Drawn (CaseOp.run py policy)
      (ack policy caseId operator eventId now draw s).2 ops) :
    let acked := (ack policy caseId operator eventId now draw s).2
    let final := ops.foldl (CaseOp.run py policy) acked
    ((∀ op ∈ ops, op.isObservation) →
      ((∃ c ∈ final.atomicCase? caseId, c.Acknowledged) ↔
        ∀ a ∈ arrivals py policy caseId acked ops, a.Within case.severity)) ∧
    final.generation caseId = case.reportGeneration +
      tally Covers.Reopens Covers.after (some case.severity)
        (arrivals py policy caseId acked ops) := by
  intro acked final
  have hacked := ack_moves policy hcase caseId operator eventId hnow draw
  rw [if_pos rfl, Moves, coverage_of_case hcase] at hacked
  have hrun : final.coverage caseId =
      (arrivals py policy caseId acked ops).foldl coverAndCount (acked.coverage caseId) :=
    Valid.view (I := fun s => (s.atomicCase? caseId).isSome) (v := fun s => s.coverage caseId)
      (fun s op hs hop => coverage_step caseId s op hs hop) hops hacked.1
  have hstart : acked.coverage caseId = (some case.severity, case.reportGeneration) := by
    rw [hacked.2]
    rfl
  have hfinal : final.coverage caseId =
      ((arrivals py policy caseId acked ops).foldl Covers.after (some case.severity),
        case.reportGeneration + tally Covers.Reopens Covers.after (some case.severity)
          (arrivals py policy caseId acked ops)) := by
    rw [← foldl_tally, ← hstart]
    exact hrun
  have hcovers : final.covers caseId =
      (arrivals py policy caseId acked ops).foldl Covers.after (some case.severity) :=
    congrArg Prod.fst hfinal
  refine ⟨fun hobserved => ?_, congrArg Prod.snd hfinal⟩
  rw [← covers_iff (arrivals_observed caseId acked hobserved), ← hcovers]
  unfold Store.covers
  cases final.atomicCase? caseId with
  | none => simp
  | some c => by_cases h : c.Acknowledged <;> simp [h]

end Runs

/-! ## A rebound and a rise -/

/-- One case with its alias, at medium severity. -/
def mediumStore : Store :=
  (createAtomicCase {
      caseId := "case_1"
      fingerprint := "fp_1"
      severity := .medium
      openedAt := "2026-01-01T00:00:00+00:00"
      updatedAt := "2026-01-01T00:00:00+00:00" }
    [{ aliasId := "alias_1", caseId := "case_1", aliasType := .sourceFp, aliasValue := "fp_1" }] []
    {}).2

def firesAt (observationId : String) (severity : Severity) : CaseOp :=
  .observe {
    observationId := observationId
    sourceFingerprint := "fp_1"
    severity := severity
    status := .firing
    observedAt := "2026-01-01T01:00:00+00:00" } {
    caseId := "case_2"
    aliasId := fun n => "alias_" ++ toString n
    now := "2026-01-01T01:00:00+00:00"
    created := ⟨"evt_a" ++ observationId, "2026-01-01T01:00:00+00:00"⟩
    unhealthy := ⟨"evt_b" ++ observationId, "2026-01-01T01:00:00+00:00"⟩
    updatedAt := "2026-01-01T01:00:00+00:00"
    update := ⟨"evt_c" ++ observationId, "2026-01-01T01:00:00+00:00"⟩ }

def ackedMedium : Store :=
  (ack {} "case_1" "operator" "" "2026-01-01T00:30:00+00:00"
    ⟨"evt_ack", "2026-01-01T00:30:00+00:00"⟩ mediumStore).2

/-- A downgrade and a rebound leave the acknowledgement, a higher severity ends it. -/
theorem ackCovers_rebound :
    (∃ c ∈ ([firesAt "1" .low, firesAt "2" .medium].foldl (CaseOp.run asciiPython {})
      ackedMedium).atomicCase? "case_1", c.Acknowledged) ∧
    ([firesAt "1" .low, firesAt "2" .medium, firesAt "3" .high].foldl (CaseOp.run asciiPython {})
      ackedMedium).generation "case_1" = 1 := by
  obtain ⟨case, hcase, hmedium, hzero⟩ : ∃ case, mediumStore.atomicCase? "case_1" = some case ∧
      case.severity = .medium ∧ case.reportGeneration = 0 := ⟨_, rfl, rfl, rfl⟩
  have hrebound : Valid CaseOp.Drawn (CaseOp.run asciiPython {}) ackedMedium
      [firesAt "1" .low, firesAt "2" .medium] := by decide +kernel
  have hrise : Valid CaseOp.Drawn (CaseOp.run asciiPython {}) ackedMedium
      [firesAt "1" .low, firesAt "2" .medium, firesAt "3" .high] := by decide +kernel
  refine ⟨((ackCovers_run hcase "operator" "" (by decide) _ hrebound).1 (by decide)).2 ?_,
    (ackCovers_run hcase "operator" "" (by decide) _ hrise).2.trans ?_⟩
  · rw [hmedium]
    decide +kernel
  · rw [hmedium, hzero]
    decide +kernel

end NocAgent.Cases
