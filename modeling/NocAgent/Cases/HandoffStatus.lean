import NocAgent.Cases.HandoffIndex

/-!
# Handoffs of finished cases

* `ProgressCall` — the calls that create a handoff, report on one or mark one verified.
* `KeepsEnded` — a case with a terminal status has it afterwards.
* `Reopens` — the call writes its case another status although that case has ended.
* `keepsEnded_iff` — for every state and every call: the call keeps ended cases exactly when it
  does not reopen one.
-/

set_option autoImplicit false

namespace NocAgent.Cases

open Effects Effects.Action Keyed

/-- A call that reports the progress of a handoff. -/
inductive ProgressCall where
  | create (handoff : CaseHandoff) (objectives : List VerificationObjective)
      (caseStatus : Option CaseStatus) (event : Option CaseEvent)
      (outboxIntent : Option OutboxIntent)
  | append (update : HandoffUpdate) (handoffStatus : Option HandoffStatus)
      (caseStatus : Option CaseStatus) (caseHandoffStatus : Option String)
      (event : Option CaseEvent)
  | verified (handoffId now : String) (event : Option CaseEvent)

/-- The store after the call, whether it returned or raised. -/
def ProgressCall.run (s : Store) : ProgressCall → Store
  | .create handoff objectives caseStatus event outboxIntent =>
    (createHandoffWithObjectives handoff objectives caseStatus event outboxIntent s).2
  | .append update handoffStatus caseStatus caseHandoffStatus event =>
    (appendHandoffUpdate update handoffStatus caseStatus caseHandoffStatus event s).2
  | .verified handoffId now event => (markHandoffVerified handoffId now event s).2

/-- **A case that has ended keeps its status.** -/
def KeepsEnded (s t : Store) : Prop :=
  ∀ caseId case, s.atomicCase? caseId = some case → case.status ∈ TERMINAL_CASE_STATUSES →
    ∃ after, t.atomicCase? caseId = some after ∧ after.status = case.status

/-- The case has ended, and the call would give it another status. -/
def Store.Overwrites (s : Store) (caseId : String) (status : Option CaseStatus) : Prop :=
  ∃ case ∈ s.atomicCase? caseId, case.status ∈ TERMINAL_CASE_STATUSES ∧
    ∃ st ∈ status, st ≠ case.status

instance (s : Store) (caseId : String) (status : Option CaseStatus) :
    Decidable (s.Overwrites caseId status) := by
  unfold Store.Overwrites; infer_instance

/-- The objective belongs to the handoff. -/
def VerificationObjective.BelongsTo (objective : VerificationObjective) (handoff : CaseHandoff) :
    Prop :=
  objective.caseId = handoff.caseId ∧
    (objective.handoffId = "" ∨ objective.handoffId = handoff.handoffId)

instance (objective : VerificationObjective) (handoff : CaseHandoff) :
    Decidable (objective.BelongsTo handoff) := by
  unfold VerificationObjective.BelongsTo; infer_instance

/-- The call gets to the write of its case, which has ended and is given another status: the
status a new handoff or an update to a live status brings along, or verification pending. -/
def Reopens (s : Store) : ProgressCall → Prop
  | .create handoff objectives caseStatus _ _ =>
    objectives.length ≤ MAX_VERIFICATION_OBJECTIVES_PER_HANDOFF ∧
    (existingHandoff handoff s).1 = .ok none ∧
    (∀ objective ∈ objectives, objective.BelongsTo handoff) ∧
    s.Overwrites handoff.caseId caseStatus
  | .append update handoffStatus caseStatus _ _ =>
    handoffStatus.getD update.status ∉ TERMINAL_HANDOFF_STATUSES ∧
    ∃ handoff, Applied s update (handoffStatus.getD update.status) handoff ∧
      s.Overwrites handoff.caseId caseStatus
  | .verified handoffId _ _ =>
    ∃ handoff ∈ s.handoffs.get? handoffId,
      allowedHandoffTransition handoff.status .verified .noc = true ∧
      s.Overwrites handoff.caseId (some .verificationPending)

/-! ## What one write does -/

section Writes

variable {s t : Store}

theorem keepsEnded_of_cases (h : t.cases = s.cases) : KeepsEnded s t := by
  intro caseId case hget _
  refine ⟨case, ?_, rfl⟩
  unfold Store.atomicCase? at hget ⊢
  rw [h]
  exact hget

/-- Writing one case keeps the others. -/
theorem keepsEnded_put {case : AtomicCaseProjection} (written : AtomicCaseProjection)
    (hstored : s.atomicCase? case.caseId = some case) (hid : written.caseId = case.caseId)
    (hcases : t.cases = s.cases.put (.atomic written)) :
    KeepsEnded s t ↔
      (case.status ∈ TERMINAL_CASE_STATUSES → written.status = case.status) :=
  atomicCases_put_iff (fun case => case.status ∈ TERMINAL_CASE_STATUSES)
    (fun case after => after.status = case.status) (fun _ _ => rfl) written hstored hid hcases

/-- A status that is written if there is one. -/
theorem keepsEnded_getD {case written : AtomicCaseProjection} {caseId : String}
    {status : Option CaseStatus} (hstored : s.atomicCase? caseId = some case)
    (hid : written.caseId = case.caseId) (hstatus : written.status = status.getD case.status)
    (hcases : t.cases = s.cases.put (.atomic written)) :
    KeepsEnded s t ↔ ¬ s.Overwrites caseId status := by
  have hkey := caseId_of_atomicCase? hstored
  subst hkey
  rw [keepsEnded_put written hstored hid hcases, hstatus]
  unfold Store.Overwrites
  rw [hstored]
  cases status with
  | none => simp
  | some st => simp

end Writes

/-! ## The calls -/

section Calls

variable {s : Store}

/-- An objective of a new handoff is stored when it belongs to it. -/
theorem storeObjective_run (handoff : CaseHandoff) (objective : VerificationObjective) (s : Store) :
    (∃ stored t, storeObjective handoff objective s = (.ok stored, t)) ∧
        objective.BelongsTo handoff ∨
      storeObjective handoff objective s = (.error .valueError, s) ∧
        ¬ objective.BelongsTo handoff := by
  unfold storeObjective VerificationObjective.BelongsTo
  simp only [raiseIf_bind_run]
  by_cases hcase : objective.caseId = handoff.caseId
  · rw [if_neg (by simpa using hcase)]
    by_cases hown : objective.handoffId = "" ∨ objective.handoffId = handoff.handoffId
    · rw [if_neg (by rw [← not_or]; exact not_not.2 hown)]
      exact Or.inl ⟨⟨_, _, rfl⟩, hcase, hown⟩
    · rw [if_pos (not_or.1 hown)]
      exact Or.inr ⟨rfl, fun h => hown h.2⟩
  · rw [if_pos hcase]
    exact Or.inr ⟨rfl, fun h => hcase h.1⟩

/-- The objectives are all stored exactly when they all belong to the handoff. -/
theorem forEach_storeObjective_run (handoff : CaseHandoff) :
    ∀ (objectives : List VerificationObjective) (s : Store),
      (∃ stored t, forEach (storeObjective handoff) objectives s = (.ok stored, t)) ∧
          (∀ objective ∈ objectives, objective.BelongsTo handoff) ∨
        (∃ e t, forEach (storeObjective handoff) objectives s = (.error e, t)) ∧
          ¬ ∀ objective ∈ objectives, objective.BelongsTo handoff
  | [], s => Or.inl ⟨⟨[], s, rfl⟩, fun _ h => by cases h⟩
  | objective :: rest, s => by
    rw [List.forall_mem_cons]
    rcases storeObjective_run handoff objective s with ⟨⟨stored, t, hrun⟩, hbelongs⟩ | ⟨hrun, hnot⟩
    · rcases forEach_storeObjective_run handoff rest t with
        ⟨⟨more, u, hrest⟩, hall⟩ | ⟨⟨e, u, hrest⟩, hnot⟩
      · exact Or.inl ⟨⟨stored :: more, u, (bind_ok hrun).trans (bind_ok hrest)⟩, hbelongs, hall⟩
      · exact Or.inr ⟨⟨e, u, (bind_ok hrun).trans (bind_error hrest)⟩, fun h => hnot h.2⟩
    · exact Or.inr ⟨⟨_, s, bind_error hrun⟩, fun h => hnot h.1⟩

theorem forEach_storeObjective_cases (handoff : CaseHandoff)
    (objectives : List VerificationObjective) : Fixes Store.cases
      (forEach (storeObjective handoff) objectives) :=
  Fixes.forEach (storeObjective_fixes (fun _ _ _ => rfl) handoff) objectives

/-- The end of every call: its case, and then nothing about cases. -/
theorem keepsEnded_tail {α : Type} {s v : Store} (hv : v.cases = s.cases)
    {case : AtomicCaseProjection} {caseId : String} (hstored : s.atomicCase? caseId = some case)
    (written : AtomicCaseProjection) (status : Option CaseStatus)
    (hid : written.caseId = case.caseId) (hstatus : written.status = status.getD case.status)
    (event : Option CaseEvent) {f : Option CaseEvent → StoreM α}
    (hf : ∀ stored, Fixes Store.cases (f stored)) :
    KeepsEnded s ((do
      putCase written
      let stored ← storeEvent? event
      f stored : StoreM α) v).2 ↔ ¬ s.Overwrites caseId status := by
  have hrest := (Fixes.bind (storeEvent?_fixes (f := Store.cases) (fun _ _ _ => rfl) event) hf)
    { v with cases := v.cases.put (.atomic written) }
  refine keepsEnded_getD hstored hid hstatus (Eq.trans hrest ?_)
  rw [← hv]

theorem keepsEnded_create (handoff : CaseHandoff) (objectives : List VerificationObjective)
    (caseStatus : Option CaseStatus) (event : Option CaseEvent)
    (outboxIntent : Option OutboxIntent) :
    KeepsEnded s (ProgressCall.run s (.create handoff objectives caseStatus event outboxIntent)) ↔
      ¬ Reopens s (.create handoff objectives caseStatus event outboxIntent) := by
  have hsame : ∀ {t : Store}, t.cases = s.cases →
      ¬ Reopens s (.create handoff objectives caseStatus event outboxIntent) →
      (KeepsEnded s t ↔ ¬ Reopens s (.create handoff objectives caseStatus event outboxIntent)) :=
    fun hcases hnot => iff_of_true (keepsEnded_of_cases hcases) hnot
  unfold ProgressCall.run createHandoffWithObjectives
  simp only [raiseIf_bind_run, requireAtomicCase_bind_run]
  split
  · rename_i hlength
    exact hsame rfl fun h => absurd h.1 (by omega)
  · rename_i hlength
    split
    · rename_i case hcase
      rcases existingHandoff_cases handoff s with ⟨r, hr, hne⟩ | ⟨hnone, -⟩
      · have hnot : ¬ Reopens s (.create handoff objectives caseStatus event outboxIntent) := by
          intro h
          have hfirst := h.2.1
          rw [hr] at hfirst
          exact hne hfirst
        rcases r with e | _ | existing
        · rw [bind_error hr]
          exact hsame rfl hnot
        · exact absurd rfl hne
        · rw [bind_ok hr]
          exact hsame rfl hnot
      · rw [bind_ok hnone]
        simp only [alter_bind_run]
        generalize hu : ({ s with
          handoffs := s.handoffs.put handoff
          handoffIdempotencyIndex := s.handoffIdempotencyIndex.set handoff.idempotencyKey
            handoff.handoffId } : Store).indexIfActive handoff = u
        have hucases : u.cases = s.cases := by
          rw [← hu, cases_indexIfActive]
        have hloop := forEach_storeObjective_cases handoff objectives u
        rcases forEach_storeObjective_run handoff objectives u with
          ⟨⟨stored, v, hrun⟩, hall⟩ | ⟨⟨e, v, hrun⟩, hnot⟩
        · rw [hrun] at hloop
          rw [bind_ok hrun]
          have hv : v.cases = s.cases := hloop.trans hucases
          refine (keepsEnded_tail hv hcase { case with
            status := caseStatus.getD case.status
            handoffStatus := handoff.status.text
            lastHandoffAt := orText handoff.updatedAt handoff.createdAt
            updatedAt := orText handoff.updatedAt handoff.createdAt } caseStatus rfl rfl event
              fun _ => ?_).trans (not_congr ?_)
          · exact Fixes.bind (enqueueOutbox?_fixes (fun _ _ _ => rfl) outboxIntent)
              fun _ => Fixes.pure _
          · exact ⟨fun h => ⟨by omega, by rw [hnone], hall, h⟩, fun h => h.2.2.2⟩
        · rw [hrun] at hloop
          rw [bind_error hrun]
          exact hsame (hloop.trans hucases) fun h => hnot h.2.2.1
    · rename_i hcase
      refine hsame rfl ?_
      rintro ⟨-, -, -, case, hget, -⟩
      cases hcase.symm.trans hget

section AfterUpdate

variable (case : AtomicCaseProjection) {handoff : CaseHandoff} (surviving : Option CaseHandoff)
  (caseStatus : Option CaseStatus) (caseHandoffStatus : Option String) (stamp : String)

theorem caseAfterUpdate_caseId :
    (caseAfterUpdate case handoff surviving caseStatus caseHandoffStatus stamp).caseId =
      case.caseId := by
  unfold caseAfterUpdate
  split <;> rfl

/-- The end of a handoff looks at the status of the case. -/
theorem caseAfterUpdate_status_ended (hended : handoff.status ∈ TERMINAL_HANDOFF_STATUSES)
    (hterminal : case.status ∈ TERMINAL_CASE_STATUSES) :
    (caseAfterUpdate case handoff surviving caseStatus caseHandoffStatus stamp).status =
      case.status := by
  unfold caseAfterUpdate
  rw [if_pos hended]
  exact if_pos hterminal

/-- Any other update does not. -/
theorem caseAfterUpdate_status_live (hlive : handoff.status ∉ TERMINAL_HANDOFF_STATUSES) :
    (caseAfterUpdate case handoff surviving caseStatus caseHandoffStatus stamp).status =
      caseStatus.getD case.status := by
  unfold caseAfterUpdate
  rw [if_neg hlive]

end AfterUpdate

theorem keepsEnded_append (update : HandoffUpdate) (handoffStatus : Option HandoffStatus)
    (caseStatus : Option CaseStatus) (caseHandoffStatus : Option String)
    (event : Option CaseEvent) :
    KeepsEnded s (ProgressCall.run s
        (.append update handoffStatus caseStatus caseHandoffStatus event)) ↔
      ¬ Reopens s (.append update handoffStatus caseStatus caseHandoffStatus event) := by
  change KeepsEnded s
    (appendHandoffUpdate update handoffStatus caseStatus caseHandoffStatus event s).2 ↔ _
  by_cases happlied : ∃ handoff, Applied s update (handoffStatus.getD update.status) handoff
  · obtain ⟨handoff, h⟩ := happlied
    obtain ⟨case, hcase⟩ := Option.isSome_iff_exists.1 h.atomic
    have hv : (s.applyUpdate update (handoffStatus.getD update.status) handoff).cases =
        s.cases := by
      unfold Store.applyUpdate
      rw [cases_replaceHandoff]
    rw [appendHandoffUpdate_applied h hcase]
    by_cases hended : handoffStatus.getD update.status ∈ TERMINAL_HANDOFF_STATUSES
    · refine iff_of_true ?_ fun hreopens => hreopens.1 hended
      have hkey := caseId_of_atomicCase? hcase
      refine (keepsEnded_put _ (by rw [hkey]; exact hcase) (caseAfterUpdate_caseId ..)
        ((Fixes.bind (storeEvent?_fixes (fun _ _ _ => rfl) event)
          fun _ => Fixes.pure _) _ |>.trans (congrArg (Table.put · _) hv))).2 ?_
      exact caseAfterUpdate_status_ended case _ caseStatus caseHandoffStatus _ hended
    · refine (keepsEnded_tail hv hcase _ caseStatus (caseAfterUpdate_caseId ..)
        (caseAfterUpdate_status_live case _ caseStatus caseHandoffStatus _ hended) event
        fun _ => Fixes.pure _).trans (not_congr ?_)
      constructor
      · exact fun hover => ⟨hended, handoff, h, hover⟩
      · rintro ⟨-, other, hother, hover⟩
        have hsame : other = handoff := Option.some.inj (hother.stored.symm.trans h.stored)
        rw [← hsame]
        exact hover
  · rw [appendHandoffUpdate_refused (not_exists.1 happlied)]
    refine iff_of_true (keepsEnded_of_cases rfl) ?_
    rintro ⟨-, handoff, h, -⟩
    exact happlied ⟨handoff, h⟩

theorem keepsEnded_verified (handoffId now : String) (event : Option CaseEvent) :
    KeepsEnded s (ProgressCall.run s (.verified handoffId now event)) ↔
      ¬ Reopens s (.verified handoffId now event) := by
  change KeepsEnded s (markHandoffVerified handoffId now event s).2 ↔ _
  unfold markHandoffVerified
  simp only [requireHandoff_bind_run, requireHandoffTransition_bind_run, alter_bind_run,
    requireAtomicCase_bind_run]
  split
  · rename_i handoff hstored
    split
    · rename_i hrefused
      refine iff_of_true (keepsEnded_of_cases rfl) ?_
      rintro ⟨other, hother, hallowed, -⟩
      cases hstored.symm.trans hother
      rw [hrefused] at hallowed
      cases hallowed
    · rename_i hallowed
      generalize hv : s.replaceHandoff handoff
        { handoff with status := .verified, updatedAt := now } = v
      have hcases : v.cases = s.cases := by
        rw [← hv, cases_replaceHandoff]
      have hsame : v.atomicCase? handoff.caseId = s.atomicCase? handoff.caseId := by
        unfold Store.atomicCase?
        rw [hcases]
      have hiff : s.Overwrites handoff.caseId (some .verificationPending) ↔
          Reopens s (.verified handoffId now event) := by
        constructor
        · exact fun h => ⟨handoff, hstored, by simpa using hallowed, h⟩
        · rintro ⟨other, hother, -, h⟩
          cases hstored.symm.trans hother
          exact h
      rw [hsame, ← hiff]
      split
      · rename_i case hcase
        exact keepsEnded_tail hcases hcase { case with
          status := .verificationPending
          handoffStatus := HandoffStatus.verified.text
          lastHandoffAt := now
          updatedAt := now } (some .verificationPending) rfl rfl event fun _ => Fixes.pure _
      · rename_i hcase
        refine iff_of_true (keepsEnded_of_cases hcases) ?_
        rintro ⟨case, hget, -⟩
        cases hcase.symm.trans hget
  · rename_i hmissing
    refine iff_of_true (keepsEnded_of_cases rfl) ?_
    rintro ⟨handoff, hget, -⟩
    cases hmissing.symm.trans hget

end Calls

/-- **A call keeps the status of every ended case exactly when it does not reopen one.** -/
theorem keepsEnded_iff (s : Store) (call : ProgressCall) :
    KeepsEnded s (call.run s) ↔ ¬ Reopens s call := by
  cases call with
  | create handoff objectives caseStatus event outboxIntent =>
    exact keepsEnded_create handoff objectives caseStatus event outboxIntent
  | append update handoffStatus caseStatus caseHandoffStatus event =>
    exact keepsEnded_append update handoffStatus caseStatus caseHandoffStatus event
  | verified handoffId now event => exact keepsEnded_verified handoffId now event

/-! ## Work that starts late -/

/-- A handoff is requested, and the case is resolved before anyone accepts it. -/
def resolvedEarly : Store :=
  let opened : AtomicCaseProjection := {
    caseId := "case_1"
    openedAt := "2026-01-01T00:00:00+00:00"
    updatedAt := "2026-01-01T00:00:00+00:00" }
  let calls : List HandoffOp :=
    [.upsertCase (.atomic opened), createRestore "handoff_1" "k1",
      .upsertCase (.atomic { opened with
        status := .resolved
        resolvedAt := "2026-01-01T00:30:00+00:00" })]
  calls.foldl (fun s op => op.run s) {}

/-- Engineering accepts the handoff. -/
def acceptLate : ProgressCall :=
  .append {
    updateId := "hu_1"
    handoffId := "handoff_1"
    caseId := "case_1"
    sourceLoop := .engineering
    updateType := .accepted
    status := .accepted
    externalEventId := "evt_1"
    correlationId := "corr_1"
    createdAt := "2026-01-01T01:00:00+00:00" } none (some (caseStatusForHandoff .accepted)) none none

theorem not_keepsEnded_late : ¬ KeepsEnded resolvedEarly (acceptLate.run resolvedEarly) := by
  intro h
  obtain ⟨case, hcase, hstatus⟩ :
      ∃ case ∈ resolvedEarly.atomicCase? "case_1", case.status = .resolved := by decide +kernel
  obtain ⟨written, hwritten, hreopened⟩ :
      ∃ case ∈ (acceptLate.run resolvedEarly).atomicCase? "case_1",
        case.status = .handoffInProgress := by decide +kernel
  obtain ⟨after, hafter, hkept⟩ := h "case_1" case hcase (by rw [hstatus]; decide)
  cases hwritten.symm.trans hafter
  rw [hreopened, hstatus] at hkept
  cases hkept

end NocAgent.Cases
