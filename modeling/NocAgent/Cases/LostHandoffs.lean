import NocAgent.Cases.Reachable

/-!
# Handoffs the verifier loses

* `Lost` — implemented, every required objective satisfied, none of its objectives ever due
  again.
* `checkAll_spec` — the store after the loop over the due objectives.
* `verifyAll_spec` — which of the touched handoffs are verified before one raises.
* `noneLost_iff` — a run leaves no handoff lost exactly when it reaches each of them.
-/

set_option autoImplicit false

namespace NocAgent.Cases

open Effects Effects.Action Keyed Lts

/-- A required objective of the handoff. -/
def Scoped (h : CaseHandoff) (o : VerificationObjective) : Prop :=
  o.caseId = h.caseId ∧ o.handoffId = h.handoffId ∧ o.required = true

/-- There are required objectives and all are satisfied. -/
def Passed (rows : List VerificationObjective) (h : CaseHandoff) : Prop :=
  (∃ o ∈ rows, Scoped h o) ∧ ∀ o ∈ rows, Scoped h o → objectiveSatisfied o

/-- **Implemented and fully passed, but no run will check it again.** -/
structure Lost (s : Store) (h : CaseHandoff) : Prop where
  stored : h ∈ s.handoffs.rows
  implemented : h.status = .implemented
  passed : Passed s.verificationObjectives.rows h
  neverDue : ∀ o ∈ s.verificationObjectives.rows, o.handoffId = h.handoffId →
    ∀ now, ¬ s.DueAt now o

/-- The objectives of the handoff have left the due list. -/
def Idle (rows : List VerificationObjective) (h : CaseHandoff) : Prop :=
  ∀ o ∈ rows, o.handoffId = h.handoffId → o.status = .pass ∨ o.status = .skipped

theorem neverDue_iff {s : Store} {h : CaseHandoff} (hm : h ∈ s.handoffs.rows)
    (hi : h.status = .implemented) {o : VerificationObjective} (ho : o.handoffId = h.handoffId) :
    (∀ now, ¬ s.DueAt now o) ↔ o.status = .pass ∨ o.status = .skipped := by
  constructor
  · intro hn
    by_contra hc
    rw [not_or] at hc
    refine hn o.nextCheckAt ⟨hc.1, hc.2, Or.inr le_rfl, Or.inr fun handoff hget => ?_⟩
    rw [ho, Table.mem_rows_iff.1 hm] at hget
    cases hget
    rw [hi]
    decide
  · rintro (hp | hs) now ⟨h1, h2, -⟩
    · exact h1 hp
    · exact h2 hs

theorem lost_iff {s : Store} {h : CaseHandoff} : Lost s h ↔
    h ∈ s.handoffs.rows ∧ h.status = .implemented ∧
      Passed s.verificationObjectives.rows h ∧ Idle s.verificationObjectives.rows h := by
  constructor
  · rintro ⟨hm, hi, hp, hn⟩
    exact ⟨hm, hi, hp, fun o ho hid => (neverDue_iff hm hi hid).1 (hn o ho hid)⟩
  · rintro ⟨hm, hi, hp, hn⟩
    exact ⟨hm, hi, hp, fun o ho hid => (neverDue_iff hm hi hid).2 (hn o ho hid)⟩

/-- Both read the objectives as a set. -/
theorem Passed.congr {rows rows' : List VerificationObjective} (h : ∀ o, o ∈ rows ↔ o ∈ rows')
    (g : CaseHandoff) : Passed rows g ↔ Passed rows' g := by
  unfold Passed
  simp only [h]

theorem Idle.congr {rows rows' : List VerificationObjective} (h : ∀ o, o ∈ rows ↔ o ∈ rows')
    (g : CaseHandoff) : Idle rows g ↔ Idle rows' g := by
  unfold Idle
  simp only [h]

/-! ## The checks of one run -/

section Run

variable (v : CaseVerifier) (d : VerifierDraws) (now : String)

/-- The next check of the objective is a time that can be written down. -/
def Recordable (o : VerificationObjective) : Prop :=
  ∃ next, nextCheckAt v.py now (d.checkedAt o.objectiveId) v.settings.caseVerificationIntervalS =
    .ok next

instance (o : VerificationObjective) : Decidable (Recordable v d now o) := by
  unfold Recordable
  cases nextCheckAt v.py now (d.checkedAt o.objectiveId) v.settings.caseVerificationIntervalS with
  | error e => exact isFalse (by simp)
  | ok next => exact isTrue ⟨next, rfl⟩

theorem recordable_iff (o : VerificationObjective) (case : Option AtomicCaseProjection) :
    Recordable v d now o ↔ ∃ updated, v.check d now o case = .ok updated := by
  unfold Recordable CaseVerifier.check applyCheckResult
  cases nextCheckAt v.py now (d.checkedAt o.objectiveId) v.settings.caseVerificationIntervalS <;>
    simp

theorem check_ok {o updated : VerificationObjective} {case : Option AtomicCaseProjection}
    (h : v.check d now o case = .ok updated) :
    updated.objectiveId = o.objectiveId ∧ updated.handoffId = o.handoffId := by
  unfold CaseVerifier.check applyCheckResult at h
  cases hn : nextCheckAt v.py now (d.checkedAt o.objectiveId)
      v.settings.caseVerificationIntervalS with
  | error e => rw [hn] at h; cases h
  | ok next => rw [hn] at h; cases h; exact ⟨rfl, rfl⟩

/-- The objectives the loop reaches: an overflowing time ends it. -/
def recorded (due : List VerificationObjective) : List VerificationObjective :=
  due.takeWhile fun o => Recordable v d now o

/-- A stored objective after the loop. -/
def afterCheck (cases : String → Option AtomicCaseProjection) (due : List VerificationObjective)
    (row : VerificationObjective) : VerificationObjective :=
  if row.objectiveId ∈ (recorded v d now due).map VerificationObjective.objectiveId then
    match v.check d now row (cases row.caseId) with
    | .ok updated => updated
    | .error _ => row
  else row

theorem afterCheck_id (cases : String → Option AtomicCaseProjection)
    (due : List VerificationObjective) (row : VerificationObjective) :
    (afterCheck v d now cases due row).objectiveId = row.objectiveId := by
  unfold afterCheck
  split
  · split
    · rename_i updated h
      exact (check_ok v d now h).1
    · rfl
  · rfl

theorem afterCheck_of_none {cases : String → Option AtomicCaseProjection}
    {due : List VerificationObjective} (h : recorded v d now due = []) :
    afterCheck v d now cases due = id := by
  funext row
  unfold afterCheck
  rw [h, if_neg (by simp)]
  rfl

/-- What the loop over the due objectives leaves, whether it ends well or not. -/
structure ChecksDone (due : List VerificationObjective) (tally : CaseVerifier.Tally) (s : Store)
    (r : Except PyExc CaseVerifier.Tally × Store) : Prop where
  core : r.2.core = s.core
  objectives : ∀ k, r.2.verificationObjectives.get? k =
    (s.verificationObjectives.get? k).map (afterCheck v d now s.atomicCase? due)
  ends : (∀ o ∈ due, Recordable v d now o) → ∃ tally', r.1 = .ok tally' ∧
    (tally.touchedHandoffs.Nodup → tally'.touchedHandoffs.Nodup) ∧
    ∀ g, g ∈ tally'.touchedHandoffs ↔
      g ∈ tally.touchedHandoffs ∨ g ≠ "" ∧ ∃ o ∈ due, o.handoffId = g
  raises : ¬ (∀ o ∈ due, Recordable v d now o) → ∃ e, r.1 = .error e

theorem recorded_cons {o : VerificationObjective} (rest : List VerificationObjective)
    (h : Recordable v d now o) : recorded v d now (o :: rest) = o :: recorded v d now rest := by
  unfold recorded
  rw [List.takeWhile_cons_of_pos (by simpa using h)]

/-- The rows a check of the first objective leaves, seen from the rest of the loop. -/
theorem afterCheck_cons {o updated row : VerificationObjective}
    {rest : List VerificationObjective} {cases : String → Option AtomicCaseProjection}
    (h : v.check d now o (cases o.caseId) = .ok updated) :
    afterCheck v d now cases (o :: rest) row =
      if row.objectiveId = o.objectiveId then
        afterCheck v d now cases (o :: rest) row
      else afterCheck v d now cases rest row := by
  split
  · rfl
  · rename_i hne
    have hrec : Recordable v d now o := (recordable_iff v d now o (cases o.caseId)).2 ⟨_, h⟩
    unfold afterCheck
    rw [recorded_cons v d now rest hrec]
    simp only [List.map_cons, List.mem_cons, hne, false_or]

/-- A check whose result can be written down records it and touches the handoff. -/
theorem checkOne_ok (hdry : v.settings.caseVerificationDryRun = false)
    {o updated : VerificationObjective} {s : Store}
    (hstored : s.verificationObjectives.get? o.objectiveId = some o)
    (h : v.check d now o (s.atomicCase? o.caseId) = .ok updated) (tally : CaseVerifier.Tally) :
    ∃ ix ev cix, v.checkOne d now o tally s =
      (.ok ((tally.count (v.judge o (s.atomicCase? o.caseId)).status).touch updated.handoffId),
        { s with
          verificationObjectives := s.verificationObjectives.put updated
          verificationObjectiveIndex := ix
          events := ev
          caseEvents := cix }) := by
  have hid := (check_ok v d now h).1
  obtain ⟨ix, ev, cix, hrun⟩ := recordLhpVerificationResult_run v.policy
    (by rw [hid]; exact hstored) (d.check o.objectiveId)
  refine ⟨ix, ev, cix, ?_⟩
  unfold CaseVerifier.checkOne
  simp only [peek_bind_run, h, hdry, Bool.false_eq_true, if_false]
  exact (bind_ok hrun).trans rfl

theorem checkOne_error {o : VerificationObjective} {s : Store} {e : PyExc}
    (h : v.check d now o (s.atomicCase? o.caseId) = .error e) (tally : CaseVerifier.Tally) :
    v.checkOne d now o tally s = (.error e, s) := by
  unfold CaseVerifier.checkOne
  simp only [peek_bind_run, h]
  rfl

theorem checkAll_spec (hdry : v.settings.caseVerificationDryRun = false) :
    ∀ (due : List VerificationObjective) (tally : CaseVerifier.Tally) (s : Store),
    (due.map VerificationObjective.objectiveId).Nodup →
    (∀ o ∈ due, s.verificationObjectives.get? o.objectiveId = some o) →
    ChecksDone v d now due tally s (v.checkAll d now due tally s)
  | [], tally, s, _, _ => by
    refine ⟨rfl, fun k => ?_, fun _ => ⟨tally, rfl, id, fun g => by simp⟩, fun h => ?_⟩
    · rw [afterCheck_of_none v d now rfl, Option.map_id]
      rfl
    · exact absurd (fun o ho => by cases ho) h
  | o :: rest, tally, s, hnodup, hstored => by
    rw [List.map_cons, List.nodup_cons] at hnodup
    have ho := hstored o List.mem_cons_self
    unfold CaseVerifier.checkAll
    cases hcheck : v.check d now o (s.atomicCase? o.caseId) with
    | error e =>
      rw [bind_error (checkOne_error v d now hcheck tally)]
      have hrec : ¬ Recordable v d now o := by
        rw [recordable_iff v d now o (s.atomicCase? o.caseId), hcheck]
        simp
      have hnone : recorded v d now (o :: rest) = [] := by
        unfold recorded
        rw [List.takeWhile_cons_of_neg (by simpa using hrec)]
      refine ⟨rfl, fun k => ?_, fun h => absurd (h o List.mem_cons_self) hrec, fun _ => ⟨e, rfl⟩⟩
      rw [afterCheck_of_none v d now hnone, Option.map_id]
      rfl
    | ok updated =>
      obtain ⟨hid, hhandoff⟩ := check_ok v d now hcheck
      have hrec : Recordable v d now o := (recordable_iff v d now o _).2 ⟨_, hcheck⟩
      obtain ⟨ix, ev, cix, hrun⟩ := checkOne_ok v d now hdry ho hcheck tally
      rw [bind_ok hrun]
      have hrest : ∀ o' ∈ rest, (s.verificationObjectives.put updated).get? o'.objectiveId = some o' := by
        intro o' ho'
        rw [Table.get?_put_of_ne]
        · exact hstored o' (List.mem_cons_of_mem _ ho')
        · rw [hid]
          intro he
          exact hnodup.1 (he ▸ List.mem_map_of_mem ho')
      have ih := checkAll_spec hdry rest
        ((tally.count (v.judge o (s.atomicCase? o.caseId)).status).touch updated.handoffId)
        { s with
          verificationObjectives := s.verificationObjectives.put updated
          verificationObjectiveIndex := ix
          events := ev
          caseEvents := cix } hnodup.2 hrest
      refine ⟨ih.core, fun k => ?_, fun h => ?_, fun h => ?_⟩
      · rw [ih.objectives k, Table.get?_put, hid]
        by_cases hk : o.objectiveId = k
        · -- the row just written is not written again
          rw [if_pos hk, ← hk, ho]
          have hlast : afterCheck v d now s.atomicCase? rest updated = updated := by
            unfold afterCheck
            rw [if_neg]
            rw [hid]
            intro hm
            obtain ⟨o', ho', he⟩ := List.mem_map.1 hm
            exact hnodup.1 (he ▸ List.mem_map_of_mem ((List.takeWhile_sublist _).subset ho'))
          have hfirst : afterCheck v d now s.atomicCase? (o :: rest) o = updated := by
            unfold afterCheck
            rw [recorded_cons v d now rest hrec, if_pos (by simp), hcheck]
          simp only [Option.map_some]
          rw [hfirst]
          exact congrArg some hlast
        · rw [if_neg hk]
          cases hr : s.verificationObjectives.get? k with
          | none => rfl
          | some row =>
            have hrow : row.objectiveId = k := Table.key_of_get? hr
            simp only [Option.map_some]
            rw [afterCheck_cons v d now hcheck, if_neg (by rw [hrow]; exact fun e => hk e.symm)]
            rfl
      · rw [List.forall_mem_cons] at h
        obtain ⟨tally', hok, hnd, hmem⟩ := ih.ends h.2
        refine ⟨tally', hok, fun htally => hnd ?_, fun g => ?_⟩
        · unfold CaseVerifier.Tally.touch CaseVerifier.Tally.count
          simp only []
          split
          · exact htally
          · exact htally.insert
        · rw [hmem g]
          unfold CaseVerifier.Tally.touch CaseVerifier.Tally.count
          simp only [hhandoff, List.exists_mem_cons_iff]
          by_cases hempty : o.handoffId = ""
          · rw [if_pos hempty]
            constructor
            · rintro (hg | ⟨hne, hg⟩)
              · exact Or.inl hg
              · exact Or.inr ⟨hne, Or.inr hg⟩
            · rintro (hg | ⟨hne, hg | hg⟩)
              · exact Or.inl hg
              · exact absurd (hg.symm.trans hempty) hne
              · exact Or.inr ⟨hne, hg⟩
          · rw [if_neg hempty, List.mem_insert_iff]
            constructor
            · rintro ((hg | hg) | ⟨hne, hg⟩)
              · exact Or.inr ⟨hg ▸ hempty, Or.inl hg.symm⟩
              · exact Or.inl hg
              · exact Or.inr ⟨hne, Or.inr hg⟩
            · rintro (hg | ⟨hne, hg | hg⟩)
              · exact Or.inl (Or.inr hg)
              · exact Or.inl (Or.inl hg.symm)
              · exact Or.inr ⟨hne, hg⟩
      · refine ih.raises fun hall => h ?_
        rw [List.forall_mem_cons]
        exact ⟨hrec, hall⟩

end Run

/-! ## Verifying one handoff -/

theorem replaceHandoff_handoffs (s : Store) (old new : CaseHandoff) :
    (s.replaceHandoff old new).handoffs = s.handoffs.put new :=
  congrArg Prod.fst (replaceHandoff_indexed s old new)

/-- The parts of a store the loop over the handoffs reads. -/
def Store.verifierView (s : Store) :
    Table CaseHandoff.handoffId × Table VerificationObjective.objectiveId :=
  (s.handoffs, s.verificationObjectives)

theorem verifierView_replaceHandoff (s : Store) (old new : CaseHandoff) :
    (s.replaceHandoff old new).verifierView = (s.handoffs.put new, s.verificationObjectives) := by
  have h1 := replaceHandoff_handoffs s old new
  have h2 : (s.replaceHandoff old new).verificationObjectives = s.verificationObjectives := by
    unfold Store.replaceHandoff Store.indexIfActive
    split <;> rfl
  unfold Store.verifierView
  rw [h1, h2]

/-- Writing a case and an event returns and is not seen by the verifier. -/
theorem caseTail_run {α : Type} (case : AtomicCaseProjection) (event : Option CaseEvent) (a : α)
    (s : Store) : ∃ t, (do
      putCase case
      let _ ← storeEvent? event
      pure a : StoreM α) s = (.ok a, t) ∧ t.verifierView = s.verifierView := by
  obtain ⟨stored, ev, ix, hrun⟩ := storeEvent?_run event { s with
    cases := s.cases.put (.atomic case) }
  exact ⟨{ s with
    cases := s.cases.put (.atomic case)
    events := ev
    caseEvents := ix }, (bind_ok hrun).trans rfl, rfl⟩

theorem markLhpHandoffVerified_run {py : Python} (policy : CasePolicy) {s : Store} {g : String}
    {h : CaseHandoff} (hw : WellFormed py s) (hget : s.handoffs.get? g = some h)
    (himpl : h.status = .implemented) (draw : Draw) : ∃ t,
    let h' := { h with
      status := .verified
      updatedAt := draw.now }
    markLhpHandoffVerified policy g draw s = (.ok h', t) ∧
      t.verifierView = (s.handoffs.put h', s.verificationObjectives) := by
  have hcases : ∀ new, (s.replaceHandoff h new).atomicCase? h.caseId = s.atomicCase? h.caseId := by
    intro new
    unfold Store.replaceHandoff Store.indexIfActive
    split <;> rfl
  obtain ⟨case, hcase⟩ := Option.isSome_iff_exists.1 (hw.handoffCase h (Table.mem_of_get? hget))
  unfold markLhpHandoffVerified getHandoff markHandoffVerified
  simp only [peek_bind_run, hget, orRaise_bind_run, requireHandoff_bind_run,
    requireHandoffTransition_bind_run, (allowed_verified _).2 (Or.inl himpl), Bool.true_eq_false,
    if_false, alter_bind_run, requireAtomicCase_bind_run, hcases, hcase]
  exact Exists.imp (fun t ht => ⟨ht.1, ht.2.trans (verifierView_replaceHandoff s h _)⟩)
    (caseTail_run _ _ _ _)

theorem resolveLhpCaseWithOutcome_run {py : Python} (policy : CasePolicy) {s : Store}
    {h : CaseHandoff} (hw : WellFormed py s) (hget : s.handoffs.get? h.handoffId = some h)
    (hver : h.status = .verified) (hne : h.handoffId ≠ "") (outcome : OutcomeRecord)
    (hwork : outcome.workItemId = h.caseId) (draw : Draw) : ∃ case t,
    resolveLhpCaseWithOutcome policy h.caseId outcome h.handoffId draw s = (.ok case, t) ∧
      t.verifierView = (s.handoffs.put { h with
        status := .resolved
        updatedAt := draw.now }, s.verificationObjectives) := by
  obtain ⟨case, hcase⟩ := Option.isSome_iff_exists.1 (hw.handoffCase h (Table.mem_of_get? hget))
  have hsame : ¬ outcome.workItemId ≠ case.caseId := by
    rw [hwork, caseId_of_atomicCase? hcase]
    simp
  unfold resolveLhpCaseWithOutcome resolveCaseWithOutcome resolveHandoff
  simp only [requireAtomicCase_bind_run, hcase, raiseIf_bind_run, if_neg hsame, if_neg hne,
    bind_bind_run, requireHandoff_bind_run, hget, requireHandoffTransition_bind_run,
    (allowed_resolved _).2 (Or.inl hver), Bool.true_eq_false, if_false, alter_bind_run]
  refine ⟨_, Exists.imp (fun t ht => ⟨ht.1, ht.2.trans ?_⟩) (caseTail_run _ _ _ _)⟩
  exact verifierView_replaceHandoff s h _

theorem enqueueOutbox_run {py : Python} {s : Store} (hw : WellFormed py s) (intent : OutboxIntent) :
    ∃ stored o ix, enqueueOutbox intent s = (.ok stored, { s with
      outbox := o
      outboxIndex := ix }) := by
  rcases enqueueOutbox_cases intent s with
    ⟨_, existing, -, -, hrun⟩ | ⟨existingId, hid, hnone, -⟩ | ⟨-, hrun⟩
  · exact ⟨existing, s.outbox, s.outboxIndex, hrun⟩
  · obtain ⟨existing, hexisting⟩ := Option.isSome_iff_exists.1 (hw.outboxListed _ _ hid)
    rw [hnone] at hexisting
    cases hexisting
  · exact ⟨intent, _, _, hrun⟩

theorem requestLhpKnowledgeArtifactProposal_run {py : Python} (policy : CasePolicy) {s : Store}
    (hw : WellFormed py s) {caseId : String} (hcase : (s.atomicCase? caseId).isSome)
    (handoffId outcomeId : String) (payload : JsonDict) (outboxId : String) (draw : Draw) :
    ∃ intent t, requestLhpKnowledgeArtifactProposal py policy caseId handoffId outcomeId payload
      outboxId draw s = (.ok intent, t) ∧ t.verifierView = s.verifierView := by
  obtain ⟨case, hcase⟩ := Option.isSome_iff_exists.1 hcase
  unfold requestLhpKnowledgeArtifactProposal
  simp only [requireAtomicCase_bind_run, hcase]
  obtain ⟨intent, o, ix, hrun⟩ := enqueueOutbox_run hw (proposalIntent py case handoffId outcomeId
    payload outboxId draw)
  rw [bind_ok hrun]
  obtain ⟨stored, ev, cix, hevent⟩ := storeEvent_run (proposalEvent policy case handoffId outcomeId
    intent draw) { s with
      outbox := o
      outboxIndex := ix }
  exact ⟨intent, _, (bind_ok hevent).trans rfl, rfl⟩

section Verify

variable (v : CaseVerifier) (d : VerifierDraws)

/-- One handoff was replaced and no objective changed. -/
structure Replaced (s : Store) (h' : CaseHandoff) (t : Store) : Prop where
  objectives : t.verificationObjectives = s.verificationObjectives
  handoffs : ∀ x, x ∈ t.handoffs.rows ↔
    x = h' ∨ x ∈ s.handoffs.rows ∧ x.handoffId ≠ h'.handoffId

theorem Replaced.of_view {s t : Store} {h' : CaseHandoff}
    (h : t.verifierView = (s.handoffs.put h', s.verificationObjectives)) : Replaced s h' t := by
  have h1 : t.handoffs = s.handoffs.put h' := congrArg Prod.fst h
  refine ⟨congrArg Prod.snd h, fun x => ?_⟩
  rw [h1]
  exact Table.mem_put

theorem Replaced.trans {s t u : Store} {h' h'' : CaseHandoff} (h1 : Replaced s h' t)
    (h2 : Replaced t h'' u) (hid : h''.handoffId = h'.handoffId) : Replaced s h'' u := by
  refine ⟨h2.objectives.trans h1.objectives, fun x => ?_⟩
  rw [h2.handoffs, h1.handoffs, hid]
  constructor
  · rintro (hx | ⟨rfl | hx, hne⟩)
    · exact Or.inl hx
    · exact absurd rfl hne
    · exact Or.inr hx
  · rintro (hx | hx)
    · exact Or.inl hx
    · exact Or.inr ⟨Or.inr hx, hx.2⟩

theorem verifyHandoff_blocked {s : Store} {g : String} {h : CaseHandoff}
    (hget : s.handoffs.get? g = some h)
    (hopen : h.status ∉ [HandoffStatus.verified, .resolved, .cancelled, .expired])
    (himpl : h.status ≠ .implemented) : v.verifyHandoff d g s = (.error .valueError, s) := by
  have hnot : allowedHandoffTransition h.status .verified .noc = false := by
    rw [← Bool.not_eq_true, allowed_verified]
    rintro (hi | hi)
    · exact himpl hi
    · exact hopen (by simp [hi])
  unfold CaseVerifier.verifyHandoff
  refine bind_error ?_
  unfold markLhpHandoffVerified getHandoff markHandoffVerified
  simp only [peek_bind_run, hget, orRaise_bind_run, requireHandoff_bind_run,
    requireHandoffTransition_bind_run, hnot, if_true]

/-- The outcome a run records for the handoff. -/
def CaseVerifier.outcome (h : CaseHandoff) : OutcomeRecord := {
  outcomeId := d.outcomeId h.handoffId
  workItemId := h.caseId
  caseType := sanitizeLhpToken v.py h.caseType 180
  fingerprint := sanitizeLhpToken v.py h.fingerprint 180
  validation := sanitizePayloadDict v.py (d.validation h.handoffId)
  safety := resolutionSafety v.py
  createdAt := d.outcomeAt h.handoffId }

/-- **An implemented handoff is verified, and then resolved if cases are, without an
exception.** -/
theorem verifyHandoff_run {s : Store} {h : CaseHandoff} (hw : WellFormed v.py s)
    (hget : s.handoffs.get? h.handoffId = some h) (himpl : h.status = .implemented)
    (hne : h.handoffId ≠ "") : ∃ r t h', v.verifyHandoff d h.handoffId s = (.ok r, t) ∧
      h'.handoffId = h.handoffId ∧ (h'.status = .verified ∨ h'.status = .resolved) ∧
      Replaced s h' t := by
  obtain ⟨t1, hrun1, hview1⟩ :=
    markLhpHandoffVerified_run v.policy hw hget himpl (d.verify h.handoffId)
  have hw1 : WellFormed v.py t1 := by
    have := WellFormed.verifier.markLhpHandoffVerified v.policy h.handoffId (d.verify h.handoffId) s hw
    rwa [hrun1] at this
  have hrep1 := Replaced.of_view hview1
  have htoken := hw.handoffToken h (Table.mem_of_get? hget)
  have hget1 := Table.mem_rows_iff.1 ((hrep1.handoffs _).2 (Or.inl rfl))
  unfold CaseVerifier.verifyHandoff
  rw [bind_ok hrun1]
  cases hauto : v.settings.caseAutoResolveEnabled with
  | false =>
    exact ⟨(true, false), t1, { h with
      status := .verified
      updatedAt := (d.verify h.handoffId).now }, rfl, rfl, Or.inl rfl, hrep1⟩
  | true =>
    simp only [if_true, htoken, orRaise_bind_run]
    obtain ⟨case, t2, hrun2, hview2⟩ := resolveLhpCaseWithOutcome_run v.policy hw1 hget1
      rfl hne (v.outcome d h) rfl (d.resolve h.handoffId)
    have hrep2 := hrep1.trans (Replaced.of_view hview2) rfl
    dsimp only [CaseVerifier.outcome] at hrun2
    rw [bind_ok hrun2]
    cases hknow : v.settings.knowledgeContextEnabled with
    | false =>
      exact ⟨(true, true), t2, { h with
        status := .resolved
        updatedAt := (d.resolve h.handoffId).now }, rfl, rfl, Or.inr rfl, hrep2⟩
    | true =>
      have hw2 : WellFormed v.py t2 := by
        have := WellFormed.verifier.resolveLhpCaseWithOutcome v.policy h.caseId (v.outcome d h) h.handoffId
          (d.resolve h.handoffId) t1 hw1
        dsimp only [CaseVerifier.outcome] at this
        rwa [hrun2] at this
      have hcase := hw2.handoffCase _ ((hrep2.handoffs _).2 (Or.inl rfl))
      obtain ⟨intent, t3, hrun3, hview3⟩ := requestLhpKnowledgeArtifactProposal_run v.policy
        hw2 hcase h.handoffId (d.outcomeId h.handoffId)
        [("source", .str "noc_case_verifier"), ("case_type", .str h.caseType)]
        (d.outboxId h.handoffId) (d.propose h.handoffId)
      have h1 : t3.handoffs = t2.handoffs := congrArg Prod.fst hview3
      have h2 : t3.verificationObjectives = t2.verificationObjectives := congrArg Prod.snd hview3
      simp only [if_true]
      refine ⟨(true, true), t3, { h with
        status := .resolved
        updatedAt := (d.resolve h.handoffId).now }, (bind_ok hrun3).trans rfl, rfl, Or.inr rfl, ?_⟩
      exact ⟨h2.trans hrep2.objectives, by rw [h1]; exact hrep2.handoffs⟩

/-! ## Verifying the touched handoffs -/

/-- Verifying the handoff raises: it has passed in a status that may not become verified. -/
def Blocking (rows : List VerificationObjective) (h : CaseHandoff) : Prop :=
  Passed rows h ∧ h.status ∉ [.implemented, .verified, .resolved, .cancelled, .expired]

theorem Blocking.congr {rows rows' : List VerificationObjective} (h : ∀ o, o ∈ rows ↔ o ∈ rows')
    (g : CaseHandoff) : Blocking rows g ↔ Blocking rows' g := by
  unfold Blocking
  rw [Passed.congr h]

theorem mem_requiredObjectives (s : Store) (h : CaseHandoff) (o : VerificationObjective) :
    o ∈ CaseVerifier.requiredObjectives h (s.listVerificationObjectives h.caseId) ↔
      o ∈ s.verificationObjectives.rows ∧ Scoped h o := by
  unfold CaseVerifier.requiredObjectives Store.listVerificationObjectives Scoped
  simp only [List.mem_filter, List.mem_insertionSort, decide_eq_true_eq]
  tauto

theorem passed_iff_required (s : Store) (h : CaseHandoff) :
    Passed s.verificationObjectives.rows h ↔
      ¬ (CaseVerifier.requiredObjectives h (s.listVerificationObjectives h.caseId) = [] ∨
        ∃ o ∈ CaseVerifier.requiredObjectives h (s.listVerificationObjectives h.caseId),
          ¬ objectiveSatisfied o) := by
  unfold Passed
  simp only [not_or, List.eq_nil_iff_forall_not_mem, mem_requiredObjectives, not_forall, not_exists,
    not_and, not_not, and_imp, exists_prop]

/-- What verifying one handoff without an exception leaves. -/
structure StepDone (g : String) (s t : Store) : Prop where
  objectives : t.verificationObjectives = s.verificationObjectives
  implemented : ∀ h, h.status = .implemented → (h ∈ t.handoffs.rows ↔
    h ∈ s.handoffs.rows ∧ ¬ (Passed s.verificationObjectives.rows h ∧ h.handoffId = g))
  blocking : ∀ h, Blocking s.verificationObjectives.rows h →
    (h ∈ t.handoffs.rows ↔ h ∈ s.handoffs.rows)
  notBlocking : ∀ h ∈ s.handoffs.rows, Blocking s.verificationObjectives.rows h → h.handoffId ≠ g

/-- **Verifying a handoff raises exactly at a blocking one, and then changes nothing.** -/
theorem maybeVerifyHandoff_step {s : Store} {g : String} (hw : WellFormed v.py s) (hne : g ≠ "") :
    (∃ e, v.maybeVerifyHandoff d g s = (.error e, s) ∧
      ∃ h ∈ s.handoffs.rows, h.handoffId = g ∧ Blocking s.verificationObjectives.rows h) ∨
    ∃ r t, v.maybeVerifyHandoff d g s = (.ok r, t) ∧ StepDone g s t := by
  -- a handoff that is final, or has not passed, is passed over
  have hskip : (∀ h ∈ s.handoffs.rows, h.handoffId = g →
      Passed s.verificationObjectives.rows h →
        h.status ∈ [HandoffStatus.verified, .resolved, .cancelled, .expired]) → StepDone g s s := by
    intro hfinal
    refine ⟨rfl, fun h himpl => ⟨fun hm => ⟨hm, ?_⟩, And.left⟩, fun _ _ => Iff.rfl, ?_⟩
    · rintro ⟨hp, hid⟩
      have := hfinal h hm hid hp
      rw [himpl] at this
      exact absurd this (by decide)
    · intro h hm hb hid
      exact hb.2 (List.mem_cons_of_mem _ (hfinal h hm hid hb.1))
  unfold CaseVerifier.maybeVerifyHandoff getHandoff
  simp only [peek_bind_run]
  cases hget : s.handoffs.get? g with
  | none =>
    refine Or.inr ⟨(false, false), s, rfl, hskip fun h hm hid => ?_⟩
    rw [Table.get?_eq_none_iff] at hget
    exact absurd hid (hget h hm)
  | some handoff =>
    have hid : handoff.handoffId = g := Table.key_of_get? hget
    have honly : ∀ h ∈ s.handoffs.rows, h.handoffId = g → h = handoff := by
      intro h hm he
      have := Table.mem_rows_iff.1 hm
      rw [he, hget] at this
      exact (Option.some.inj this).symm
    simp only []
    split
    · rename_i hfinal
      exact Or.inr ⟨(false, false), s, rfl, hskip fun h hm he _ => honly h hm he ▸ hfinal⟩
    · rename_i hopen
      simp only [peek_bind_run]
      split
      · rename_i hnot
        refine Or.inr ⟨(false, false), s, rfl, hskip fun h hm he hp => ?_⟩
        rw [honly h hm he, passed_iff_required] at hp
        exact absurd hnot hp
      · rename_i hpass
        rw [← passed_iff_required] at hpass
        by_cases himpl : handoff.status = .implemented
        · obtain ⟨r, t, h', hrun, hid', hst, hrep⟩ := verifyHandoff_run v d hw
            (Table.get?_key hget) himpl (hid ▸ hne)
          rw [hid] at hrun hid'
          refine Or.inr ⟨r, t, hrun, hrep.objectives, fun h hi => ?_, fun h hb => ?_, ?_⟩
          · rw [hrep.handoffs, hid']
            constructor
            · rintro (rfl | ⟨hm, hg⟩)
              · rw [hi] at hst
                simp at hst
              · exact ⟨hm, fun hc => hg hc.2⟩
            · rintro ⟨hm, hc⟩
              refine Or.inr ⟨hm, fun hg => hc ⟨?_, hg⟩⟩
              rwa [honly h hm hg]
          · rw [hrep.handoffs, hid']
            constructor
            · rintro (rfl | ⟨hm, -⟩)
              · refine absurd hb.2 ?_
                rcases hst with hst | hst <;> simp [hst]
              · exact hm
            · intro hm
              refine Or.inr ⟨hm, fun hg => hb.2 ?_⟩
              simp [honly h hm hg, himpl]
          · intro h hm hb hg
            refine hb.2 ?_
            simp [honly h hm hg, himpl]
        · refine Or.inl ⟨.valueError, ?_, handoff, Table.mem_of_get? hget, hid, hpass, ?_⟩
          · exact verifyHandoff_blocked v d hget hopen himpl
          · simp only [List.mem_cons, List.not_mem_nil, or_false, not_or] at hopen ⊢
            exact ⟨himpl, hopen⟩

/-- A touched handoff that raises, before `id` in the order of the loop. -/
def BlockedBefore (rows : List VerificationObjective) (handoffs : List CaseHandoff)
    (ids : List String) (id : String) : Prop :=
  ∃ g ∈ handoffs, Blocking rows g ∧ g.handoffId ∈ ids ∧ g.handoffId < id

/-- **The loop verifies exactly the touched handoffs that have passed and come before the first
one that raises.** -/
theorem verifyAll_spec : ∀ (ids : List String) (done : Nat × Nat) (s : Store),
    WellFormed v.py s → ids.Pairwise (· < ·) → "" ∉ ids →
    (v.verifyAll d ids done s).2.verificationObjectives = s.verificationObjectives ∧
    ∀ h, h.status = .implemented → (h ∈ (v.verifyAll d ids done s).2.handoffs.rows ↔
      h ∈ s.handoffs.rows ∧ ¬ (Passed s.verificationObjectives.rows h ∧ h.handoffId ∈ ids ∧
        ¬ BlockedBefore s.verificationObjectives.rows s.handoffs.rows ids h.handoffId))
  | [], done, s, _, _, _ => by
    refine ⟨rfl, fun h _ => ⟨fun hm => ⟨hm, ?_⟩, And.left⟩⟩
    rintro ⟨-, hin, -⟩
    cases hin
  | g :: rest, done, s, hw, hsorted, hempty => by
    rw [List.pairwise_cons] at hsorted
    rw [List.mem_cons, not_or] at hempty
    unfold CaseVerifier.verifyAll
    rcases maybeVerifyHandoff_step v d hw (Ne.symm hempty.1) with
      ⟨e, hrun, b, hb, hbid, hblocking⟩ | ⟨r, t, hrun, hstep⟩
    · -- the rest of the loop is not reached
      rw [bind_error hrun]
      refine ⟨rfl, fun h himpl => ⟨fun hm => ⟨hm, ?_⟩, And.left⟩⟩
      rintro ⟨-, hin, hnone⟩
      refine hnone ⟨b, hb, hblocking, hbid ▸ List.mem_cons_self, ?_⟩
      rw [hbid]
      rcases List.mem_cons.1 hin with hg | hin
      · have : h = b := by
          have h1 := Table.mem_rows_iff.1 hm
          rw [hg, ← hbid, Table.mem_rows_iff.1 hb] at h1
          exact (Option.some.inj h1).symm
        refine absurd hblocking.2 ?_
        simp [← this, himpl]
      · exact hsorted.1 _ hin
    · rw [bind_ok hrun]
      have hw' : WellFormed v.py t := by
        have := WellFormed.verifier.maybeVerifyHandoff v d g s hw
        rwa [hrun] at this
      obtain ⟨hobj, himp⟩ := verifyAll_spec rest
        (done.1 + r.1.toNat, done.2 + r.2.toNat) t hw' hsorted.2 hempty.2
      rw [hstep.objectives] at hobj himp
      refine ⟨hobj, fun h hi => (himp h hi).trans ?_⟩
      have hblocked : BlockedBefore s.verificationObjectives.rows t.handoffs.rows rest
            h.handoffId ↔
          BlockedBefore s.verificationObjectives.rows s.handoffs.rows (g :: rest) h.handoffId := by
        constructor
        · rintro ⟨b, hb, hblocking, hin, hlt⟩
          exact ⟨b, (hstep.blocking b hblocking).1 hb, hblocking, List.mem_cons_of_mem _ hin, hlt⟩
        · rintro ⟨b, hb, hblocking, hin, hlt⟩
          refine ⟨b, (hstep.blocking b hblocking).2 hb, hblocking, ?_, hlt⟩
          exact (List.mem_cons.1 hin).resolve_left (hstep.notBlocking b hb hblocking)
      rw [hblocked, hstep.implemented h hi]
      constructor
      · rintro ⟨⟨hm, hg⟩, hrest⟩
        refine ⟨hm, fun hc => ?_⟩
        rcases List.mem_cons.1 hc.2.1 with he | hin
        · exact hg ⟨hc.1, he⟩
        · exact hrest ⟨hc.1, hin, hc.2.2⟩
      · rintro ⟨hm, hc⟩
        refine ⟨⟨hm, fun hg => hc ⟨hg.1, hg.2 ▸ List.mem_cons_self, ?_⟩⟩, fun hr =>
          hc ⟨hr.1, List.mem_cons_of_mem _ hr.2.1, hr.2.2⟩⟩
        -- nothing in the loop is before its first handoff
        rintro ⟨b, hb, hblocking, hin, hlt⟩
        rw [hg.2] at hlt
        rcases List.mem_cons.1 hin with he | hin
        · exact hstep.notBlocking b hb hblocking he
        · exact absurd (hsorted.1 _ hin) (lt_asymm hlt)

theorem verifyTouched_spec (hdry : v.settings.caseVerificationDryRun = false)
    {tally : CaseVerifier.Tally} {s : Store} (hw : WellFormed v.py s)
    (hnodup : tally.touchedHandoffs.Nodup) (hempty : "" ∉ tally.touchedHandoffs) :
    (v.verifyTouched d tally s).2.verificationObjectives = s.verificationObjectives ∧
    ∀ h, h.status = .implemented → (h ∈ (v.verifyTouched d tally s).2.handoffs.rows ↔
      h ∈ s.handoffs.rows ∧ ¬ (Passed s.verificationObjectives.rows h ∧
        h.handoffId ∈ tally.touchedHandoffs ∧
        ¬ BlockedBefore s.verificationObjectives.rows s.handoffs.rows tally.touchedHandoffs
          h.handoffId)) := by
  have hsorted : (tally.touchedHandoffs.insertionSort (· ≤ ·)).Pairwise (· < ·) := by
    have hle := List.pairwise_insertionSort (· ≤ ·) tally.touchedHandoffs
    have hne := (List.perm_insertionSort (· ≤ ·) tally.touchedHandoffs).nodup_iff.2 hnodup
    exact (hle.and hne).imp fun h => lt_of_le_of_ne h.1 h.2
  have hspec := verifyAll_spec v d (tally.touchedHandoffs.insertionSort (· ≤ ·)) (0, 0) s hw hsorted
    (by rwa [List.mem_insertionSort])
  unfold CaseVerifier.verifyTouched
  simp only [hdry, Bool.false_eq_true, if_false]
  simpa only [BlockedBefore, List.mem_insertionSort] using hspec

/-! ## One run -/

variable (now : Option String) (limit : Int)

/-- The time of the run. -/
def CaseVerifier.runAt : String := orText (now.getD "") d.startedAt

/-- The objectives the run checks. -/
def CaseVerifier.due (s : Store) : List VerificationObjective :=
  if v.settings.caseVerificationEnabled then s.listDueVerificationObjectives (runAt d now) limit
  else []

/-- The objectives as the checks of the run leave them. -/
def CaseVerifier.rowsAfter (s : Store) : List VerificationObjective :=
  s.verificationObjectives.rows.map
    (afterCheck v d (runAt d now) s.atomicCase? (v.due d now limit s))

/-- The run checks an objective of the handoff. -/
def CaseVerifier.Touches (s : Store) (h : CaseHandoff) : Prop :=
  h.handoffId ≠ "" ∧ ∃ o ∈ v.due d now limit s, o.handoffId = h.handoffId

/-- Every due objective can be written down, one of them is the handoff's, and no handoff that
raises comes before it. -/
structure Reached (s : Store) (h : CaseHandoff) : Prop where
  recordable : ∀ o ∈ v.due d now limit s, Recordable v d (CaseVerifier.runAt d now) o
  touched : v.Touches d now limit s h
  unblocked : ∀ g ∈ s.handoffs.rows, v.Touches d now limit s g →
    Blocking (v.rowsAfter d now limit s) g → ¬ g.handoffId < h.handoffId

theorem mem_listDue {s : Store} {now : String} {limit : Int} {o : VerificationObjective}
    (h : o ∈ s.listDueVerificationObjectives now limit) : o ∈ s.verificationObjectives.rows := by
  unfold Store.listDueVerificationObjectives at h
  have h := (List.take_sublist _ _).subset h
  rw [List.mem_insertionSort, List.mem_filter] at h
  exact h.1

theorem nodup_listDue (s : Store) (now : String) (limit : Int) :
    ((s.listDueVerificationObjectives now limit).map VerificationObjective.objectiveId).Nodup := by
  unfold Store.listDueVerificationObjectives
  refine List.Nodup.sublist ((List.take_sublist _ _).map _) ?_
  refine ((List.perm_insertionSort _ _).map _).nodup_iff.2 ?_
  exact List.Nodup.sublist (List.filter_sublist.map _) s.verificationObjectives.nodup

/-- A table whose rows were mapped without a change of key. -/
theorem mem_rows_of_get?_map {s t : Store} {f : VerificationObjective → VerificationObjective}
    (hf : ∀ row, (f row).objectiveId = row.objectiveId)
    (h : ∀ k, t.verificationObjectives.get? k = (s.verificationObjectives.get? k).map f)
    (o : VerificationObjective) :
    o ∈ t.verificationObjectives.rows ↔ o ∈ s.verificationObjectives.rows.map f := by
  rw [Table.mem_rows_iff, h, Option.map_eq_some_iff, List.mem_map]
  constructor
  · rintro ⟨row, hrow, rfl⟩
    exact ⟨row, Table.mem_of_get? hrow, rfl⟩
  · rintro ⟨row, hrow, rfl⟩
    exact ⟨row, by rw [hf]; exact Table.mem_rows_iff.1 hrow, rfl⟩

/-- **What a run leaves: the checked objectives, and every implemented handoff that has not
passed or is not reached.** -/
theorem runOnce_spec {s : Store} (hw : WellFormed v.py s)
    (hdry : v.settings.caseVerificationDryRun = false) :
    (∀ o, o ∈ (v.runOnce d now limit s).2.verificationObjectives.rows ↔
      o ∈ v.rowsAfter d now limit s) ∧
    ∀ h, h.status = .implemented → (h ∈ (v.runOnce d now limit s).2.handoffs.rows ↔
      h ∈ s.handoffs.rows ∧
        ¬ (Passed (v.rowsAfter d now limit s) h ∧ Reached v d now limit s h)) := by
  cases hon : v.settings.caseVerificationEnabled with
  | false =>
    have hdue : v.due d now limit s = [] := by simp [CaseVerifier.due, hon]
    have hrun : (v.runOnce d now limit s).2 = s := by
      unfold CaseVerifier.runOnce
      simp only [hon, Bool.false_eq_true, if_false]
      rfl
    have hrows : v.rowsAfter d now limit s = s.verificationObjectives.rows := by
      unfold CaseVerifier.rowsAfter
      rw [hdue, afterCheck_of_none v d _ rfl, List.map_id]
    rw [hrun, hrows]
    refine ⟨fun _ => Iff.rfl, fun h _ => ⟨fun hm => ⟨hm, ?_⟩, And.left⟩⟩
    rintro ⟨-, hreached⟩
    obtain ⟨-, o, ho, -⟩ := hreached.touched
    rw [hdue] at ho
    cases ho
  | true =>
    have hdue : v.due d now limit s =
        s.listDueVerificationObjectives (CaseVerifier.runAt d now) limit := by
      simp [CaseVerifier.due, hon]
    have hchecks := checkAll_spec v d (CaseVerifier.runAt d now) hdry (v.due d now limit s) {} s
      (by rw [hdue]; exact nodup_listDue s _ limit)
      (fun o ho => Table.mem_rows_iff.1 (mem_listDue (hdue ▸ ho)))
    have hw1 : WellFormed v.py
        (v.checkAll d (CaseVerifier.runAt d now) (v.due d now limit s) {} s).2 :=
      WellFormed.verifier.checkAll v d _ _ _ s hw
    have hrun : v.runOnce d now limit s = ((do
        let tally ← v.checkAll d (CaseVerifier.runAt d now) (v.due d now limit s) {}
        let done ← v.verifyTouched d tally
        pure {
          checked := tally.checked
          updated := tally.updated
          passed := tally.passed
          failed := tally.failed
          unknown := tally.unknown
          verifiedHandoffs := done.1
          resolvedCases := done.2
          dryRun := v.settings.caseVerificationDryRun } : StoreM VerificationRunReport)) s := by
      unfold CaseVerifier.runOnce
      simp only [hon, if_true, peek_bind_run, hdue]
      rfl
    rw [hrun]
    rcases hr : v.checkAll d (CaseVerifier.runAt d now) (v.due d now limit s) {} s with ⟨e | tally, t⟩
    all_goals
      rw [hr] at hchecks hw1
      have hrows := mem_rows_of_get?_map (afterCheck_id v d _ _ _) hchecks.objectives
      have hhandoffs : t.handoffs = s.handoffs := congrArg Prod.fst hchecks.core
    · rw [bind_error hr]
      refine ⟨hrows, fun h _ => ?_⟩
      simp only [hhandoffs]
      refine ⟨fun hm => ⟨hm, ?_⟩, And.left⟩
      rintro ⟨-, hreached⟩
      obtain ⟨tally', hok, -⟩ := hchecks.ends hreached.recordable
      cases hok
    · rw [bind_ok hr]
      have hrecordable : ∀ o ∈ v.due d now limit s,
          Recordable v d (CaseVerifier.runAt d now) o := by
        by_contra hc
        obtain ⟨e, he⟩ := hchecks.raises hc
        cases he
      obtain ⟨tally', hok, hnodup, htouched⟩ := hchecks.ends hrecordable
      cases hok
      have htouch : ∀ h : CaseHandoff, h.handoffId ∈ tally.touchedHandoffs ↔
          v.Touches d now limit s h := by
        intro h
        rw [htouched]
        exact or_iff_right (by simp)
      obtain ⟨hobj, himp⟩ := verifyTouched_spec v d hdry hw1 (hnodup List.nodup_nil)
        (by rw [htouched]; simp)
      rw [bind_pure_state]
      rw [hhandoffs] at himp
      refine ⟨fun o => by rw [hobj]; exact hrows o, fun h hi => (himp h hi).trans ?_⟩
      rw [Passed.congr hrows]
      refine and_congr_right fun _ => not_congr (and_congr_right fun _ => ?_)
      constructor
      · rintro ⟨hin, hnone⟩
        refine ⟨hrecordable, (htouch h).1 hin, fun g hg ht hb hlt => hnone ?_⟩
        exact ⟨g, hg, (Blocking.congr hrows g).2 hb, (htouch g).2 ht, hlt⟩
      · rintro ⟨-, hin, hnone⟩
        refine ⟨(htouch h).2 hin, ?_⟩
        rintro ⟨g, hg, hb, ht, hlt⟩
        exact hnone g hg ((htouch g).1 ht) ((Blocking.congr hrows g).1 hb) hlt

/-- **A run leaves no handoff lost exactly when it reaches every implemented handoff that has
passed and whose objectives have left the due list.** -/
theorem noneLost_iff {ops : List StoreOp} {s : Store} (hrun : Run (storeStep v.py) {} ops s)
    (hdry : v.settings.caseVerificationDryRun = false) :
    (∀ h, ¬ Lost (v.runOnce d now limit s).2 h) ↔
      ∀ h ∈ s.handoffs.rows, h.status = .implemented →
        Passed (v.rowsAfter d now limit s) h → Idle (v.rowsAfter d now limit s) h →
        Reached v d now limit s h := by
  obtain ⟨hrows, himp⟩ := runOnce_spec v d now limit (wellFormed_run hrun) hdry
  simp only [lost_iff, Passed.congr hrows, Idle.congr hrows]
  constructor
  · intro hnone h hm hi hp hidle
    by_contra hc
    exact hnone h ⟨(himp h hi).2 ⟨hm, fun hr => hc hr.2⟩, hi, hp, hidle⟩
  · rintro hall h ⟨hm, hi, hp, hidle⟩
    obtain ⟨hm, hc⟩ := (himp h hi).1 hm
    exact hc ⟨hp, hall h hm hi hp hidle⟩

end Verify

/-! ## A handoff behind one that raises -/

instance (h : CaseHandoff) : DecidablePred (Scoped h) := fun o => by
  unfold Scoped; infer_instance

instance (rows : List VerificationObjective) : DecidablePred (Passed rows) := fun h => by
  unfold Passed; infer_instance

instance (rows : List VerificationObjective) : DecidablePred (Idle rows) := fun h => by
  unfold Idle; infer_instance

instance (rows : List VerificationObjective) : DecidablePred (Blocking rows) := fun h => by
  unfold Blocking; infer_instance

instance (v : CaseVerifier) (d : VerifierDraws) (now : Option String) (limit : Int) (s : Store) :
    DecidablePred (v.Touches d now limit s) := fun h => by
  unfold CaseVerifier.Touches; infer_instance

/-- A handoff of one case whose only objective passes at its first check. -/
def probeHandoff (handoffId objectiveKey : String) : CaseHandoff where
  handoffId := handoffId
  caseId := "case_1"
  targetLoop := .engineering
  objective := "restore service"
  objectiveKey := objectiveKey
  idempotencyKey := objectiveKey
  correlationId := "corr_1"
  createdAt := "2026-01-01T00:00:00+00:00"
  updatedAt := "2026-01-01T00:00:00+00:00"

def createProbe (handoffId objectiveKey : String) : StoreOp :=
  .handoff (.createHandoffWithObjectives (probeHandoff handoffId objectiveKey) [{
    objectiveId := "vo_" ++ objectiveKey
    caseId := "case_1"
    handoffId := handoffId
    objectiveKey := objectiveKey
    objectiveType := "health_endpoint"
    name := "service answers"
    requiredConsecutivePasses := 1
    createdAt := "2026-01-01T00:00:00+00:00"
    updatedAt := "2026-01-01T00:00:00+00:00" }] none none none)

/-- The second handoff moves on. -/
def reportSecond (status : HandoffStatus) : StoreOp :=
  .handoff (.appendHandoffUpdate {
    updateId := "hu_" ++ status.text
    handoffId := "handoff_2"
    caseId := "case_1"
    sourceLoop := .engineering
    updateType := if status = .implemented then .implemented else .accepted
    status := status
    externalEventId := status.text
    correlationId := "corr_1"
    createdAt := "2026-01-01T01:00:00+00:00" } none none none none)

/-- Two handoffs; the second one is implemented, the first one is only requested. -/
def unevenProgress : List StoreOp :=
  [.handoff (.upsertCase (.atomic {
      caseId := "case_1"
      openedAt := "2026-01-01T00:00:00+00:00"
      updatedAt := "2026-01-01T00:00:00+00:00" })),
    createProbe "handoff_1" "dns", createProbe "handoff_2" "web",
    reportSecond .accepted, reportSecond .inProgress, reportSecond .implemented]

def unevenStore : Store := unevenProgress.foldl (fun s op => op.run s) {}

theorem run_unevenStore : Run (storeStep asciiPython) {} unevenProgress unevenStore :=
  Run.cons ⟨trivial, rfl⟩ (Run.cons ⟨rfl, rfl⟩ (Run.cons ⟨rfl, rfl⟩ (Run.cons ⟨trivial, rfl⟩
    (Run.cons ⟨trivial, rfl⟩ (Run.single ⟨trivial, rfl⟩)))))

/-- The scheduler with its own checker, recording what it finds. -/
def liveVerifier : CaseVerifier where
  py := asciiPython
  settings := {
    caseVerificationEnabled := true
    caseVerificationDryRun := false }
  checker := defaultVerificationCheck asciiPython
  classify _ := "unknown"

def noonDraws : VerifierDraws where
  startedAt := "2026-01-01T12:00:00+00:00"
  checkedAt _ := 1767268800000000
  check id := { eventId := "ce_" ++ id, now := "2026-01-01T12:00:00+00:00" }
  verify id := { eventId := "cv_" ++ id, now := "2026-01-01T12:00:00+00:00" }
  outcomeId id := "out_" ++ id
  outcomeAt _ := "2026-01-01T12:00:00+00:00"
  resolve id := { eventId := "cr_" ++ id, now := "2026-01-01T12:00:00+00:00" }
  outboxId id := "ob_" ++ id
  propose id := { eventId := "cp_" ++ id, now := "2026-01-01T12:00:00+00:00" }

/-- The second handoff as it is stored. -/
def implementedSecond : CaseHandoff :=
  { probeHandoff "handoff_2" "web" with
    status := .implemented
    updatedAt := "2026-01-01T01:00:00+00:00" }

theorem lost_unevenProgress : Run (storeStep liveVerifier.py) {} unevenProgress unevenStore ∧
    liveVerifier.settings.caseVerificationDryRun = false ∧
    Lost (liveVerifier.runOnce noonDraws none 100 unevenStore).2 implementedSecond := by
  refine ⟨run_unevenStore, rfl, ?_⟩
  obtain ⟨hrows, himp⟩ := runOnce_spec liveVerifier noonDraws none 100
    (wellFormed_run run_unevenStore) rfl
  have hfirst : probeHandoff "handoff_1" "dns" ∈ unevenStore.handoffs.rows :=
    Table.mem_of_get? (k := "handoff_1") rfl
  have hsecond : implementedSecond ∈ unevenStore.handoffs.rows :=
    Table.mem_of_get? (k := "handoff_2") rfl
  rw [lost_iff, Passed.congr hrows, Idle.congr hrows, himp _ rfl]
  refine ⟨⟨hsecond, fun hc => ?_⟩, rfl, by decide +kernel, by decide +kernel⟩
  exact hc.2.unblocked _ hfirst (by decide +kernel) (by decide +kernel) (by decide)

theorem noneLost_unevenProgress :
    (∀ h, ¬ Lost (liveVerifier.runOnce noonDraws none 100 unevenStore).2 h) ↔
      ∀ h ∈ unevenStore.handoffs.rows, h.status = .implemented →
        Passed (liveVerifier.rowsAfter noonDraws none 100 unevenStore) h →
        Idle (liveVerifier.rowsAfter noonDraws none 100 unevenStore) h →
        Reached liveVerifier noonDraws none 100 unevenStore h :=
  noneLost_iff liveVerifier noonDraws none 100 run_unevenStore rfl

end NocAgent.Cases
