import NocAgent.Cases.VerifierRuns

/-!
# What one store call does

* `ClearAt` — the case was observed clean, and not unhealthy after that.
* `Moved` — what closing a handoff does to a store.
* `checking_goesOn` … `proposing_goesOn` — one store call of a verifier run, by where it is.
* `observer_next` — one store call of an observer.
-/

set_option autoImplicit false

namespace NocAgent.Cases

open Effects Effects.Action Keyed Lts

/-! ## Observation times -/

/-- The last clean and the last unhealthy observation of a case. -/
def Store.caseTimes (s : Store) (caseId : String) : Option (String × String) :=
  (s.atomicCase? caseId).map fun case => (case.lastObservedClean, case.lastObservedUnhealthy)

/-- The case was observed clean, and not unhealthy after that. -/
def ClearAt (py : Python) (s : Store) (caseId : String) : Prop :=
  ∃ times ∈ s.caseTimes caseId, observedCleanAfterUnhealthy py times.1 times.2 = .ok true

theorem caseTimes_put {s t : Store} {case : AtomicCaseProjection}
    (h : t.cases = s.cases.put (.atomic case)) (caseId : String) :
    t.caseTimes caseId = if case.caseId = caseId then
      some (case.lastObservedClean, case.lastObservedUnhealthy) else s.caseTimes caseId := by
  unfold Store.caseTimes
  rw [atomicCase?_put h]
  split <;> rfl

/-! ## What closing a handoff does to the store -/

def FINAL_HANDOFF_STATUSES : List HandoffStatus := [.verified, .resolved, .cancelled, .expired]

/-- Handoffs only moved towards their end, and nothing else the verifier reads changed. -/
structure Moved (s t : Store) : Prop where
  objectives : t.verificationObjectives = s.verificationObjectives
  times : t.caseTimes = s.caseTimes
  back : ∀ g h', t.handoffs.get? g = some h' → ∃ h, s.handoffs.get? g = some h ∧
    h.caseId = h'.caseId ∧
    (h'.status ∉ FINAL_HANDOFF_STATUSES → h.status ∉ FINAL_HANDOFF_STATUSES) ∧
    (h'.status ∉ TERMINAL_HANDOFF_STATUSES → h.status ∉ TERMINAL_HANDOFF_STATUSES)
  forth : ∀ g h, s.handoffs.get? g = some h → ∃ h', t.handoffs.get? g = some h' ∧
    h'.caseId = h.caseId

theorem Moved.of_eq {s t : Store} (hv : t.verifierView = s.verifierView)
    (ht : t.caseTimes = s.caseTimes) : Moved s t := by
  have h1 : t.handoffs = s.handoffs := congrArg Prod.fst hv
  refine ⟨congrArg Prod.snd hv, ht, fun g h hg => ?_, fun g h hg => ?_⟩
  · exact ⟨h, h1 ▸ hg, rfl, id, id⟩
  · exact ⟨h, h1.symm ▸ hg, rfl⟩

theorem Moved.refl (s : Store) : Moved s s := Moved.of_eq rfl rfl

theorem Moved.trans {s t u : Store} (h1 : Moved s t) (h2 : Moved t u) : Moved s u := by
  refine ⟨h2.objectives.trans h1.objectives, h2.times.trans h1.times, fun g h'' hg => ?_,
    fun g h hg => ?_⟩
  · obtain ⟨h', hg', hid', hf', ht'⟩ := h2.back g h'' hg
    obtain ⟨h, hg, hid, hf, ht⟩ := h1.back g h' hg'
    exact ⟨h, hg, hid.trans hid', fun hc => hf (hf' hc), fun hc => ht (ht' hc)⟩
  · obtain ⟨h', hg', hid'⟩ := h1.forth g h hg
    obtain ⟨h'', hg'', hid''⟩ := h2.forth g h' hg'
    exact ⟨h'', hg'', hid''.trans hid'⟩

theorem caseTimes_replaceHandoff (s : Store) (old new : CaseHandoff) :
    (s.replaceHandoff old new).caseTimes = s.caseTimes := by
  unfold Store.replaceHandoff Store.indexIfActive
  split <;> rfl

/-- Verifying or resolving a stored handoff. -/
theorem replaceHandoff_moved {s : Store} {g : String} {h : CaseHandoff}
    (hget : s.handoffs.get? g = some h) (status : HandoffStatus)
    (hfinal : status ∈ FINAL_HANDOFF_STATUSES)
    (hterminal : status ∉ TERMINAL_HANDOFF_STATUSES → h.status ∉ TERMINAL_HANDOFF_STATUSES)
    (stamp : String) : Moved s (s.replaceHandoff h { h with
      status := status
      updatedAt := stamp }) := by
  have hid : h.handoffId = g := Table.key_of_get? hget
  refine ⟨congrArg Prod.snd (verifierView_replaceHandoff s h _), caseTimes_replaceHandoff s h _,
    fun g' h' hg => ?_, fun g' h' hg => ?_⟩
  · rw [replaceHandoff_handoffs, Table.get?_put] at hg
    split at hg
    · rename_i he
      cases hg
      refine ⟨h, ?_, rfl, fun hc => absurd hfinal hc, hterminal⟩
      rw [← he]
      exact Table.get?_key hget
    · exact ⟨h', hg, rfl, id, id⟩
  · rw [replaceHandoff_handoffs, Table.get?_put]
    split
    · rename_i he
      have he : h.handoffId = g' := he
      rw [← he, Table.get?_key hget] at hg
      cases hg
      exact ⟨_, rfl, rfl⟩
    · exact ⟨h', hg, rfl⟩

/-- Writing back a case that was observed at the same times, and an event. -/
theorem caseTail_moved {α : Type} {s : Store} {caseId : String} {case old : AtomicCaseProjection}
    (hold : s.atomicCase? caseId = some old) (hid : case.caseId = caseId)
    (hclean : case.lastObservedClean = old.lastObservedClean)
    (hunhealthy : case.lastObservedUnhealthy = old.lastObservedUnhealthy)
    (event : Option CaseEvent) (a : α) : Moved s ((do
      putCase case
      let _ ← storeEvent? event
      pure a : StoreM α) s).2 := by
  obtain ⟨stored, ev, ix, hrun⟩ := storeEvent?_run event { s with
    cases := s.cases.put (.atomic case) }
  refine Moved.of_eq ?_ ?_
  · unfold putCase
    simp only [alter_bind_run]
    rw [bind_ok hrun]
    rfl
  · unfold putCase
    simp only [alter_bind_run]
    rw [bind_ok hrun]
    funext other
    refine (caseTimes_put rfl other).trans ?_
    split
    · rename_i hother
      rw [← hother, hid]
      unfold Store.caseTimes
      rw [hold, hclean, hunhealthy]
      rfl
    · rfl

theorem markHandoffVerified_moved (handoffId now : String) (event : Option CaseEvent) (s : Store) :
    Moved s (markHandoffVerified handoffId now event s).2 ∧
    ∀ verified, (markHandoffVerified handoffId now event s).1 = .ok verified →
      ∃ h, s.handoffs.get? handoffId = some h ∧ h.status ∉ TERMINAL_HANDOFF_STATUSES ∧
        verified.caseId = h.caseId ∧ verified.handoffId = h.handoffId := by
  unfold markHandoffVerified
  simp only [requireHandoff_bind_run, requireHandoffTransition_bind_run]
  split
  · rename_i h hget
    split
    · exact ⟨Moved.refl s, fun _ hr => by cases hr⟩
    · rename_i hallowed
      have hopen : h.status ∉ TERMINAL_HANDOFF_STATUSES := by
        rcases (allowed_verified h.status).1 (by simpa using hallowed) with hs | hs <;>
          rw [hs] <;> decide
      have hmoved := replaceHandoff_moved hget .verified (by decide) (fun _ => hopen) now
      simp only [alter_bind_run, requireAtomicCase_bind_run]
      split
      · rename_i case hcase
        have hid := caseId_of_atomicCase? hcase
        refine ⟨hmoved.trans (caseTail_moved hcase ?_ ?_ ?_ _ _), fun verified hr => ?_⟩
        · exact hid
        · rfl
        · rfl
        · obtain ⟨t, hrun, -⟩ := caseTail_run _ event _ _
          rw [hrun] at hr
          cases hr
          exact ⟨h, hget, hopen, rfl, rfl⟩
      · exact ⟨hmoved, fun _ hr => by cases hr⟩
  · exact ⟨Moved.refl s, fun _ hr => by cases hr⟩

theorem resolveHandoff_moved (handoffId now : String) (s : Store) :
    Moved s (resolveHandoff handoffId now s).2 ∧
      (resolveHandoff handoffId now s).2.cases = s.cases := by
  unfold resolveHandoff
  split
  · exact ⟨Moved.refl s, rfl⟩
  · simp only [requireHandoff_bind_run, requireHandoffTransition_bind_run]
    split
    · rename_i h hget
      split
      · exact ⟨Moved.refl s, rfl⟩
      · exact ⟨replaceHandoff_moved hget .resolved (by decide) (fun hc => absurd (by decide) hc) now,
          cases_replaceHandoff s h _⟩
    · exact ⟨Moved.refl s, rfl⟩

theorem resolveLhpCaseWithOutcome_moved (policy : CasePolicy) (caseId : String)
    (outcome : OutcomeRecord) (handoffId : String) (draw : Draw) (s : Store) :
    Moved s (resolveLhpCaseWithOutcome policy caseId outcome handoffId draw s).2 := by
  unfold resolveLhpCaseWithOutcome resolveCaseWithOutcome
  simp only [requireAtomicCase_bind_run, raiseIf_bind_run]
  split
  · rename_i case hcase
    have hid := caseId_of_atomicCase? hcase
    split
    · exact Moved.refl s
    · obtain ⟨hmoved, hcases⟩ := resolveHandoff_moved handoffId draw.now s
      rcases hr : resolveHandoff handoffId draw.now s with ⟨e | u, t⟩
      · rw [bind_error hr]
        rwa [hr] at hmoved
      · rw [bind_ok hr]
        rw [hr] at hmoved hcases
        simp only [alter_bind_run]
        have hstored : Moved t { t with outcomes := t.outcomes.put outcome } := Moved.of_eq rfl rfl
        have hcase' : ({ t with outcomes := t.outcomes.put outcome } : Store).atomicCase? caseId =
            some case := by
          rw [atomicCase?_eq_some]
          exact hcases ▸ atomicCase?_eq_some.1 hcase
        refine hmoved.trans (hstored.trans (caseTail_moved hcase' ?_ ?_ ?_ _ _))
        · exact hid
        · rfl
        · rfl
  · exact Moved.refl s

/-! ## What a run holds in its hands -/

namespace VerifierRun

/-- The objectives read from the store and not written yet. -/
def copies : VerifierRun → List VerificationObjective
  | .checking _ due _ => due
  | .recording _ updated due _ => updated :: due
  | _ => []

/-- The checked objective about to be recorded. -/
def recorded? : VerifierRun → Option VerificationObjective
  | .recording _ updated _ _ => some updated
  | _ => none

/-- The open handoff whose objectives are about to be read. -/
def loaded? : VerifierRun → Option CaseHandoff
  | .loaded handoff _ _ => some handoff
  | _ => none

/-- The handoff about to be marked verified. -/
def closing? : VerifierRun → Option CaseHandoff
  | .passed handoff _ _ => some handoff
  | .marking handoff _ _ => some handoff
  | _ => none

/-- The handoff whose case is about to be resolved. -/
def resolving? : VerifierRun → Option CaseHandoff
  | .resolving verified _ _ => some verified
  | _ => none

/-- Nothing that leads to a verified handoff. -/
structure Calm (c : VerifierRun) : Prop where
  recorded : c.recorded? = none
  loaded : c.loaded? = none
  closing : c.closing? = none
  resolving : c.resolving? = none

/-- The handoff the run works on. -/
def Holds (c : VerifierRun) (h : CaseHandoff) : Prop :=
  h ∈ c.loaded? ∨ h ∈ c.closing? ∨ h ∈ c.resolving?

theorem Calm.idle : Calm .idle := ⟨rfl, rfl, rfl, rfl⟩

theorem Calm.checking (now : String) (due : List VerificationObjective)
    (tally : CaseVerifier.Tally) : Calm (.checking now due tally) := ⟨rfl, rfl, rfl, rfl⟩

theorem Calm.verifying (ids : List String) (done : Nat × Nat) : Calm (.verifying ids done) :=
  ⟨rfl, rfl, rfl, rfl⟩

theorem Calm.proposing (verified : CaseHandoff) (outcomeId : String) (ids : List String)
    (done : Nat × Nat) : Calm (.proposing verified outcomeId ids done) := ⟨rfl, rfl, rfl, rfl⟩

theorem Calm.not_holds {c : VerifierRun} (hc : c.Calm) (h : CaseHandoff) : ¬ c.Holds h := by
  rintro (hh | hh | hh)
  · rw [hc.loaded] at hh; cases hh
  · rw [hc.closing] at hh; cases hh
  · rw [hc.resolving] at hh; cases hh

end VerifierRun

/-! ## One store call of a run -/

section Next

variable (v : CaseVerifier) (d : VerifierDraws)

/-- Where a run goes on after its next store call, and the store it leaves. -/
def CaseVerifier.goesOn (c : VerifierRun) (s : Store) : VerifierRun × Store :=
  (goto .idle (c.next v d s).1, (c.next v d s).2)

theorem goesOn_ok {c c' : VerifierRun} {s t : Store} (h : c.next v d s = (.ok c', t)) :
    v.goesOn d c s = (c', t) := by
  unfold CaseVerifier.goesOn
  rw [h]
  rfl

theorem goesOn_error {c : VerifierRun} {s t : Store} {e : PyExc}
    (h : c.next v d s = (.error e, t)) : v.goesOn d c s = (.idle, t) := by
  unfold CaseVerifier.goesOn
  rw [h]
  rfl

theorem checking_goesOn (now : String) (o : VerificationObjective)
    (due : List VerificationObjective) (tally : CaseVerifier.Tally) (s : Store) : ∃ c,
    v.goesOn d (.checking now (o :: due) tally) s = (c, s) ∧
      (c = .idle ∨ (∃ tally', c = .checking now due tally') ∨ ∃ updated tally',
        v.check d now o (s.atomicCase? o.caseId) = .ok updated ∧
          c = .recording now updated due tally') := by
  cases hc : v.check d now o (s.atomicCase? o.caseId) with
  | error e =>
    refine ⟨.idle, goesOn_error v d (e := e) ?_, Or.inl rfl⟩
    simp only [VerifierRun.next, peek_bind_run, hc]
    rfl
  | ok updated =>
    cases hdry : v.settings.caseVerificationDryRun with
    | true =>
      refine ⟨_, goesOn_ok v d ?_, Or.inr (Or.inl ⟨tally.count (v.judge o
        (s.atomicCase? o.caseId)).status, rfl⟩)⟩
      simp only [VerifierRun.next, peek_bind_run, hc, hdry, if_true]
      rfl
    | false =>
      refine ⟨_, goesOn_ok v d ?_, Or.inr (Or.inr ⟨updated, tally.count (v.judge o
        (s.atomicCase? o.caseId)).status, rfl, rfl⟩)⟩
      simp only [VerifierRun.next, peek_bind_run, hc, hdry, Bool.false_eq_true, if_false]
      rfl

theorem checked_goesOn (now : String) (tally : CaseVerifier.Tally) (s : Store) : ∃ c,
    v.goesOn d (.checking now [] tally) s = (c, s) ∧
      (c = .idle ∨ ∃ ids done, c = .verifying ids done) := by
  by_cases hdry : v.settings.caseVerificationDryRun = true
  · refine ⟨.idle, goesOn_ok v d ?_, Or.inl rfl⟩
    simp only [VerifierRun.next, if_pos hdry]
    rfl
  · refine ⟨_, goesOn_ok v d ?_, Or.inr ⟨tally.touchedHandoffs.insertionSort (· ≤ ·), (0, 0), rfl⟩⟩
    simp only [VerifierRun.next, if_neg hdry]
    rfl

theorem recording_goesOn (now : String) {updated row : VerificationObjective} {s : Store}
    (hrow : s.verificationObjectives.get? updated.objectiveId = some row)
    (due : List VerificationObjective) (tally : CaseVerifier.Tally) : ∃ tally' t,
    v.goesOn d (.recording now updated due tally) s = (.checking now due tally', t) ∧
      t.verifierView = (s.handoffs, s.verificationObjectives.put updated) ∧
      t.caseTimes = s.caseTimes := by
  obtain ⟨ix, ev, cix, hrun⟩ := recordLhpVerificationResult_run v.policy hrow
    (d.check updated.objectiveId)
  refine ⟨tally.touch updated.handoffId, { s with
    verificationObjectives := s.verificationObjectives.put updated
    verificationObjectiveIndex := ix
    events := ev
    caseEvents := cix }, goesOn_ok v d ?_, rfl, rfl⟩
  simp only [VerifierRun.next]
  exact (bind_ok hrun).trans rfl

theorem verifying_goesOn (ids : List String) (done : Nat × Nat) (s : Store) : ∃ c,
    v.goesOn d (.verifying ids done) s = (c, s) ∧ (c = .idle ∨
      (∃ ids' done', c = .verifying ids' done') ∨ ∃ handoff ids' done',
        s.handoffs.get? handoff.handoffId = some handoff ∧
          handoff.status ∉ FINAL_HANDOFF_STATUSES ∧ c = .loaded handoff ids' done') := by
  cases ids with
  | nil => exact ⟨.idle, goesOn_ok v d rfl, Or.inl rfl⟩
  | cons handoffId ids =>
    cases hget : s.handoffs.get? handoffId with
    | none =>
      refine ⟨_, goesOn_ok v d ?_, Or.inr (Or.inl ⟨ids, addDone done (false, false), rfl⟩)⟩
      simp only [VerifierRun.next, getHandoff, peek_bind_run, hget]
      rfl
    | some handoff =>
      by_cases hfinal : handoff.status ∈ FINAL_HANDOFF_STATUSES
      · refine ⟨_, goesOn_ok v d ?_, Or.inr (Or.inl ⟨ids, addDone done (false, false), rfl⟩)⟩
        unfold FINAL_HANDOFF_STATUSES at hfinal
        simp only [VerifierRun.next, getHandoff, peek_bind_run, hget, if_pos hfinal]
        rfl
      · refine ⟨_, goesOn_ok v d ?_, Or.inr (Or.inr ⟨handoff, ids, done, Table.get?_key hget,
          hfinal, rfl⟩)⟩
        unfold FINAL_HANDOFF_STATUSES at hfinal
        simp only [VerifierRun.next, getHandoff, peek_bind_run, hget, if_neg hfinal]
        rfl

theorem loaded_goesOn (handoff : CaseHandoff) (ids : List String) (done : Nat × Nat) (s : Store) :
    ∃ c, v.goesOn d (.loaded handoff ids done) s = (c, s) ∧
      ((∃ ids' done', c = .verifying ids' done') ∨
        Passed s.verificationObjectives.rows handoff ∧ c = .passed handoff ids done) := by
  by_cases hpass : Passed s.verificationObjectives.rows handoff
  · refine ⟨_, goesOn_ok v d ?_, Or.inr ⟨hpass, rfl⟩⟩
    rw [passed_iff_required] at hpass
    simp only [VerifierRun.next, peek_bind_run, if_neg hpass]
    rfl
  · refine ⟨_, goesOn_ok v d ?_, Or.inl ⟨ids, addDone done (false, false), rfl⟩⟩
    rw [passed_iff_required, not_not] at hpass
    simp only [VerifierRun.next, peek_bind_run, if_pos hpass]
    rfl

theorem passed_goesOn (handoff : CaseHandoff) (ids : List String) (done : Nat × Nat) (s : Store) :
    ∃ c, v.goesOn d (.passed handoff ids done) s = (c, s) ∧ (c = .idle ∨
      ∃ found, s.handoffs.get? handoff.handoffId = some found ∧ c = .marking found ids done) := by
  cases hget : s.handoffs.get? handoff.handoffId with
  | none =>
    refine ⟨.idle, goesOn_error v d (e := .keyError) ?_, Or.inl rfl⟩
    simp only [VerifierRun.next, getHandoff, peek_bind_run, hget]
    rfl
  | some found =>
    refine ⟨_, goesOn_ok v d ?_, Or.inr ⟨found, rfl, rfl⟩⟩
    simp only [VerifierRun.next, getHandoff, peek_bind_run, hget]
    rfl

theorem marking_goesOn (handoff : CaseHandoff) (ids : List String) (done : Nat × Nat) (s : Store) :
    ∃ c t, v.goesOn d (.marking handoff ids done) s = (c, t) ∧ Moved s t ∧ (c = .idle ∨
      (∃ ids' done', c = .verifying ids' done') ∨ ∃ verified h,
        s.handoffs.get? handoff.handoffId = some h ∧ h.status ∉ TERMINAL_HANDOFF_STATUSES ∧
        verified.caseId = h.caseId ∧ verified.handoffId = h.handoffId ∧
        c = .resolving verified ids done) := by
  have hmoved := markHandoffVerified_moved handoff.handoffId (d.verify handoff.handoffId).now
    (some (handoffVerifiedEvent v.policy handoff handoff.handoffId (d.verify handoff.handoffId))) s
  rcases hr : markHandoffVerified handoff.handoffId (d.verify handoff.handoffId).now
      (some (handoffVerifiedEvent v.policy handoff handoff.handoffId (d.verify handoff.handoffId))) s
    with ⟨e | verified, t⟩
  · rw [hr] at hmoved
    refine ⟨.idle, t, goesOn_error v d (e := e) ?_, hmoved.1, Or.inl rfl⟩
    simp only [VerifierRun.next]
    exact bind_error hr
  · rw [hr] at hmoved
    by_cases hauto : v.settings.caseAutoResolveEnabled = true
    · obtain ⟨h, hget, hopen, hcase, hid⟩ := hmoved.2 verified rfl
      refine ⟨_, t, goesOn_ok v d ?_, hmoved.1, Or.inr (Or.inr ⟨verified, h, hget, hopen, hcase, hid,
        rfl⟩)⟩
      simp only [VerifierRun.next]
      rw [bind_ok hr, if_pos hauto]
      rfl
    · refine ⟨_, t, goesOn_ok v d ?_, hmoved.1, Or.inr (Or.inl ⟨ids, addDone done (true, false),
        rfl⟩)⟩
      simp only [VerifierRun.next]
      rw [bind_ok hr, if_neg hauto]
      rfl

theorem resolving_goesOn (verified : CaseHandoff) (ids : List String) (done : Nat × Nat)
    (s : Store) : ∃ c t, v.goesOn d (.resolving verified ids done) s = (c, t) ∧ Moved s t ∧
      (c = .idle ∨ (∃ ids' done', c = .verifying ids' done') ∨
        ∃ outcomeId, c = .proposing verified outcomeId ids done) := by
  cases htoken : requireLhpToken v.py verified.caseId 180 with
  | none =>
    refine ⟨.idle, s, goesOn_error v d (e := .validationError) ?_, Moved.refl s, Or.inl rfl⟩
    simp only [VerifierRun.next, htoken]
    rfl
  | some workItemId =>
    have hmoved := resolveLhpCaseWithOutcome_moved v.policy verified.caseId {
      outcomeId := d.outcomeId verified.handoffId
      workItemId := workItemId
      caseType := sanitizeLhpToken v.py verified.caseType 180
      fingerprint := sanitizeLhpToken v.py verified.fingerprint 180
      validation := sanitizePayloadDict v.py (d.validation verified.handoffId)
      safety := resolutionSafety v.py
      createdAt := d.outcomeAt verified.handoffId } verified.handoffId
      (d.resolve verified.handoffId) s
    rcases hr : resolveLhpCaseWithOutcome v.policy verified.caseId {
        outcomeId := d.outcomeId verified.handoffId
        workItemId := workItemId
        caseType := sanitizeLhpToken v.py verified.caseType 180
        fingerprint := sanitizeLhpToken v.py verified.fingerprint 180
        validation := sanitizePayloadDict v.py (d.validation verified.handoffId)
        safety := resolutionSafety v.py
        createdAt := d.outcomeAt verified.handoffId } verified.handoffId
        (d.resolve verified.handoffId) s with ⟨e | case, t⟩
    · rw [hr] at hmoved
      refine ⟨.idle, t, goesOn_error v d (e := e) ?_, hmoved, Or.inl rfl⟩
      simp only [VerifierRun.next, htoken, orRaise_bind_run]
      exact bind_error hr
    · rw [hr] at hmoved
      by_cases hknow : v.settings.knowledgeContextEnabled = true
      · refine ⟨_, t, goesOn_ok v d ?_, hmoved, Or.inr (Or.inr ⟨d.outcomeId verified.handoffId, rfl⟩)⟩
        simp only [VerifierRun.next, htoken, orRaise_bind_run]
        rw [bind_ok hr, if_pos hknow]
        rfl
      · refine ⟨_, t, goesOn_ok v d ?_, hmoved, Or.inr (Or.inl ⟨ids, addDone done (true, true), rfl⟩)⟩
        simp only [VerifierRun.next, htoken, orRaise_bind_run]
        rw [bind_ok hr, if_neg hknow]
        rfl

theorem proposing_goesOn (verified : CaseHandoff) (outcomeId : String) (ids : List String)
    (done : Nat × Nat) (s : Store) : ∃ c t,
    v.goesOn d (.proposing verified outcomeId ids done) s = (c, t) ∧ Moved s t ∧
      (c = .idle ∨ ∃ ids' done', c = .verifying ids' done') := by
  have hfixes : Fixes (fun s : Store => (s.verifierView, s.caseTimes))
      (requestLhpKnowledgeArtifactProposal v.py v.policy verified.caseId verified.handoffId outcomeId
        [("source", .str "noc_case_verifier"), ("case_type", .str verified.caseType)]
        (d.outboxId verified.handoffId) (d.propose verified.handoffId)) := by
    refine Fixes.bind (Fixes.bind (Fixes.peek _) fun _ => Fixes.orRaise _ _) fun case => ?_
    exact Fixes.bind (enqueueOutbox_fixes (fun _ _ _ => rfl) _) fun _ =>
      Fixes.bind (storeEvent_fixes (fun _ _ _ => rfl) _) fun _ => Fixes.pure _
  have hs := hfixes s
  rcases hr : requestLhpKnowledgeArtifactProposal v.py v.policy verified.caseId verified.handoffId
      outcomeId [("source", .str "noc_case_verifier"), ("case_type", .str verified.caseType)]
      (d.outboxId verified.handoffId) (d.propose verified.handoffId) s with ⟨e | intent, t⟩
  all_goals
    rw [hr] at hs
    have hmoved : Moved s t := Moved.of_eq (congrArg Prod.fst hs) (congrArg Prod.snd hs)
  · refine ⟨.idle, t, goesOn_error v d (e := e) ?_, hmoved, Or.inl rfl⟩
    simp only [VerifierRun.next]
    exact bind_error hr
  · refine ⟨_, t, goesOn_ok v d ?_, hmoved, Or.inr ⟨ids, addDone done (true, true), rfl⟩⟩
    simp only [VerifierRun.next]
    exact (bind_ok hr).trans rfl

end Next

/-! ## One store call of an observer -/

/-- The case a guarded write is given. -/
def Store.guardedCase (s : Store) (case : AtomicCaseProjection) : Option AtomicCaseProjection :=
  if case.caseId = "" then some case else s.atomicCase? case.caseId

theorem guardedCaseWrite_run {α : Type} (case : AtomicCaseProjection)
    (method : AtomicCaseProjection → StoreM α) (s : Store) :
    guardedCaseWrite case method s =
      match s.guardedCase case with
      | some target => method target s
      | none => (.error .keyError, s) := by
  unfold guardedCaseWrite Store.guardedCase
  split
  · rfl
  · exact requireAtomicCase_bind_run case.caseId method s

/-- The last clean and the last unhealthy observation of a case after this one. -/
def observedTimes (observation : ObservationRecord) (case : AtomicCaseProjection) :
    Option (String × String) :=
  match observation.status with
  | .firing => some (case.lastObservedClean, observation.observedAt)
  | .clean | .resolved => some (observation.observedAt, case.lastObservedUnhealthy)
  | .unknown => none

/-- The case the next store call writes, with its last clean and its last unhealthy observation. -/
def Observer.writes (s : Store) : Observer → Option (String × String × String)
  | .writing observation (some case) =>
    (s.guardedCase case).bind fun case =>
      (observedTimes observation case).map fun times => (case.caseId, times)
  | .updating observation case =>
    (s.guardedCase case).map fun case =>
      (case.caseId, case.lastObservedClean, observation.observedAt)
  | _ => none

/-- At most the times of one case changed, to the given ones. -/
structure Observed (s t : Store) (write : Option (String × String × String)) : Prop where
  view : t.verifierView = s.verifierView
  times : ∀ caseId, t.caseTimes caseId = s.caseTimes caseId ∨
    ∃ times, write = some (caseId, times) ∧ t.caseTimes caseId = some times

theorem Observed.of_fixes {α : Type} {x : StoreM α}
    (hx : Fixes (fun s : Store => (s.verifierView, s.caseTimes)) x) (s : Store)
    (write : Option (String × String × String)) : Observed s (x s).2 write :=
  ⟨congrArg Prod.fst (hx s), fun caseId => Or.inl (congrFun (congrArg Prod.snd (hx s)) caseId)⟩

/-- Writing a case and an event about it. -/
theorem Observed.write {α : Type} (s : Store) (case : AtomicCaseProjection) (event : CaseEvent)
    (f : CaseEvent → α) : Observed s ((do
      putCase case
      let event ← storeEvent event
      pure (f event) : StoreM α) s).2
      (some (case.caseId, case.lastObservedClean, case.lastObservedUnhealthy)) := by
  obtain ⟨stored, ev, ix, hrun⟩ := storeEvent_run event { s with
    cases := s.cases.put (.atomic case) }
  unfold putCase
  simp only [alter_bind_run]
  rw [bind_ok hrun]
  refine ⟨rfl, fun caseId => ?_⟩
  have h := caseTimes_put (s := s) (t := { s with
    cases := s.cases.put (.atomic case)
    events := ev
    caseEvents := ix }) rfl caseId
  by_cases hid : case.caseId = caseId
  · rw [if_pos hid] at h
    exact Or.inr ⟨_, by rw [hid], h⟩
  · rw [if_neg hid] at h
    exact Or.inl h

section Observers

variable (py : Python) (policy : CasePolicy) (draws : ObserveDraws)

theorem coveredSeverity_fixes (case : AtomicCaseProjection) :
    Fixes (fun s : Store => (s.verifierView, s.caseTimes)) (coveredSeverity case) := by
  unfold coveredSeverity
  split
  · refine Fixes.bind (Fixes.peek _) fun scope => ?_
    cases scope with
    | some scope => exact Fixes.pure _
    | none =>
      refine Fixes.bind ?_ fun _ => Fixes.pure _
      exact Fixes.bind (Fixes.bind (Fixes.peek _) fun _ => Fixes.orRaise _ _) fun _ =>
        Fixes.alter fun _ => rfl
  · exact Fixes.pure _

theorem updateUnhealthy_observed (observation : ObservationRecord) (case : AtomicCaseProjection)
    (s : Store) : Observed s (updateUnhealthy policy observation draws case s).2
      (some (case.caseId, case.lastObservedClean, observation.observedAt)) := by
  unfold updateUnhealthy
  have hfixes := coveredSeverity_fixes case s
  rcases hr : coveredSeverity case s with ⟨e | covered, t⟩
  · rw [bind_error hr]
    rw [hr] at hfixes
    exact ⟨congrArg Prod.fst hfixes, fun caseId =>
      Or.inl (congrFun (congrArg Prod.snd hfixes) caseId)⟩
  · rw [bind_ok hr]
    rw [hr] at hfixes
    have hwrite := Observed.write t (unhealthyCase policy case observation covered draws.updatedAt)
      (unhealthyEvent policy (unhealthyCase policy case observation covered draws.updatedAt)
        case.signalSignature observation draws.update) (fun event => ({
          action := .updated
          observation := observation
          case := some (unhealthyCase policy case observation covered draws.updatedAt)
          events := [event] } : ObserveResult))
    refine ⟨hwrite.view.trans (congrArg Prod.fst hfixes), fun caseId => ?_⟩
    rcases hwrite.times caseId with h | h
    · exact Or.inl (h.trans (congrFun (congrArg Prod.snd hfixes) caseId))
    · exact Or.inr h

theorem recordClean_observed (observation : ObservationRecord) (case : AtomicCaseProjection)
    (s : Store) : Observed s (recordClean policy observation draws case s).2
      (some (case.caseId, observation.observedAt, case.lastObservedUnhealthy)) :=
  Observed.write s _ _ _

/-- Creating a case leaves the times of all others. -/
theorem createAtomicCase_fixes (case : AtomicCaseProjection) (aliases : List CaseIdentityAlias)
    (events : List CaseEvent) : Fixes (fun s : Store => (s.verifierView, fun caseId =>
      if case.caseId = caseId then none else s.caseTimes caseId))
      (createAtomicCase case aliases events) := by
  refine Fixes.bind (aliasedCase_fixes aliases) fun aliased => ?_
  cases aliased with
  | some existing => exact Fixes.pure _
  | none =>
    refine Fixes.bind (Fixes.peek _) fun same => ?_
    cases same with
    | some existing => exact Fixes.pure _
    | none =>
      refine Fixes.bind (Fixes.alter fun s => ?_) fun _ =>
        Fixes.bind (Fixes.forEach (k := storeAlias) (fun _ => Fixes.alter fun _ => rfl) aliases) fun _ =>
        Fixes.bind (Fixes.forEach (storeEvent_fixes fun _ _ _ => rfl) events) fun _ => Fixes.pure _
      refine Prod.ext rfl (funext fun caseId => ?_)
      by_cases hid : case.caseId = caseId
      · simp only [if_pos hid]
      · simp only [if_neg hid]
        exact (caseTimes_put rfl caseId).trans (if_neg hid)

theorem createAtomicCase_other (case : AtomicCaseProjection) (aliases : List CaseIdentityAlias)
    (events : List CaseEvent) (s : Store) :
    (createAtomicCase case aliases events s).2.verifierView = s.verifierView ∧
    ∀ caseId, ¬ case.caseId = caseId →
      (createAtomicCase case aliases events s).2.caseTimes caseId = s.caseTimes caseId := by
  have hfixes := createAtomicCase_fixes case aliases events s
  refine ⟨congrArg Prod.fst hfixes, fun caseId hother => ?_⟩
  have htimes := congrFun (congrArg Prod.snd hfixes) caseId
  simp only [if_neg hother] at htimes
  exact htimes

theorem guardedCaseWrite_observed {α : Type} {method : AtomicCaseProjection → StoreM α}
    {times : AtomicCaseProjection → String × String}
    (hmethod : ∀ case s, Observed s (method case s).2 (some (case.caseId, times case)))
    (case : AtomicCaseProjection) (s : Store) : Observed s (guardedCaseWrite case method s).2
      ((s.guardedCase case).map fun case => (case.caseId, times case)) := by
  rw [guardedCaseWrite_run]
  cases s.guardedCase case with
  | none => exact ⟨rfl, fun _ => Or.inl rfl⟩
  | some target => exact hmethod target s

theorem observeCase_observed (observation : ObservationRecord) (case : Option AtomicCaseProjection)
    (hold : ¬ (observation.status = .firing ∧ case = none)) (s : Store) :
    Observed s (observeCase py policy observation draws case s).2
      ((Observer.writing observation case).writes s) := by
  have hevent : ∀ (event : CaseEvent) (f : CaseEvent → ObserveResult) (write), Observed s
      ((do let event ← storeEvent event; pure (f event) : StoreM ObserveResult) s).2 write :=
    fun event f write => Observed.of_fixes
      (Fixes.bind (storeEvent_fixes (fun _ _ _ => rfl) event) fun _ => Fixes.pure _) s write
  cases case with
  | none =>
    cases hst : observation.status with
    | firing => exact absurd ⟨hst, rfl⟩ hold
    | clean => unfold observeCase; simp only [hst]; exact hevent _ _ _
    | resolved => unfold observeCase; simp only [hst]; exact hevent _ _ _
    | unknown => unfold observeCase; simp only [hst]; exact hevent _ _ _
  | some case =>
    unfold observeCase
    cases hst : observation.status with
    | unknown => simp only []; exact hevent _ _ _
    | firing =>
      have hw : (Observer.writing observation (some case)).writes s = (s.guardedCase case).map
          fun case => (case.caseId, case.lastObservedClean, observation.observedAt) := by
        simp only [Observer.writes, observedTimes, hst]
        cases s.guardedCase case <;> rfl
      rw [hw]
      exact guardedCaseWrite_observed (updateUnhealthy_observed policy draws observation) case s
    | clean | resolved =>
      have hw : (Observer.writing observation (some case)).writes s = (s.guardedCase case).map
          fun case => (case.caseId, observation.observedAt, case.lastObservedUnhealthy) := by
        simp only [Observer.writes, observedTimes, hst]
        cases s.guardedCase case <;> rfl
      rw [hw]
      exact guardedCaseWrite_observed (recordClean_observed policy draws observation) case s

/-- A new case is created by one store call. -/
theorem creating_state (observation : ObservationRecord) (hfiring : observation.status = .firing)
    (s : Store) : (Observer.next py policy draws (.writing observation none) s).2 =
      (createAtomicCase (newCase py policy observation (observationAlias py observation).2 draws)
        (newAliases observation (observationAlias py observation).1
          (observationAlias py observation).2 draws)
        (createdEvents policy observation (observationAlias py observation).1 draws) s).2 := by
  simp only [Observer.next, hfiring, and_self, if_true]
  generalize createAtomicCase _ _ _ = x
  refine bind_state (fun r t => ?_) x s
  obtain ⟨stored, events, created⟩ := r
  cases created <;> rfl

/-- **What a store call of an observer does to the times of a case that is not new.** -/
theorem observer_next (c : Observer) (s : Store) :
    (c.next py policy draws s).2.verifierView = s.verifierView ∧
    ∀ caseId, (∀ observation, c = .writing observation none → caseId ≠ draws.caseId) →
      (c.next py policy draws s).2.caseTimes caseId = s.caseTimes caseId ∨
      ∃ times, c.writes s = some (caseId, times) ∧
        (c.next py policy draws s).2.caseTimes caseId = some times := by
  have of_observed : ∀ {t : Store}, (c.next py policy draws s).2 = t → Observed s t (c.writes s) →
      (c.next py policy draws s).2.verifierView = s.verifierView ∧
      ∀ caseId, (∀ observation, c = .writing observation none → caseId ≠ draws.caseId) →
        (c.next py policy draws s).2.caseTimes caseId = s.caseTimes caseId ∨
        ∃ times, c.writes s = some (caseId, times) ∧
          (c.next py policy draws s).2.caseTimes caseId = some times := by
    intro t ht h
    rw [ht]
    exact ⟨h.view, fun caseId _ => h.times caseId⟩
  cases c with
  | idle => exact of_observed rfl ⟨rfl, fun _ => Or.inl rfl⟩
  | storing observation =>
    obtain ⟨stored, rows, hput⟩ := putObservation_run observation s
    refine of_observed (t := { s with observations := rows }) ?_ ⟨rfl, fun _ => Or.inl rfl⟩
    simp only [Observer.next]
    rw [bind_ok hput]
    rfl
  | aliasing observation => exact of_observed rfl ⟨rfl, fun _ => Or.inl rfl⟩
  | loading observation aliasId =>
    obtain ⟨r, hload⟩ := caseOfAlias_run aliasId s
    refine of_observed (t := s) ?_ ⟨rfl, fun _ => Or.inl rfl⟩
    simp only [Observer.next, bind_pure_state, hload]
  | writing observation case =>
    by_cases hnone : observation.status = .firing ∧ case = none
    · obtain ⟨hfiring, rfl⟩ := hnone
      have h := createAtomicCase_other (newCase py policy observation
        (observationAlias py observation).2 draws) (newAliases observation
          (observationAlias py observation).1 (observationAlias py observation).2 draws)
        (createdEvents policy observation (observationAlias py observation).1 draws) s
      rw [← creating_state py policy draws observation hfiring s] at h
      exact ⟨h.1, fun caseId hnew => Or.inl (h.2 caseId fun he => hnew observation rfl he.symm)⟩
    · refine of_observed (t := (observeCase py policy observation draws case s).2) ?_
        (observeCase_observed py policy draws observation case hnone s)
      simp only [Observer.next, if_neg hnone, bind_pure_state]
  | updating observation case =>
    refine of_observed (t := (guardedCaseWrite case (updateUnhealthy policy observation draws) s).2)
      ?_ (guardedCaseWrite_observed (fun case s =>
        updateUnhealthy_observed policy draws observation case s) case s)
    simp only [Observer.next, bind_pure_state]

end Observers

end NocAgent.Cases
