import NocAgent.Lib.Stepwise
import NocAgent.Lib.Lts
import NocAgent.Cases.Observe
import NocAgent.Cases.LostHandoffs

/-!
# Verifier runs and observations between each other

Every store call is one step; between two of them any other call may take its steps.

* `VerifierRun` — where a call of `run_once` is, `VerifierRun.next` its next store call.
* `Observer` — the same for a call of `observe`.
* `System`, `systemStep` — one store, any number of runs and of observers.
* `runOnce_steps`, `observe_steps` — a call that nobody interrupts does what `runOnce` and
  `observe` say.
-/

set_option autoImplicit false

namespace NocAgent.Cases

open Effects Effects.Action Keyed Lts

/-! ## A run of the verifier -/

/-- Where a call of `run_once` is, with its local variables. -/
inductive VerifierRun where
  | idle
  /-- before `get_case` for the first of the objectives -/
  | checking (now : String) (due : List VerificationObjective) (tally : CaseVerifier.Tally)
  /-- before `record_lhp_verification_result` -/
  | recording (now : String) (updated : VerificationObjective) (due : List VerificationObjective)
      (tally : CaseVerifier.Tally)
  /-- before `get_lhp_handoff` for the first of the ids -/
  | verifying (ids : List String) (done : Nat × Nat)
  /-- before `list_lhp_verification_objectives` -/
  | loaded (handoff : CaseHandoff) (ids : List String) (done : Nat × Nat)
  /-- before the `get_handoff` of `mark_lhp_handoff_verified` -/
  | passed (handoff : CaseHandoff) (ids : List String) (done : Nat × Nat)
  /-- before `mark_handoff_verified` -/
  | marking (handoff : CaseHandoff) (ids : List String) (done : Nat × Nat)
  /-- before `resolve_lhp_case_with_outcome` -/
  | resolving (verified : CaseHandoff) (ids : List String) (done : Nat × Nat)
  /-- before `request_lhp_knowledge_artifact_proposal`, which writes no case and no handoff -/
  | proposing (verified : CaseHandoff) (outcomeId : String) (ids : List String) (done : Nat × Nat)

/-- `verified += int(did_verify); resolved += int(did_resolve)`. -/
def addDone (done : Nat × Nat) (did : Bool × Bool) : Nat × Nat :=
  (done.1 + did.1.toNat, done.2 + did.2.toNat)

section Verifier

variable (v : CaseVerifier) (d : VerifierDraws)

/-- `list_due_lhp_verification_objectives`, the first store call. -/
def CaseVerifier.start (now : Option String) (limit : Int) (s : Store) : VerifierRun :=
  if v.settings.caseVerificationEnabled then
    let now := orText (now.getD "") d.startedAt
    .checking now (s.listDueVerificationObjectives now limit) {}
  else .idle

/-- The next store call of a run, and where the run is after it. -/
def VerifierRun.next : VerifierRun → StoreM VerifierRun
  | .idle => pure .idle
  | .checking _ [] tally =>
    if v.settings.caseVerificationDryRun then pure .idle
    else pure (.verifying (tally.touchedHandoffs.insertionSort (· ≤ ·)) (0, 0))
  | .checking now (objective :: due) tally => do
    let case ← peek fun s => s.atomicCase? objective.caseId
    let tally := tally.count (v.judge objective case).status
    match v.check d now objective case with
    | .error e => raise e
    | .ok updated =>
      if v.settings.caseVerificationDryRun then pure (.checking now due tally)
      else pure (.recording now updated due tally)
  | .recording now updated due tally => do
    let _ ← recordLhpVerificationResult v.policy updated (d.check updated.objectiveId)
    pure (.checking now due (tally.touch updated.handoffId))
  | .verifying [] _ => pure .idle
  | .verifying (handoffId :: ids) done => do
    let handoff ← getHandoff handoffId
    match handoff with
    | none => pure (.verifying ids (addDone done (false, false)))
    | some handoff =>
      if handoff.status ∈ [.verified, .resolved, .cancelled, .expired] then
        pure (.verifying ids (addDone done (false, false)))
      else pure (.loaded handoff ids done)
  | .loaded handoff ids done => do
    let objectives ← peek fun s => s.listVerificationObjectives handoff.caseId
    let required := CaseVerifier.requiredObjectives handoff objectives
    if required = [] ∨ ∃ objective ∈ required, ¬ objectiveSatisfied objective then
      pure (.verifying ids (addDone done (false, false)))
    else pure (.passed handoff ids done)
  | .passed handoff ids done => do
    let found ← getHandoff handoff.handoffId
    let found ← orRaise found .keyError
    pure (.marking found ids done)
  | .marking handoff ids done => do
    let draw := d.verify handoff.handoffId
    let verified ← markHandoffVerified handoff.handoffId draw.now
      (some (handoffVerifiedEvent v.policy handoff handoff.handoffId draw))
    if v.settings.caseAutoResolveEnabled then pure (.resolving verified ids done)
    else pure (.verifying ids (addDone done (true, false)))
  | .resolving verified ids done => do
    let workItemId ← orRaise (requireLhpToken v.py verified.caseId 180) .validationError
    let outcome : OutcomeRecord := {
      outcomeId := d.outcomeId verified.handoffId
      workItemId := workItemId
      caseType := sanitizeLhpToken v.py verified.caseType 180
      fingerprint := sanitizeLhpToken v.py verified.fingerprint 180
      validation := sanitizePayloadDict v.py (d.validation verified.handoffId)
      safety := resolutionSafety v.py
      createdAt := d.outcomeAt verified.handoffId }
    let _ ← resolveLhpCaseWithOutcome v.policy verified.caseId outcome verified.handoffId
      (d.resolve verified.handoffId)
    if v.settings.knowledgeContextEnabled then
      pure (.proposing verified outcome.outcomeId ids done)
    else pure (.verifying ids (addDone done (true, true)))
  | .proposing verified outcomeId ids done => do
    let _ ← requestLhpKnowledgeArtifactProposal v.py v.policy verified.caseId verified.handoffId
      outcomeId [("source", .str "noc_case_verifier"), ("case_type", .str verified.caseType)]
      (d.outboxId verified.handoffId) (d.propose verified.handoffId)
    pure (.verifying ids (addDone done (true, true)))

end Verifier

/-! ## A call of `observe` -/

inductive Observer where
  | idle
  /-- before `put_observation` -/
  | storing (observation : ObservationRecord)
  /-- before `resolve_alias` -/
  | aliasing (observation : ObservationRecord)
  /-- before `get_case` -/
  | loading (observation : ObservationRecord) (caseId : Option String)
  /-- before the write -/
  | writing (observation : ObservationRecord) (case : Option AtomicCaseProjection)
  /-- before the write to the case that had the alias already -/
  | updating (observation : ObservationRecord) (case : AtomicCaseProjection)

section Observe

variable (py : Python) (policy : CasePolicy) (draws : ObserveDraws)

def Observer.next : Observer → StoreM Observer
  | .idle => pure .idle
  | .storing observation => do
    let observation ← putObservation observation
    pure (.aliasing observation)
  | .aliasing observation => do
    let caseId ← resolveAlias (observationAlias py observation).1 (observationAlias py observation).2
    pure (.loading observation caseId)
  | .loading observation caseId => do
    let case ← caseOfAlias caseId
    pure (.writing observation case)
  | .writing observation case =>
    if observation.status = .firing ∧ case = none then do
      let (aliasType, aliasValue) := observationAlias py observation
      let (case, _, created) ← createAtomicCase (newCase py policy observation aliasValue draws)
        (newAliases observation aliasType aliasValue draws)
        (createdEvents policy observation aliasType draws)
      if created then pure .idle else pure (.updating observation case)
    else do
      let _ ← observeCase py policy observation draws case
      pure .idle
  | .updating observation case => do
    let _ ← guardedCaseWrite case (updateUnhealthy policy observation draws)
    pure .idle

end Observe

/-! ## The system -/

/-- The store, with any number of verifier runs and observers. -/
structure System where
  store : Store
  runs : Nat → VerifierRun
  observers : Nat → Observer

/-- Nothing is going on. -/
def System.quiet (store : Store) : System where
  store := store
  runs _ := .idle
  observers _ := .idle

inductive SystemLabel where
  | start (i : Nat) (d : VerifierDraws) (now : Option String) (limit : Int)
  | run (i : Nat) (d : VerifierDraws)
  | receive (j : Nat) (observation : ObservationRecord)
  | observe (j : Nat) (draws : ObserveDraws)

variable (v : CaseVerifier)

/-- The run `i` is at `c` and the store is `s`. -/
def System.atRun (sys : System) (i : Nat) (c : VerifierRun) (s : Store) : System :=
  { sys with
    store := s
    runs := Function.update sys.runs i c }

def System.atObserver (sys : System) (j : Nat) (c : Observer) (s : Store) : System :=
  { sys with
    store := s
    observers := Function.update sys.observers j c }

def System.after (sys : System) : SystemLabel → System
  | .start i d now limit => sys.atRun i (v.start d now limit sys.store) sys.store
  | .run i d =>
    let r := (sys.runs i).next v d sys.store
    sys.atRun i (goto .idle r.1) r.2
  | .receive j observation => sys.atObserver j (.storing observation) sys.store
  | .observe j draws =>
    let r := (sys.observers j).next v.py v.policy draws sys.store
    sys.atObserver j (goto .idle r.1) r.2

/-- A call starts where none is running, and the id drawn for a new case is new. -/
def SystemLabel.Allowed (sys : System) : SystemLabel → Prop
  | .start i _ _ _ => sys.runs i = .idle
  | .run _ _ => True
  | .receive j _ => sys.observers j = .idle
  | .observe j draws => ∀ observation, sys.observers j = .writing observation none →
      sys.store.cases.get? draws.caseId = none

instance (sys : System) : (l : SystemLabel) → Decidable (l.Allowed sys)
  | .start i _ _ _ =>
      match h : sys.runs i with
      | .idle => isTrue h
      | .checking .. | .recording .. | .verifying .. | .loaded .. | .passed .. | .marking ..
      | .resolving .. | .proposing .. => isFalse fun hidle => by
          simp only [SystemLabel.Allowed, h, reduceCtorEq] at hidle
  | .run _ _ => isTrue trivial
  | .receive j _ =>
      match h : sys.observers j with
      | .idle => isTrue h
      | .storing .. | .aliasing .. | .loading .. | .writing .. | .updating .. =>
          isFalse fun hidle => by simp only [SystemLabel.Allowed, h, reduceCtorEq] at hidle
  | .observe j draws =>
      match h : sys.observers j with
      | .writing observation none =>
          match hc : sys.store.cases.get? draws.caseId with
          | none => isTrue fun _ _ => hc
          | some _ => isFalse fun hall => by
              have hnone := hall observation h
              simp only [hc, reduceCtorEq] at hnone
      | .writing _ (some _) | .idle | .storing .. | .aliasing .. | .loading .. | .updating .. =>
          isTrue fun _ hw => by simp [h] at hw

def systemStep (sys : System) (l : SystemLabel) (t : System) : Prop :=
  l.Allowed sys ∧ t = sys.after v l

/-! ## Calls that nobody interrupts -/

section Link

variable (d : VerifierDraws)

theorem checkOne_performs (now : String) (objective : VerificationObjective)
    (due : List VerificationObjective) (tally : CaseVerifier.Tally) :
    Performs (VerifierRun.next v d) .idle (.checking now (objective :: due) tally)
      (v.checkOne d now objective tally) (fun tally => .checking now due tally) := by
  intro s
  unfold CaseVerifier.checkOne
  simp only [peek_bind_run]
  cases hc : v.check d now objective (s.atomicCase? objective.caseId) with
  | error e =>
    refine .stop (e := e) ?_
    simp only [VerifierRun.next, peek_bind_run, hc]
    rfl
  | ok updated =>
    simp only []
    split
    · rename_i hdry
      refine .go ?_ (.refl _ _)
      simp only [VerifierRun.next, peek_bind_run, hc, hdry, if_true]
      rfl
    · rename_i hdry
      refine .go (m := .recording now updated due (tally.count (v.judge objective
        (s.atomicCase? objective.caseId)).status)) (t := s) ?_ ?_
      · simp only [VerifierRun.next, peek_bind_run, hc, if_neg hdry]
        rfl
      · rw [← (check_ok v d now hc).1]
        exact Performs.bind (Performs.step (k := fun _ => VerifierRun.checking now due _) fun _ => rfl)
          (fun _ => Performs.pure _ (VerifierRun.checking now due)) s

theorem checkAll_performs (now : String) : ∀ (due : List VerificationObjective)
    (tally : CaseVerifier.Tally), Performs (VerifierRun.next v d) .idle (.checking now due tally)
      (v.checkAll d now due tally) (fun tally => .checking now [] tally)
  | [], tally => Performs.pure tally _
  | objective :: due, tally =>
    Performs.bind (checkOne_performs v d now objective due tally) fun tally =>
      checkAll_performs now due tally

/-- The part of `_maybe_verify_handoff` after the handoff was marked verified. -/
theorem resolving_performs (verified : CaseHandoff) (ids : List String) (done : Nat × Nat) :
    Performs (VerifierRun.next v d) .idle (.resolving verified ids done) (do
      let workItemId ← orRaise (requireLhpToken v.py verified.caseId 180) .validationError
      let outcome : OutcomeRecord := {
        outcomeId := d.outcomeId verified.handoffId
        workItemId := workItemId
        caseType := sanitizeLhpToken v.py verified.caseType 180
        fingerprint := sanitizeLhpToken v.py verified.fingerprint 180
        validation := sanitizePayloadDict v.py (d.validation verified.handoffId)
        safety := resolutionSafety v.py
        createdAt := d.outcomeAt verified.handoffId }
      let _ ← resolveLhpCaseWithOutcome v.policy verified.caseId outcome verified.handoffId
        (d.resolve verified.handoffId)
      if v.settings.knowledgeContextEnabled then do
        let _ ← requestLhpKnowledgeArtifactProposal v.py v.policy verified.caseId verified.handoffId
          outcome.outcomeId [("source", .str "noc_case_verifier"), ("case_type", .str verified.caseType)]
          (d.outboxId verified.handoffId) (d.propose verified.handoffId)
        pure (true, true)
      else pure (true, true)) (fun did => .verifying ids (addDone done did)) := by
  intro s
  cases htoken : requireLhpToken v.py verified.caseId 180 with
  | none =>
    refine .stop (e := .validationError) ?_
    simp only [VerifierRun.next, htoken]
    rfl
  | some workItemId =>
    simp only [orRaise_bind_run]
    rcases hr : resolveLhpCaseWithOutcome v.policy verified.caseId {
        outcomeId := d.outcomeId verified.handoffId
        workItemId := workItemId
        caseType := sanitizeLhpToken v.py verified.caseType 180
        fingerprint := sanitizeLhpToken v.py verified.fingerprint 180
        validation := sanitizePayloadDict v.py (d.validation verified.handoffId)
        safety := resolutionSafety v.py
        createdAt := d.outcomeAt verified.handoffId } verified.handoffId
        (d.resolve verified.handoffId) s with ⟨e | case, t⟩
    · rw [bind_error hr]
      refine .stop (e := e) ?_
      simp only [VerifierRun.next, htoken, orRaise_bind_run]
      rw [bind_error hr]
    · rw [bind_ok hr]
      by_cases hknow : v.settings.knowledgeContextEnabled = true
      · refine .go (m := .proposing verified (d.outcomeId verified.handoffId) ids done) (t := t)
          ?_ ?_
        · simp only [VerifierRun.next, htoken, orRaise_bind_run]
          rw [bind_ok hr]
          simp only [if_pos hknow]
          rfl
        · simp only [if_pos hknow]
          exact Performs.bind (Performs.step
            (k := fun _ => VerifierRun.verifying ids (addDone done (true, true))) fun _ => rfl)
            (fun _ => Performs.pure (true, true) fun did => VerifierRun.verifying ids
              (addDone done did)) t
      · simp only [if_neg hknow]
        refine .go ?_ (.refl _ _)
        simp only [VerifierRun.next, htoken, orRaise_bind_run]
        rw [bind_ok hr]
        simp only [if_neg hknow]
        rfl

theorem handoffId_of_markHandoffVerified {handoffId now : String} {event : Option CaseEvent}
    {s t : Store} {verified : CaseHandoff}
    (h : markHandoffVerified handoffId now event s = (.ok verified, t)) :
    verified.handoffId = handoffId := by
  unfold markHandoffVerified at h
  simp only [requireHandoff_bind_run, requireHandoffTransition_bind_run] at h
  split at h
  · rename_i handoff hstored
    split at h
    · cases h
    · simp only [alter_bind_run, requireAtomicCase_bind_run] at h
      split at h
      · obtain ⟨t', hrun, -⟩ := caseTail_run _ event _ _
        rw [hrun] at h
        cases h
        have hid := Table.key_of_get? hstored
        exact hid
      · cases h
  · cases h

theorem passed_performs (handoff : CaseHandoff) (ids : List String) (done : Nat × Nat) :
    Performs (VerifierRun.next v d) .idle (.passed handoff ids done)
      (v.verifyHandoff d handoff.handoffId) (fun did => .verifying ids (addDone done did)) := by
  intro s
  unfold CaseVerifier.verifyHandoff markLhpHandoffVerified getHandoff
  simp only [bind_bind_run, peek_bind_run, orRaise_bind_run]
  cases hget : s.handoffs.get? handoff.handoffId with
  | none =>
    refine .stop (e := .keyError) ?_
    simp only [VerifierRun.next, getHandoff, peek_bind_run, hget]
    rfl
  | some found =>
    have hid : found.handoffId = handoff.handoffId := Table.key_of_get? hget
    refine .go (m := .marking found ids done) (t := s) ?_ ?_
    · simp only [VerifierRun.next, getHandoff, peek_bind_run, hget]
      rfl
    simp only [← hid]
    rcases hr : markHandoffVerified found.handoffId (d.verify found.handoffId).now
        (some (handoffVerifiedEvent v.policy found found.handoffId (d.verify found.handoffId))) s
      with ⟨e | verified, t⟩
    · rw [bind_error hr]
      exact .stop (bind_error hr)
    · rw [bind_ok hr]
      have hv : verified.handoffId = found.handoffId := handoffId_of_markHandoffVerified hr
      by_cases hauto : v.settings.caseAutoResolveEnabled = true
      · refine .go (m := .resolving verified ids done) (t := t) ?_ ?_
        · simp only [VerifierRun.next]
          rw [bind_ok hr, if_pos hauto]
          rfl
        · simp only [if_pos hauto]
          rw [← hv]
          exact resolving_performs v d verified ids done t
      · simp only [if_neg hauto]
        refine .go ?_ (.refl _ _)
        simp only [VerifierRun.next]
        rw [bind_ok hr, if_neg hauto]
        rfl

theorem maybeVerifyHandoff_performs (handoffId : String) (ids : List String) (done : Nat × Nat) :
    Performs (VerifierRun.next v d) .idle (.verifying (handoffId :: ids) done)
      (v.maybeVerifyHandoff d handoffId) (fun did => .verifying ids (addDone done did)) := by
  intro s
  unfold CaseVerifier.maybeVerifyHandoff getHandoff
  simp only [peek_bind_run]
  cases hget : s.handoffs.get? handoffId with
  | none =>
    refine .go ?_ (.refl _ _)
    simp only [VerifierRun.next, getHandoff, peek_bind_run, hget]
    rfl
  | some handoff =>
    have hid : handoff.handoffId = handoffId := Table.key_of_get? hget
    simp only []
    split
    · rename_i hfinal
      refine .go ?_ (.refl _ _)
      simp only [VerifierRun.next, getHandoff, peek_bind_run, hget, if_pos hfinal]
      rfl
    · rename_i hopen
      refine .go (m := .loaded handoff ids done) (t := s) ?_ ?_
      · simp only [VerifierRun.next, getHandoff, peek_bind_run, hget, if_neg hopen]
        rfl
      simp only [peek_bind_run]
      split
      · rename_i hnot
        refine .go ?_ (.refl _ _)
        simp only [VerifierRun.next, peek_bind_run, if_pos hnot]
        rfl
      · rename_i hpass
        refine .go (m := .passed handoff ids done) (t := s) ?_ ?_
        · simp only [VerifierRun.next, peek_bind_run, if_neg hpass]
          rfl
        · rw [← hid]
          exact passed_performs v d handoff ids done s

theorem verifyAll_performs : ∀ (ids : List String) (done : Nat × Nat),
    Performs (VerifierRun.next v d) .idle (.verifying ids done) (v.verifyAll d ids done)
      (fun done => .verifying [] done)
  | [], done => Performs.pure done _
  | handoffId :: ids, done =>
    Performs.bind (maybeVerifyHandoff_performs v d handoffId ids done) fun did =>
      verifyAll_performs ids (addDone done did)

theorem verifyTouched_performs (now : String) (tally : CaseVerifier.Tally) :
    Performs (VerifierRun.next v d) .idle (.checking now [] tally) (v.verifyTouched d tally)
      (fun _ => .idle) := by
  intro s
  unfold CaseVerifier.verifyTouched
  by_cases hdry : v.settings.caseVerificationDryRun = true
  · simp only [if_pos hdry]
    refine .go ?_ (.refl _ _)
    simp only [VerifierRun.next, if_pos hdry]
    rfl
  · simp only [if_neg hdry]
    refine .go (m := .verifying (tally.touchedHandoffs.insertionSort (· ≤ ·)) (0, 0)) (t := s)
      ?_ ?_
    · simp only [VerifierRun.next, if_neg hdry]
      rfl
    · have h := verifyAll_performs v d (tally.touchedHandoffs.insertionSort (· ≤ ·)) (0, 0) s
      rcases hr : v.verifyAll d (tally.touchedHandoffs.insertionSort (· ≤ ·)) (0, 0) s with
        ⟨e | done, t⟩
      · rw [hr] at h
        exact h
      · rw [hr] at h
        exact h.trans (.go rfl (.refl _ _))

theorem atRun_self {sys : System} {i : Nat} {c : VerifierRun} (h : sys.runs i = c) (s : Store) :
    sys.atRun i c s = { sys with store := s } := by
  unfold System.atRun
  rw [← h, Function.update_eq_self]

/-- What the steps of one run reach, the system reaches. -/
theorem run_of_reaches (sys : System) (i : Nat) {c c' : VerifierRun} {s t : Store}
    (h : Effects.Reaches (VerifierRun.next v d) .idle c s c' t) :
    ∃ ls, Run (systemStep v) (sys.atRun i c s) ls (sys.atRun i c' t) := by
  induction h with
  | refl => exact ⟨[], .nil _⟩
  | @head c c' s u _ ih =>
    obtain ⟨ls, hls⟩ := ih
    refine ⟨.run i d :: ls, Run.cons ⟨trivial, ?_⟩ hls⟩
    simp [System.after, System.atRun]

/-- **A run that nobody interrupts does what `runOnce` says.** -/
theorem runOnce_steps {sys : System} {i : Nat} (hidle : sys.runs i = .idle) (now : Option String)
    (limit : Int) : ∃ ls, Run (systemStep v) sys ls
      { sys with store := (v.runOnce d now limit sys.store).2 } := by
  have hstart : systemStep v sys (.start i d now limit)
      (sys.atRun i (v.start d now limit sys.store) sys.store) := ⟨hidle, rfl⟩
  have hreach : Effects.Reaches (VerifierRun.next v d) .idle (v.start d now limit sys.store) sys.store .idle
      (v.runOnce d now limit sys.store).2 := by
    unfold CaseVerifier.start CaseVerifier.runOnce
    by_cases hon : v.settings.caseVerificationEnabled = true
    · simp only [if_pos hon, peek_bind_run]
      exact Performs.halts (Performs.bind (checkAll_performs v d _ _ {}) fun tally =>
        Performs.bind (verifyTouched_performs v d _ tally) fun _ =>
          Performs.pure _ fun _ => VerifierRun.idle) sys.store
    · simp only [if_neg hon]
      exact .refl _ _
  obtain ⟨ls, hls⟩ := run_of_reaches v d sys i hreach
  rw [atRun_self hidle] at hls
  exact ⟨_, Run.cons hstart hls⟩

theorem observe_step (sys : System) (j : Nat) {c : Observer} {draws : ObserveDraws} {s : Store}
    (hfresh : ∀ observation, c = .writing observation none → s.cases.get? draws.caseId = none) :
    systemStep v (sys.atObserver j c s) (.observe j draws) (sys.atObserver j
      (goto .idle (c.next v.py v.policy draws s).1) (c.next v.py v.policy draws s).2) := by
  refine ⟨fun observation h => hfresh observation ?_, ?_⟩
  · simpa [System.atObserver] using h
  · simp [System.after, System.atObserver]

/-- One more step of the observer. -/
theorem observe_head {sys : System} {j : Nat} {c m : Observer} (draws : ObserveDraws)
    {s t : Store} {u : System}
    (hfresh : ∀ observation, c = .writing observation none → s.cases.get? draws.caseId = none)
    (hn : goto .idle (c.next v.py v.policy draws s).1 = m ∧
      (c.next v.py v.policy draws s).2 = t)
    (h : ∃ ls, Run (systemStep v) (sys.atObserver j m t) ls u) :
    ∃ ls, Run (systemStep v) (sys.atObserver j c s) ls u := by
  obtain ⟨ls, hls⟩ := h
  have hstep := observe_step v sys j hfresh
  rw [hn.1, hn.2] at hstep
  exact ⟨_, Run.cons hstep hls⟩

theorem atObserver_self {sys : System} {j : Nat} (h : sys.observers j = .idle) (s : Store) :
    sys.atObserver j .idle s = { sys with store := s } := by
  unfold System.atObserver
  rw [← h, Function.update_eq_self]

theorem putObservation_run (observation : ObservationRecord) (s : Store) :
    ∃ stored rows, putObservation observation s = (.ok stored, { s with observations := rows }) := by
  unfold putObservation
  simp only [peek_bind_run]
  cases s.observations.get? observation.observationId with
  | some existing => exact ⟨existing, s.observations, rfl⟩
  | none => exact ⟨observation, s.observations.put observation, rfl⟩

theorem caseOfAlias_run (caseId : Option String) (s : Store) :
    ∃ r, caseOfAlias caseId s = (r, s) := by
  unfold caseOfAlias
  simp only [peek_bind_run]
  rcases (truthyId caseId).bind fun caseId => s.cases.get? caseId with _ | (case | case)
  · exact ⟨_, rfl⟩
  · exact ⟨_, rfl⟩
  · exact ⟨_, rfl⟩

/-- The write of an observation, and the second one when the alias was taken meanwhile. -/
theorem writing_steps {sys : System} {j : Nat} (observation : ObservationRecord)
    (case : Option AtomicCaseProjection) {draws : ObserveDraws} {s : Store}
    (hfresh : s.cases.get? draws.caseId = none) :
    ∃ ls, Run (systemStep v) (sys.atObserver j (.writing observation case) s) ls
      (sys.atObserver j .idle (observeCase v.py v.policy observation draws case s).2) := by
  by_cases hnew : observation.status = .firing ∧ case = none
  · obtain ⟨hfiring, rfl⟩ := hnew
    unfold observeCase
    simp only [hfiring]
    unfold createFromUnhealthy
    rcases hr : createAtomicCase (newCase v.py v.policy observation
        (observationAlias v.py observation).2 draws) (newAliases observation
          (observationAlias v.py observation).1 (observationAlias v.py observation).2 draws)
        (createdEvents v.policy observation (observationAlias v.py observation).1 draws) s
      with ⟨e | ⟨stored, events, created⟩, t⟩
    · rw [bind_error hr]
      refine observe_head v draws (fun _ _ => hfresh) ?_ ⟨[], .nil _⟩
      simp only [Observer.next, hfiring, and_self, if_true]
      rw [bind_error hr]
      exact ⟨rfl, rfl⟩
    · rw [bind_ok hr]
      cases created with
      | true =>
        refine observe_head v draws (fun _ _ => hfresh) ?_ ⟨[], .nil _⟩
        simp only [Observer.next, hfiring, and_self, if_true]
        rw [bind_ok hr]
        exact ⟨rfl, rfl⟩
      | false =>
        refine observe_head v draws (m := .updating observation stored) (t := t) (fun _ _ => hfresh) ?_
          (observe_head v draws (fun _ h => ?_) ?_ ⟨[], .nil _⟩)
        · simp only [Observer.next, hfiring, and_self, if_true]
          rw [bind_ok hr]
          exact ⟨rfl, rfl⟩
        · cases h
        · simp only [Observer.next, bind_pure_state, Bool.false_eq_true, if_false, and_true]
          rcases hw : guardedCaseWrite stored (updateUnhealthy v.policy observation draws) t with
            ⟨e | r, u⟩
          · rw [bind_error hw]; rfl
          · rw [bind_ok hw]; rfl
  · refine observe_head v draws (fun _ _ => hfresh) ?_ ⟨[], .nil _⟩
    simp only [Observer.next, if_neg hnew, bind_pure_state, and_true]
    rcases hw : observeCase v.py v.policy observation draws case s with ⟨e | r, u⟩
    · rw [bind_error hw]; rfl
    · rw [bind_ok hw]; rfl

/-- **A call that nobody interrupts does what `observe` says.** -/
theorem observe_steps {sys : System} {j : Nat} (hidle : sys.observers j = .idle)
    (observation : ObservationRecord) {draws : ObserveDraws}
    (hfresh : sys.store.cases.get? draws.caseId = none) : ∃ ls, Run (systemStep v) sys ls
      { sys with store := (observe v.py v.policy observation draws sys.store).2 } := by
  obtain ⟨stored, rows, hput⟩ := putObservation_run observation sys.store
  have hreceive : systemStep v sys (.receive j observation)
      (sys.atObserver j (.storing observation) sys.store) := ⟨hidle, rfl⟩
  suffices h : ∃ ls, Run (systemStep v) (sys.atObserver j (.storing observation) sys.store) ls
      (sys.atObserver j .idle (observe v.py v.policy observation draws sys.store).2) by
    obtain ⟨ls, hls⟩ := h
    rw [atObserver_self hidle] at hls
    exact ⟨_, Run.cons hreceive hls⟩
  have hfresh' : ({ sys.store with observations := rows } : Store).cases.get? draws.caseId = none :=
    hfresh
  unfold observe
  rw [bind_ok hput]
  generalize ({ sys.store with observations := rows } : Store) = s at hput hfresh'
  refine observe_head v draws (m := .aliasing stored) (t := s) (fun _ h => by cases h) ?_ ?_
  · simp only [Observer.next]
    rw [bind_ok hput]
    exact ⟨rfl, rfl⟩
  obtain ⟨caseId, halias⟩ : ∃ caseId, resolveAlias (observationAlias v.py stored).1
      (observationAlias v.py stored).2 s = (.ok caseId, s) := ⟨_, rfl⟩
  refine observe_head v draws (m := .loading stored caseId) (t := s) (fun _ h => by cases h) ?_ ?_
  · simp only [Observer.next]
    rw [bind_ok halias]
    exact ⟨rfl, rfl⟩
  simp only []
  rw [bind_ok halias]
  obtain ⟨r, hload⟩ := caseOfAlias_run caseId s
  cases r with
  | error e =>
    rw [bind_error hload]
    refine observe_head v draws (fun _ h => by cases h) ?_ ⟨[], .nil _⟩
    simp only [Observer.next]
    rw [bind_error hload]
    exact ⟨rfl, rfl⟩
  | ok case =>
    rw [bind_ok hload]
    refine observe_head v draws (m := .writing stored case) (t := s) (fun _ h => by cases h) ?_
      (writing_steps v stored case hfresh')
    simp only [Observer.next]
    rw [bind_ok hload]
    exact ⟨rfl, rfl⟩

end Link

end NocAgent.Cases
