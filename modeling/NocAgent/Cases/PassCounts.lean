import NocAgent.Cases.ResultRequests
import NocAgent.Cases.RunSteps
import NocAgent.Cases.StaleVerdict
import NocAgent.Lib.Versioned

/-!
# Counting consecutive passes

* `CountSystem` — runs of the verifier and verification results of the loop console on one store,
  with the results recorded on one objective in their order.
* `Clobbers` — a result is about to be written over one that its check or request never saw.
* `CountedExactly` — the count is the number of passes at the end of the results, and the status
  says whether they are enough.
* `counted_run` — over every run on a fresh objective in which no write clobbers, the passes
  are counted exactly in every state.
-/

set_option autoImplicit false

namespace NocAgent.Cases

open Effects Effects.Action Keyed Lts

/-! ## Passes in a list of results -/

/-- How many passes there are at the end. -/
def trailingPasses (results : List VerificationStatus) : Nat :=
  (results.reverse.takeWhile fun result => result = .pass).length

@[simp] theorem trailingPasses_nil : trailingPasses [] = 0 := rfl

theorem trailingPasses_append (results : List VerificationStatus) (result : VerificationStatus) :
    trailingPasses (results ++ [result]) =
      if result = .pass then trailingPasses results + 1 else 0 := by
  unfold trailingPasses
  rw [List.reverse_append, List.reverse_singleton, List.singleton_append, List.takeWhile_cons]
  by_cases h : result = .pass <;> simp [h]

/-- The pass count and the status of an objective. -/
structure Progress where
  count : Nat
  status : VerificationStatus
  deriving DecidableEq

def VerificationObjective.progress (objective : VerificationObjective) : Progress :=
  ⟨objective.consecutivePassCount, objective.status⟩

/-- One more result on an objective that needs `required` passes. -/
def Progress.after (required : Nat) (progress : Progress) (result : VerificationStatus) :
    Progress :=
  let count := if result = .pass then progress.count + 1 else 0
  { count := count
    status :=
      if result = .pass then if required ≤ count then .pass else .pending
      else result }

theorem Progress.after_pass (required : Nat) (progress : Progress) :
    progress.after required .pass =
      ⟨progress.count + 1, if required ≤ progress.count + 1 then .pass else .pending⟩ := rfl

theorem Progress.after_other {required : Nat} {progress : Progress} {result : VerificationStatus}
    (h : result ≠ .pass) : progress.after required result = ⟨0, result⟩ := by
  unfold Progress.after
  simp only [if_neg h]

def Progress.fresh : Progress := ⟨0, .pending⟩

/-- **The progress of an objective, result after result.** -/
theorem foldl_progress {required : Nat} (hpos : 1 ≤ required) (results : List VerificationStatus) :
    let progress := results.foldl (Progress.after required) Progress.fresh
    progress.count = trailingPasses results ∧
      (progress.status = .pass ↔ required ≤ trailingPasses results) ∧
      ∀ last, results.getLast? = some last → last ≠ .pass → progress.status = last := by
  intro progress
  induction results using List.reverseRecOn with
  | nil =>
    refine ⟨rfl, ?_, fun last h => by cases h⟩
    change (VerificationStatus.pending = .pass ↔ required ≤ 0)
    simp only [reduceCtorEq, false_iff]
    omega
  | append_singleton results result ih =>
    have hprogress : progress =
        (results.foldl (Progress.after required) Progress.fresh).after required result := by
      change (results ++ [result]).foldl _ _ = _
      rw [List.foldl_append]
      rfl
    obtain ⟨hcount, -, -⟩ := ih
    rw [hprogress, trailingPasses_append, List.getLast?_append]
    by_cases hpass : result = .pass
    · subst hpass
      rw [Progress.after_pass, if_pos rfl, hcount]
      refine ⟨rfl, ?_, fun last hlast hne => ?_⟩
      · dsimp only
        split <;> simp [*]
      · cases hlast
        exact absurd rfl hne
    · rw [Progress.after_other hpass, if_neg hpass]
      refine ⟨rfl, iff_of_false hpass (by omega), fun last hlast _ => ?_⟩
      cases hlast
      rfl

theorem applyCheckResult_progress {py : Python} {objective updated : VerificationObjective}
    {result : VerificationCheckResult} {now : String} {clock intervalS : Int}
    (h : applyCheckResult py objective result now clock intervalS = .ok updated) :
    updated.progress = objective.progress.after objective.requiredConsecutivePasses
        result.status.objectiveStatus ∧
      updated.requiredConsecutivePasses = objective.requiredConsecutivePasses := by
  have hpass : result.status = .pass ↔ result.status.objectiveStatus = .pass := by
    cases result.status <;> simp [VerificationCheckStatus.objectiveStatus]
  unfold applyCheckResult at h
  split at h
  · cases h
  · cases h
    refine ⟨?_, rfl⟩
    unfold VerificationObjective.progress Progress.after
    simp only [hpass]

theorem applyConsoleResult_progress (py : Python) (objective : VerificationObjective)
    (request : VerificationResultRequest) :
    (applyConsoleResult py objective request).progress =
      objective.progress.after objective.requiredConsecutivePasses request.status := rfl

/-! ## The system -/

/-- Runs of the verifier and calls of the route on one store.  `results` has the results recorded
on one objective, each with how many of them had been recorded when it was read; `judged` is the
last judgement of each run. -/
structure CountSystem where
  store : Store
  runs : Nat → VerifierRun
  calls : Nat → ResultCall
  results : List (VerificationStatus × Nat)
  runSeen : Nat → Nat
  callSeen : Nat → Nat
  judged : Nat → VerificationStatus

/-- Nothing is going on and nothing was recorded. -/
def CountSystem.quiet (store : Store) : CountSystem where
  store := store
  runs _ := .idle
  calls _ := .idle
  results := []
  runSeen _ := 0
  callSeen _ := 0
  judged _ := .pending

/-- The checker asks other systems, so every check may have another one. -/
inductive CountLabel where
  | start (i : Nat) (d : VerifierDraws) (now : Option String) (limit : Int)
  | run (i : Nat) (checker : VerifierCheck) (d : VerifierDraws)
  | receive (j : Nat) (objectiveId : String) (request : VerificationResultRequest)
  | call (j : Nat) (now : String)
  | elsewhere (after : Store)

namespace VerifierRun

/-- The objectives that are still to be checked. -/
def due : VerifierRun → List VerificationObjective
  | .checking _ due _ => due
  | .recording _ _ due _ => due
  | _ => []

/-- The result of the check that the next step makes. -/
def judges (v : CaseVerifier) (s : Store) : VerifierRun → Option VerificationStatus
  | .checking _ (objective :: _) _ =>
    some (v.judge objective (s.atomicCase? objective.caseId)).status.objectiveStatus
  | _ => none

end VerifierRun

namespace ResultCall

/-- The objective about to be recorded. -/
def recorded? : ResultCall → Option VerificationObjective
  | .recording updated _ => some updated
  | _ => none

/-- The result that is about to be recorded. -/
def answer : ResultCall → VerificationStatus
  | .recording _ request => request.status
  | _ => .pending

def IsListing : ResultCall → Bool
  | .listing _ _ => true
  | _ => false

end ResultCall

section Steps

variable (v : CaseVerifier) (objectiveId : String)

/-- The results after a step that writes `updated`, if any. -/
def CountSystem.record (sys : CountSystem) (updated : Option VerificationObjective)
    (result : VerificationStatus) (seen : Nat) : List (VerificationStatus × Nat) :=
  if ∃ written ∈ updated, written.objectiveId = objectiveId then sys.results ++ [(result, seen)]
  else sys.results

/-- One store call of a run. -/
def CountSystem.runNext (sys : CountSystem) (i : Nat) (d : VerifierDraws) : CountSystem :=
  { sys with
    store := (v.goesOn d (sys.runs i) sys.store).2
    runs := Function.update sys.runs i (v.goesOn d (sys.runs i) sys.store).1
    judged := Function.update sys.judged i
      (((sys.runs i).judges v sys.store).getD (sys.judged i))
    results := sys.record objectiveId (sys.runs i).recorded? (sys.judged i) (sys.runSeen i) }

/-- One store call of a call of the route. -/
def CountSystem.callNext (sys : CountSystem) (j : Nat) (now : String) : CountSystem :=
  { sys with
    store := ((sys.calls j).next v.py v.policy now sys.store).2
    calls := Function.update sys.calls j
      (goto .idle ((sys.calls j).next v.py v.policy now sys.store).1)
    callSeen := Function.update sys.callSeen j
      (if (sys.calls j).IsListing then sys.results.length else sys.callSeen j)
    results := sys.record objectiveId (sys.calls j).recorded? (sys.calls j).answer
      (sys.callSeen j) }

def CountSystem.after (sys : CountSystem) : CountLabel → CountSystem
  | .start i d now limit => { sys with
      runs := Function.update sys.runs i (v.start d now limit sys.store)
      runSeen := Function.update sys.runSeen i sys.results.length }
  | .run i checker d => sys.runNext { v with checker := checker } objectiveId i d
  | .receive j target request => { sys with
      calls := Function.update sys.calls j (.listing target request) }
  | .call j now => sys.callNext v objectiveId j now
  | .elsewhere after => { sys with store := after }

/-- A call starts where none is running; what happens elsewhere leaves the objective alone. -/
def CountLabel.Allowed (sys : CountSystem) : CountLabel → Prop
  | .start i _ _ _ => sys.runs i = .idle
  | .receive j _ _ => sys.calls j = .idle
  | .elsewhere after => after.verificationObjectives.get? objectiveId =
      sys.store.verificationObjectives.get? objectiveId
  | _ => True

def countStep (sys : CountSystem) (l : CountLabel) (t : CountSystem) : Prop :=
  l.Allowed objectiveId sys ∧ t = sys.after v objectiveId l

/-- A result is about to be recorded on the objective, and another one has been recorded since the
objective was read for it. -/
def Clobbers (sys : CountSystem) : CountLabel → Prop
  | .run i _ _ => (∃ updated ∈ (sys.runs i).recorded?, updated.objectiveId = objectiveId) ∧
      sys.runSeen i ≠ sys.results.length
  | .call j _ => (∃ updated ∈ (sys.calls j).recorded?, updated.objectiveId = objectiveId) ∧
      sys.callSeen j ≠ sys.results.length
  | _ => False

/-- The objective is stored, without any result. -/
def FreshObjective (s : Store) : Prop :=
  ∃ objective, s.verificationObjectives.get? objectiveId = some objective ∧
    objective.consecutivePassCount = 0 ∧ objective.status = .pending

/-- **The passes are counted exactly, and no fail is overwritten by a check that did not see
it.** -/
structure CountedExactly (sys : CountSystem) : Prop where
  counted : ∃ objective, sys.store.verificationObjectives.get? objectiveId = some objective ∧
    objective.consecutivePassCount = trailingPasses (sys.results.map Prod.fst) ∧
    (objective.status = .pass ↔
      objective.requiredConsecutivePasses ≤ trailingPasses (sys.results.map Prod.fst)) ∧
    ∀ last, (sys.results.map Prod.fst).getLast? = some last → last ≠ .pass →
      objective.status = last
  seen : ∀ (i j : Nat) (before later : Nat) (result : VerificationStatus), i < j →
    sys.results[i]? = some (.fail, before) → sys.results[j]? = some (result, later) → i < later

end Steps

/-! ## One store call -/

section Calls

variable (v : CaseVerifier) (d : VerifierDraws)

/-- A store call that writes `written` over the objective with its id, if there is one. -/
structure Records (written : Option VerificationObjective) (s t : Store) : Prop where
  quiet : written = none → t.verificationObjectives = s.verificationObjectives
  writes : ∀ updated row, written = some updated →
    s.verificationObjectives.get? updated.objectiveId = some row →
      t.verificationObjectives = s.verificationObjectives.put updated
  missing : ∀ updated, written = some updated →
    s.verificationObjectives.get? updated.objectiveId = none →
      t.verificationObjectives = s.verificationObjectives

theorem Records.none {s t : Store} (h : t.verificationObjectives = s.verificationObjectives) :
    Records none s t where
  quiet _ := h
  writes _ _ hc _ := by cases hc
  missing _ hc _ := by cases hc

theorem Records.some {s t : Store} {updated row : VerificationObjective}
    (hrow : s.verificationObjectives.get? updated.objectiveId = some row)
    (h : t.verificationObjectives = s.verificationObjectives.put updated) :
    Records (some updated) s t where
  quiet hc := by cases hc
  writes _ _ hc _ := by
    cases hc
    exact h
  missing _ hc hnone := by
    cases hc
    rw [hrow] at hnone
    cases hnone

theorem Records.missed {s t : Store} {updated : VerificationObjective}
    (hrow : s.verificationObjectives.get? updated.objectiveId = Option.none)
    (h : t.verificationObjectives = s.verificationObjectives) :
    Records (Option.some updated) s t where
  quiet hc := by cases hc
  writes _ _ hc hsome := by
    cases hc
    rw [hrow] at hsome
    cases hsome
  missing _ _ _ := h

/-- What one store call of a run does to the objectives, and what the run holds after it. -/
structure GoesOn (c : VerifierRun) (s : Store) (r : VerifierRun × Store) : Prop where
  objectives : Records c.recorded? s r.2
  due : ∀ objective ∈ r.1.due, objective ∈ c.due
  judged : ∀ updated ∈ r.1.recorded?, ∃ objective ∈ c.due, ∃ now,
    v.check d now objective (s.atomicCase? objective.caseId) = .ok updated ∧
      c.judges v s = some (v.judge objective
        (s.atomicCase? objective.caseId)).status.objectiveStatus

/-- A call that leads to no recording. -/
theorem GoesOn.calm {c c' : VerifierRun} {s t : Store} (hrecords : Records c.recorded? s t)
    (hdue : ∀ objective ∈ c'.due, objective ∈ c.due) (hcalm : c'.recorded? = none) :
    GoesOn v d c s (c', t) where
  objectives := hrecords
  due := hdue
  judged updated hmem := by
    change c'.recorded? = some updated at hmem
    rw [hcalm] at hmem
    cases hmem

theorem goesOn_goesOn (c : VerifierRun) (s : Store) : GoesOn v d c s (v.goesOn d c s) := by
  cases c with
  | idle =>
    have hrun : VerifierRun.next v d .idle s = (.ok .idle, s) := rfl
    rw [goesOn_ok v d hrun]
    exact .calm v d (.none rfl) (fun _ h => h) rfl
  | checking now due tally =>
    cases due with
    | nil =>
      obtain ⟨c, hrun, hc⟩ := checked_goesOn v d now tally s
      rw [hrun]
      rcases hc with rfl | ⟨ids, done, rfl⟩ <;> exact .calm v d (.none rfl) (fun _ h => h) rfl
    | cons objective due =>
      obtain ⟨c, hrun, hc⟩ := checking_goesOn v d now objective due tally s
      rw [hrun]
      rcases hc with rfl | ⟨tally', rfl⟩ | ⟨updated, tally', hcheck, rfl⟩
      · exact .calm v d (.none rfl) (fun _ h => by cases h) rfl
      · exact .calm v d (.none rfl) (fun _ h => List.mem_cons_of_mem _ h) rfl
      · refine ⟨.none rfl, fun _ h => List.mem_cons_of_mem _ h, fun written hwritten => ?_⟩
        cases hwritten
        exact ⟨objective, List.mem_cons_self, now, hcheck, rfl⟩
  | recording now updated due tally =>
    cases hrow : s.verificationObjectives.get? updated.objectiveId with
    | some row =>
      obtain ⟨tally', t, hrun, hview, -⟩ := recording_goesOn v d now hrow due tally
      rw [hrun]
      exact .calm v d (.some hrow (congrArg Prod.snd hview)) (fun _ h => h) rfl
    | none =>
      have hrun : VerifierRun.next v d (.recording now updated due tally) s =
          (.error .keyError, s) := by
        simp only [VerifierRun.next, recordLhpVerificationResult,
          updateVerificationObjectiveResult, bind_bind_run, peek_bind_run, hrow, orRaise_bind_run]
      rw [goesOn_error v d hrun]
      exact .calm v d (.missed hrow rfl) (fun _ h => by cases h) rfl
  | verifying ids done =>
    obtain ⟨c, hrun, hc⟩ := verifying_goesOn v d ids done s
    rw [hrun]
    rcases hc with rfl | ⟨ids', done', rfl⟩ | ⟨handoff, ids', done', -, -, rfl⟩ <;>
      exact .calm v d (.none rfl) (fun _ h => h) rfl
  | loaded handoff ids done =>
    obtain ⟨c, hrun, hc⟩ := loaded_goesOn v d handoff ids done s
    rw [hrun]
    rcases hc with ⟨ids', done', rfl⟩ | ⟨-, rfl⟩ <;>
      exact .calm v d (.none rfl) (fun _ h => h) rfl
  | passed handoff ids done =>
    obtain ⟨c, hrun, hc⟩ := passed_goesOn v d handoff ids done s
    rw [hrun]
    rcases hc with rfl | ⟨found, -, rfl⟩ <;> exact .calm v d (.none rfl) (fun _ h => h) rfl
  | marking handoff ids done =>
    obtain ⟨c, t, hrun, hmoved, hc⟩ := marking_goesOn v d handoff ids done s
    rw [hrun]
    rcases hc with rfl | ⟨ids', done', rfl⟩ | ⟨verified, h, -, -, -, -, rfl⟩ <;>
      exact .calm v d (.none hmoved.objectives) (fun _ h => h) rfl
  | resolving verified ids done =>
    obtain ⟨c, t, hrun, hmoved, hc⟩ := resolving_goesOn v d verified ids done s
    rw [hrun]
    rcases hc with rfl | ⟨ids', done', rfl⟩ | ⟨outcomeId, rfl⟩ <;>
      exact .calm v d (.none hmoved.objectives) (fun _ h => h) rfl
  | proposing verified outcomeId ids done =>
    obtain ⟨c, t, hrun, hmoved, hc⟩ := proposing_goesOn v d verified outcomeId ids done s
    rw [hrun]
    rcases hc with rfl | ⟨ids', done', rfl⟩ <;>
      exact .calm v d (.none hmoved.objectives) (fun _ h => h) rfl

/-- What a step of a call of the route does to the objectives. -/
theorem resultCall_next_records {py : Python} {policy : CasePolicy} (now : String)
    (c : ResultCall) (s : Store) : Records c.recorded? s (c.next py policy now s).2 := by
  cases c with
  | idle => exact .none rfl
  | listing target request =>
    refine .none ?_
    simp only [ResultCall.next, findObjective_bind_run]
    cases s.verificationObjectives.get? target <;> rfl
  | looking objective request =>
    refine .none ?_
    simp only [ResultCall.next, peek_bind_run]
    split <;> rfl
  | recording updated request =>
    cases hrow : s.verificationObjectives.get? updated.objectiveId with
    | some row =>
      obtain ⟨ix, ev, cix, hrun⟩ := recordLhpVerificationResult_run policy hrow
        ⟨consoleActionId py "verification_result" request.idempotencyKey updated.objectiveId, now⟩
      refine .some hrow ?_
      simp only [ResultCall.next]
      rw [bind_ok hrun]
      rfl
    | none =>
      refine .missed hrow ?_
      simp only [ResultCall.next, recordLhpVerificationResult, updateVerificationObjectiveResult,
        bind_bind_run, peek_bind_run, hrow, orRaise_bind_run]

/-- Where a call of the route is after a step. -/
theorem resultCall_next_goto {py : Python} {policy : CasePolicy} (now : String) (c : ResultCall)
    (s : Store) :
    goto .idle (c.next py policy now s).1 = .idle ∨
    (∃ target request objective, c = .listing target request ∧
      s.verificationObjectives.get? target = some objective ∧
        goto .idle (c.next py policy now s).1 = .looking objective request) ∨
    ∃ objective request, c = .looking objective request ∧
      goto .idle (c.next py policy now s).1 =
        .recording (applyConsoleResult py objective request) request := by
  cases c with
  | idle => exact Or.inl rfl
  | listing target request =>
    simp only [ResultCall.next, findObjective_bind_run]
    cases hrow : s.verificationObjectives.get? target with
    | none => exact Or.inl rfl
    | some objective => exact Or.inr (Or.inl ⟨target, request, objective, rfl, hrow, rfl⟩)
  | looking objective request =>
    simp only [ResultCall.next, peek_bind_run]
    split
    · exact Or.inl rfl
    · exact Or.inr (Or.inr ⟨objective, request, rfl, rfl⟩)
  | recording updated request =>
    exact Or.inl (goto_bind (P := fun c => c = ResultCall.idle) rfl (fun _ => rfl) _ _)

end Calls

/-! ## The invariant -/

section Invariant

variable (v : CaseVerifier) (objectiveId : String) (required : Nat)

/-- The progress of the objective and the results recorded on it. -/
def CountSystem.versioned (sys : CountSystem) : Versioned Progress VerificationStatus where
  value := ((sys.store.verificationObjectives.get? objectiveId).map
    VerificationObjective.progress).getD .fresh
  log := sys.results

/-- A copy of the objective, read when `seen` results had been recorded. -/
def ReadAt (V : Versioned Progress VerificationStatus) (copy : VerificationObjective)
    (seen : Nat) : Prop :=
  copy.objectiveId = objectiveId →
    copy.requiredConsecutivePasses = required ∧ V.Copy copy.progress seen

/-- The same with one more result. -/
def ChangedAt (V : Versioned Progress VerificationStatus) (updated : VerificationObjective)
    (result : VerificationStatus) (seen : Nat) : Prop :=
  updated.objectiveId = objectiveId →
    updated.requiredConsecutivePasses = required ∧
      ∃ progress, V.Copy progress seen ∧ updated.progress = progress.after required result

/-- What a run holds in its hands. -/
structure RunHolds (V : Versioned Progress VerificationStatus) (c : VerifierRun)
    (judged : VerificationStatus) (seen : Nat) : Prop where
  due : ∀ copy ∈ c.due, ReadAt objectiveId required V copy seen
  judged : ∀ updated ∈ c.recorded?, ChangedAt objectiveId required V updated judged seen

/-- What a call of the route holds in its hands. -/
def CallHolds (V : Versioned Progress VerificationStatus) (c : ResultCall) (seen : Nat) : Prop :=
  match c with
  | .looking copy _ => ReadAt objectiveId required V copy seen
  | .recording updated request =>
    ChangedAt objectiveId required V updated request.status seen
  | _ => True

/-- The versions of the objective follow each other, and the calls hold some of them. -/
structure Counting (sys : CountSystem) : Prop where
  stored : ∃ objective, sys.store.verificationObjectives.get? objectiveId = some objective ∧
    objective.requiredConsecutivePasses = required
  sound : (sys.versioned objectiveId).Sound (Progress.after required) .fresh
  runs : ∀ i, RunHolds objectiveId required (sys.versioned objectiveId) (sys.runs i) (sys.judged i)
    (sys.runSeen i)
  calls : ∀ j, CallHolds objectiveId required (sys.versioned objectiveId) (sys.calls j)
    (sys.callSeen j)

variable {v objectiveId required} {sys t : CountSystem}
  {V W : Versioned Progress VerificationStatus}

theorem ReadAt.follows {copy : VerificationObjective} {seen : Nat}
    (h : ReadAt objectiveId required V copy seen) (hW : V.Follows W) :
    ReadAt objectiveId required W copy seen :=
  fun hid => ⟨(h hid).1, (h hid).2.follows hW⟩

theorem ChangedAt.follows {updated : VerificationObjective} {result : VerificationStatus}
    {seen : Nat} (h : ChangedAt objectiveId required V updated result seen) (hW : V.Follows W) :
    ChangedAt objectiveId required W updated result seen := by
  intro hid
  obtain ⟨hrequired, progress, hcopy, heq⟩ := h hid
  exact ⟨hrequired, progress, hcopy.follows hW, heq⟩

/-- A copy with one more result on it. -/
theorem ReadAt.changed {copy updated : VerificationObjective} {result : VerificationStatus}
    {seen : Nat} (h : ReadAt objectiveId required V copy seen)
    (hid : updated.objectiveId = copy.objectiveId)
    (hprogress : updated.progress = copy.progress.after copy.requiredConsecutivePasses result)
    (hrequired : updated.requiredConsecutivePasses = copy.requiredConsecutivePasses) :
    ChangedAt objectiveId required V updated result seen := by
  intro hmine
  obtain ⟨hneeds, hcopy⟩ := h (hid.symm.trans hmine)
  exact ⟨hrequired.trans hneeds, copy.progress, hcopy, hneeds ▸ hprogress⟩

/-- The objective as it is stored. -/
theorem Counting.readAt (h : Counting objectiveId required sys) {row : VerificationObjective}
    (hrow : sys.store.verificationObjectives.get? row.objectiveId = some row) :
    ReadAt objectiveId required (sys.versioned objectiveId) row sys.results.length := by
  rintro rfl
  obtain ⟨objective, hobjective, hneeds⟩ := h.stored
  rw [hrow] at hobjective
  cases hobjective
  have hcopy := Versioned.Copy.read (sys.versioned row.objectiveId)
  have hvalue : (sys.versioned row.objectiveId).value = row.progress := by
    unfold CountSystem.versioned
    rw [hrow]
    rfl
  rw [hvalue] at hcopy
  exact ⟨hneeds, hcopy⟩

theorem RunHolds.follows {c : VerifierRun} {judged : VerificationStatus} {seen : Nat}
    (h : RunHolds objectiveId required V c judged seen) (hW : V.Follows W) :
    RunHolds objectiveId required W c judged seen :=
  ⟨fun copy hmem => (h.due copy hmem).follows hW,
    fun updated hmem => (h.judged updated hmem).follows hW⟩

theorem CallHolds.follows {c : ResultCall} {seen : Nat}
    (h : CallHolds objectiveId required V c seen) (hW : V.Follows W) :
    CallHolds objectiveId required W c seen := by
  cases c with
  | idle => exact trivial
  | listing target request => exact trivial
  | looking copy request => exact ReadAt.follows h hW
  | recording updated request => exact ChangedAt.follows h hW

/-- A store call either leaves the objective and its results alone or records one result. -/
structure CountMoves (objectiveId : String) (required : Nat) (sys t : CountSystem) : Prop where
  stored : ∃ objective, t.store.verificationObjectives.get? objectiveId = some objective ∧
    objective.requiredConsecutivePasses = required
  sound : (t.versioned objectiveId).Sound (Progress.after required) .fresh
  follows : (sys.versioned objectiveId).Follows (t.versioned objectiveId)

/-- The objective is the same and nothing was recorded on it. -/
theorem Counting.still (h : Counting objectiveId required sys)
    (hget : t.store.verificationObjectives.get? objectiveId =
      sys.store.verificationObjectives.get? objectiveId) (hresults : t.results = sys.results) :
    CountMoves objectiveId required sys t := by
  have hsame : t.versioned objectiveId = sys.versioned objectiveId := by
    unfold CountSystem.versioned
    rw [hget, hresults]
  exact ⟨hget ▸ h.stored, hsame ▸ h.sound, Or.inl hsame⟩

/-- A result is written by someone who has seen all the others. -/
theorem Counting.recorded (h : Counting objectiveId required sys)
    {updated : VerificationObjective} {result : VerificationStatus} {seen : Nat}
    (hmine : updated.objectiveId = objectiveId)
    (hchanged : ChangedAt objectiveId required (sys.versioned objectiveId) updated result seen)
    (hcurrent : seen = sys.results.length)
    (hget : t.store.verificationObjectives = sys.store.verificationObjectives.put updated)
    (hresults : t.results = sys.results ++ [(result, seen)]) :
    CountMoves objectiveId required sys t := by
  obtain ⟨hneeds, progress, hcopy, hprogress⟩ := hchanged hmine
  have hrow : t.store.verificationObjectives.get? objectiveId = some updated := by
    rw [hget, ← hmine]
    exact Table.get?_put_self _ updated
  have hwritten : t.versioned objectiveId =
      (sys.versioned objectiveId).write (progress.after required result) result seen := by
    unfold CountSystem.versioned Versioned.write
    rw [hrow, hresults, ← hprogress]
    rfl
  refine ⟨⟨updated, hrow, hneeds⟩, ?_, Or.inr ⟨_, _, _, hwritten⟩⟩
  rw [hwritten]
  exact h.sound.write hcopy hcurrent result

/-- One run moved. -/
theorem Counting.atRun (h : Counting objectiveId required sys)
    (hmoves : CountMoves objectiveId required sys t) (i : Nat)
    (hother : ∀ k, k ≠ i → t.runs k = sys.runs k ∧ t.judged k = sys.judged k ∧
      t.runSeen k = sys.runSeen k)
    (hcalls : t.calls = sys.calls ∧ t.callSeen = sys.callSeen)
    (hrun : RunHolds objectiveId required (t.versioned objectiveId) (t.runs i) (t.judged i)
      (t.runSeen i)) : Counting objectiveId required t where
  stored := hmoves.stored
  sound := hmoves.sound
  runs := by
    intro k
    by_cases hk : k = i
    · rw [hk]
      exact hrun
    · obtain ⟨hruns, hjudged, hseen⟩ := hother k hk
      rw [hruns, hjudged, hseen]
      exact (h.runs k).follows hmoves.follows
  calls := by
    intro j
    rw [hcalls.1, hcalls.2]
    exact (h.calls j).follows hmoves.follows

/-- One call of the route moved. -/
theorem Counting.atCall (h : Counting objectiveId required sys)
    (hmoves : CountMoves objectiveId required sys t) (j : Nat)
    (hother : ∀ k, k ≠ j → t.calls k = sys.calls k ∧ t.callSeen k = sys.callSeen k)
    (hruns : t.runs = sys.runs ∧ t.judged = sys.judged ∧ t.runSeen = sys.runSeen)
    (hcall : CallHolds objectiveId required (t.versioned objectiveId) (t.calls j) (t.callSeen j)) :
    Counting objectiveId required t where
  stored := hmoves.stored
  sound := hmoves.sound
  runs := by
    intro i
    rw [hruns.1, hruns.2.1, hruns.2.2]
    exact (h.runs i).follows hmoves.follows
  calls := by
    intro k
    by_cases hk : k = j
    · rw [hk]
      exact hcall
    · obtain ⟨hcalls, hseen⟩ := hother k hk
      rw [hcalls, hseen]
      exact (h.calls k).follows hmoves.follows

theorem record_none {result : VerificationStatus} {seen : Nat} :
    sys.record objectiveId none result seen = sys.results := by
  unfold CountSystem.record
  rw [if_neg]
  rintro ⟨written, hwritten, -⟩
  cases hwritten

theorem record_some {updated : VerificationObjective} {result : VerificationStatus} {seen : Nat} :
    sys.record objectiveId (some updated) result seen =
      if updated.objectiveId = objectiveId then sys.results ++ [(result, seen)]
      else sys.results := by
  unfold CountSystem.record
  congr 1
  simp

/-- A result that is written over none that its writer has not seen. -/
theorem Counting.record (h : Counting objectiveId required sys)
    {written : Option VerificationObjective} {result : VerificationStatus} {seen : Nat}
    (hchanged : ∀ updated ∈ written,
      ChangedAt objectiveId required (sys.versioned objectiveId) updated result seen)
    (hcurrent : ∀ updated ∈ written, updated.objectiveId = objectiveId →
      seen = sys.results.length)
    (hstore : Records written sys.store t.store)
    (hresults : t.results = sys.record objectiveId written result seen) :
    CountMoves objectiveId required sys t := by
  obtain ⟨row, hrow, -⟩ := h.stored
  cases written with
  | none => exact h.still (by rw [hstore.quiet rfl]) (hresults.trans record_none)
  | some updated =>
    by_cases hmine : updated.objectiveId = objectiveId
    · exact h.recorded hmine (hchanged updated rfl) (hcurrent updated rfl hmine)
        (hstore.writes updated row rfl (by rw [hmine, hrow]))
        (hresults.trans (record_some.trans (if_pos hmine)))
    · refine h.still ?_ (hresults.trans (record_some.trans (if_neg hmine)))
      cases hstored : sys.store.verificationObjectives.get? updated.objectiveId with
      | none => rw [hstore.missing updated rfl hstored]
      | some other =>
        rw [hstore.writes updated other rfl hstored]
        exact Table.get?_put_of_ne _ hmine

/-- **A step of a run that clobbers nothing.** -/
theorem Counting.runNext (h : Counting objectiveId required sys) (i : Nat) (d : VerifierDraws)
    (hguard : ¬ Clobbers objectiveId sys (.run i v.checker d)) :
    Counting objectiveId required (sys.runNext v objectiveId i d) := by
  have hgoes := goesOn_goesOn v d (sys.runs i) sys.store
  have hmoves : CountMoves objectiveId required sys (sys.runNext v objectiveId i d) := by
    refine h.record (fun updated => (h.runs i).judged updated) (fun updated hc hmine => ?_)
      hgoes.objectives rfl
    by_contra hstale
    exact hguard ⟨⟨updated, hc, hmine⟩, hstale⟩
  refine h.atRun hmoves i (fun k hk => ⟨?_, ?_, rfl⟩) ⟨rfl, rfl⟩ ?_
  · exact Function.update_of_ne hk _ _
  · exact Function.update_of_ne hk _ _
  · have hheld := (h.runs i).follows hmoves.follows
    unfold CountSystem.runNext at hheld ⊢
    dsimp only at hheld ⊢
    rw [Function.update_self, Function.update_self]
    refine ⟨fun copy hmem => hheld.due copy (hgoes.due copy hmem), fun updated hmem => ?_⟩
    obtain ⟨objective, hdue, now, hcheck, hjudged⟩ := hgoes.judged updated hmem
    have hprogress := applyCheckResult_progress hcheck
    rw [hjudged]
    exact (hheld.due objective hdue).changed (check_ok v d now hcheck).1 hprogress.1 hprogress.2

/-- **A step of a call of the route that clobbers nothing.** -/
theorem Counting.callNext (h : Counting objectiveId required sys) (j : Nat) (now : String)
    (hguard : ¬ Clobbers objectiveId sys (.call j now)) :
    Counting objectiveId required (sys.callNext v objectiveId j now) := by
  have hmoves : CountMoves objectiveId required sys (sys.callNext v objectiveId j now) := by
    refine h.record (fun updated hc => ?_) (fun updated hc hmine => ?_)
      (resultCall_next_records now (sys.calls j) sys.store) rfl
    · have hheld := h.calls j
      cases hcall : sys.calls j with
      | recording written request =>
        rw [hcall] at hc hheld
        cases hc
        exact hheld
      | idle | listing | looking =>
        rw [hcall] at hc
        cases hc
    · by_contra hstale
      exact hguard ⟨⟨updated, hc, hmine⟩, hstale⟩
  refine h.atCall hmoves j (fun k hk => ⟨?_, ?_⟩) ⟨rfl, rfl, rfl⟩ ?_
  · exact Function.update_of_ne hk _ _
  · exact Function.update_of_ne hk _ _
  · have hheld := (h.calls j).follows hmoves.follows
    have hfollows := hmoves.follows
    generalize (sys.callNext v objectiveId j now).versioned objectiveId = W at hheld hfollows ⊢
    unfold CountSystem.callNext
    dsimp only
    rw [Function.update_self, Function.update_self]
    rcases resultCall_next_goto now (sys.calls j) sys.store with hidle |
      ⟨target, request, objective, hcall, hrow, hlooking⟩ | ⟨objective, request, hcall, hanswer⟩
    · rw [hidle]
      exact trivial
    · rw [hlooking, hcall]
      have hkey : objective.objectiveId = target := Table.key_of_get? hrow
      rw [← hkey] at hrow
      exact (h.readAt hrow).follows hfollows
    · rw [hanswer, hcall]
      rw [hcall] at hheld
      exact ReadAt.changed hheld rfl (applyConsoleResult_progress v.py objective request) rfl

/-- **Every step that clobbers nothing keeps the count.** -/
theorem Counting.step (h : Counting objectiveId required sys) {l : CountLabel}
    (hstep : Guarded (countStep v objectiveId) (fun sys l => ¬ Clobbers objectiveId sys l)
      sys l t) :
    Counting objectiveId required t := by
  obtain ⟨hguard, hallowed, rfl⟩ := hstep
  cases l with
  | start i d now limit =>
    refine h.atRun (h.still rfl rfl) i (fun k hk => ⟨?_, rfl, ?_⟩) ⟨rfl, rfl⟩ ?_
    · exact Function.update_of_ne hk _ _
    · exact Function.update_of_ne hk _ _
    · unfold CountSystem.after
      dsimp only
      rw [Function.update_self, Function.update_self]
      unfold CaseVerifier.start
      split
      · refine ⟨fun copy hmem => ?_, fun updated hmem => by cases hmem⟩
        exact h.readAt (Table.mem_rows_iff.1 (mem_listDue hmem))
      · exact ⟨fun copy hmem => (by cases hmem), fun updated hmem => by cases hmem⟩
  | run i checker d => exact h.runNext (v := { v with checker := checker }) i d hguard
  | receive j target request =>
    refine h.atCall (h.still rfl rfl) j (fun k hk => ⟨?_, rfl⟩) ⟨rfl, rfl, rfl⟩ ?_
    · exact Function.update_of_ne hk _ _
    · unfold CountSystem.after
      dsimp only
      rw [Function.update_self]
      exact trivial
  | call j now => exact h.callNext j now hguard
  | elsewhere after =>
    have hmoves := h.still (t := sys.after v objectiveId (.elsewhere after)) hallowed rfl
    exact ⟨hmoves.stored, hmoves.sound, fun i => (h.runs i).follows hmoves.follows,
      fun j => (h.calls j).follows hmoves.follows⟩

/-- Counting the results that were written is counting the passes at their end. -/
theorem Counting.exact (h : Counting objectiveId required sys) (hpos : 1 ≤ required) :
    CountedExactly objectiveId sys := by
  obtain ⟨objective, hobjective, rfl⟩ := h.stored
  have hvalue : objective.progress = (sys.results.map Prod.fst).foldl
      (Progress.after objective.requiredConsecutivePasses) .fresh := by
    refine Eq.trans ?_ h.sound.value
    unfold CountSystem.versioned
    rw [hobjective]
    rfl
  obtain ⟨hcount, hpass, hlast⟩ := foldl_progress hpos (sys.results.map Prod.fst)
  rw [← hvalue] at hcount hpass hlast
  refine ⟨⟨objective, hobjective, hcount, hpass, hlast⟩, ?_⟩
  intro i j before later result hij _ hlater
  rw [h.sound.seen j result later hlater]
  exact hij

end Invariant

/-- **Over every run of checks and verification results on a fresh objective in which no write
clobbers another result, the passes are counted exactly in every state.** -/
theorem counted_run {v : CaseVerifier} {objectiveId : String} {start : Store}
    (hfresh : FreshObjective objectiveId start) {labels : List CountLabel} {sys : CountSystem}
    (hrun : Run (Guarded (countStep v objectiveId) fun sys l => ¬ Clobbers objectiveId sys l)
      (CountSystem.quiet start) labels sys) : CountedExactly objectiveId sys := by
  obtain ⟨objective, hobjective, hcount, hstatus⟩ := hfresh
  have hprogress : (CountSystem.quiet start).versioned objectiveId = ⟨Progress.fresh, []⟩ := by
    unfold CountSystem.versioned CountSystem.quiet
    simp [hobjective, VerificationObjective.progress, hcount, hstatus, Progress.fresh]
  have hquiet : Counting objectiveId objective.requiredConsecutivePasses
      (CountSystem.quiet start) := by
    refine ⟨⟨objective, hobjective, rfl⟩, ?_, fun i => ?_, fun j => trivial⟩
    · rw [hprogress]
      exact .start _ _
    · exact ⟨fun copy hmem => (by cases hmem), fun updated hmem => by cases hmem⟩
  exact (hrun.invariant (fun _ _ _ h hstep => h.step hstep) hquiet).exact
    objective.requiredConsecutivePasses_pos

/-! ## A fail that a check overtakes -/

/-- An objective that needs two passes. -/
def twicePassing : VerificationObjective where
  objectiveId := "vo_1"
  caseId := "case_1"
  objectiveKey := "health"
  objectiveType := "health_endpoint"
  name := "service answers"
  requiredConsecutivePasses := 2
  createdAt := "2026-01-01T00:00:00+00:00"
  updatedAt := "2026-01-01T00:00:00+00:00"

def twiceStore : Store where
  verificationObjectives := Table.empty.put twicePassing

/-- The digests of the two requests below. -/
def requestPython : Python :=
  { clockPython with
    sha256 := fun text => if hasText "first" text then "aaaaaaaaaaaaaaaa" else "bbbbbbbbbbbbbbbb" }

def healthVerifier : CaseVerifier :=
  { clockVerifier with
    py := requestPython
    checker := defaultVerificationCheck requestPython }

/-- A verification result from its request to its record. -/
def consoleResult (j : Nat) (idempotencyKey : String) (status : VerificationStatus) :
    List CountLabel :=
  .receive j "vo_1" {
      idempotencyKey := idempotencyKey
      status := status } ::
    List.replicate 3 (.call j "2026-01-01T00:00:00+00:00")

/-- A step of a run whose check passes. -/
def healthStep : CountLabel :=
  .run 0 (defaultVerificationCheck requestPython) (drawsAt "2026-01-01T01:00:00+00:00")

/-- A pass, and then a fail while a run of the verifier is between its read and its write. -/
def failBetween : List CountLabel :=
  consoleResult 0 "first" .pass ++
    [.start 0 (drawsAt "2026-01-01T01:00:00+00:00") none 100, healthStep] ++
    consoleResult 1 "second" .fail ++ [healthStep]

/-- The same results one after the other. -/
def inTurn : List CountLabel :=
  consoleResult 0 "first" .pass ++ consoleResult 1 "second" .fail ++
    [.start 0 (drawsAt "2026-01-01T01:00:00+00:00") none 100, healthStep, healthStep]

def countedSystem (labels : List CountLabel) : CountSystem :=
  labels.foldl (CountSystem.after healthVerifier "vo_1") (CountSystem.quiet twiceStore)

def VerifierRun.isIdle : VerifierRun → Bool
  | .idle => true
  | _ => false

def ResultCall.isIdle : ResultCall → Bool
  | .idle => true
  | _ => false

theorem VerifierRun.eq_idle {c : VerifierRun} (h : c.isIdle = true) : c = .idle := by
  cases c <;> first | rfl | cases h

theorem ResultCall.eq_idle {c : ResultCall} (h : c.isIdle = true) : c = .idle := by
  cases c <;> first | rfl | cases h

/-- The labels that can be checked by evaluation. -/
def CountLabel.Scheduled (sys : CountSystem) : CountLabel → Bool
  | .start i _ _ _ => (sys.runs i).isIdle
  | .receive j _ _ => (sys.calls j).isIdle
  | .elsewhere _ => false
  | _ => true

theorem CountLabel.Scheduled.allowed {objectiveId : String} {sys : CountSystem} {l : CountLabel}
    (h : l.Scheduled sys = true) : l.Allowed objectiveId sys := by
  cases l with
  | start i d now limit => exact VerifierRun.eq_idle h
  | run i checker d => exact trivial
  | receive j target request => exact ResultCall.eq_idle h
  | call j now => exact trivial
  | elsewhere after => cases h

instance (objectiveId : String) (sys : CountSystem) (l : CountLabel) :
    Decidable (Clobbers objectiveId sys l) := by
  cases l <;> unfold Clobbers <;> infer_instance

/-- A run whose labels are checked by evaluation. -/
theorem run_scheduled (guard : CountSystem → CountLabel → Prop) {labels : List CountLabel}
    (h : Valid (fun sys l => l.Scheduled sys = true ∧ guard sys l)
      (CountSystem.after healthVerifier "vo_1") (CountSystem.quiet twiceStore) labels) :
    Run (Guarded (countStep healthVerifier "vo_1") guard) (CountSystem.quiet twiceStore) labels
      (countedSystem labels) :=
  (Run.of_valid h).carry (I := fun _ => True)
    (fun _ _ _ _ hstep =>
      ⟨trivial, hstep.1.2, CountLabel.Scheduled.allowed hstep.1.1, hstep.2⟩) trivial

theorem fresh_twiceStore : FreshObjective "vo_1" twiceStore := ⟨twicePassing, rfl, rfl, rfl⟩

/-- The same results one after the other are counted. -/
theorem counted_run_inTurn : CountedExactly "vo_1" (countedSystem inTurn) :=
  counted_run fresh_twiceStore (run_scheduled _ (by decide +kernel))

/-- **The check writes its pass over a fail it never saw: one pass after it counts as two.** -/
theorem not_countedExactly_failBetween :
    Run (countStep healthVerifier "vo_1") (CountSystem.quiet twiceStore) failBetween
        (countedSystem failBetween) ∧
      (countedSystem failBetween).results.map Prod.fst = [.pass, .fail, .pass] ∧
      ¬ CountedExactly "vo_1" (countedSystem failBetween) := by
  have hrun : Run (Guarded (countStep healthVerifier "vo_1") fun _ _ => True)
      (CountSystem.quiet twiceStore) failBetween (countedSystem failBetween) :=
    run_scheduled _ (by decide +kernel)
  have hresults : (countedSystem failBetween).results.map Prod.fst = [.pass, .fail, .pass] := by
    decide +kernel
  refine ⟨hrun.of_guarded, hresults, fun hcounted => ?_⟩
  obtain ⟨objective, hobjective, hcount, -⟩ := hcounted.counted
  have hprogress : ((countedSystem failBetween).store.verificationObjectives.get? "vo_1").map
      VerificationObjective.progress = some ⟨2, .pass⟩ := by decide +kernel
  rw [hobjective] at hprogress
  have htwo : objective.consecutivePassCount = 2 :=
    congrArg Progress.count (Option.some.inj hprogress)
  rw [hresults, htwo] at hcount
  exact absurd hcount (by decide)

end NocAgent.Cases
