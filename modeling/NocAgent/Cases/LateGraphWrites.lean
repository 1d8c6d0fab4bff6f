import NocAgent.Cases.FiringStatus

/-!
# Graph writes that come late

* `GraphWrite.status?` — the status a write of the graph gives its case.
* `StaysEnded` — a case that has ended has ended afterwards.
* `LateWrite` — a write with such a status gets to a case that has ended.
* `graphKeeps_run_iff` — the runs without a late write are those in which no graph write reopens
  a case.
-/

set_option autoImplicit false

namespace NocAgent.Cases

open Effects Effects.Action Keyed Lts

/-- **A case that has ended stays ended**, whatever its status becomes. -/
def StaysEnded (s t : Store) : Prop :=
  ∀ caseId case, s.atomicCase? caseId = some case → case.status ∈ TERMINAL_CASE_STATUSES →
    ∃ after, t.atomicCase? caseId = some after ∧ after.status ∈ TERMINAL_CASE_STATUSES

/-- The status a write gives its case. -/
def GraphWrite.status? (py : Python) : GraphWrite → Option CaseStatus
  | .summary payload => graphAuthored (summaryStatus py payload)
  | .fields payload => graphAuthored (fieldsStatus py payload)

/-- The case with a write. -/
def GraphWrite.applied (py : Python) (case : AtomicCaseProjection) (draws : GraphDraws) :
    GraphWrite → AtomicCaseProjection
  | .summary payload => summarizedCase py case payload draws.updatedAt
  | .fields payload => graphUpdatedCase py case payload draws

/-- The case and the content of a write that comes next. -/
def GraphWriter.writes? : GraphWriter → Option (String × GraphWrite)
  | .writing caseId item => some (caseId, item)
  | _ => none

/-- The next step writes a status to a case that has ended. -/
def LateWrite (py : Python) (sys : Traffic) : TrafficLabel → Prop
  | .write i _ =>
    ∃ next ∈ (sys.writers i).writes?, (next.2.status? py).isSome ∧
      (sys.store.cases.get? next.1).isSome ∧
      ∃ case ∈ sys.store.graphCase? next.1, case.status ∈ TERMINAL_CASE_STATUSES
  | _ => False

/-- A step of the graph reopens no case. -/
def GraphKeeps (sys : Traffic) : TrafficLabel → Traffic → Prop
  | .write _ _, t => StaysEnded sys.store t.store
  | _, _ => True

/-! ## The statuses of a write -/

section Statuses

variable (py : Python) (case : AtomicCaseProjection)

theorem graphAuthored_open {value : String} {status : CaseStatus}
    (h : graphAuthored value = some status) : status ∉ TERMINAL_CASE_STATUSES := by
  unfold graphAuthored at h
  split at h
  · cases h; decide
  · split at h
    · cases h; decide
    · split at h
      · cases h; decide
      · cases h

/-- The status of an ended case is kept, or replaced by another terminal one, unless the graph
authored it. -/
theorem caseStatusOf_ended_iff {value : String} {fallback : CaseStatus}
    (hended : fallback ∈ TERMINAL_CASE_STATUSES) :
    caseStatusOf value fallback ∈ TERMINAL_CASE_STATUSES ↔ graphAuthored value = none := by
  have hresolved : CaseStatus.resolved ∈ TERMINAL_CASE_STATUSES := by decide
  unfold caseStatusOf
  by_cases happroved : value = "approved"
  · subst happroved
    exact iff_of_true hresolved (by decide)
  rw [if_neg happroved]
  by_cases hdecided : value = "rejected" ∨ value = "finalized"
  · rw [if_pos hdecided]
    refine iff_of_true hresolved ?_
    rcases hdecided with rfl | rfl <;> decide
  rw [if_neg hdecided]
  cases hauthored : graphAuthored value with
  | some status => exact iff_of_false (graphAuthored_open hauthored) (by simp)
  | none =>
    refine iff_of_true ?_ rfl
    dsimp only
    split
    · decide
    · split
      · decide
      · split
        · decide
        · split
          · decide
          · exact hended

/-- An ended case is reopened exactly when the graph authored the status. -/
theorem applied_ended_iff (hended : case.status ∈ TERMINAL_CASE_STATUSES) (item : GraphWrite)
    (draws : GraphDraws) :
    (item.applied py case draws).status ∈ TERMINAL_CASE_STATUSES ↔ item.status? py = none := by
  cases item with
  | summary payload =>
    change (graphAuthored (summaryStatus py payload)).getD case.status ∈ _ ↔
      graphAuthored (summaryStatus py payload) = none
    cases hauthored : graphAuthored (summaryStatus py payload) with
    | some status => exact iff_of_false (graphAuthored_open hauthored) (by simp)
    | none => exact iff_of_true hended rfl
  | fields payload =>
    change (if fieldsStatus py payload ≠ "" then caseStatusOf (fieldsStatus py payload) case.status
      else case.status) ∈ _ ↔ graphAuthored (fieldsStatus py payload) = none
    split
    · exact caseStatusOf_ended_iff hended
    · rename_i hempty
      rw [not_not.1 hempty]
      exact iff_of_true hended (by decide)

theorem applied_caseId (item : GraphWrite) (draws : GraphDraws) :
    (item.applied py case draws).caseId = case.caseId := by
  cases item <;> rfl

end Statuses

/-! ## The steps of a writer -/

section Writes

variable {s t : Store}

theorem staysEnded_of_cases (h : t.cases = s.cases) : StaysEnded s t := by
  intro caseId case hget hended
  refine ⟨case, ?_, hended⟩
  unfold Store.atomicCase? at hget ⊢
  rw [h]
  exact hget

theorem StaysEnded.trans {u : Store} (h : StaysEnded s t) (h' : StaysEnded t u) :
    StaysEnded s u := by
  intro caseId case hget hended
  obtain ⟨after, hafter, hended⟩ := h caseId case hget hended
  exact h' caseId after hafter hended

theorem staysEnded_put {case : AtomicCaseProjection} (written : AtomicCaseProjection)
    (hstored : s.atomicCase? case.caseId = some case) (hid : written.caseId = case.caseId)
    (hcases : t.cases = s.cases.put (.atomic written)) :
    StaysEnded s t ↔ (case.status ∈ TERMINAL_CASE_STATUSES →
      written.status ∈ TERMINAL_CASE_STATUSES) :=
  atomicCases_put_iff (fun case => case.status ∈ TERMINAL_CASE_STATUSES)
    (fun _ after => after.status ∈ TERMINAL_CASE_STATUSES) (fun _ h => h) written hstored hid hcases

/-- Linking ends the child and leaves the status of the parent. -/
theorem staysEnded_link (call : LinkCall) : StaysEnded s (call.run s).2 := by
  cases hlink : s.linkable? call with
  | none => exact staysEnded_of_cases (congrArg Store.cases (linkCall_refused hlink))
  | some pair =>
    obtain ⟨child, parent⟩ := pair
    obtain ⟨hids, hchild, hparent, -⟩ := linkable?_eq_some.1 hlink
    have hchildKey := caseId_of_atomicCase? hchild
    have hparentKey := caseId_of_atomicCase? hparent
    rw [← hchildKey] at hchild hids
    rw [← hparentKey] at hparent hids
    let linked := linkedChild child parent call.reason call.evidenceRefs call.now
    let middle : Store := { s with cases := s.cases.put (.atomic linked) }
    have hended : CaseStatus.linked ∈ TERMINAL_CASE_STATUSES := by decide
    have hfirst : StaysEnded s middle := (staysEnded_put linked hchild rfl rfl).2 fun _ => hended
    have hstill : middle.atomicCase? parent.caseId = some parent := by
      rw [atomicCase?_put rfl, if_neg (show linked.caseId ≠ parent.caseId from hids)]
      exact hparent
    have hsecond : StaysEnded middle (call.run s).2 :=
      (staysEnded_put (linkedParent parent call.now) hstill rfl (linkCall_cases hlink)).2 fun h => h
    exact hfirst.trans hsecond

/-- The part under the guard writes the case it finds, or raises. -/
theorem guarded_run (py : Python) (caseId : String) (item : GraphWrite) (draws : GraphDraws) :
    (item.guarded py caseId draws s).2.cases =
      match s.graphCase? caseId with
      | some case => s.cases.put (.atomic (item.applied py case draws))
      | none => s.cases := by
  cases hcase : s.graphCase? caseId with
  | none =>
    cases item with
    | summary payload =>
      have hguarded : (GraphWrite.summary payload).guarded py caseId draws =
          writeSummary py caseId payload draws := rfl
      rw [hguarded, writeSummary, requireGraphCase_missing hcase]
    | fields payload =>
      have hguarded : (GraphWrite.fields payload).guarded py caseId draws =
          (writeCaseUpdate py caseId payload draws >>= fun _ => pure ()) := rfl
      rw [hguarded, bind_pure_state, writeCaseUpdate, requireGraphCase_missing hcase]
  | some case =>
    cases item with
    | summary payload =>
      obtain ⟨ev, ix, hrun⟩ := writeSummary_run py hcase payload draws
      have hguarded : (GraphWrite.summary payload).guarded py caseId draws =
          writeSummary py caseId payload draws := rfl
      rw [hguarded, hrun]
      rfl
    | fields payload =>
      obtain ⟨ev, ix, hrun⟩ := writeCaseUpdate_run py hcase payload draws
      have hguarded : (GraphWrite.fields payload).guarded py caseId draws =
          (writeCaseUpdate py caseId payload draws >>= fun _ => pure ()) := rfl
      rw [hguarded, bind_pure_state, hrun]
      rfl

/-- The part under the guard reopens a case exactly when it is a late write. -/
theorem staysEnded_guarded (py : Python) (caseId : String) (item : GraphWrite)
    (draws : GraphDraws) :
    StaysEnded s (caseWriteGuard caseId (item.guarded py caseId draws) s).2 ↔
      ¬ ((item.status? py).isSome ∧ (s.cases.get? caseId).isSome ∧
        ∃ case ∈ s.graphCase? caseId, case.status ∈ TERMINAL_CASE_STATUSES) := by
  rw [caseWriteGuard_run]
  by_cases hknown : (s.cases.get? caseId).isSome
  · rw [if_pos hknown]
    have hrun := guarded_run (s := s) py caseId item draws
    cases hcase : s.graphCase? caseId with
    | none =>
      rw [hcase] at hrun
      refine iff_of_true (staysEnded_of_cases hrun) ?_
      rintro ⟨-, -, case, hnone, -⟩
      cases hnone
    | some case =>
      rw [hcase] at hrun
      rw [staysEnded_put _ (graphCase?_stored hcase) (applied_caseId py case item draws) hrun]
      by_cases hended : case.status ∈ TERMINAL_CASE_STATUSES
      · have hiff := applied_ended_iff py case hended item draws
        constructor
        · rintro h ⟨hsome, -⟩
          rw [hiff.1 (h hended)] at hsome
          cases hsome
        · intro h _
          refine hiff.2 (Option.not_isSome_iff_eq_none.1 fun hsome => ?_)
          exact h ⟨hsome, hknown, case, rfl, hended⟩
      · refine iff_of_true (fun h => absurd h hended) ?_
        rintro ⟨-, -, other, hother, h⟩
        cases hother
        exact hended h
  · rw [if_neg hknown]
    exact iff_of_true (staysEnded_of_cases rfl) fun h => hknown h.2.1

end Writes

section Steps

variable {py : Python} {policy : CasePolicy}

theorem lookup_state (lookup : Lookup) (s : Store) : (lookup.next s).2 = s := by
  cases lookup with
  | found caseId => rfl
  | direct text =>
    unfold Lookup.next getCase
    dsimp only
    rw [peek_bind_run]
    cases (s.cases.get? text).bind CaseProjection.atomic? <;> rfl
  | byAlias text aliasTypes =>
    cases aliasTypes with
    | nil => rfl
    | cons aliasType rest =>
      unfold Lookup.next
      dsimp only
      rw [bind_ok (resolveAlias_run aliasType text s)]
      cases truthyId (s.resolves? aliasType text) <;> rfl

/-- **A step of the graph reopens a case exactly when it is a late write.** -/
theorem graphKeeps_iff {sys t : Traffic} {l : TrafficLabel}
    (hstep : trafficStep py policy sys l t) : GraphKeeps sys l t ↔ ¬ LateWrite py sys l := by
  obtain ⟨-, rfl⟩ := hstep
  cases l with
  | receive | observe | begin | link | resolve | append => exact iff_of_true trivial fun h => h
  | write i draws =>
    change StaysEnded sys.store ((sys.writers i).next py draws sys.store).2 ↔ _
    unfold LateWrite
    dsimp only
    cases hc : sys.writers i with
    | writing caseId item =>
      have hnext : ((GraphWriter.writing caseId item).next py draws sys.store).2 =
          (caseWriteGuard caseId (item.guarded py caseId draws.toGraphDraws) sys.store).2 :=
        bind_pure_state _ (fun _ => GraphWriter.idle) sys.store
      rw [hnext, staysEnded_guarded]
      refine not_congr ⟨fun h => ⟨(caseId, item), rfl, h⟩, ?_⟩
      rintro ⟨_, hsame, h⟩
      cases hsame
      exact h
    | linking child parent reason evidenceRefs =>
      refine iff_of_true ?_ (by rintro ⟨_, h, -⟩; cases h)
      have hlink := staysEnded_link (s := sys.store) ⟨child, parent, safeString py 500 (.str reason),
        (evidenceRefs.take 20).map (safeString py 160), draws.linkedAt, draws.link⟩
      have hnext := bind_pure_state (linkChildCase child parent (safeString py 500 (.str reason))
        ((evidenceRefs.take 20).map (safeString py 160)) draws.linkedAt draws.link)
        (fun _ => GraphWriter.idle) sys.store
      unfold GraphWriter.next
      dsimp only
      rw [hnext]
      exact hlink
    | idle =>
      exact iff_of_true (staysEnded_of_cases rfl) (by rintro ⟨_, h, -⟩; cases h)
    | finding incidentId item lookup =>
      refine iff_of_true (staysEnded_of_cases ?_) (by rintro ⟨_, h, -⟩; cases h)
      unfold GraphWriter.next
      dsimp only
      rw [bind_pure_state, lookup_state]
    | loading caseId item =>
      refine iff_of_true (staysEnded_of_cases ?_) (by rintro ⟨_, h, -⟩; cases h)
      unfold GraphWriter.next getCase
      simp only [peek_bind_run, orRaise_bind_run]
      split <;> rfl
    | findingChild parentCaseId reason evidenceRefs lookup =>
      refine iff_of_true (staysEnded_of_cases ?_) (by rintro ⟨_, h, -⟩; cases h)
      unfold GraphWriter.next
      dsimp only
      rw [bind_pure_state, lookup_state]
    | findingParent child reason evidenceRefs lookup =>
      refine iff_of_true (staysEnded_of_cases ?_) (by rintro ⟨_, h, -⟩; cases h)
      unfold GraphWriter.next
      dsimp only
      rw [bind_pure_state, lookup_state]

/-- **The runs without a late write are those in which no graph write reopens a case.** -/
theorem graphKeeps_run_iff (sys t : Traffic) (ls : List TrafficLabel) :
    Run (Guarded (trafficStep py policy) fun sys l => ¬ LateWrite py sys l) sys ls t ↔
      Run (Doing (trafficStep py policy) GraphKeeps) sys ls t := by
  have hstep : ∀ s l t, trafficStep py policy s l t → (GraphKeeps s l t ↔ ¬ LateWrite py s l) :=
    fun _ _ _ h => graphKeeps_iff h
  exact Run.guarded_iff_doing hstep

end Steps

/-! ## An approval that is prepared while the alert clears -/

/-- What the graph writes when it waits for an approval. -/
def waitingStamp : GraphWrite :=
  .fields [("status", .str "waiting_approval"), ("thread_id", .str "thread_1"),
    ("diagnostic_summary", .str "disk full")]

def stampDraws : WriterDraws where
  resolvedAt := "2026-01-01T02:00:00+00:00"
  updatedAt := "2026-01-01T02:00:00+00:00"
  event := ⟨"evt_stamp", "2026-01-01T02:00:00+00:00"⟩
  linkedAt := "2026-01-01T02:00:00+00:00"
  link := {
    aliasId := fun id => id
    childEventId := "evt_child"
    parentEventId := "evt_parent" }

/-- The alert fires, the graph finds its case, and before it writes the alert clears. -/
def clearedMeanwhile : List TrafficLabel :=
  observing (alertCall "obs_1" 1 .firing "a" "" "2026-01-01T01:00:00+00:00") 4 ++
    ([.begin 0 (.write "case_1" waitingStamp), .write 0 stampDraws, .write 0 stampDraws] ++
    observing (alertCall "obs_2" 2 .clean "a" "" "2026-01-01T02:00:00+00:00") 4)

def clearedTraffic : Traffic :=
  clearedMeanwhile.foldl (Traffic.after (tablePython []) {}) (.quiet {})

theorem not_graphKeeps_cleared :
    Run (trafficStep (tablePython []) {}) (.quiet {}) clearedMeanwhile clearedTraffic ∧
    ¬ GraphKeeps clearedTraffic (.write 0 stampDraws)
      (clearedTraffic.after (tablePython []) {} (.write 0 stampDraws)) := by
  have hstep : trafficStep (tablePython []) {} clearedTraffic (.write 0 stampDraws)
      (clearedTraffic.after (tablePython []) {} (.write 0 stampDraws)) := ⟨trivial, rfl⟩
  have hlate : LateWrite (tablePython []) clearedTraffic (.write 0 stampDraws) := by
    change ∃ next ∈ (clearedTraffic.writers 0).writes?,
      (next.2.status? (tablePython [])).isSome ∧ (clearedTraffic.store.cases.get? next.1).isSome ∧
        ∃ case ∈ clearedTraffic.store.graphCase? next.1, case.status ∈ TERMINAL_CASE_STATUSES
    decide +kernel
  exact ⟨Run.of_valid (by decide +kernel), fun h => (graphKeeps_iff hstep).1 h hlate⟩

end NocAgent.Cases
