import NocAgent.Cases.IndependentMark
import NocAgent.Cases.OperatorDecisions

/-!
# The child count of a stored meta case

The count of a meta case is written by the validator of its constructor; children are appended to
the constructed projection, and the store copies it without validation.

* `Store.Returned` — the projections that `get_case` and `list_cases` return.
* `MetaCaseCall.Attaches` — the call appends a child.
* `countsCurrent_run_iff` — over every run of calls, the returned projections have current counts
  and no child twice in every state exactly when no call attaches a child.
-/

set_option autoImplicit false

namespace NocAgent.Cases

open Effects Effects.Action Keyed Lts

/-- The count is that of the children, and no child is listed twice. -/
structure MetaCaseProjection.CountCurrent (case : MetaCaseProjection) : Prop where
  count : case.childCaseCount = case.childCaseIds.length
  nodup : case.childCaseIds.Nodup

/-- A projection that is validated again, as one read from the database is, has a current count. -/
theorem fillCounts_countCurrent {case : MetaCaseProjection} (h : case.childCaseIds.Nodup) :
    case.fillCounts.CountCurrent := ⟨rfl, h⟩

/-! ## Reading -/

/-- The field `kind`. -/
def CaseProjection.kind : CaseProjection → String
  | .atomic _ => "atomic"
  | .storm _ => "meta"

def CaseProjection.status : CaseProjection → CaseStatus
  | .atomic case => case.status
  | .storm case => case.status

/-- `list_cases(kind=..., status=..., limit=limit)`; the empty text stands for `None`. -/
def Store.listCasesOf (s : Store) (kind status : String) (limit : Int) : List CaseProjection :=
  let cases := s.cases.rows.filter fun case =>
    (kind = "" || case.kind = kind) && (status = "" || case.status.text = status)
  (cases.insertionSort fun a b => b.updatedAt ≤ a.updatedAt).take (max 0 limit).toNat

/-- The meta case is what a read returns. -/
def Store.Returned (s : Store) (metaCase : MetaCaseProjection) : Prop :=
  (∃ caseId, (getCase caseId s).1 = .ok (some (.storm metaCase))) ∨
    ∃ kind status limit, .storm metaCase ∈ s.listCasesOf kind status limit

/-- Every meta case that a read returns has a current count and no child twice. -/
def Store.CountsCurrent (s : Store) : Prop :=
  ∀ metaCase, s.Returned metaCase → metaCase.CountCurrent

/-- What the stored meta cases have in common. -/
def Store.MetaCases (Q : MetaCaseProjection → Prop) (s : Store) : Prop :=
  ∀ metaCaseId metaCase, s.metaCase? metaCaseId = some metaCase → Q metaCase

section Reading

variable {s : Store}

/-- The reads return what is stored. -/
theorem returned_iff {metaCase : MetaCaseProjection} :
    s.Returned metaCase ↔ s.metaCase? metaCase.caseId = some metaCase := by
  constructor
  · rintro (⟨caseId, hget⟩ | ⟨kind, status, limit, hlist⟩)
    · have hget : s.cases.get? caseId = some (.storm metaCase) := Except.ok.inj hget
      have hmeta : s.metaCase? caseId = some metaCase := metaCase?_eq_some.2 hget
      rwa [caseId_of_metaCase? hmeta]
    · have hmem := List.mem_of_mem_take hlist
      rw [List.mem_insertionSort] at hmem
      exact metaCase?_eq_some.2 (Table.mem_rows_iff.1 (List.mem_filter.1 hmem).1)
  · intro hmeta
    refine Or.inl ⟨metaCase.caseId, ?_⟩
    exact congrArg Except.ok (metaCase?_eq_some.1 hmeta)

theorem countsCurrent_iff :
    s.CountsCurrent ↔ s.MetaCases MetaCaseProjection.CountCurrent := by
  unfold Store.CountsCurrent Store.MetaCases
  simp only [returned_iff]
  constructor
  · intro h metaCaseId metaCase hmeta
    refine h metaCase ?_
    rwa [caseId_of_metaCase? hmeta]
  · exact fun h metaCase => h metaCase.caseId metaCase

end Reading

/-! ## The calls -/

inductive MetaCaseCall where
  | create (request : MetaCaseRequest) (draws : MetaCaseDraws)
  | attach (metaCaseId childCaseId reason : String) (confidence : PyFloat) (actorId : String)
      (independentActionRequired : Bool) (draw : Draw)
  | detach (metaCaseId childCaseId reason actorId : String) (draw : Draw)

/-- The state that a call leaves, whether it returns or raises. -/
def MetaCaseCall.next (py : Python) (policy : CasePolicy) (s : Store) : MetaCaseCall → Store
  | .create request draws => (createMetaCase py policy request draws s).2
  | .attach metaCaseId childCaseId reason confidence actorId independentActionRequired draw =>
    (attachChild policy metaCaseId childCaseId reason confidence actorId
      independentActionRequired draw s).2
  | .detach metaCaseId childCaseId reason actorId draw =>
    (detachChild policy metaCaseId childCaseId reason actorId draw s).2

/-- New ids are new. -/
def MetaCaseCall.Allowed (s : Store) : MetaCaseCall → Prop
  | .create _ draws => s.cases.get? draws.metaCaseId = none
  | _ => True

/-- The call attaches a child: a stored case that no other active meta case holds, to a stored meta
case, or as the first child of a new one. -/
def MetaCaseCall.Attaches (s : Store) : MetaCaseCall → Prop
  | .create request draws =>
    request.Valid ∧ ∃ caseId ∈ request.childCaseIds.head?, s.Joins draws.metaCaseId caseId
  | .attach metaCaseId childCaseId .. =>
    (s.metaCase? metaCaseId).isSome = true ∧ s.Joins metaCaseId childCaseId
  | .detach .. => False

def metaCaseStep (py : Python) (policy : CasePolicy) (s : Store) (call : MetaCaseCall)
    (t : Store) : Prop := call.Allowed s ∧ t = call.next py policy s

/-! ## What the calls write -/

section Writing

variable {Q : MetaCaseProjection → Prop} {s t : Store} {metaCase metaCase' : MetaCaseProjection}
  {child child' : AtomicCaseProjection}

theorem Store.MetaCases.put (h : s.MetaCases Q) (hnew : Q metaCase)
    (hcases : t.cases = s.cases.put (.storm metaCase)) : t.MetaCases Q := by
  intro key found hfound
  have hput := metaCase?_put_storm s metaCase key
  unfold Store.metaCase? at hput hfound
  rw [hcases, hput] at hfound
  split at hfound
  · cases hfound
    exact hnew
  · exact h key found hfound

theorem Rewritten.metaCases (h : Rewritten s t metaCase metaCase' child child')
    (hs : s.MetaCases Q) (hnew : Q metaCase') : t.MetaCases Q := by
  intro key found hfound
  rw [h.metaCase?] at hfound
  split at hfound
  · cases hfound
    exact hnew
  · exact hs key found hfound

end Writing

section Keeping

variable {Q : MetaCaseProjection → Prop} (policy : CasePolicy)

/-- An attachment keeps what one more child keeps. -/
theorem attachChild_metaCases (hQ : ∀ metaCase child now, Q metaCase →
      Q (withChild policy metaCase child now)) (metaCaseId childCaseId reason : String)
    (confidence : PyFloat) (actorId : String) (independentActionRequired : Bool) (draw : Draw) :
    Keeps (Store.MetaCases Q) (attachChild policy metaCaseId childCaseId reason confidence actorId
      independentActionRequired draw) := by
  intro s hs
  rcases h : s.attachable? metaCaseId childCaseId with _ | ⟨metaCase, child⟩
  · obtain ⟨e, hrun⟩ := attachChild_refused policy reason confidence actorId
      independentActionRequired draw h
    rwa [hrun]
  · obtain ⟨result, t, hrun, hwritten⟩ := attachChild_written policy reason confidence actorId
      independentActionRequired draw h
    rw [hrun]
    exact hwritten.metaCases hs (hQ metaCase child _ (hs _ _ hwritten.stored))

theorem detachChild_metaCases (hQ : ∀ metaCase childCaseId now, Q metaCase →
      Q (withoutChild policy metaCase childCaseId now))
    (metaCaseId childCaseId reason actorId : String) (draw : Draw) :
    Keeps (Store.MetaCases Q)
      (detachChild policy metaCaseId childCaseId reason actorId draw) := by
  intro s hs
  rcases hmeta : s.metaCase? metaCaseId with _ | metaCase
  · obtain ⟨e, hrun⟩ := detachChild_refused policy reason actorId draw (Or.inl hmeta)
    rwa [hrun]
  rcases hchild : s.atomicCase? childCaseId with _ | child
  · obtain ⟨e, hrun⟩ := detachChild_refused policy reason actorId draw (Or.inr hchild)
    rwa [hrun]
  obtain ⟨result, t, hrun, hwritten⟩ := detachChild_written policy reason actorId draw hmeta hchild
  rw [hrun]
  exact hwritten.metaCases hs (hQ metaCase _ _ (hs _ _ hwritten.stored))

end Keeping

/-! ## One call -/

/-- The count of a stored meta case is that of its construction. -/
structure MetaCaseProjection.CountUnset (case : MetaCaseProjection) : Prop where
  count : case.childCaseCount = 0
  nodup : case.childCaseIds.Nodup

/-- The meta case has no children. -/
def MetaCaseProjection.Childless (case : MetaCaseProjection) : Prop := case.childCaseIds = []

section Steps

variable {py : Python} {policy : CasePolicy} {s t : Store}

/-- With the count that was constructed, only an empty list of children is counted right. -/
theorem MetaCaseProjection.CountUnset.current_iff {case : MetaCaseProjection}
    (h : case.CountUnset) : case.CountCurrent ↔ case.Childless := by
  constructor
  · intro hcurrent
    have hlength := hcurrent.count
    rw [h.count] at hlength
    exact List.length_eq_zero_iff.1 hlength.symm
  · intro hchildless
    refine ⟨?_, h.nodup⟩
    rw [h.count, show case.childCaseIds = [] from hchildless]
    rfl

theorem countsCurrent_iff_childless (hs : s.MetaCases MetaCaseProjection.CountUnset) :
    s.CountsCurrent ↔ s.MetaCases MetaCaseProjection.Childless := by
  rw [countsCurrent_iff]
  unfold Store.MetaCases
  refine forall₂_congr fun metaCaseId metaCase => forall_congr' fun hmeta => ?_
  exact (hs metaCaseId metaCase hmeta).current_iff

theorem withChild_countUnset {metaCase : MetaCaseProjection} (h : metaCase.CountUnset)
    (child : AtomicCaseProjection) (now : String) :
    (withChild policy metaCase child now).CountUnset := by
  refine ⟨h.count, ?_⟩
  unfold withChild
  dsimp only
  split
  · exact h.nodup
  · rename_i hnew
    rw [List.nodup_append]
    refine ⟨h.nodup, List.nodup_singleton _, fun a ha b hb hab => hnew ?_⟩
    rwa [← List.mem_singleton.1 hb, ← hab]

theorem withoutChild_countUnset {metaCase : MetaCaseProjection} (h : metaCase.CountUnset)
    (childCaseId now : String) : (withoutChild policy metaCase childCaseId now).CountUnset :=
  ⟨h.count, h.nodup.filter _⟩

/-- A meta case is constructed without children. -/
theorem newMetaCase_countUnset {request : MetaCaseRequest} {fingerprint : String}
    {draws : MetaCaseDraws} {metaCase : MetaCaseProjection}
    (h : newMetaCase policy request fingerprint draws = .ok metaCase) : metaCase.CountUnset := by
  unfold newMetaCase at h
  dsimp only at h
  split at h
  · cases h
  · split at h
    · cases h
    · cases h
      exact ⟨rfl, List.nodup_nil⟩

/-- **Every call leaves the counts as they were constructed and lists no child twice.** -/
theorem metaCaseStep_countUnset {call : MetaCaseCall}
    (hs : s.MetaCases MetaCaseProjection.CountUnset) (h : metaCaseStep py policy s call t) :
    t.MetaCases MetaCaseProjection.CountUnset := by
  obtain ⟨-, rfl⟩ := h
  cases call with
  | create request draws =>
    change (createMetaCase py policy request draws s).2.MetaCases _
    rcases createMetaCase_cases policy py request draws s with ⟨e, fingerprint, -, hstate⟩ |
      ⟨fingerprint, metaCase, u, hnew, hput, hstate⟩
    · rwa [hstate]
    · rw [hstate]
      refine Keeps.forEach (fun child => ?_) _ u (hs.put (newMetaCase_countUnset hnew) hput)
      exact attachChild_metaCases policy (fun _ child now h => withChild_countUnset h child now)
        _ _ _ _ _ _ _
  | attach metaCaseId childCaseId reason confidence actorId independentActionRequired draw =>
    exact attachChild_metaCases policy (fun _ child now h => withChild_countUnset h child now)
      _ _ _ _ _ _ _ s hs
  | detach metaCaseId childCaseId reason actorId draw =>
    exact detachChild_metaCases policy (fun _ id now h => withoutChild_countUnset h id now)
      _ _ _ _ _ s hs

/-- The stored meta case has a child. -/
def Store.HasChild (metaCaseId : String) (s : Store) : Prop :=
  ∃ metaCase, s.metaCase? metaCaseId = some metaCase ∧ metaCase.childCaseIds ≠ []

theorem Store.HasChild.not_childless {metaCaseId : String} (h : s.HasChild metaCaseId) :
    ¬ s.MetaCases MetaCaseProjection.Childless := by
  obtain ⟨metaCase, hmeta, hne⟩ := h
  exact fun hs => hne (hs _ _ hmeta)

theorem withChild_ne_nil (metaCase : MetaCaseProjection) (child : AtomicCaseProjection)
    (now : String) : (withChild policy metaCase child now).childCaseIds ≠ [] := by
  unfold withChild
  dsimp only
  split
  · rename_i hmem
    exact List.ne_nil_of_mem hmem
  · simp

variable (policy) in
/-- An attachment that is not refused leaves a meta case with a child. -/
theorem attachChild_hasChild {metaCaseId childCaseId : String} (reason : String)
    (confidence : PyFloat) (actorId : String) (independentActionRequired : Bool) (draw : Draw)
    (hmeta : (s.metaCase? metaCaseId).isSome = true) (hjoins : s.Joins metaCaseId childCaseId) :
    ∃ result t, attachChild policy metaCaseId childCaseId reason confidence actorId
      independentActionRequired draw s = (.ok result, t) ∧ t.HasChild metaCaseId := by
  obtain ⟨⟨metaCase, child⟩, h⟩ := attachable?_isSome.2 ⟨hmeta, hjoins⟩
  obtain ⟨result, t, hrun, hwritten⟩ := attachChild_written policy reason confidence actorId
    independentActionRequired draw h
  refine ⟨result, t, hrun, withChild policy metaCase child draw.now, ?_,
    withChild_ne_nil metaCase child draw.now⟩
  rw [hwritten.metaCase?, caseId_of_metaCase? (attachable?_eq_some.1 h).1, if_pos rfl]

/-- Later attachments do not take the children away. -/
theorem attachChild_keeps_hasChild (metaCaseId other childCaseId reason : String)
    (confidence : PyFloat) (actorId : String) (independentActionRequired : Bool) (draw : Draw) :
    Keeps (Store.HasChild metaCaseId) (attachChild policy other childCaseId reason confidence
      actorId independentActionRequired draw) := by
  intro s hs
  rcases h : s.attachable? other childCaseId with _ | ⟨metaCase, child⟩
  · obtain ⟨e, hrun⟩ := attachChild_refused policy reason confidence actorId
      independentActionRequired draw h
    rwa [hrun]
  · obtain ⟨result, t, hrun, hwritten⟩ := attachChild_written policy reason confidence actorId
      independentActionRequired draw h
    obtain ⟨found, hfound, hne⟩ := hs
    rw [hrun]
    by_cases hkey : metaCaseId = metaCase.caseId
    · refine ⟨withChild policy metaCase child draw.now, ?_, withChild_ne_nil _ _ _⟩
      rw [hwritten.metaCase?, if_pos hkey]
    · refine ⟨found, ?_, hne⟩
      rw [hwritten.metaCase?, if_neg hkey, hfound]

/-- An attachment leaves every meta case without children exactly when it is refused. -/
theorem attachChild_childless_iff (hs : s.MetaCases MetaCaseProjection.Childless)
    (metaCaseId childCaseId reason : String) (confidence : PyFloat) (actorId : String)
    (independentActionRequired : Bool) (draw : Draw) :
    (attachChild policy metaCaseId childCaseId reason confidence actorId
        independentActionRequired draw s).2.MetaCases MetaCaseProjection.Childless ↔
      ¬ ((s.metaCase? metaCaseId).isSome = true ∧ s.Joins metaCaseId childCaseId) := by
  by_cases hattached : (s.metaCase? metaCaseId).isSome = true ∧ s.Joins metaCaseId childCaseId
  · obtain ⟨result, t, hrun, hchild⟩ := attachChild_hasChild policy reason confidence
      actorId independentActionRequired draw hattached.1 hattached.2
    rw [hrun]
    exact iff_of_false hchild.not_childless (not_not.2 hattached)
  · have hnone : s.attachable? metaCaseId childCaseId = none := by
      rw [← attachable?_isSome] at hattached
      exact Option.eq_none_iff_forall_ne_some.2 fun found hfound => hattached ⟨found, hfound⟩
    obtain ⟨e, hrun⟩ := attachChild_refused policy reason confidence actorId
      independentActionRequired draw hnone
    rw [hrun]
    exact iff_of_true hs hattached

/-- A new meta case stays without children exactly when there is none to attach or the first one is
refused. -/
theorem createMetaCase_childless_iff (hs : s.MetaCases MetaCaseProjection.Childless)
    (request : MetaCaseRequest) (draws : MetaCaseDraws)
    (hfresh : s.cases.get? draws.metaCaseId = none) :
    (createMetaCase py policy request draws s).2.MetaCases MetaCaseProjection.Childless ↔
      ¬ (request.Valid ∧ ∃ caseId ∈ request.childCaseIds.head?,
        s.Joins draws.metaCaseId caseId) := by
  rcases createMetaCase_cases policy py request draws s with ⟨e, fingerprint, hnew, hstate⟩ |
    ⟨fingerprint, metaCase, u, hnew, hput, hstate⟩
  · rw [hstate]
    refine iff_of_true hs fun h => ?_
    obtain ⟨metaCase, hok⟩ := (newMetaCase_ok_iff policy request fingerprint draws).2 h.1
    rw [hnew] at hok
    cases hok
  · have hvalid : request.Valid :=
      (newMetaCase_ok_iff policy request fingerprint draws).1 ⟨metaCase, hnew⟩
    obtain ⟨hid, hchildren, -⟩ := newMetaCase_ok policy hnew
    have hu : u.MetaCases MetaCaseProjection.Childless := hs.put hchildren hput
    have hmeta : ∀ key, u.metaCase? key =
        if key = metaCase.caseId then some metaCase else s.metaCase? key := by
      intro key
      rw [← metaCase?_put_storm s metaCase key]
      unfold Store.metaCase?
      rw [hput]
    have hstored : (u.metaCase? draws.metaCaseId).isSome = true := by
      rw [hmeta, if_pos hid.symm]
      rfl
    have hsame : ∀ caseId, u.Joins draws.metaCaseId caseId ↔ s.Joins draws.metaCaseId caseId := by
      intro caseId
      refine joins_congr draws.metaCaseId ?_ fun key hkey => by rw [hmeta, if_neg (by rwa [hid])]
      rw [← hid] at hfresh
      rw [← atomicCase?_put_storm hfresh]
      unfold Store.atomicCase?
      rw [hput]
    rw [hstate]
    unfold attachAll
    rcases hlist : request.childCaseIds with _ | ⟨first, rest⟩
    · simpa [forEach] using hu
    · simp only [List.head?_cons, Option.mem_def, Option.some.injEq, exists_eq_left', hvalid,
        true_and]
      rw [List.zipIdx_cons, forEach]
      by_cases hjoins : s.Joins draws.metaCaseId first
      · obtain ⟨result, v, hrun, hchild⟩ := attachChild_hasChild policy
          request.correlationReason request.correlationConfidence request.actorId false
          (draws.attached 0) hstored ((hsame first).2 hjoins)
        rw [bind_ok hrun, bind_pure_state]
        refine iff_of_false (Store.HasChild.not_childless (?_ : Store.HasChild draws.metaCaseId _))
          (not_not.2 hjoins)
        exact Keeps.forEach (fun child => attachChild_keeps_hasChild _ _ _ _ _ _ _ _) _ v hchild
      · rcases attachChild_joins policy first request.correlationReason
          request.correlationConfidence request.actorId (draws.attached 0) hstored with
          ⟨-, e, hrun⟩ | ⟨hattached, -⟩
        · rw [bind_error hrun]
          exact iff_of_true hu hjoins
        · exact absurd ((hsame first).1 hattached) hjoins

/-- **A call leaves current counts exactly when it attaches no child.** -/
theorem metaCaseStep_countsCurrent_iff {call : MetaCaseCall}
    (hs : s.MetaCases MetaCaseProjection.CountUnset) (hcurrent : s.CountsCurrent)
    (h : metaCaseStep py policy s call t) : t.CountsCurrent ↔ ¬ call.Attaches s := by
  rw [countsCurrent_iff_childless hs] at hcurrent
  rw [countsCurrent_iff_childless (metaCaseStep_countUnset hs h)]
  obtain ⟨hallowed, rfl⟩ := h
  cases call with
  | create request draws => exact createMetaCase_childless_iff hcurrent request draws hallowed
  | attach metaCaseId childCaseId reason confidence actorId independentActionRequired draw =>
    exact attachChild_childless_iff hcurrent _ _ _ _ _ _ _
  | detach metaCaseId childCaseId reason actorId draw =>
    refine iff_of_true (detachChild_metaCases policy (fun _ _ _ h => ?_) _ _ _ _ _ s hcurrent) id
    unfold MetaCaseProjection.Childless withoutChild at *
    rw [h]
    rfl

end Steps

/-! ## Runs -/

section Runs

variable {py : Python} {policy : CasePolicy} {s t : Store} {calls : List MetaCaseCall}

/-- No child is listed twice, and re-validated projections have current counts. -/
theorem validated_run (hs : s.MetaCases fun _ => False)
    (hrun : Run (metaCaseStep py policy) s calls t) {metaCase : MetaCaseProjection}
    (h : t.Returned metaCase) : metaCase.fillCounts.CountCurrent := by
  have hunset := hrun.invariant (fun _ _ _ h hstep => metaCaseStep_countUnset h hstep)
    fun metaCaseId metaCase h => (hs metaCaseId metaCase h).elim
  exact fillCounts_countCurrent (hunset _ _ (returned_iff.1 h)).nodup

/-- **From a store without meta cases, the projections that the reads return have current counts
and no child twice in every state of a run exactly when no call of it attaches a child.** -/
theorem countsCurrent_run_iff (hs : s.MetaCases fun _ => False) :
    Run (Guarded (metaCaseStep py policy) fun s call => ¬ call.Attaches s) s calls t ↔
      Run (Upheld (metaCaseStep py policy) Store.CountsCurrent) s calls t := by
  have hcurrent : s.CountsCurrent :=
    countsCurrent_iff.2 fun metaCaseId metaCase h => (hs metaCaseId metaCase h).elim
  refine Run.guarded_iff_upheld (J := Store.MetaCases MetaCaseProjection.CountUnset) ?_ ?_
    (fun metaCaseId metaCase h => (hs metaCaseId metaCase h).elim) hcurrent
  · exact fun s call t hunset hstep => metaCaseStep_countUnset hunset hstep
  · exact fun s call t hunset hcurrent hstep =>
      metaCaseStep_countsCurrent_iff hunset hcurrent hstep

end Runs

/-- The creation of a meta case from these cases. -/
def openingCall (childCaseIds : List String) : MetaCaseCall :=
  .create {
    title := "Storm"
    correlationReason := "shared_site"
    correlationConfidence := .fin (4 / 5)
    childCaseIds := childCaseIds } {
    metaCaseId := "META-1"
    created := ⟨"event-1", "2026-01-01T00:01:00+00:00"⟩
    attached := fun i => ⟨"event-child-" ++ toString i, "2026-01-01T00:01:00+00:00"⟩ }

theorem metaCases_pairStore : pairStore.MetaCases fun _ => False := by
  intro metaCaseId metaCase h
  have hmem := Table.mem_of_get? (metaCase?_eq_some.1 h)
  change _ ∈ [_, _] at hmem
  simp at hmem

theorem countsCurrent_run_lone :
    Run (Upheld (metaCaseStep asciiPython {}) Store.CountsCurrent) pairStore [openingCall []]
      ((openingCall []).next asciiPython {} pairStore) := by
  refine (countsCurrent_run_iff metaCases_pairStore).1 (Run.single ⟨?_, rfl, rfl⟩)
  rintro ⟨-, caseId, hcaseId, -⟩
  cases hcaseId

/-- A meta case of two cases is returned with a count of none. -/
theorem childCounts_stale :
    ¬ ∀ (calls : List MetaCaseCall) (t : Store),
      Run (metaCaseStep asciiPython {}) pairStore calls t → t.CountsCurrent := by
  intro h
  have hcurrent := h [openingCall ["CASE-1", "CASE-2"]] _ (Run.single ⟨rfl, rfl⟩)
  have hstored : (((openingCall ["CASE-1", "CASE-2"]).next asciiPython {} pairStore).metaCase?
      "META-1").map (fun metaCase => (metaCase.childCaseCount, metaCase.childCaseIds.length)) =
        some (0, 2) := by decide +kernel
  obtain ⟨metaCase, hmeta, hpair⟩ := Option.map_eq_some_iff.1 hstored
  obtain ⟨hcount, hlength⟩ := Prod.mk.inj hpair
  have hcounted := (countsCurrent_iff.1 hcurrent "META-1" metaCase hmeta).count
  rw [hcount, hlength] at hcounted
  cases hcounted

end NocAgent.Cases
