import NocAgent.Cases.Membership
import NocAgent.Cases.ObserveSpec

/-!
# An operator's mark on a case

* `Marked` — the case needs action of its own and no meta case covers it.
* `Store.Joins` — attaching the case would not be refused; `CorrelationCall.Attaches` — the call
  attaches it.
* `attachAll_marked` — the attachments of a new meta case take the mark from every case they
  reach.
* `marked_run_iff` — over every run of calls after the mark, the mark stands in every state exactly
  when no call attaches the case.
-/

set_option autoImplicit false

namespace NocAgent.Cases

open Effects Effects.Action Keyed Lts

/-- The operator's mark stands. -/
def Marked (caseId : String) (s : Store) : Prop :=
  ∃ case, s.atomicCase? caseId = some case ∧ case.independentActionRequired = true ∧
    case.coveredByMetaCase = false

/-- No other meta case holds on to the case. -/
def Store.Joins (s : Store) (metaCaseId caseId : String) : Prop :=
  ∃ child ∈ s.atomicCase? caseId, ¬ s.HeldElsewhere child metaCaseId

instance (s : Store) (metaCaseId caseId : String) : Decidable (s.Joins metaCaseId caseId) := by
  unfold Store.Joins; infer_instance

/-- The children that a new meta case gets before one is refused. -/
def Store.joined (s : Store) (metaCaseId : String) (childCaseIds : List String) : List String :=
  childCaseIds.takeWhile fun caseId => s.Joins metaCaseId caseId

/-- The request is accepted: a known event type, and a confidence in `[0, 1]`. -/
def MetaCaseRequest.Valid (request : MetaCaseRequest) : Prop :=
  (MetaEventType.ofText? request.eventType).isSome = true ∧
    request.correlationConfidence.ge 0 = true ∧ request.correlationConfidence.gt 1 = false

/-- The request that the observations lead to, if they do. -/
def Store.stormRequest? (py : Python) (policy : CasePolicy) (s : Store)
    (observations : List ObservationRecord) : Option MetaCaseRequest :=
  let firing := observations.filter fun obs => obs.status == .firing
  if firing.length < 2 then none
  else
    match sharedScope firing, (correlatedCases py firing [] s).1 with
    | some scope, .ok childCaseIds =>
      if childCaseIds.length < 2 then none
      else some (stormRequest py policy firing scope childCaseIds)
    | _, _ => none

/-- The calls of the correlation service; attaching is done with its default arguments. -/
inductive CorrelationCall where
  | create (request : MetaCaseRequest) (draws : MetaCaseDraws)
  | correlate (observations : List ObservationRecord) (draws : MetaCaseDraws)
  | attach (metaCaseId childCaseId reason : String) (confidence : PyFloat) (actorId : String)
      (draw : Draw)
  | detach (metaCaseId childCaseId reason actorId : String) (draw : Draw)
  | mark (childCaseId : String) (required : Bool) (reason actorId : String) (draw : Draw)

section Calls

variable (py : Python) (policy : CasePolicy)

/-- The state that a call leaves, whether it returns or raises. -/
def CorrelationCall.next (s : Store) : CorrelationCall → Store
  | .create request draws => (createMetaCase py policy request draws s).2
  | .correlate observations draws => (correlateObservations py policy observations draws s).2
  | .attach metaCaseId childCaseId reason confidence actorId draw =>
    (attachChild policy metaCaseId childCaseId reason confidence actorId false draw s).2
  | .detach metaCaseId childCaseId reason actorId draw =>
    (detachChild policy metaCaseId childCaseId reason actorId draw s).2
  | .mark childCaseId required reason actorId draw =>
    (markIndependentActionRequired policy childCaseId required reason actorId draw s).2

/-- New ids are new, and the mark of this case is not taken back. -/
def CorrelationCall.Allowed (caseId : String) (s : Store) : CorrelationCall → Prop
  | .create _ draws | .correlate _ draws => s.cases.get? draws.metaCaseId = none
  | .mark childCaseId required _ _ _ => childCaseId = caseId → required = true
  | _ => True

/-- The call attaches this case to a meta case. -/
def CorrelationCall.Attaches (caseId : String) (s : Store) : CorrelationCall → Prop
  | .create request draws =>
    request.Valid ∧ caseId ∈ s.joined draws.metaCaseId request.childCaseIds
  | .correlate observations draws =>
    ∃ request ∈ s.stormRequest? py policy observations,
      request.Valid ∧ caseId ∈ s.joined draws.metaCaseId request.childCaseIds
  | .attach metaCaseId childCaseId _ _ _ _ =>
    childCaseId = caseId ∧ (s.metaCase? metaCaseId).isSome = true ∧ s.Joins metaCaseId caseId
  | .detach .. => False
  | .mark .. => False

def correlationStep (caseId : String) (s : Store) (call : CorrelationCall) (t : Store) : Prop :=
  call.Allowed caseId s ∧ t = call.next py policy s

end Calls

/-! ## One attachment -/

section Attaching

variable {s t : Store} {caseId : String}

theorem marked_congr (h : t.atomicCase? caseId = s.atomicCase? caseId) :
    Marked caseId t ↔ Marked caseId s := by
  unfold Marked
  rw [h]

theorem joins_congr (metaCaseId : String) (hatomic : t.atomicCase? = s.atomicCase?)
    (hmeta : ∀ key, key ≠ metaCaseId → t.metaCase? key = s.metaCase? key) :
    t.Joins metaCaseId caseId ↔ s.Joins metaCaseId caseId := by
  unfold Store.Joins Store.HeldElsewhere
  rw [hatomic]
  refine exists_congr fun child => and_congr_right fun _ => not_congr ?_
  refine and_congr_right fun _ => and_congr_right fun hne => ?_
  rw [hmeta _ hne]

theorem attachable?_isSome {metaCaseId childCaseId : String} :
    (∃ found, s.attachable? metaCaseId childCaseId = some found) ↔
      (s.metaCase? metaCaseId).isSome = true ∧ s.Joins metaCaseId childCaseId := by
  constructor
  · rintro ⟨⟨metaCase, child⟩, h⟩
    obtain ⟨hmeta, hchild, hfree⟩ := attachable?_eq_some.1 h
    rw [caseId_of_metaCase? hmeta] at hfree
    exact ⟨by rw [hmeta]; rfl, child, hchild, hfree⟩
  · rintro ⟨hsome, child, hchild, hfree⟩
    obtain ⟨metaCase, hmeta⟩ := Option.isSome_iff_exists.1 hsome
    rw [← caseId_of_metaCase? hmeta] at hfree
    exact ⟨(metaCase, child), attachable?_eq_some.2 ⟨hmeta, hchild, hfree⟩⟩

section Written

variable {metaCase metaCase' : MetaCaseProjection} {child child' : AtomicCaseProjection}

/-- Attaching one case leaves the others as free as they were. -/
theorem Rewritten.joins (h : Rewritten s t metaCase metaCase' child child')
    (hattached : child'.metaCaseId = metaCase.caseId)
    (hfree : ¬ s.HeldElsewhere child metaCase.caseId) (other : String) :
    t.Joins metaCase.caseId other ↔ s.Joins metaCase.caseId other := by
  unfold Store.Joins
  rw [h.atomicCase?]
  by_cases hother : other = child.caseId
  · subst hother
    rw [if_pos rfl, h.known]
    refine iff_of_true ⟨child', rfl, ?_⟩ ⟨child, rfl, hfree⟩
    rintro ⟨-, hne, -⟩
    exact hne hattached
  · rw [if_neg hother]
    refine exists_congr fun found => and_congr_right fun _ => not_congr ?_
    unfold Store.HeldElsewhere
    refine and_congr_right fun _ => and_congr_right fun hne => ?_
    rw [h.metaCase?, if_neg hne]

/-- The mark after the case, or another one, is written. -/
theorem Rewritten.marked_iff (h : Rewritten s t metaCase metaCase' child child') :
    Marked caseId t ↔ if caseId = child.caseId then
        child'.independentActionRequired = true ∧ child'.coveredByMetaCase = false
      else Marked caseId s := by
  unfold Marked
  rw [h.atomicCase?]
  split
  · simp
  · rfl

end Written

/-- One attachment to a stored meta case: refused, or written, and then every other case may join
as before. -/
theorem attachChild_joins (policy : CasePolicy) {metaCaseId : String}
    (childCaseId reason : String) (confidence : PyFloat) (actorId : String) (draw : Draw)
    (hmeta : (s.metaCase? metaCaseId).isSome = true) :
    (¬ s.Joins metaCaseId childCaseId ∧
      ∃ e, attachChild policy metaCaseId childCaseId reason confidence actorId false draw s =
        (.error e, s)) ∨
    s.Joins metaCaseId childCaseId ∧
      ∃ result t, attachChild policy metaCaseId childCaseId reason confidence actorId false draw s =
          (.ok result, t) ∧ (t.metaCase? metaCaseId).isSome = true ∧
        ∀ other, t.Joins metaCaseId other ↔ s.Joins metaCaseId other := by
  rcases h : s.attachable? metaCaseId childCaseId with _ | ⟨metaCase, found⟩
  · refine Or.inl ⟨fun hjoins => ?_,
      attachChild_refused policy reason confidence actorId false draw h⟩
    obtain ⟨found, hfound⟩ := attachable?_isSome.2 ⟨hmeta, hjoins⟩
    rw [h] at hfound
    cases hfound
  · obtain ⟨result, t, hrun, hwritten⟩ := attachChild_written policy reason confidence actorId
      false draw h
    obtain ⟨hstored, -, hfree⟩ := attachable?_eq_some.1 h
    have hid : metaCase.caseId = metaCaseId := caseId_of_metaCase? hstored
    refine Or.inr ⟨(attachable?_isSome.1 ⟨_, h⟩).2, result, t, hrun, ?_, fun other => ?_⟩
    · rw [hwritten.metaCase?, if_pos hid.symm]
      rfl
    · rw [← hid]
      exact hwritten.joins rfl hfree other

variable (caseId) in
/-- **An attachment that is not refused takes the mark.** -/
theorem attachChild_marked (policy : CasePolicy) (metaCaseId childCaseId reason : String)
    (confidence : PyFloat) (actorId : String) (draw : Draw) :
    Marked caseId (attachChild policy metaCaseId childCaseId reason confidence actorId false draw
        s).2 ↔
      Marked caseId s ∧ ¬ (childCaseId = caseId ∧ (s.metaCase? metaCaseId).isSome = true ∧
        s.Joins metaCaseId childCaseId) := by
  rw [← attachable?_isSome]
  rcases h : s.attachable? metaCaseId childCaseId with _ | ⟨metaCase, child⟩
  · obtain ⟨e, hrun⟩ := attachChild_refused policy reason confidence actorId false draw h
    rw [hrun]
    simp
  · obtain ⟨result, t, hrun, hwritten⟩ := attachChild_written policy reason confidence actorId
      false draw h
    have hid : child.caseId = childCaseId :=
      caseId_of_atomicCase? (attachable?_eq_some.1 h).2.1
    rw [hrun, hwritten.marked_iff, hid]
    split
    · rename_i hmine
      simp [attachedTo, hmine]
    · rename_i hother
      simp [Ne.symm hother]

/-- **The attachments of a meta case take the mark from every case they reach.** -/
theorem forEach_attachChild_marked (policy : CasePolicy) (metaCaseId reason : String)
    (confidence : PyFloat) (actorId : String) (draws : Nat → Draw) :
    ∀ (children : List (String × Nat)) (s : Store), (s.metaCase? metaCaseId).isSome = true →
      (Marked caseId (forEach (fun child => attachChild policy metaCaseId child.1 reason confidence
          actorId false (draws child.2)) children s).2 ↔
        Marked caseId s ∧ caseId ∉ s.joined metaCaseId (children.map Prod.fst))
  | [], s, _ => by simp [forEach, Store.joined]
  | child :: children, s, hmeta => by
    unfold Store.joined
    rw [List.map_cons, List.takeWhile_cons]
    have hmark := attachChild_marked (s := s) caseId policy metaCaseId child.1 reason confidence
      actorId (draws child.2)
    rcases attachChild_joins policy child.1 reason confidence actorId (draws child.2) hmeta with
      ⟨hrefused, e, hrun⟩ | ⟨hjoins, result, t, hrun, hkept, hjoin⟩
    · rw [forEach, bind_error hrun]
      simp [hrefused]
    · have hrest := forEach_attachChild_marked policy metaCaseId reason confidence actorId draws
        children t hkept
      have hsame : t.joined metaCaseId (children.map Prod.fst) =
          s.joined metaCaseId (children.map Prod.fst) := by
        unfold Store.joined
        congr 1
        funext other
        rw [decide_eq_decide]
        exact hjoin other
      rw [hrun] at hmark
      rw [forEach, bind_ok hrun, bind_pure_state, hrest, hsame, hmark]
      simp only [hjoins, decide_true, if_true, List.mem_cons, not_or, hmeta, and_true]
      unfold Store.joined
      rw [and_assoc]
      exact and_congr_right fun _ => and_congr_left fun _ => not_congr eq_comm

end Attaching

/-! ## The calls -/

section Steps

variable {py : Python} {policy : CasePolicy} {s t : Store} {caseId : String}

variable (policy) in
/-- Only a valid request makes a meta case. -/
theorem newMetaCase_ok_iff (request : MetaCaseRequest) (fingerprint : String)
    (draws : MetaCaseDraws) :
    (∃ metaCase, newMetaCase policy request fingerprint draws = .ok metaCase) ↔ request.Valid := by
  unfold newMetaCase MetaCaseRequest.Valid
  dsimp only
  split
  · rename_i hunknown
    simp [hunknown]
  · rename_i eventType hknown
    rw [hknown, Option.isSome_some]
    split
    · rename_i hbad
      exact iff_of_false (by simp) fun hvalid => hbad hvalid.2
    · rename_i hgood
      exact iff_of_true ⟨_, rfl⟩ ⟨rfl, not_not.1 hgood⟩

/-- **A new meta case takes the mark from the cases that its attachments reach.** -/
theorem createMetaCase_marked (request : MetaCaseRequest) (draws : MetaCaseDraws)
    (hfresh : s.cases.get? draws.metaCaseId = none) :
    Marked caseId (createMetaCase py policy request draws s).2 ↔ Marked caseId s ∧
      ¬ (request.Valid ∧ caseId ∈ s.joined draws.metaCaseId request.childCaseIds) := by
  rcases createMetaCase_cases policy py request draws s with ⟨e, fingerprint, hnew, hstate⟩ |
    ⟨fingerprint, metaCase, u, hnew, hput, hstate⟩
  · have hinvalid : ¬ request.Valid := by
      rw [← newMetaCase_ok_iff policy request fingerprint draws, hnew]
      simp
    rw [hstate]
    simp [hinvalid]
  · have hvalid : request.Valid :=
      (newMetaCase_ok_iff policy request fingerprint draws).1 ⟨metaCase, hnew⟩
    have hid := (newMetaCase_ok policy hnew).1
    rw [← hid] at hfresh
    have hatomic : u.atomicCase? = s.atomicCase? := by
      rw [← atomicCase?_put_storm hfresh]
      unfold Store.atomicCase?
      rw [hput]
    have hmeta : ∀ key, u.metaCase? key =
        if key = metaCase.caseId then some metaCase else s.metaCase? key := by
      intro key
      rw [← metaCase?_put_storm s metaCase key]
      unfold Store.metaCase?
      rw [hput]
    have hstored : (u.metaCase? draws.metaCaseId).isSome = true := by
      rw [hmeta, if_pos hid.symm]
      rfl
    have hsame : u.joined draws.metaCaseId request.childCaseIds =
        s.joined draws.metaCaseId request.childCaseIds := by
      unfold Store.joined
      congr 1
      funext other
      rw [decide_eq_decide]
      refine joins_congr draws.metaCaseId hatomic fun key hkey => ?_
      rw [hmeta, if_neg (by rwa [hid])]
    rw [hstate]
    unfold attachAll
    rw [forEach_attachChild_marked policy draws.metaCaseId _ _ _ _ _ u hstored, List.zipIdx_map_fst,
      hsame, marked_congr (congrFun hatomic caseId)]
    simp [hvalid]

variable (py s) in
theorem correlatedCases_run : ∀ (firing : List ObservationRecord) (found : List String),
    ∃ ids, correlatedCases py firing found s = (.ok ids, s)
  | [], found => ⟨found, rfl⟩
  | observation :: rest, found => by
    unfold correlatedCases
    rw [bind_ok (resolveAlias_run _ _ s)]
    cases truthyId _ with
    | none => exact correlatedCases_run rest found
    | some caseId => exact correlatedCases_run rest _

/-- Correlating observations is creating the meta case they lead to, if they do. -/
theorem correlateObservations_state (observations : List ObservationRecord)
    (draws : MetaCaseDraws) : (correlateObservations py policy observations draws s).2 =
      match s.stormRequest? py policy observations with
      | some request => (createMetaCase py policy request draws s).2
      | none => s := by
  unfold correlateObservations Store.stormRequest?
  dsimp only
  split
  · rfl
  · cases sharedScope (observations.filter fun obs => obs.status == .firing) with
    | none => rfl
    | some scope =>
      obtain ⟨ids, hids⟩ := correlatedCases_run py s
        (observations.filter fun obs => obs.status == .firing) []
      rw [hids]
      dsimp only
      rw [bind_ok hids]
      split
      · rfl
      · exact bind_pure_state _ _ s

/-- **A call leaves the mark exactly when it does not attach the case.** -/
theorem correlationStep_marked {call : CorrelationCall} (hs : Marked caseId s)
    (h : correlationStep py policy caseId s call t) :
    Marked caseId t ↔ ¬ call.Attaches py policy caseId s := by
  obtain ⟨hallowed, rfl⟩ := h
  cases call with
  | create request draws =>
    refine (createMetaCase_marked request draws hallowed).trans ?_
    simp [hs, CorrelationCall.Attaches]
  | correlate observations draws =>
    change Marked caseId (correlateObservations py policy observations draws s).2 ↔ _
    rw [correlateObservations_state]
    unfold CorrelationCall.Attaches
    cases hrequest : s.stormRequest? py policy observations with
    | none => simp [hs, hrequest]
    | some request =>
      dsimp only
      rw [createMetaCase_marked request draws hallowed]
      simp [hs, hrequest]
  | attach metaCaseId childCaseId reason confidence actorId draw =>
    refine (attachChild_marked caseId policy metaCaseId childCaseId reason confidence actorId
      draw).trans ?_
    unfold CorrelationCall.Attaches
    constructor
    · rintro ⟨-, hnot⟩ ⟨rfl, hattached⟩
      exact hnot ⟨rfl, hattached⟩
    · intro hnot
      refine ⟨hs, ?_⟩
      rintro ⟨rfl, hattached⟩
      exact hnot ⟨rfl, hattached⟩
  | detach metaCaseId childCaseId reason actorId draw =>
    refine iff_of_true ?_ not_false
    change Marked caseId (detachChild policy metaCaseId childCaseId reason actorId draw s).2
    rcases hmeta : s.metaCase? metaCaseId with _ | metaCase
    · obtain ⟨e, hrun⟩ := detachChild_refused policy reason actorId draw (Or.inl hmeta)
      rwa [hrun]
    rcases hchild : s.atomicCase? childCaseId with _ | child
    · obtain ⟨e, hrun⟩ := detachChild_refused policy reason actorId draw (Or.inr hchild)
      rwa [hrun]
    obtain ⟨result, t, hrun, hwritten⟩ := detachChild_written policy reason actorId draw hmeta
      hchild
    rw [hrun, hwritten.marked_iff]
    split
    · rename_i hmine
      obtain ⟨case, hcase, hmark, hopen⟩ := hs
      rw [hmine, hwritten.known] at hcase
      cases hcase
      refine ⟨hmark, ?_⟩
      unfold detachedFrom
      dsimp only
      split
      · rfl
      · exact hopen
    · exact hs
  | mark childCaseId required reason actorId draw =>
    refine iff_of_true ?_ not_false
    change Marked caseId
      (markIndependentActionRequired policy childCaseId required reason actorId draw s).2
    rcases hchild : s.atomicCase? childCaseId with _ | child
    · rwa [markIndependent_refused policy required reason actorId draw hchild]
    have hcases := markIndependent_written policy required reason actorId draw hchild
    have hatomic := atomicCase?_put hcases caseId
    have hid : child.caseId = childCaseId := caseId_of_atomicCase? hchild
    by_cases hmine : childCaseId = caseId
    · refine ⟨_, hatomic.trans (if_pos (hid.trans hmine)), hallowed hmine, ?_⟩
      unfold markedIndependent
      rw [if_pos (hallowed hmine)]
    · refine (marked_congr (hatomic.trans (if_neg ?_))).2 hs
      change child.caseId ≠ caseId
      rwa [hid]

end Steps

/-- **After an operator's mark, over every run of calls that do not take it back: the mark stands
in every state exactly when no call attaches the case.** -/
theorem marked_run_iff {py : Python} {policy : CasePolicy} {start s : Store} {caseId : String}
    {case : AtomicCaseProjection} (hcase : start.atomicCase? caseId = some case)
    (reason actorId : String) (draw : Draw) {calls : List CorrelationCall} :
    let marked :=
      (markIndependentActionRequired policy caseId true reason actorId draw start).2
    Run (Guarded (correlationStep py policy caseId)
        fun s call => ¬ call.Attaches py policy caseId s) marked calls s ↔
      Run (Upheld (correlationStep py policy caseId) (Marked caseId)) marked calls s := by
  intro marked
  have hmarked : Marked caseId marked := by
    have hcases := markIndependent_written policy true reason actorId draw hcase
    have hid : case.caseId = caseId := caseId_of_atomicCase? hcase
    exact ⟨_, (atomicCase?_put hcases caseId).trans (if_pos hid), rfl, rfl⟩
  refine Run.guarded_iff_upheld (J := fun _ => True) (fun _ _ _ _ _ => trivial) ?_ trivial hmarked
  intro s call t _ hs hstep
  exact correlationStep_marked hs hstep

/-- A storm of the cases `childCaseIds`. -/
def stormCall (childCaseIds : List String) : CorrelationCall :=
  .create {
    title := "Correlated site event: ams"
    correlationReason := "shared_site"
    correlationConfidence := .fin (4 / 5)
    childCaseIds := childCaseIds } {
    metaCaseId := "META-1"
    created := ⟨"event-2", "2026-01-01T00:02:00+00:00"⟩
    attached := fun i => ⟨"event-child-" ++ toString i, "2026-01-01T00:02:00+00:00"⟩ }

/-- The first case after the operator's mark. -/
def markedStore : Store :=
  (markIndependentActionRequired {} "CASE-1" true "own notifications" "alice"
    ⟨"event-1", "2026-01-01T00:01:00+00:00"⟩ pairStore).2

/-- A storm without the marked case leaves the mark. -/
theorem marked_run_iff_other :
    Run (Upheld (correlationStep asciiPython {} "CASE-1") (Marked "CASE-1")) markedStore
      [stormCall ["CASE-2"]] ((stormCall ["CASE-2"]).next asciiPython {} markedStore) := by
  have hcase : (pairStore.atomicCase? "CASE-1").isSome = true := by decide +kernel
  obtain ⟨case, hcase⟩ := Option.isSome_iff_exists.1 hcase
  refine (marked_run_iff hcase "own notifications" "alice"
    ⟨"event-1", "2026-01-01T00:01:00+00:00"⟩).1 (Run.single ⟨?_, ?_, rfl⟩)
  · have hother : "CASE-1" ∉ markedStore.joined "META-1" ["CASE-2"] := by decide +kernel
    exact fun hattaches => hother hattaches.2
  · have hfresh : (markedStore.cases.get? "META-1").isNone = true := by decide +kernel
    exact Option.isNone_iff_eq_none.1 hfresh

/-- **A storm of both cases takes the operator's mark.** -/
theorem not_marked_storm :
    correlationStep asciiPython {} "CASE-1" markedStore (stormCall ["CASE-1", "CASE-2"])
        ((stormCall ["CASE-1", "CASE-2"]).next asciiPython {} markedStore) ∧
      ¬ Marked "CASE-1" ((stormCall ["CASE-1", "CASE-2"]).next asciiPython {} markedStore) := by
  have hlost : (((stormCall ["CASE-1", "CASE-2"]).next asciiPython {} markedStore).atomicCase?
      "CASE-1").all (fun case => case.coveredByMetaCase) = true := by decide +kernel
  have hfresh : (markedStore.cases.get? "META-1").isNone = true := by decide +kernel
  refine ⟨⟨Option.isNone_iff_eq_none.1 hfresh, rfl⟩, ?_⟩
  rintro ⟨case, hcase, -, hopen⟩
  rw [hcase] at hlost
  simp [hopen] at hlost

end NocAgent.Cases
