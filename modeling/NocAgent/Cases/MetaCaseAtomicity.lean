import NocAgent.Cases.IndependentMark
import NocAgent.Lib.Atomic

/-!
# What a failed creation of a meta case leaves behind

`create_meta_case` stores the meta case and its event and then attaches the children one by one;
each attachment checks its child for itself.

* `forEach_attachChild_run` — the attachments all succeed exactly when every child may join; the
  meta case stays stored either way.
* `createMetaCase_atomic_iff` — for every store and every request: a call that raises leaves the
  store as it was exactly when the request is refused at once or every child may join.
-/

set_option autoImplicit false

namespace NocAgent.Cases

open Effects Effects.Action Keyed

section Attachments

variable (policy : CasePolicy) (metaCaseId reason : String) (confidence : PyFloat)
  (actorId : String)

/-- **The attachments all succeed exactly when every child may join.** -/
theorem forEach_attachChild_run (draws : Nat → Draw) :
    ∀ (children : List (String × Nat)) (s : Store), (s.metaCase? metaCaseId).isSome = true →
      (∃ r t, forEach (fun child => attachChild policy metaCaseId child.1 reason confidence
          actorId false (draws child.2)) children s = (r, t) ∧
        (t.metaCase? metaCaseId).isSome = true ∧
        (r.isOk = true ↔ ∀ child ∈ children, s.Joins metaCaseId child.1))
  | [], s, hmeta => ⟨.ok [], s, rfl, hmeta, by simp [Except.isOk, Except.toBool]⟩
  | child :: children, s, hmeta => by
    rw [forEach, List.forall_mem_cons]
    rcases attachChild_joins policy child.1 reason confidence actorId (draws child.2) hmeta with
      ⟨hrefused, e, hrun⟩ | ⟨hjoins, result, t, hrun, hkept, hsame⟩
    · refine ⟨.error e, s, bind_error hrun, hmeta, ?_⟩
      exact iff_of_false (by simp [Except.isOk, Except.toBool]) fun h => hrefused h.1
    · obtain ⟨r, u, hrest, hstored, hok⟩ := forEach_attachChild_run draws children t hkept
      simp only [hsame] at hok
      rw [bind_ok hrun]
      rcases r with e | results
      · exact ⟨.error e, u, bind_error hrest, hstored, hok.trans (by simp [hjoins])⟩
      · exact ⟨.ok (result :: results), u, bind_ok hrest, hstored, hok.trans (by simp [hjoins])⟩

end Attachments

section Creation

variable {py : Python} {policy : CasePolicy} {s : Store}

variable (py policy) in
/-- The call up to the last child: refused at once, or the meta case is stored. -/
theorem createMetaCase_run (request : MetaCaseRequest) (draws : MetaCaseDraws)
    (hfresh : s.cases.get? draws.metaCaseId = none) :
    (∃ e, createMetaCase py policy request draws s = (.error e, s)) ∧ ¬ request.Valid ∨
      ∃ r t, createMetaCase py policy request draws s = (r, t) ∧ request.Valid ∧
        (t.metaCase? draws.metaCaseId).isSome = true ∧
        (r.isOk = true ↔ ∀ caseId ∈ request.childCaseIds, s.Joins draws.metaCaseId caseId) := by
  simp only [createMetaCase, ofResult_bind_run]
  have hvalid := fun fingerprint => newMetaCase_ok_iff policy request fingerprint draws
  cases hnew : newMetaCase policy request _ draws with
  | error e =>
    refine Or.inl ⟨⟨e, rfl⟩, ?_⟩
    rw [← hvalid, hnew]
    simp
  | ok metaCase =>
    have hid := (newMetaCase_ok policy hnew).1
    rw [← hid] at hfresh ⊢
    obtain ⟨stored, ev, ix, hevent⟩ := storeEvent_run
      (metaCaseCreatedEvent policy metaCase request.actorId draws.created)
      { s with cases := s.cases.put (.storm metaCase) }
    generalize hu : ({ s with
      cases := s.cases.put (.storm metaCase)
      events := ev
      caseEvents := ix } : Store) = u at hevent
    have hcases : u.cases = s.cases.put (.storm metaCase) := by rw [← hu]
    have hmeta : u.metaCase? =
        ({ s with cases := s.cases.put (.storm metaCase) } : Store).metaCase? := by
      unfold Store.metaCase?
      rw [hcases]
    have hstored : (u.metaCase? metaCase.caseId).isSome = true := by
      rw [hmeta, metaCase?_put_storm, if_pos rfl]
      rfl
    have hsame : ∀ caseId, u.Joins metaCase.caseId caseId ↔ s.Joins metaCase.caseId caseId := by
      intro caseId
      refine joins_congr metaCase.caseId ?_ fun key hkey => ?_
      · rw [← atomicCase?_put_storm hfresh]
        unfold Store.atomicCase?
        rw [hcases]
      · rw [hmeta, metaCase?_put_storm, if_neg hkey]
    obtain ⟨r, t, hrun, hkept, hok⟩ := forEach_attachChild_run policy metaCase.caseId
      request.correlationReason request.correlationConfidence request.actorId draws.attached
      request.childCaseIds.zipIdx u hstored
    have hall : (∀ child ∈ request.childCaseIds.zipIdx, u.Joins metaCase.caseId child.1) ↔
        ∀ caseId ∈ request.childCaseIds, s.Joins metaCase.caseId caseId := by
      simp only [hsame]
      conv_rhs => rw [← List.zipIdx_map_fst 0 request.childCaseIds, List.forall_mem_map]
    rw [hall] at hok
    refine Or.inr ?_
    simp only [upsertCase, bind_bind_run, alter_bind_run, pure_bind_run]
    rw [bind_ok hevent]
    rcases r with e | results
    · exact ⟨.error e, t, bind_error hrun, (hvalid _).1 ⟨_, hnew⟩, hkept, hok⟩
    · obtain ⟨last, hlast⟩ := Option.isSome_iff_exists.1 hkept
      refine ⟨.ok ⟨.created, last, stored :: results.flatMap MetaCaseResult.events⟩, t,
        (bind_ok hrun).trans ?_, (hvalid _).1 ⟨_, hnew⟩, hkept, hok⟩
      unfold requireMetaCase
      rw [bind_bind_run, peek_bind_run, hlast]
      rfl

/-- **A call that raises leaves the store as it was exactly when the request is refused at once
or every child may join.** -/
theorem createMetaCase_atomic_iff (request : MetaCaseRequest) (draws : MetaCaseDraws)
    (hfresh : s.cases.get? draws.metaCaseId = none) :
    AtomicAt (createMetaCase py policy request draws) s ↔
      (request.Valid → ∀ caseId ∈ request.childCaseIds, s.Joins draws.metaCaseId caseId) := by
  rcases createMetaCase_run py policy request draws hfresh with
    ⟨⟨e, hrun⟩, hinvalid⟩ | ⟨r, t, hrun, hvalid, hkept, hok⟩
  · rw [atomicAt_error_iff hrun]
    exact iff_of_true rfl fun h => absurd h hinvalid
  · rcases r with e | result
    · rw [atomicAt_error_iff hrun]
      refine iff_of_false ?_ fun h => ?_
      · rintro rfl
        unfold Store.metaCase? at hkept
        rw [hfresh] at hkept
        cases hkept
      · have hreturned := hok.2 (h hvalid)
        cases hreturned
    · exact iff_of_true (atomicAt_of_ok hrun) fun _ => hok.1 rfl

end Creation

/-- A storm of the cases `childCaseIds`. -/
def siteStorm (childCaseIds : List String) : StoreM MetaCaseResult :=
  createMetaCase asciiPython {} {
    title := "Correlated site event: ams"
    correlationReason := "shared_site"
    correlationConfidence := .fin (4 / 5)
    childCaseIds := childCaseIds } {
    metaCaseId := "META-1"
    created := ⟨"event-1", "2026-01-01T00:02:00+00:00"⟩
    attached := fun i => ⟨"event-child-" ++ toString i, "2026-01-01T00:02:00+00:00"⟩ }

/-- Both children may join. -/
theorem createMetaCase_atomic_pair : AtomicAt (siteStorm ["CASE-1", "CASE-2"]) pairStore := by
  have hfresh : (pairStore.cases.get? "META-1").isNone = true := by decide +kernel
  refine (createMetaCase_atomic_iff _ _ (Option.isNone_iff_eq_none.1 hfresh)).2 fun _ => ?_
  decide +kernel

/-- **The second child is missing: the call raises, and the first is already covered.** -/
theorem not_atomic_missingChild : (siteStorm ["CASE-1", "CASE-9"] pairStore).1.isOk = false ∧
    ¬ AtomicAt (siteStorm ["CASE-1", "CASE-9"]) pairStore := by
  have hraises : (siteStorm ["CASE-1", "CASE-9"] pairStore).1.isOk = false := by decide +kernel
  refine ⟨hraises, not_atomicAt_of_changed
    (fun s => (s.atomicCase? "CASE-1").all fun case => case.coveredByMetaCase) hraises ?_⟩
  decide +kernel

end NocAgent.Cases
