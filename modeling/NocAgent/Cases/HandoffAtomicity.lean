import NocAgent.Cases.ObjectiveOwners
import NocAgent.Lib.Atomic

/-!
# What a failed creation of a handoff leaves behind

`create_handoff_with_objectives` of the in-memory store checks each objective after it has stored
the handoff, its index entries and the objectives before it.

* `HandoffRequest.Completes` — nothing after the first write can raise: every objective belongs to
  the handoff, and the outbox has the intent its index leads to.
* `create_writes` — a call that creates its handoff returns if it completes, and otherwise raises
  with the handoff in the idempotency index.
* `create_atomic_iff` — for every store and every call: a call that raises leaves the store as it
  was exactly when it completes or does not create its handoff.
-/

set_option autoImplicit false

namespace NocAgent.Cases

open Effects Effects.Action Keyed

/-- The method, called with these arguments. -/
def HandoffRequest.create (call : HandoffRequest) : StoreM HandoffCreateResult :=
  createHandoffWithObjectives call.handoff call.objectives call.caseStatus call.event
    call.outboxIntent

/-- The intent is not taken for one that the outbox has lost. -/
def Store.Enqueues (s : Store) (intent : OutboxIntent) : Prop :=
  ∀ existingId ∈ truthyId (s.outboxIndex intent.idempotencyKey),
    (s.outbox.get? existingId).isSome = true

instance (s : Store) (intent : OutboxIntent) : Decidable (s.Enqueues intent) := by
  unfold Store.Enqueues; infer_instance

/-- What is checked after the handoff is stored holds. -/
def HandoffRequest.Completes (call : HandoffRequest) (s : Store) : Prop :=
  (∀ objective ∈ call.objectives, objective.BelongsTo call.handoff) ∧
    ∀ intent ∈ call.outboxIntent, s.Enqueues intent

instance (call : HandoffRequest) (s : Store) : Decidable (call.Completes s) := by
  unfold HandoffRequest.Completes; infer_instance

section Writes

variable {s : Store}

/-- The last write: it returns exactly when the outbox has what its index says. -/
theorem enqueueOutbox?_run (intent : Option OutboxIntent) (s : Store) :
    (∃ stored t, enqueueOutbox? intent s = (.ok stored, t)) ∧ (∀ i ∈ intent, s.Enqueues i) ∨
      (∃ e t, enqueueOutbox? intent s = (.error e, t)) ∧ ¬ ∀ i ∈ intent, s.Enqueues i := by
  cases intent with
  | none => exact Or.inl ⟨⟨none, s, rfl⟩, fun _ h => nomatch h⟩
  | some intent =>
    have hall : (∀ i ∈ some intent, s.Enqueues i) ↔ s.Enqueues intent := by simp
    rw [hall]
    unfold Store.Enqueues
    rcases enqueueOutbox_cases intent s with ⟨existingId, existing, hid, hget, hrun⟩ |
      ⟨existingId, hid, hget, hrun⟩ | ⟨hid, hrun⟩
    · refine Or.inl ⟨⟨_, _, bind_ok hrun⟩, ?_⟩
      rw [hid]
      simp [hget]
    · refine Or.inr ⟨⟨_, _, bind_error hrun⟩, ?_⟩
      rw [hid]
      simp [hget]
    · refine Or.inl ⟨⟨_, _, bind_ok hrun⟩, ?_⟩
      rw [hid]
      simp

/-- The tables that the calls after the first write leave alone. -/
def Store.outboxTables (s : Store) :=
  (s.handoffIdempotencyIndex, s.outbox, s.outboxIndex)

theorem outboxTables_indexIfActive (s : Store) (handoff : CaseHandoff) :
    (s.indexIfActive handoff).outboxTables = s.outboxTables := by
  unfold Store.indexIfActive
  split <;> rfl

/-- **A call that creates its handoff returns if it completes.  If not, it raises when the handoff
is already in the idempotency index.** -/
theorem create_writes (call : HandoffRequest) (h : call.Creates s) :
    (∃ result t, call.create s = (.ok result, t)) ∧ call.Completes s ∨
      (∃ e t, call.create s = (.error e, t) ∧
        t.handoffIdempotencyIndex call.handoff.idempotencyKey = some call.handoff.handoffId) ∧
        ¬ call.Completes s := by
  obtain ⟨case, hcase⟩ := Option.isSome_iff_exists.1 h.atomic
  have hnone : existingHandoff call.handoff s = (.ok none, s) := by
    rcases existingHandoff_cases call.handoff s with ⟨r, hr, hne⟩ | ⟨hnone, -⟩
    · have hunseen := h.unseen
      rw [hr] at hunseen
      exact absurd hunseen hne
    · exact hnone
  unfold HandoffRequest.create createHandoffWithObjectives HandoffRequest.Completes
  simp only [raiseIf_bind_run, requireAtomicCase_bind_run]
  rw [if_neg (Nat.not_lt.2 h.bounded), hcase]
  simp only
  rw [bind_ok hnone]
  simp only [alter_bind_run]
  generalize hu : ({ s with
    handoffs := s.handoffs.put call.handoff
    handoffIdempotencyIndex := s.handoffIdempotencyIndex.set call.handoff.idempotencyKey
      call.handoff.handoffId } : Store).indexIfActive call.handoff = u
  have hutables : u.outboxTables = (s.handoffIdempotencyIndex.set call.handoff.idempotencyKey
      call.handoff.handoffId, s.outbox, s.outboxIndex) := by
    rw [← hu, outboxTables_indexIfActive]
    rfl
  have hindexed : ∀ {t : Store}, t.handoffIdempotencyIndex = u.handoffIdempotencyIndex →
      t.handoffIdempotencyIndex call.handoff.idempotencyKey = some call.handoff.handoffId := by
    intro t ht
    have huindex : u.handoffIdempotencyIndex = s.handoffIdempotencyIndex.set
        call.handoff.idempotencyKey call.handoff.handoffId := congrArg Prod.fst hutables
    rw [ht, huindex]
    exact Index.set_self _ _ _
  have hloop := Fixes.forEach (storeObjective_fixes (f := Store.outboxTables) (fun _ _ _ => rfl)
    call.handoff) call.objectives u
  rcases forEach_storeObjective_run call.handoff call.objectives u with
    ⟨⟨stored, v, hrun⟩, hall⟩ | ⟨⟨e, v, hrun⟩, hnot⟩
  · rw [hrun] at hloop
    rw [bind_ok hrun]
    unfold putCase
    simp only [alter_bind_run]
    generalize hw : ({ v with cases := _ } : Store) = w
    obtain ⟨storedEvent, ev, ix, hevent⟩ := storeEvent?_run call.event w
    rw [bind_ok hevent]
    have htables : ({ w with events := ev, caseEvents := ix } : Store).outboxTables =
        u.outboxTables := by
      rw [← hloop, ← hw]
      rfl
    generalize ({ w with events := ev, caseEvents := ix } : Store) = x at htables ⊢
    have henqueues : (∀ i ∈ call.outboxIntent, x.Enqueues i) ↔
        ∀ i ∈ call.outboxIntent, s.Enqueues i := by
      have hboth := congrArg Prod.snd (htables.trans hutables)
      have houtbox : x.outbox = s.outbox := congrArg Prod.fst hboth
      have hindex : x.outboxIndex = s.outboxIndex := congrArg Prod.snd hboth
      unfold Store.Enqueues
      rw [houtbox, hindex]
    rcases enqueueOutbox?_run call.outboxIntent x with ⟨⟨storedOutbox, t, hout⟩, hok⟩ |
      ⟨⟨e, t, hout⟩, hnot⟩
    · exact Or.inl ⟨⟨_, _, bind_ok hout⟩, hall, henqueues.1 hok⟩
    · refine Or.inr ⟨⟨e, t, bind_error hout, hindexed ?_⟩, fun hc => hnot (henqueues.2 hc.2)⟩
      have hkept := enqueueOutbox?_fixes (f := Store.handoffIdempotencyIndex) (fun _ _ _ => rfl)
        call.outboxIntent x
      rw [hout] at hkept
      exact hkept.trans (congrArg Prod.fst htables)
  · rw [hrun] at hloop
    refine Or.inr ⟨⟨e, v, bind_error hrun, hindexed ?_⟩, fun hc => hnot hc.1⟩
    exact congrArg Prod.fst hloop

/-- A call that does not create its handoff has written nothing when it ends. -/
theorem create_quiet (call : HandoffRequest) (h : ¬ call.Creates s) : AtomicAt call.create s := by
  unfold HandoffRequest.create createHandoffWithObjectives
  by_cases hlength : MAX_VERIFICATION_OBJECTIVES_PER_HANDOFF < call.objectives.length
  · rw [raiseIf_pos hlength]
    exact (atomicAt_error_iff rfl).2 rfl
  rw [raiseIf_neg hlength, pure_then]
  cases hcase : s.atomicCase? call.handoff.caseId with
  | none =>
    refine (atomicAt_error_iff (e := .keyError) ?_).2 rfl
    rw [requireAtomicCase_bind_run, hcase]
  | some case =>
    have hlook : requireAtomicCase call.handoff.caseId s = (.ok case, s) := by
      unfold requireAtomicCase
      rw [peek_bind_run, hcase]
      rfl
    rw [atomicAt_bind_iff hlook]
    rcases existingHandoff_cases call.handoff s with ⟨r, hr, hne⟩ | ⟨hnone, -⟩
    · rcases r with e | _ | existing
      · exact (atomicAt_error_iff (bind_error hr)).2 rfl
      · exact absurd rfl hne
      · exact atomicAt_of_ok (bind_ok hr)
    · refine absurd ⟨Nat.not_lt.1 hlength, ?_, ?_⟩ h
      · rw [hcase]
        rfl
      · rw [hnone]

end Writes

/-- **A call that raises leaves every table as it was exactly when it completes or does not create
its handoff.**  An id is not empty: `sanitize_lhp_token` puts "unknown" for an empty one. -/
theorem create_atomic_iff (s : Store) (call : HandoffRequest)
    (hid : call.handoff.handoffId ≠ "") :
    AtomicAt call.create s ↔ (call.Creates s → call.Completes s) := by
  by_cases hcreates : call.Creates s
  · rcases create_writes call hcreates with ⟨⟨result, t, hrun⟩, hcompletes⟩ |
      ⟨⟨e, t, hrun, hindexed⟩, hnot⟩
    · exact iff_of_true (atomicAt_of_ok hrun) fun _ => hcompletes
    · rw [atomicAt_error_iff hrun]
      refine iff_of_false ?_ fun h => hnot (h hcreates)
      rintro rfl
      -- a new handoff is not in the index it was found in
      have hfound : (existingHandoff call.handoff t).1 ≠ .ok none := by
        unfold existingHandoff
        simp only [peek_bind_run, hindexed, truthyId_some hid, requireHandoff_bind_run]
        cases t.handoffs.get? call.handoff.handoffId <;> simp
      exact hfound hcreates.unseen
  · exact iff_of_true (create_quiet call hcreates) fun h => absurd h hcreates

/-- A second handoff of `case_1`; its second objective names the first handoff. -/
def foreignRequest : HandoffRequest :=
  let own := dnsRequest "handoff_2" "move_dns" "dns_moved"
  { own with objectives := own.objectives ++
      (dnsRequest "handoff_1" "move_dns" "dns_answers").objectives }

/-- Without the foreign objective the call completes. -/
theorem create_atomic_own :
    AtomicAt (dnsRequest "handoff_2" "move_dns" "dns_moved").create dnsStore :=
  (create_atomic_iff dnsStore _ (by decide)).2 fun _ => by decide +kernel

/-- **The call raises at its second objective, and the handoff stays stored.** -/
theorem not_atomic_foreign : (foreignRequest.create dnsStore).1.isOk = false ∧
    ¬ AtomicAt foreignRequest.create dnsStore := by
  have hraises : (foreignRequest.create dnsStore).1.isOk = false := by decide +kernel
  refine ⟨hraises, not_atomicAt_of_changed (fun s => (s.handoffs.get? "handoff_2").isSome) hraises
    ?_⟩
  decide +kernel

end NocAgent.Cases
