import NocAgent.Cases.HandoffIndex
import NocAgent.Cases.Verifier

/-!
# Reachable stores

* `StoreOp`, `storeStep` — the store's writers, called with any arguments, and whole verifier
  runs between them.
* `WellFormed` — every handoff belongs to a stored atomic case, and the outbox index lists
  stored intents only.
* `wellFormed_run` — every store reached from the empty one is well formed.
-/

set_option autoImplicit false

namespace NocAgent.Cases

open Effects Effects.Action Keyed Lts

variable {py : Python}

/-- The references of a store that is reached hold. -/
structure WellFormed (py : Python) (s : Store) : Prop where
  handoffCase : ∀ h ∈ s.handoffs.rows, (s.atomicCase? h.caseId).isSome
  handoffToken : ∀ h ∈ s.handoffs.rows, requireLhpToken py h.caseId 180 = some h.caseId
  outboxListed : ∀ key id, truthyId (s.outboxIndex key) = some id → (s.outbox.get? id).isSome

/-- What well-formedness reads. -/
def Store.core (s : Store) : Table CaseHandoff.handoffId × Table CaseProjection.caseId ×
    Table OutboxIntent.outboxId × Index String String :=
  (s.handoffs, s.cases, s.outbox, s.outboxIndex)

theorem WellFormed.congr {s t : Store} (hs : WellFormed py s) (h : t.core = s.core) :
    WellFormed py t := by
  obtain ⟨h1, h2, h3⟩ := hs
  simp only [Store.core, Prod.mk.injEq] at h
  obtain ⟨e1, e2, e3, e4⟩ := h
  unfold Store.atomicCase? at h1
  refine ⟨?_, ?_, ?_⟩
  · unfold Store.atomicCase?; rwa [e1, e2]
  · rwa [e1]
  · rwa [e3, e4]

theorem WellFormed.putCase (case : AtomicCaseProjection) :
    Keeps (WellFormed py) (putCase case) := by
  refine Keeps.alter fun s hs => ⟨fun h hm => ?_, hs.handoffToken, hs.outboxListed⟩
  rw [atomicCase?_put rfl]
  split
  · rfl
  · exact hs.handoffCase h hm

theorem WellFormed.storeEvent (event : CaseEvent) : Keeps (WellFormed py) (storeEvent event) :=
  (storeEvent_fixes (f := Store.core) (fun _ _ _ => rfl) event).keeps fun _ _ h hs => hs.congr h

theorem WellFormed.storeEvent? (event : Option CaseEvent) :
    Keeps (WellFormed py) (storeEvent? event) :=
  (storeEvent?_fixes (f := Store.core) (fun _ _ _ => rfl) event).keeps fun _ _ h hs => hs.congr h

/-- Storing an intent and listing it under a key. -/
theorem WellFormed.putIntent {s : Store} (hs : WellFormed py s) (intent : OutboxIntent)
    (key : String) : WellFormed py { s with
      outbox := s.outbox.put intent
      outboxIndex := s.outboxIndex.set key intent.outboxId } := by
  refine ⟨hs.handoffCase, hs.handoffToken, fun k id h => ?_⟩
  simp only [Index.set_apply] at h
  rw [Table.get?_put]
  split at h
  · unfold truthyId at h
    rw [Option.filter_eq_some_iff] at h
    rw [if_pos (Option.some.inj h.1)]
    rfl
  · split
    · rfl
    · exact hs.outboxListed k id h

theorem WellFormed.enqueueOutbox (intent : OutboxIntent) :
    Keeps (WellFormed py) (enqueueOutbox intent) := by
  refine Keeps.bind (Keeps.peek _) fun existingId => ?_
  cases existingId with
  | some existingId => exact Keeps.bind (Keeps.peek _) fun _ => Keeps.orRaise _ _
  | none => exact Keeps.bind (Keeps.alter fun s hs => hs.putIntent intent _) fun _ => Keeps.pure _

theorem WellFormed.enqueueOutbox? (intent : Option OutboxIntent) :
    Keeps (WellFormed py) (enqueueOutbox? intent) := by
  cases intent with
  | none => exact Keeps.pure _
  | some intent => exact Keeps.bind (WellFormed.enqueueOutbox intent) fun _ => Keeps.pure _

theorem core_indexIfActive (s : Store) (handoff : CaseHandoff) :
    (s.indexIfActive handoff).core = s.core := by
  unfold Store.indexIfActive
  split <;> rfl

/-- A stored handoff may be replaced by one of the same case. -/
theorem WellFormed.putHandoff {s : Store} (hs : WellFormed py s) (handoff : CaseHandoff)
    (hcase : (s.atomicCase? handoff.caseId).isSome)
    (htoken : requireLhpToken py handoff.caseId 180 = some handoff.caseId) :
    WellFormed py { s with handoffs := s.handoffs.put handoff } := by
  refine ⟨fun h hm => ?_, fun h hm => ?_, hs.outboxListed⟩
  · rcases Table.mem_put.1 hm with rfl | ⟨hm, -⟩
    · exact hcase
    · exact hs.handoffCase h hm
  · rcases Table.mem_put.1 hm with rfl | ⟨hm, -⟩
    · exact htoken
    · exact hs.handoffToken h hm

theorem WellFormed.replaceHandoff {s : Store} (hs : WellFormed py s) {id : String}
    {old : CaseHandoff} (hold : s.handoffs.get? id = some old) (target : HandoffStatus)
    (stamp : String) : WellFormed py (s.replaceHandoff old { old with
      status := target
      updatedAt := stamp }) := by
  have hm := Table.mem_of_get? hold
  exact (hs.putHandoff { old with
    status := target
    updatedAt := stamp } (hs.handoffCase old hm) (hs.handoffToken old hm)).congr
      (core_indexIfActive _ _)

/-! ## The writers -/

theorem WellFormed.createHandoffWithObjectives {s : Store} (hs : WellFormed py s)
    {handoff : CaseHandoff} (htoken : requireLhpToken py handoff.caseId 180 = some handoff.caseId)
    (objectives : List VerificationObjective) (caseStatus : Option CaseStatus)
    (event : Option CaseEvent) (outboxIntent : Option OutboxIntent) :
    WellFormed py
      (createHandoffWithObjectives handoff objectives caseStatus event outboxIntent s).2 := by
  unfold Cases.createHandoffWithObjectives
  simp only [raiseIf_bind_run, requireAtomicCase_bind_run]
  split
  · exact hs
  · split
    · rename_i case hcase
      rcases existingHandoff_cases handoff s with ⟨r, hr, hne⟩ | ⟨hnone, -⟩
      · rcases r with e | _ | existing
        · rw [bind_error hr]; exact hs
        · exact absurd rfl hne
        · rw [bind_ok hr]; exact hs
      · rw [bind_ok hnone]
        simp only [alter_bind_run]
        have hadd : WellFormed py { s with handoffs := s.handoffs.put handoff } :=
          hs.putHandoff handoff (by rw [hcase]; rfl) htoken
        refine Keeps.bind ((Fixes.forEach (storeObjective_fixes (f := Store.core)
          (fun _ _ _ => rfl) handoff) objectives).keeps fun _ _ h hs => hs.congr h) (fun stored =>
            Keeps.bind (WellFormed.putCase _) fun _ => Keeps.bind (WellFormed.storeEvent? event) fun _ =>
            Keeps.bind (WellFormed.enqueueOutbox? outboxIntent) fun _ => Keeps.pure _) _ ?_
        exact WellFormed.congr (hadd.congr rfl) (core_indexIfActive _ _)
    · exact hs

theorem WellFormed.appendHandoffUpdate (update : HandoffUpdate)
    (handoffStatus : Option HandoffStatus) (caseStatus : Option CaseStatus)
    (caseHandoffStatus : Option String) (event : Option CaseEvent) : Keeps (WellFormed py)
      (appendHandoffUpdate update handoffStatus caseStatus caseHandoffStatus event) := by
  intro s hs
  by_cases h : ∃ handoff, Applied s update (handoffStatus.getD update.status) handoff
  · obtain ⟨handoff, h⟩ := h
    obtain ⟨case, hcase⟩ := Option.isSome_iff_exists.1 h.atomic
    rw [appendHandoffUpdate_applied h hcase caseStatus caseHandoffStatus event]
    refine Keeps.bind (WellFormed.putCase _) (fun _ =>
      Keeps.bind (WellFormed.storeEvent? event) fun _ => Keeps.pure _) _ ?_
    have hs' : WellFormed py { s with
        handoffUpdates := s.handoffUpdates.put update
        handoffUpdateExternalIndex := s.handoffUpdateExternalIndex.set
          (update.sourceLoop, update.externalEventId) update.updateId } := hs.congr rfl
    exact hs'.replaceHandoff h.stored (handoffStatus.getD update.status) update.createdAt
  · rw [appendHandoffUpdate_refused (not_exists.1 h)]
    exact hs

theorem WellFormed.markHandoffVerified (handoffId now : String) (event : Option CaseEvent) :
    Keeps (WellFormed py) (markHandoffVerified handoffId now event) := by
  intro s hs
  unfold Cases.markHandoffVerified
  simp only [requireHandoff_bind_run, requireHandoffTransition_bind_run]
  split
  · rename_i handoff hstored
    split
    · exact hs
    · simp only [alter_bind_run]
      refine Keeps.bind ?_ (fun case => Keeps.bind (WellFormed.putCase _) fun _ =>
        Keeps.bind (WellFormed.storeEvent? event) fun _ => Keeps.pure _) _
          (hs.replaceHandoff hstored _ _)
      exact Keeps.bind (Keeps.peek _) fun _ => Keeps.orRaise _ _
  · exact hs

theorem WellFormed.resolveHandoff (handoffId now : String) :
    Keeps (WellFormed py) (resolveHandoff handoffId now) := by
  intro s hs
  unfold Cases.resolveHandoff
  split
  · exact hs
  · simp only [requireHandoff_bind_run, requireHandoffTransition_bind_run]
    split
    · rename_i handoff hstored
      split
      · exact hs
      · exact hs.replaceHandoff hstored .resolved now
    · exact hs

theorem WellFormed.resolveCaseWithOutcome (caseId handoffId : String) (outcome : OutcomeRecord)
    (now : String) (event : Option CaseEvent) :
    Keeps (WellFormed py) (resolveCaseWithOutcome caseId handoffId outcome now event) :=
  Keeps.bind (requireAtomicCase_keeps caseId) fun _ => Keeps.bind (Keeps.raiseIf _ _) fun _ =>
    Keeps.bind (WellFormed.resolveHandoff handoffId now) fun _ =>
    Keeps.bind (Keeps.alter fun _ hs => hs.congr rfl) fun _ =>
    Keeps.bind (WellFormed.putCase _) fun _ => Keeps.bind (WellFormed.storeEvent? event) fun _ =>
    Keeps.pure _

theorem WellFormed.updateVerificationObjectiveResult (objective : VerificationObjective)
    (event : Option CaseEvent) :
    Keeps (WellFormed py) (updateVerificationObjectiveResult objective event) :=
  Keeps.bind (Keeps.peek _) fun _ => Keeps.bind (Keeps.orRaise _ _) fun _ =>
    Keeps.bind (Keeps.alter fun _ hs => hs.congr rfl) fun _ =>
    Keeps.bind (WellFormed.storeEvent? event) fun _ => Keeps.pure _

theorem WellFormed.upsertVerificationObjective (objective : VerificationObjective)
    (event : Option CaseEvent) :
    Keeps (WellFormed py) (upsertVerificationObjective objective event) :=
  Keeps.bind (requireAtomicCase_keeps _) fun _ =>
    Keeps.bind ((upsertObjective_fixes (f := Store.core) (fun _ _ _ => rfl) objective).keeps
      fun _ _ h hs => hs.congr h) fun _ =>
    Keeps.bind (WellFormed.storeEvent? event) fun _ => Keeps.pure _

theorem WellFormed.createAtomicCase (case : AtomicCaseProjection)
    (aliases : List CaseIdentityAlias) (events : List CaseEvent) :
    Keeps (WellFormed py) (createAtomicCase case aliases events) := by
  refine Keeps.bind ((aliasedCase_fixes (f := Store.core) aliases).keeps
    fun _ _ h hs => hs.congr h) fun aliased => ?_
  cases aliased with
  | some existing => exact Keeps.pure _
  | none =>
    refine Keeps.bind (Keeps.peek _) fun same => ?_
    cases same with
    | some existing => exact Keeps.pure _
    | none =>
      exact Keeps.bind (WellFormed.putCase case) fun _ =>
        Keeps.bind (Keeps.forEach (fun _ => Keeps.alter fun _ hs => hs.congr rfl) aliases) fun _ =>
        Keeps.bind (Keeps.forEach WellFormed.storeEvent events) fun _ => Keeps.pure _

theorem WellFormed.updateOutboxIfStatus (intent : OutboxIntent) (expectedStatus : OutboxStatus)
    (expectedClaimToken : Option String) :
    Keeps (WellFormed py) (updateOutboxIfStatus intent expectedStatus expectedClaimToken) := by
  refine Keeps.bind (Keeps.peek _) fun current => ?_
  cases current with
  | none => exact Keeps.pure _
  | some current =>
    by_cases h : current.Matches expectedStatus expectedClaimToken
    · simp only [if_pos h]
      exact Keeps.bind (Keeps.alter fun _ hs => hs.putIntent intent _) fun _ => Keeps.pure _
    · simp only [if_neg h]
      exact Keeps.pure _

theorem WellFormed.verifier : VerifierKeeps (WellFormed py) where
  result := WellFormed.updateVerificationObjectiveResult
  verified := WellFormed.markHandoffVerified
  resolved := WellFormed.resolveCaseWithOutcome
  enqueued := WellFormed.enqueueOutbox
  logged := WellFormed.storeEvent

/-! ## Runs -/

/-- A call of one of the store's writers, or a run of a verifier. -/
inductive StoreOp where
  | handoff (op : HandoffOp)
  | createAtomicCase (case : AtomicCaseProjection) (aliases : List CaseIdentityAlias)
      (events : List CaseEvent)
  | enqueueOutbox (intent : OutboxIntent)
  | updateOutboxIfStatus (intent : OutboxIntent) (expectedStatus : OutboxStatus)
      (expectedClaimToken : Option String)
  | upsertVerificationObjective (objective : VerificationObjective) (event : Option CaseEvent)
  | updateVerificationObjectiveResult (objective : VerificationObjective) (event : Option CaseEvent)
  | runOnce (v : CaseVerifier) (d : VerifierDraws) (now : Option String) (limit : Int)

def StoreOp.run : StoreOp → Store → Store
  | .handoff op, s => op.run s
  | .createAtomicCase case aliases events, s => (Cases.createAtomicCase case aliases events s).2
  | .enqueueOutbox intent, s => (Cases.enqueueOutbox intent s).2
  | .updateOutboxIfStatus intent expectedStatus expectedClaimToken, s =>
    (Cases.updateOutboxIfStatus intent expectedStatus expectedClaimToken s).2
  | .upsertVerificationObjective objective event, s =>
    (Cases.upsertVerificationObjective objective event s).2
  | .updateVerificationObjectiveResult objective event, s =>
    (Cases.updateVerificationObjectiveResult objective event s).2
  | .runOnce v d now limit, s => (v.runOnce d now limit s).2

/-- The arguments are records as their constructors build them: a handoff's case id is a token,
and a meta case does not take the id of an atomic one. -/
def StoreOp.Built (py : Python) (s : Store) : StoreOp → Prop
  | .handoff (.createHandoffWithObjectives created _ _ _ _) =>
    requireLhpToken py created.caseId 180 = some created.caseId
  | .handoff (.upsertCase (.storm case)) => s.atomicCase? case.caseId = none
  | _ => True

def storeStep (py : Python) (s : Store) (op : StoreOp) (t : Store) : Prop :=
  op.Built py s ∧ t = op.run s

theorem wellFormed_empty : WellFormed py {} := by
  refine ⟨?_, ?_, ?_⟩
  · intro h hm; cases hm
  · intro h hm; cases hm
  · intro key id h; cases h

theorem wellFormed_step {s t : Store} {op : StoreOp} (hs : WellFormed py s)
    (h : storeStep py s op t) : WellFormed py t := by
  obtain ⟨hbuilt, rfl⟩ := h
  cases op with
  | handoff op =>
    cases op with
    | upsertCase case =>
      cases case with
      | atomic case => exact WellFormed.putCase case s hs
      | storm case =>
        refine ⟨fun h hm => ?_, hs.handoffToken, hs.outboxListed⟩
        have hc := hs.handoffCase h hm
        change (Option.bind ((s.cases.put (.storm case)).get? h.caseId) _).isSome
        rw [Table.get?_put]
        split
        · rename_i hid
          have hid : case.caseId = h.caseId := hid
          rw [← hid, hbuilt] at hc
          cases hc
        · exact hc
    | createHandoffWithObjectives handoff objectives caseStatus event outboxIntent =>
      exact hs.createHandoffWithObjectives hbuilt objectives caseStatus event outboxIntent
    | appendHandoffUpdate update handoffStatus caseStatus caseHandoffStatus event =>
      exact WellFormed.appendHandoffUpdate update handoffStatus caseStatus caseHandoffStatus event s hs
    | markHandoffVerified handoffId now event =>
      exact WellFormed.markHandoffVerified handoffId now event s hs
    | resolveCaseWithOutcome caseId handoffId outcome now event =>
      exact WellFormed.resolveCaseWithOutcome caseId handoffId outcome now event s hs
  | createAtomicCase case aliases events => exact WellFormed.createAtomicCase case aliases events s hs
  | enqueueOutbox intent => exact WellFormed.enqueueOutbox intent s hs
  | updateOutboxIfStatus intent expectedStatus expectedClaimToken =>
    exact WellFormed.updateOutboxIfStatus intent expectedStatus expectedClaimToken s hs
  | upsertVerificationObjective objective event =>
    exact WellFormed.upsertVerificationObjective objective event s hs
  | updateVerificationObjectiveResult objective event =>
    exact WellFormed.updateVerificationObjectiveResult objective event s hs
  | runOnce v d now limit => exact WellFormed.verifier.runOnce v d now limit s hs

/-- **Every reachable store is well formed.** -/
theorem wellFormed_run {ops : List StoreOp} {s : Store} (h : Run (storeStep py) {} ops s) :
    WellFormed py s :=
  h.invariant (fun _ _ _ hs hstep => wellFormed_step hs hstep) wellFormed_empty

end NocAgent.Cases
