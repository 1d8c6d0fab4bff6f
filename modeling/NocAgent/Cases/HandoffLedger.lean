import NocAgent.Cases.Reachable

/-!
# Handoffs and their updates over whole runs

* `HandoffOp.run_handoffs` — a call leaves the handoffs, stores a new one, or moves one along an
  allowed transition; `HandoffOp.run_updates` — and it leaves the updates or records one.
* `ledgerStep` — the calls that write handoffs or updates, and any other that leaves them alone.
* `HandoffLedger` — every recorded update is of a stored handoff of a stored case;
  `handoffLedger_run`: of every reachable store.
* `IsCancelled.step` — a cancelled handoff stays cancelled.
-/

set_option autoImplicit false

namespace NocAgent.Cases

open Effects Effects.Action Keyed Lts

/-! ## What one call does -/

section Calls

variable (s : Store)

/-- A handoff moves to a status that its own allows. -/
def HandoffMoves (t : Store) : Prop :=
  ∃ old target stamp actorLoop, s.handoffs.get? old.handoffId = some old ∧
    allowedHandoffTransition old.status target actorLoop = true ∧
    t.handoffs = s.handoffs.put { old with
      status := target
      updatedAt := stamp }

theorem handoffMoves_replace {t : Store} {id stamp : String} {old : CaseHandoff} {target : HandoffStatus}
    {actorLoop : LoopName} (hold : s.handoffs.get? id = some old)
    (hallowed : allowedHandoffTransition old.status target actorLoop = true)
    (ht : t.indexed = (s.replaceHandoff old { old with
      status := target
      updatedAt := stamp }).indexed) : HandoffMoves s t := by
  refine ⟨old, target, stamp, actorLoop, Table.get?_key hold, hallowed, ?_⟩
  rw [replaceHandoff_indexed] at ht
  exact congrArg Prod.fst ht

theorem HandoffOp.run_handoffs (op : HandoffOp) :
    (op.run s).handoffs = s.handoffs ∨
      (∃ handoff objectives caseStatus event outboxIntent,
        op = .createHandoffWithObjectives handoff objectives caseStatus event outboxIntent ∧
          (op.run s).handoffs = s.handoffs.put handoff) ∨
      HandoffMoves s (op.run s) := by
  have hsame : ∀ {t : Store}, t.indexed = s.indexed → t.handoffs = s.handoffs :=
    fun h => congrArg Prod.fst h
  cases op with
  | upsertCase case => exact Or.inl rfl
  | createHandoffWithObjectives handoff objectives caseStatus event outboxIntent =>
    rcases createHandoff_indexed handoff objectives caseStatus event outboxIntent s with h | ⟨-, h⟩
    · exact Or.inl (hsame h)
    · refine Or.inr (Or.inl ⟨_, _, _, _, _, rfl, ?_⟩)
      rw [addHandoff_indexed] at h
      exact congrArg Prod.fst h
  | appendHandoffUpdate update handoffStatus caseStatus caseHandoffStatus event =>
    by_cases h : ∃ handoff, Applied s update (handoffStatus.getD update.status) handoff
    · obtain ⟨handoff, h⟩ := h
      exact Or.inr (Or.inr (handoffMoves_replace s h.stored h.allowed
        (appendHandoffUpdate_indexed h caseStatus caseHandoffStatus event)))
    · exact Or.inl (congrArg Store.handoffs
        (appendHandoffUpdate_refused (not_exists.1 h) caseStatus caseHandoffStatus event))
  | markHandoffVerified handoffId now event =>
    rcases markHandoffVerified_indexed handoffId now event s with h | ⟨handoff, hstored, hallowed, h⟩
    · exact Or.inl (hsame h)
    · exact Or.inr (Or.inr (handoffMoves_replace s hstored hallowed h))
  | resolveCaseWithOutcome caseId handoffId outcome now event =>
    by_cases h : ∃ handoff, Resolves s caseId handoffId outcome handoff
    · obtain ⟨handoff, h⟩ := h
      exact Or.inr (Or.inr (handoffMoves_replace s h.stored h.allowed
        (resolveCaseWithOutcome_applied h now event)))
    · exact Or.inl (hsame (resolveCaseWithOutcome_refused (not_exists.1 h) now event))

/-- The updates and the index of what they were recorded under. -/
def Store.updates (s : Store) :
    Table HandoffUpdate.updateId × Index (LoopName × String) String :=
  (s.handoffUpdates, s.handoffUpdateExternalIndex)

theorem updates_indexIfActive (handoff : CaseHandoff) :
    (s.indexIfActive handoff).updates = s.updates := by
  unfold Store.indexIfActive
  split <;> rfl

theorem replaceHandoff_updates (old new : CaseHandoff) :
    (s.replaceHandoff old new).updates = s.updates :=
  updates_indexIfActive _ new

end Calls

section Frames

theorem storeEvent?_updates (event : Option CaseEvent) :
    Fixes Store.updates (storeEvent? event) :=
  storeEvent?_fixes (fun _ _ _ => rfl) event

theorem putCase_updates (case : AtomicCaseProjection) : Fixes Store.updates (putCase case) :=
  putCase_fixes (fun _ _ => rfl) case

theorem requireAtomicCase_updates (caseId : String) :
    Fixes Store.updates (requireAtomicCase caseId) :=
  Fixes.bind (Fixes.peek _) fun _ => Fixes.orRaise _ _

theorem requireHandoff_updates (handoffId : String) :
    Fixes Store.updates (requireHandoff handoffId) :=
  Fixes.bind (Fixes.peek _) fun _ => Fixes.orRaise _ _

theorem existingHandoff_updates (handoff : CaseHandoff) :
    Fixes Store.updates (existingHandoff handoff) := by
  refine Fixes.bind (Fixes.peek _) fun existingId => ?_
  cases existingId with
  | some existingId => exact Fixes.bind (requireHandoff_updates _) fun _ => Fixes.pure _
  | none =>
    refine Fixes.bind (Fixes.peek _) fun activeId => ?_
    cases activeId with
    | some activeId => exact Fixes.bind (requireHandoff_updates _) fun _ => Fixes.pure _
    | none => exact Fixes.pure _

theorem createHandoff_updates (handoff : CaseHandoff) (objectives : List VerificationObjective)
    (caseStatus : Option CaseStatus) (event : Option CaseEvent)
    (outboxIntent : Option OutboxIntent) : Fixes Store.updates
      (createHandoffWithObjectives handoff objectives caseStatus event outboxIntent) := by
  refine Fixes.bind (Fixes.raiseIf _ _) fun _ => Fixes.bind (requireAtomicCase_updates _) fun case =>
    Fixes.bind (existingHandoff_updates handoff) fun existing => ?_
  cases existing with
  | some existing => exact Fixes.bind (Fixes.peek _) fun _ => Fixes.pure _
  | none =>
    exact Fixes.bind (Fixes.alter fun s => updates_indexIfActive _ handoff) fun _ =>
      Fixes.bind (Fixes.forEach (storeObjective_fixes (fun _ _ _ => rfl) handoff) objectives)
        fun _ => Fixes.bind (putCase_updates _) fun _ => Fixes.bind (storeEvent?_updates event)
        fun _ => Fixes.bind (enqueueOutbox?_fixes (fun _ _ _ => rfl) outboxIntent) fun _ =>
        Fixes.pure _

theorem markHandoffVerified_updates (handoffId now : String) (event : Option CaseEvent) :
    Fixes Store.updates (markHandoffVerified handoffId now event) :=
  Fixes.bind (requireHandoff_updates _) fun _ => Fixes.bind (Fixes.raiseIf _ _) fun _ =>
    Fixes.bind (Fixes.alter fun s => replaceHandoff_updates s _ _) fun _ =>
    Fixes.bind (requireAtomicCase_updates _) fun _ => Fixes.bind (putCase_updates _) fun _ =>
    Fixes.bind (storeEvent?_updates event) fun _ => Fixes.pure _

theorem resolveHandoff_updates (handoffId now : String) :
    Fixes Store.updates (resolveHandoff handoffId now) := by
  unfold resolveHandoff
  split
  · exact Fixes.pure _
  · exact Fixes.bind (requireHandoff_updates _) fun _ => Fixes.bind (Fixes.raiseIf _ _) fun _ =>
      Fixes.alter fun s => replaceHandoff_updates s _ _

theorem resolveCaseWithOutcome_updates (caseId handoffId : String) (outcome : OutcomeRecord)
    (now : String) (event : Option CaseEvent) :
    Fixes Store.updates (resolveCaseWithOutcome caseId handoffId outcome now event) :=
  Fixes.bind (requireAtomicCase_updates _) fun _ => Fixes.bind (Fixes.raiseIf _ _) fun _ =>
    Fixes.bind (resolveHandoff_updates _ _) fun _ => Fixes.bind (Fixes.alter fun _ => rfl) fun _ =>
    Fixes.bind (putCase_updates _) fun _ => Fixes.bind (storeEvent?_updates event) fun _ =>
    Fixes.pure _

theorem appendHandoffUpdate_updates {s : Store} {update : HandoffUpdate}
    {handoffStatus : Option HandoffStatus} {handoff : CaseHandoff}
    (h : Applied s update (handoffStatus.getD update.status) handoff)
    (caseStatus : Option CaseStatus) (caseHandoffStatus : Option String)
    (event : Option CaseEvent) :
    (appendHandoffUpdate update handoffStatus caseStatus caseHandoffStatus event s).2.updates =
      (s.handoffUpdates.put update, s.handoffUpdateExternalIndex.set
        (update.sourceLoop, update.externalEventId) update.updateId) := by
  obtain ⟨case, hstored⟩ := Option.isSome_iff_exists.1 h.atomic
  rw [appendHandoffUpdate_applied h hstored]
  exact ((Fixes.bind (putCase_updates _) fun _ => Fixes.bind (storeEvent?_updates event)
    fun _ => Fixes.pure _) _).trans (replaceHandoff_updates _ _ _)

theorem HandoffOp.run_updates (op : HandoffOp) (s : Store) :
    (op.run s).updates = s.updates ∨
      ∃ update target handoff, Applied s update target handoff ∧
        (op.run s).updates = (s.handoffUpdates.put update, s.handoffUpdateExternalIndex.set
          (update.sourceLoop, update.externalEventId) update.updateId) := by
  cases op with
  | upsertCase case => exact Or.inl rfl
  | createHandoffWithObjectives handoff objectives caseStatus event outboxIntent =>
    exact Or.inl (createHandoff_updates handoff objectives caseStatus event outboxIntent s)
  | appendHandoffUpdate update handoffStatus caseStatus caseHandoffStatus event =>
    by_cases h : ∃ handoff, Applied s update (handoffStatus.getD update.status) handoff
    · obtain ⟨handoff, h⟩ := h
      exact Or.inr ⟨update, _, handoff, h,
        appendHandoffUpdate_updates h caseStatus caseHandoffStatus event⟩
    · exact Or.inl (congrArg Store.updates
        (appendHandoffUpdate_refused (not_exists.1 h) caseStatus caseHandoffStatus event))
  | markHandoffVerified handoffId now event =>
    exact Or.inl (markHandoffVerified_updates handoffId now event s)
  | resolveCaseWithOutcome caseId handoffId outcome now event =>
    exact Or.inl (resolveCaseWithOutcome_updates caseId handoffId outcome now event s)

end Frames

/-! ## Runs -/

/-- The handoffs and their updates. -/
def Store.ledger (s : Store) : Table CaseHandoff.handoffId ×
    Table HandoffUpdate.updateId × Index (LoopName × String) String := (s.handoffs, s.updates)

/-- **What the handoff calls keep of the ledger, every writer keeps.** -/
theorem StoreOp.keeps {I : Store → Prop} {C : Store → HandoffOp → Prop}
    (hview : ∀ s t, t.ledger = s.ledger → I s → I t)
    (hcall : ∀ s op, C s op → I s → I (op.run s))
    (hverified : ∀ s handoffId now event, C s (.markHandoffVerified handoffId now event))
    (hresolved : ∀ s caseId handoffId outcome now event,
      C s (.resolveCaseWithOutcome caseId handoffId outcome now event))
    (s : Store) (op : StoreOp) (hC : ∀ call, op = .handoff call → C s call) (hs : I s) :
    I (op.run s) := by
  have hevent : ∀ event, Fixes Store.ledger (storeEvent event) := storeEvent_fixes fun _ _ _ => rfl
  have hresult : ∀ objective event,
      Fixes Store.ledger (Cases.updateVerificationObjectiveResult objective event) :=
    updateVerificationObjectiveResult_fixes (fun _ _ _ => rfl) fun _ _ _ => rfl
  have henqueue : ∀ intent, Fixes Store.ledger (Cases.enqueueOutbox intent) :=
    enqueueOutbox_fixes fun _ _ _ => rfl
  have hkeeps : ∀ {α : Type} {x : StoreM α}, Fixes Store.ledger x → Keeps I x :=
    fun hx => hx.keeps hview
  cases op with
  | handoff call => exact hcall s call (hC call rfl) hs
  | createAtomicCase case aliases events =>
    refine hkeeps (Fixes.bind (aliasedCase_fixes aliases) fun aliased => ?_ :
      Fixes Store.ledger (Cases.createAtomicCase case aliases events)) s hs
    cases aliased with
    | some existing => exact Fixes.pure _
    | none =>
      refine Fixes.bind (Fixes.peek _) fun same => ?_
      cases same with
      | some existing => exact Fixes.pure _
      | none =>
        exact Fixes.bind (putCase_fixes (fun _ _ => rfl) case) fun _ =>
          Fixes.bind (Fixes.forEach (k := storeAlias) (fun _ => Fixes.alter fun _ => rfl) aliases)
            fun _ => Fixes.bind (Fixes.forEach hevent events) fun _ => Fixes.pure _
  | enqueueOutbox intent => exact hkeeps (henqueue intent) s hs
  | updateOutboxIfStatus intent expectedStatus expectedClaimToken =>
    exact hkeeps (updateOutboxIfStatus_fixes (fun _ _ _ => rfl) intent expectedStatus
      expectedClaimToken) s hs
  | upsertVerificationObjective objective event =>
    refine hkeeps (Fixes.bind ?_ fun _ => Fixes.bind (upsertObjective_fixes (fun _ _ _ => rfl) _)
      fun _ => Fixes.bind (storeEvent?_fixes (fun _ _ _ => rfl) event) fun _ => Fixes.pure _ :
      Fixes Store.ledger (Cases.upsertVerificationObjective objective event)) s hs
    exact Fixes.bind (Fixes.peek _) fun _ => Fixes.orRaise _ _
  | updateVerificationObjectiveResult objective event => exact hkeeps (hresult objective event) s hs
  | runOnce v d now limit =>
    have hverifier : VerifierKeeps I := {
      result := fun objective event => hkeeps (hresult objective event)
      verified := fun handoffId now event s hs => hcall s _ (hverified s handoffId now event) hs
      resolved := fun caseId handoffId outcome now event s hs =>
        hcall s _ (hresolved s caseId handoffId outcome now event) hs
      enqueued := fun intent => hkeeps (henqueue intent)
      logged := fun event => hkeeps (hevent event) }
    exact hverifier.runOnce v d now limit s hs

/-- A method that this module does not follow: it leaves the ledger and the outbox index alone, and
it removes no case and no intent. -/
structure Store.Elsewhere (s t : Store) : Prop where
  ledger : t.ledger = s.ledger
  outboxIndex : t.outboxIndex = s.outboxIndex
  cases : ∀ caseId, (s.atomicCase? caseId).isSome → (t.atomicCase? caseId).isSome
  outbox : ∀ outboxId, (s.outbox.get? outboxId).isSome → (t.outbox.get? outboxId).isSome

inductive LedgerOp where
  | store (op : StoreOp)
  | elsewhere (t : Store)

def LedgerOp.run : LedgerOp → Store → Store
  | .store op, s => op.run s
  | .elsewhere t, _ => t

section Runs

variable (py : Python)

/-- A new handoff has an id that its constructor leaves as it is. -/
def HandoffOp.Registered (_ : Store) : HandoffOp → Prop
  | .createHandoffWithObjectives handoff .. =>
    requireLhpToken py handoff.handoffId 180 = some handoff.handoffId
  | _ => True

def LedgerOp.Allowed (s : Store) : LedgerOp → Prop
  | .store op => op.Built py s ∧ ∀ call, op = .handoff call → call.Registered py s
  | .elsewhere t => s.Elsewhere t

def ledgerStep (s : Store) (op : LedgerOp) (t : Store) : Prop := op.Allowed py s ∧ t = op.run s

/-- Every handoff has an id that is a token, and every recorded update is of a stored handoff. -/
structure Booked (s : Store) : Prop where
  token : ∀ h ∈ s.handoffs.rows, requireLhpToken py h.handoffId 180 = some h.handoffId
  recorded : ∀ key id, truthyId (s.handoffUpdateExternalIndex key) = some id →
    ∃ update ∈ s.handoffUpdates.get? id, (s.handoffs.get? update.handoffId).isSome

/-- The store is well formed, and its handoffs are booked. -/
structure HandoffLedger (s : Store) : Prop where
  wellFormed : WellFormed py s
  booked : Booked py s

end Runs

section Ledger

variable {py : Python} {s t : Store}

theorem Booked.congr (h : t.ledger = s.ledger) (hs : Booked py s) : Booked py t := by
  simp only [Store.ledger, Store.updates, Prod.mk.injEq] at h
  obtain ⟨h1, h2, h3⟩ := h
  obtain ⟨htoken, hrecorded⟩ := hs
  constructor
  · rwa [h1]
  · rwa [h1, h2, h3]

/-- Storing a handoff whose id is a token. -/
theorem Booked.putHandoff (hs : Booked py s) {handoff : CaseHandoff}
    (htoken : requireLhpToken py handoff.handoffId 180 = some handoff.handoffId)
    (ht : t.handoffs = s.handoffs.put handoff) :
    (∀ h ∈ t.handoffs.rows, requireLhpToken py h.handoffId 180 = some h.handoffId) ∧
      ∀ id, (s.handoffs.get? id).isSome → (t.handoffs.get? id).isSome := by
  rw [ht]
  constructor
  · intro h hm
    rcases Table.mem_put.1 hm with rfl | ⟨hm, -⟩
    · exact htoken
    · exact hs.token h hm
  · intro id hid
    rw [Table.get?_put]
    split
    · rfl
    · exact hid

theorem Booked.run_handoffs (hs : Booked py s) {op : HandoffOp} (hop : op.Registered py s) :
    (∀ h ∈ (op.run s).handoffs.rows, requireLhpToken py h.handoffId 180 = some h.handoffId) ∧
      ∀ id, (s.handoffs.get? id).isSome → ((op.run s).handoffs.get? id).isSome := by
  rcases op.run_handoffs s with h | ⟨handoff, objectives, caseStatus, event, outboxIntent, rfl, h⟩ |
    ⟨old, target, stamp, actorLoop, hold, -, h⟩
  · rw [h]
    exact ⟨hs.token, fun _ hid => hid⟩
  · exact hs.putHandoff hop h
  · have htoken : requireLhpToken py ({ old with
        status := target
        updatedAt := stamp } : CaseHandoff).handoffId 180 = some old.handoffId :=
      hs.token old (Table.mem_of_get? hold)
    exact hs.putHandoff htoken h

theorem Booked.call {op : HandoffOp} (hop : op.Registered py s) (hs : Booked py s) :
    Booked py (op.run s) := by
  obtain ⟨htoken, hstored⟩ := hs.run_handoffs hop
  refine ⟨htoken, fun key id hid => ?_⟩
  rcases op.run_updates s with h | ⟨update, target, handoff, happlied, h⟩
  · simp only [Store.updates, Prod.mk.injEq] at h
    rw [h.2] at hid
    rw [h.1]
    obtain ⟨found, hfound, hof⟩ := hs.recorded key id hid
    exact ⟨found, hfound, hstored _ hof⟩
  · simp only [Store.updates, Prod.mk.injEq] at h
    rw [h.2, Index.set_apply] at hid
    rw [h.1, Table.get?_put]
    have hof : (s.handoffs.get? update.handoffId).isSome := by rw [happlied.stored]; rfl
    split
    · exact ⟨update, rfl, hstored _ hof⟩
    · rename_i hne
      split at hid
      · exact absurd (Option.some.inj (Option.filter_eq_some_iff.1 hid).1) hne
      · obtain ⟨found, hfound, hof⟩ := hs.recorded key id hid
        exact ⟨found, hfound, hstored _ hof⟩

theorem WellFormed.elsewhere (hs : WellFormed py s) (h : s.Elsewhere t) : WellFormed py t := by
  have hhandoffs : t.handoffs = s.handoffs := congrArg Prod.fst h.ledger
  refine ⟨?_, ?_, ?_⟩
  · rw [hhandoffs]
    exact fun handoff hm => h.cases _ (hs.handoffCase handoff hm)
  · rw [hhandoffs]
    exact hs.handoffToken
  · rw [h.outboxIndex]
    exact fun key id hid => h.outbox id (hs.outboxListed key id hid)

theorem HandoffLedger.step (hs : HandoffLedger py s) {op : LedgerOp} (h : ledgerStep py s op t) :
    HandoffLedger py t := by
  obtain ⟨hallowed, rfl⟩ := h
  cases op with
  | store op =>
    refine ⟨wellFormed_step hs.wellFormed ⟨hallowed.1, rfl⟩, ?_⟩
    exact StoreOp.keeps (I := Booked py) (C := fun s call => call.Registered py s)
      (fun _ _ h => Booked.congr h) (fun _ _ => Booked.call) (fun _ _ _ _ => trivial)
      (fun _ _ _ _ _ _ => trivial) s op hallowed.2 hs.booked
  | elsewhere t => exact ⟨hs.wellFormed.elsewhere hallowed, hs.booked.congr hallowed.ledger⟩

theorem handoffLedger_empty : HandoffLedger py {} := by
  refine ⟨wellFormed_empty, ?_, ?_⟩
  · intro h hm; cases hm
  · intro key id h; cases h

/-- **In every reachable store, updates are of stored handoffs, and handoffs of stored cases.** -/
theorem handoffLedger_run {ops : List LedgerOp} (h : Run (ledgerStep py) {} ops s) :
    HandoffLedger py s :=
  h.invariant (fun _ _ _ hs hstep => hs.step hstep) handoffLedger_empty

end Ledger

/-! ## Cancelled handoffs -/

def IsCancelled (s : Store) (handoffId : String) : Prop :=
  ∃ handoff ∈ s.handoffs.get? handoffId, handoff.status = .cancelled

instance (s : Store) (handoffId : String) : Decidable (IsCancelled s handoffId) := by
  unfold IsCancelled; infer_instance

/-- The handoffs that a call creates are new. -/
def LedgerOp.Fresh (s : Store) : LedgerOp → Prop
  | .store op => ∀ call, op = .handoff call → call.Fresh s
  | .elsewhere _ => True

section Cancelled

variable {s t : Store} {handoffId : String}

theorem IsCancelled.congr (h : t.handoffs = s.handoffs) (hs : IsCancelled s handoffId) :
    IsCancelled t handoffId := by
  unfold IsCancelled
  rwa [h]

theorem IsCancelled.call {op : HandoffOp} (hfresh : op.Fresh s) (hs : IsCancelled s handoffId) :
    IsCancelled (op.run s) handoffId := by
  obtain ⟨handoff, hstored, hstatus⟩ := hs
  rcases op.run_handoffs s with h | ⟨created, objectives, caseStatus, event, outboxIntent, rfl, h⟩ |
    ⟨old, target, stamp, actorLoop, hold, hallowed, h⟩
  · exact IsCancelled.congr h ⟨handoff, hstored, hstatus⟩
  · have hne : created.handoffId ≠ handoffId := by
      rintro rfl
      have hnew := hfresh.1
      rw [hstored] at hnew
      cases hnew
    exact ⟨handoff, by rw [h, Table.get?_put_of_ne _ hne]; exact hstored, hstatus⟩
  · generalize hmoved : { old with
      status := target
      updatedAt := stamp } = moved at h
    have hmovedId : moved.handoffId = old.handoffId := by rw [← hmoved]
    unfold IsCancelled
    rw [h, Table.get?_put]
    split
    · -- it moves itself, and stays where it is
      rename_i hid
      rw [← hid, hmovedId, hold] at hstored
      have hsame : old.status = .cancelled := by rw [Option.some.inj hstored]; exact hstatus
      have htarget : target = old.status :=
        allowed_of_terminal (by rw [hsame]; decide) hallowed
      exact ⟨moved, rfl, by rw [← hmoved]; exact htarget.trans hsame⟩
    · exact ⟨handoff, hstored, hstatus⟩

/-- **A cancelled handoff stays cancelled**, whatever is called. -/
theorem IsCancelled.step {py : Python} {op : LedgerOp} (hfresh : op.Fresh s)
    (hs : IsCancelled s handoffId) (h : ledgerStep py s op t) : IsCancelled t handoffId := by
  obtain ⟨hallowed, rfl⟩ := h
  cases op with
  | store op =>
    exact StoreOp.keeps (I := fun s => IsCancelled s handoffId) (C := fun s call => call.Fresh s)
      (fun _ _ h => IsCancelled.congr (congrArg Prod.fst h)) (fun _ _ => IsCancelled.call)
      (fun _ _ _ _ => trivial) (fun _ _ _ _ _ _ => trivial) s op hfresh hs
  | elsewhere t => exact hs.congr (congrArg Prod.fst hallowed.ledger)

end Cancelled

end NocAgent.Cases
