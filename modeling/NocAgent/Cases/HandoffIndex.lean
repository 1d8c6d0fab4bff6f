import NocAgent.Cases.Store
import NocAgent.Lib.Lts

/-!
# The active-handoff index over whole runs

* `handoffStep` — the calls that write handoffs, one step each, however they end.
* `ActiveIndexed` — the index maps the key of every active handoff to that handoff;
  `ActiveIndexed.unique`: so no key has two of them.
* `StaleWrite` — a call that moves a finished handoff to the status it has, while a newer one
  is active under its key: the call drops the newer one's entry.
* `activeIndexed_of_guarded` — runs without such a call keep the index.
-/

set_option autoImplicit false

namespace NocAgent.Cases

open Effects Effects.Action Keyed Lts

/-- A call of one of the store's methods. -/
inductive HandoffOp where
  | upsertCase (case : CaseProjection)
  | createHandoffWithObjectives (handoff : CaseHandoff) (objectives : List VerificationObjective)
      (caseStatus : Option CaseStatus) (event : Option CaseEvent)
      (outboxIntent : Option OutboxIntent)
  | appendHandoffUpdate (update : HandoffUpdate) (handoffStatus : Option HandoffStatus)
      (caseStatus : Option CaseStatus) (caseHandoffStatus : Option String)
      (event : Option CaseEvent)
  | markHandoffVerified (handoffId now : String) (event : Option CaseEvent)
  | resolveCaseWithOutcome (caseId handoffId : String) (outcome : OutcomeRecord) (now : String)
      (event : Option CaseEvent)

/-- The store after the call, whether it returned or raised. -/
def HandoffOp.run : HandoffOp → Store → Store
  | .upsertCase case, s => (Cases.upsertCase case s).2
  | .createHandoffWithObjectives handoff objectives caseStatus event outboxIntent, s =>
    (Cases.createHandoffWithObjectives handoff objectives caseStatus event outboxIntent s).2
  | .appendHandoffUpdate update handoffStatus caseStatus caseHandoffStatus event, s =>
    (Cases.appendHandoffUpdate update handoffStatus caseStatus caseHandoffStatus event s).2
  | .markHandoffVerified handoffId now event, s => (Cases.markHandoffVerified handoffId now event s).2
  | .resolveCaseWithOutcome caseId handoffId outcome now event, s =>
    (Cases.resolveCaseWithOutcome caseId handoffId outcome now event s).2

/-- Record ids are fresh, and not empty: the constructor replaces an empty one. -/
def HandoffOp.Fresh (s : Store) : HandoffOp → Prop
  | .createHandoffWithObjectives handoff .. =>
    s.handoffs.get? handoff.handoffId = none ∧ handoff.handoffId ≠ ""
  | _ => True

def handoffStep (s : Store) (op : HandoffOp) (t : Store) : Prop := op.Fresh s ∧ t = op.run s

/-- **The index maps the key of every active handoff to exactly that handoff.** -/
def ActiveIndexed (s : Store) : Prop :=
  ∀ h ∈ s.handoffs.rows, handoffActive h.status = true →
    s.activeHandoffIndex (handoffKey h) = some h.handoffId

/-- At most one active handoff a key. -/
def ActiveUnique (s : Store) : Prop :=
  ∀ h ∈ s.handoffs.rows, ∀ h' ∈ s.handoffs.rows, handoffActive h.status = true →
    handoffActive h'.status = true → handoffKey h = handoffKey h' → h = h'

theorem ActiveIndexed.unique {s : Store} (hi : ActiveIndexed s) : ActiveUnique s := by
  intro h hm h' hm' ha ha' hk
  have hid := hi h hm ha
  rw [hk, hi h' hm' ha'] at hid
  have hget := mem_rows_iff_get hm hm' (Option.some.inj hid)
  exact hget.symm
where
  mem_rows_iff_get {s : Store} {h h' : CaseHandoff} (hm : h ∈ s.handoffs.rows)
      (hm' : h' ∈ s.handoffs.rows) (hid : h'.handoffId = h.handoffId) : h' = h := by
    have h1 := Table.mem_rows_iff.1 hm
    have h2 := Table.mem_rows_iff.1 hm'
    rw [hid, h1] at h2
    exact (Option.some.inj h2).symm

/-- `h` is finished, and another handoff is active under its key. -/
def Superseded (s : Store) (h : CaseHandoff) : Prop :=
  handoffActive h.status = false ∧
    ∃ h' ∈ s.handoffs.rows, handoffActive h'.status = true ∧ handoffKey h' = handoffKey h

/-- The call moves a superseded handoff to the status it already has. -/
def StaleWrite (s : Store) : HandoffOp → Prop
  | .appendHandoffUpdate update handoffStatus .. =>
    truthyId (s.handoffUpdateExternalIndex (update.sourceLoop, update.externalEventId)) = none ∧
    ∃ h ∈ s.handoffs.get? update.handoffId, Superseded s h ∧ (s.atomicCase? h.caseId).isSome ∧
      handoffStatus.getD update.status = h.status ∧ h.status ∉ VERIFIER_ONLY_HANDOFF_STATUSES
  | .resolveCaseWithOutcome caseId handoffId outcome .. =>
    (s.atomicCase? caseId).isSome ∧ outcome.workItemId = caseId ∧ handoffId ≠ "" ∧
    ∃ h ∈ s.handoffs.get? handoffId, Superseded s h ∧ h.status = .resolved
  | _ => False

/-! ## What one call does to handoffs and index -/

/-- The part of the store the index lives in. -/
def Store.indexed (s : Store) : Table CaseHandoff.handoffId × Index HandoffKey String :=
  (s.handoffs, s.activeHandoffIndex)

/-- **A handoff is new only if its key has no index entry**; looking changes nothing. -/
theorem existingHandoff_cases (handoff : CaseHandoff) (s : Store) :
    (∃ r, existingHandoff handoff s = (r, s) ∧ r ≠ .ok none) ∨
      existingHandoff handoff s = (.ok none, s) ∧
        truthyId (s.activeHandoffIndex (handoffKey handoff)) = none := by
  unfold existingHandoff
  simp only [peek_bind_run]
  cases truthyId (s.handoffIdempotencyIndex handoff.idempotencyKey) with
  | some existingId =>
    left
    simp only [requireHandoff_bind_run]
    cases s.handoffs.get? existingId <;> exact ⟨_, rfl, by simp⟩
  | none =>
    simp only [peek_bind_run]
    cases truthyId (s.activeHandoffIndex (handoffKey handoff)) with
    | none => exact Or.inr ⟨rfl, rfl⟩
    | some activeId =>
      left
      simp only [requireHandoff_bind_run]
      cases s.handoffs.get? activeId <;> exact ⟨_, rfl, by simp⟩

/-- Storing a new handoff. -/
def Store.addHandoff (s : Store) (handoff : CaseHandoff) : Store :=
  ({ s with handoffs := s.handoffs.put handoff }).indexIfActive handoff

theorem indexed_indexIfActive (s : Store) (handoff : CaseHandoff) :
    (s.indexIfActive handoff).indexed = (s.handoffs,
      if handoffActive handoff.status then
        s.activeHandoffIndex.set (handoffKey handoff) handoff.handoffId
      else s.activeHandoffIndex) := by
  unfold Store.indexIfActive Store.indexed
  split <;> rfl

theorem addHandoff_indexed (s : Store) (handoff : CaseHandoff) :
    (s.addHandoff handoff).indexed = (s.handoffs.put handoff,
      if handoffActive handoff.status then
        s.activeHandoffIndex.set (handoffKey handoff) handoff.handoffId
      else s.activeHandoffIndex) :=
  indexed_indexIfActive _ handoff

theorem createHandoff_indexed (handoff : CaseHandoff) (objectives : List VerificationObjective)
    (caseStatus : Option CaseStatus) (event : Option CaseEvent)
    (outboxIntent : Option OutboxIntent) (s : Store) :
    let t := (createHandoffWithObjectives handoff objectives caseStatus event outboxIntent s).2
    t.indexed = s.indexed ∨
      truthyId (s.activeHandoffIndex (handoffKey handoff)) = none ∧
        t.indexed = (s.addHandoff handoff).indexed := by
  unfold createHandoffWithObjectives
  simp only [raiseIf_bind_run, requireAtomicCase_bind_run]
  split
  · exact Or.inl rfl
  · split
    · rename_i case hcase
      rcases existingHandoff_cases handoff s with ⟨r, hr, hne⟩ | ⟨hnone, hfree⟩
      · left
        rcases r with e | _ | existing
        · rw [bind_error hr]
        · exact absurd rfl hne
        · rw [bind_ok hr]; rfl
      · right
        refine ⟨hfree, ?_⟩
        rw [bind_ok hnone]
        simp only [alter_bind_run]
        -- nothing after the first write touches handoffs or index
        refine (Fixes.bind (Fixes.forEach (storeObjective_fixes (f := Store.indexed)
          (fun _ _ _ => rfl) handoff) objectives) fun stored =>
            Fixes.bind (putCase_fixes (fun _ _ => rfl) _) fun _ =>
            Fixes.bind (storeEvent?_fixes (fun _ _ _ => rfl) event) fun _ =>
            Fixes.bind (enqueueOutbox?_fixes (fun _ _ _ => rfl) outboxIntent) fun _ =>
            Fixes.pure _) _ |>.trans ?_
        rw [indexed_indexIfActive, addHandoff_indexed]
    · exact Or.inl rfl

/-- What an update that is applied found. -/
structure Applied (s : Store) (update : HandoffUpdate) (target : HandoffStatus)
    (handoff : CaseHandoff) : Prop where
  unseen : truthyId (s.handoffUpdateExternalIndex (update.sourceLoop, update.externalEventId)) = none
  stored : s.handoffs.get? update.handoffId = some handoff
  atomic : (s.atomicCase? handoff.caseId).isSome
  targeted : target ∉ VERIFIER_ONLY_HANDOFF_STATUSES
  allowed : allowedHandoffTransition handoff.status target update.sourceLoop = true

/-- The handoff as an applied update leaves it. -/
def HandoffUpdate.applyTo (update : HandoffUpdate) (target : HandoffStatus)
    (handoff : CaseHandoff) : CaseHandoff :=
  { handoff with
    status := target
    updatedAt := update.createdAt }

/-- The store after the handoff and the update are written. -/
def Store.applyUpdate (s : Store) (update : HandoffUpdate) (target : HandoffStatus)
    (handoff : CaseHandoff) : Store :=
  ({ s with
    handoffUpdates := s.handoffUpdates.put update
    handoffUpdateExternalIndex := s.handoffUpdateExternalIndex.set
      (update.sourceLoop, update.externalEventId) update.updateId }).replaceHandoff handoff
        (update.applyTo target handoff)

/-- An applied update writes the handoff and its index entry, then the case and the event. -/
theorem appendHandoffUpdate_applied {update : HandoffUpdate} {handoffStatus : Option HandoffStatus}
    {s : Store} {handoff : CaseHandoff} {case : AtomicCaseProjection}
    (h : Applied s update (handoffStatus.getD update.status) handoff)
    (hcase : s.atomicCase? handoff.caseId = some case)
    (caseStatus : Option CaseStatus) (caseHandoffStatus : Option String)
    (event : Option CaseEvent) :
    let updated := update.applyTo (handoffStatus.getD update.status) handoff
    let t := s.applyUpdate update (handoffStatus.getD update.status) handoff
    appendHandoffUpdate update handoffStatus caseStatus caseHandoffStatus event s =
      (do
        let updatedCase := caseAfterUpdate case updated (t.survivingHandoff updated) caseStatus
          caseHandoffStatus update.createdAt
        putCase updatedCase
        let storedEvent ← storeEvent? event
        pure ⟨update, updated, updatedCase, storedEvent, true⟩ : StoreM HandoffUpdateResult) t := by
  unfold appendHandoffUpdate
  simp only [peek_bind_run, h.unseen, requireHandoff_bind_run, h.stored, requireAtomicCase_bind_run,
    hcase, raiseIf_bind_run, if_neg h.targeted, requireHandoffTransition_bind_run, h.allowed,
    Bool.true_eq_false, if_false, alter_bind_run]
  rfl

theorem appendHandoffUpdate_indexed {update : HandoffUpdate} {handoffStatus : Option HandoffStatus}
    {s : Store} {handoff : CaseHandoff}
    (h : Applied s update (handoffStatus.getD update.status) handoff)
    (caseStatus : Option CaseStatus) (caseHandoffStatus : Option String)
    (event : Option CaseEvent) :
    (appendHandoffUpdate update handoffStatus caseStatus caseHandoffStatus event s).2.indexed =
      (s.replaceHandoff handoff
        (update.applyTo (handoffStatus.getD update.status) handoff)).indexed := by
  obtain ⟨case, hcase⟩ := Option.isSome_iff_exists.1 h.atomic
  rw [appendHandoffUpdate_applied h hcase caseStatus caseHandoffStatus event]
  refine (Fixes.bind (putCase_fixes (f := Store.indexed) (fun _ _ => rfl) _) fun _ =>
    Fixes.bind (storeEvent?_fixes (fun _ _ _ => rfl) event) fun _ => Fixes.pure _) _ |>.trans ?_
  unfold Store.applyUpdate Store.replaceHandoff
  rw [indexed_indexIfActive, indexed_indexIfActive]

/-- A new update that is not applied raises. -/
theorem appendHandoffUpdate_raises {update : HandoffUpdate} {handoffStatus : Option HandoffStatus}
    {s : Store}
    (hnew : truthyId (s.handoffUpdateExternalIndex (update.sourceLoop, update.externalEventId)) = none)
    (h : ∀ handoff, ¬ Applied s update (handoffStatus.getD update.status) handoff)
    (caseStatus : Option CaseStatus) (caseHandoffStatus : Option String)
    (event : Option CaseEvent) :
    ∃ e, appendHandoffUpdate update handoffStatus caseStatus caseHandoffStatus event s =
      (.error e, s) := by
  unfold appendHandoffUpdate
  simp only [peek_bind_run, hnew, requireHandoff_bind_run, requireAtomicCase_bind_run,
    raiseIf_bind_run, requireHandoffTransition_bind_run]
  split
  · rename_i handoff hstored
    split
    · rename_i case hcase
      split
      · exact ⟨_, rfl⟩
      · rename_i htarget
        split
        · exact ⟨_, rfl⟩
        · rename_i hallowed
          exact absurd ⟨hnew, hstored, by rw [hcase]; rfl, htarget, by simpa using hallowed⟩
            (h handoff)
    · exact ⟨_, rfl⟩
  · exact ⟨_, rfl⟩

theorem appendHandoffUpdate_refused {update : HandoffUpdate} {handoffStatus : Option HandoffStatus}
    {s : Store} (h : ∀ handoff, ¬ Applied s update (handoffStatus.getD update.status) handoff)
    (caseStatus : Option CaseStatus) (caseHandoffStatus : Option String)
    (event : Option CaseEvent) :
    (appendHandoffUpdate update handoffStatus caseStatus caseHandoffStatus event s).2 = s := by
  cases hnew : truthyId (s.handoffUpdateExternalIndex (update.sourceLoop, update.externalEventId)) with
  | some existingId =>
    unfold appendHandoffUpdate
    simp only [peek_bind_run, hnew, orRaise_bind_run, requireHandoff_bind_run,
      requireAtomicCase_bind_run]
    split
    · split
      · split <;> rfl
      · rfl
    · rfl
  | none =>
    obtain ⟨e, hrun⟩ := appendHandoffUpdate_raises hnew h caseStatus caseHandoffStatus event
    rw [hrun]

theorem markHandoffVerified_indexed (handoffId now : String) (event : Option CaseEvent)
    (s : Store) :
    let t := (markHandoffVerified handoffId now event s).2
    t.indexed = s.indexed ∨
      ∃ handoff, s.handoffs.get? handoffId = some handoff ∧
        allowedHandoffTransition handoff.status .verified .noc = true ∧
        t.indexed = (s.replaceHandoff handoff { handoff with
          status := .verified
          updatedAt := now }).indexed := by
  unfold markHandoffVerified
  simp only [requireHandoff_bind_run, requireHandoffTransition_bind_run]
  split
  · rename_i handoff hstored
    split
    · exact Or.inl rfl
    · rename_i hallowed
      refine Or.inr ⟨handoff, hstored, by simpa using hallowed, ?_⟩
      simp only [alter_bind_run, requireAtomicCase_bind_run]
      split
      · exact (Fixes.bind (putCase_fixes (f := Store.indexed) (fun _ _ => rfl) _) fun _ =>
          Fixes.bind (storeEvent?_fixes (fun _ _ _ => rfl) event) fun _ => Fixes.pure _) _
      · rfl
  · exact Or.inl rfl

/-- What a call that resolves a handoff found. -/
structure Resolves (s : Store) (caseId handoffId : String) (outcome : OutcomeRecord)
    (handoff : CaseHandoff) : Prop where
  atomic : (s.atomicCase? caseId).isSome
  about : outcome.workItemId = caseId
  named : handoffId ≠ ""
  stored : s.handoffs.get? handoffId = some handoff
  allowed : allowedHandoffTransition handoff.status .resolved .noc = true

/-- The end of `resolve_case_with_outcome` writes no handoff. -/
theorem resolveTail_fixes (outcome : OutcomeRecord) (case : AtomicCaseProjection)
    (event : Option CaseEvent) : Fixes Store.indexed (do
      alter fun s => { s with outcomes := s.outcomes.put outcome }
      putCase case
      let _ ← storeEvent? event
      pure case : StoreM AtomicCaseProjection) :=
  Fixes.bind (Fixes.alter fun _ => rfl) fun _ =>
    Fixes.bind (putCase_fixes (fun _ _ => rfl) _) fun _ =>
    Fixes.bind (storeEvent?_fixes (fun _ _ _ => rfl) event) fun _ => Fixes.pure _

theorem resolveCaseWithOutcome_applied {s : Store} {caseId handoffId : String}
    {outcome : OutcomeRecord} {handoff : CaseHandoff}
    (h : Resolves s caseId handoffId outcome handoff) (now : String) (event : Option CaseEvent) :
    (resolveCaseWithOutcome caseId handoffId outcome now event s).2.indexed =
      (s.replaceHandoff handoff { handoff with
        status := .resolved
        updatedAt := now }).indexed := by
  obtain ⟨case, hcase⟩ := Option.isSome_iff_exists.1 h.atomic
  have hwork : ¬ outcome.workItemId ≠ case.caseId := by
    rw [caseId_of_atomicCase? hcase, h.about]; simp
  unfold resolveCaseWithOutcome resolveHandoff
  simp only [requireAtomicCase_bind_run, hcase, raiseIf_bind_run, if_neg hwork, if_neg h.named,
    bind_bind_run, requireHandoff_bind_run, h.stored, requireHandoffTransition_bind_run, h.allowed,
    Bool.true_eq_false, if_false, alter_bind_run]
  exact resolveTail_fixes outcome _ event _

theorem resolveCaseWithOutcome_refused {s : Store} {caseId handoffId : String}
    {outcome : OutcomeRecord} (h : ∀ handoff, ¬ Resolves s caseId handoffId outcome handoff)
    (now : String) (event : Option CaseEvent) :
    (resolveCaseWithOutcome caseId handoffId outcome now event s).2.indexed = s.indexed := by
  unfold resolveCaseWithOutcome resolveHandoff
  simp only [requireAtomicCase_bind_run, raiseIf_bind_run]
  split
  · rename_i case hcase
    split
    · rfl
    · rename_i hwork
      split
      · exact resolveTail_fixes outcome _ event s
      · rename_i hne
        simp only [bind_bind_run, requireHandoff_bind_run, requireHandoffTransition_bind_run]
        split
        · rename_i handoff hstored
          split
          · rfl
          · rename_i hallowed
            have habout : outcome.workItemId = caseId := by
              rw [← caseId_of_atomicCase? hcase]; simpa using hwork
            exact absurd ⟨by rw [hcase]; rfl, habout, hne, hstored, by simpa using hallowed⟩
              (h handoff)
        · rfl
  · rfl

/-! ## The invariant -/

theorem ActiveIndexed.congr {s t : Store} (h : t.indexed = s.indexed) :
    ActiveIndexed t ↔ ActiveIndexed s := by
  have h1 : t.handoffs = s.handoffs := congrArg Prod.fst h
  have h2 : t.activeHandoffIndex = s.activeHandoffIndex := congrArg Prod.snd h
  unfold ActiveIndexed
  rw [h1, h2]

/-- No handoff is stored without an id. -/
def Named (s : Store) : Prop := ∀ h ∈ s.handoffs.rows, h.handoffId ≠ ""

theorem Named.congr {s t : Store} (h : t.indexed = s.indexed) (hs : Named s) : Named t := by
  have h1 : t.handoffs = s.handoffs := congrArg Prod.fst h
  unfold Named
  rwa [h1]

theorem replaceHandoff_indexed (s : Store) (old new : CaseHandoff) :
    (s.replaceHandoff old new).indexed = (s.handoffs.put new,
      if handoffActive new.status then
        (s.activeHandoffIndex.pop (handoffKey old)).set (handoffKey new) new.handoffId
      else s.activeHandoffIndex.pop (handoffKey old)) := by
  unfold Store.replaceHandoff
  rw [indexed_indexIfActive]

theorem Named.replace {s : Store} {old : CaseHandoff} (hs : Named s)
    (hold : s.handoffs.get? old.handoffId = some old) (target : HandoffStatus) (stamp : String) :
    Named (s.replaceHandoff old { old with
      status := target
      updatedAt := stamp }) := by
  have hix := congrArg Prod.fst (replaceHandoff_indexed s old { old with
    status := target
    updatedAt := stamp })
  simp only [Store.indexed] at hix
  intro h hm
  rw [hix] at hm
  rcases Table.mem_put.1 hm with rfl | ⟨hm, -⟩
  · exact hs old (Table.mem_of_get? hold)
  · exact hs h hm

/-- **Replacing a handoff keeps the index exactly when the old one was not superseded.** -/
theorem replaceHandoff_activeIndexed {s : Store} {old : CaseHandoff} (hi : ActiveIndexed s)
    (hold : s.handoffs.get? old.handoffId = some old) {target : HandoffStatus} (stamp : String)
    (hdone : handoffActive old.status = false → handoffActive target = false) :
    ActiveIndexed (s.replaceHandoff old { old with
      status := target
      updatedAt := stamp }) ↔ ¬ Superseded s old := by
  generalize hnew : { old with
    status := target
    updatedAt := stamp } = new
  have hid : new.handoffId = old.handoffId := by rw [← hnew]
  have hkey : handoffKey new = handoffKey old := by rw [← hnew]; rfl
  have hstatus : new.status = target := by rw [← hnew]
  rw [← hstatus] at hdone
  have hix := replaceHandoff_indexed s old new
  have h1 : (s.replaceHandoff old new).handoffs = s.handoffs.put new := congrArg Prod.fst hix
  have h2 := congrArg Prod.snd hix
  simp only [Store.indexed] at h2
  constructor
  · rintro hi' ⟨hterm, h, hm, ha, hk⟩
    have hne : h.handoffId ≠ new.handoffId := by
      intro he
      rw [Table.mem_rows_iff, he, hid, hold] at hm
      cases hm
      rw [hterm] at ha
      cases ha
    have hput : h ∈ (s.replaceHandoff old new).handoffs.rows := by
      rw [h1]; exact Table.mem_put.2 (Or.inr ⟨hm, hne⟩)
    have hent := hi' h hput ha
    rw [h2, hdone hterm, hk] at hent
    simp at hent
  · intro hfree h hm ha
    rw [h1] at hm
    rw [h2]
    rcases Table.mem_put.1 hm with rfl | ⟨hm, hne⟩
    · rw [if_pos ha, Index.set_self]
    · have hk : handoffKey h ≠ handoffKey old := by
        intro hk
        cases hact : handoffActive old.status with
        | false => exact hfree ⟨hact, h, hm, ha, hk⟩
        | true =>
          have := hi.unique h hm old (Table.mem_of_get? hold) ha hact hk
          exact hne (by rw [this, hid])
      have hent := hi h hm ha
      split
      · rw [Index.set_apply, if_neg (by rw [hkey]; exact hk), Index.pop_apply, if_neg hk, hent]
      · rw [Index.pop_apply, if_neg hk, hent]

/-- A new handoff takes a key no active handoff has. -/
theorem addHandoff_activeIndexed {s : Store} {handoff : CaseHandoff} (hi : ActiveIndexed s)
    (hn : Named s) (hfresh : s.handoffs.get? handoff.handoffId = none)
    (hfree : truthyId (s.activeHandoffIndex (handoffKey handoff)) = none) :
    ActiveIndexed (s.addHandoff handoff) := by
  have hix := addHandoff_indexed s handoff
  have h1 : (s.addHandoff handoff).handoffs = s.handoffs.put handoff := congrArg Prod.fst hix
  have h2 := congrArg Prod.snd hix
  simp only [Store.indexed] at h2
  intro h hm ha
  rw [h1] at hm
  rw [h2]
  rcases Table.mem_put.1 hm with rfl | ⟨hm, -⟩
  · rw [if_pos ha, Index.set_self]
  · have hent := hi h hm ha
    have hk : handoffKey h ≠ handoffKey handoff := by
      intro hk
      rw [← hk, hent] at hfree
      simp [truthyId, Option.filter, hn h hm] at hfree
    split
    · rw [Index.set_apply, if_neg hk]; exact hent
    · exact hent

theorem Named.add {s : Store} {handoff : CaseHandoff} (hs : Named s) (h : handoff.handoffId ≠ "") :
    Named (s.addHandoff handoff) := by
  have h1 : (s.addHandoff handoff).handoffs = s.handoffs.put handoff :=
    congrArg Prod.fst (addHandoff_indexed s handoff)
  intro x hm
  rw [h1] at hm
  rcases Table.mem_put.1 hm with rfl | ⟨hm, -⟩
  · exact h
  · exact hs x hm

theorem handoffActive_eq_false {status : HandoffStatus} :
    handoffActive status = false ↔ status ∈ TERMINAL_HANDOFF_STATUSES := by
  simp [handoffActive]

/-- A step replaces a handoff that is not finished, or leaves a finished one in its status. -/
theorem stays_finished {current target : HandoffStatus} {actorLoop : LoopName}
    (h : allowedHandoffTransition current target actorLoop = true)
    (hc : handoffActive current = false) : target = current ∧ handoffActive target = false := by
  have ht := allowed_of_terminal (handoffActive_eq_false.1 hc) h
  exact ⟨ht, by rw [ht]; exact hc⟩

theorem named_step {s t : Store} {op : HandoffOp} (hs : Named s) (h : handoffStep s op t) :
    Named t := by
  obtain ⟨hfresh, rfl⟩ := h
  cases op with
  | upsertCase case => exact hs
  | createHandoffWithObjectives handoff objectives caseStatus event outboxIntent =>
    rcases createHandoff_indexed handoff objectives caseStatus event outboxIntent s with h | ⟨-, h⟩
    · exact hs.congr h
    · exact (hs.add hfresh.2).congr h
  | appendHandoffUpdate update handoffStatus caseStatus caseHandoffStatus event =>
    by_cases h : ∃ handoff, Applied s update (handoffStatus.getD update.status) handoff
    · obtain ⟨handoff, h⟩ := h
      refine Named.congr (appendHandoffUpdate_indexed h caseStatus caseHandoffStatus event) ?_
      have hold := Table.get?_key h.stored
      exact hs.replace hold _ _
    · have hrefused := appendHandoffUpdate_refused (not_exists.1 h) caseStatus caseHandoffStatus event
      exact hs.congr (congrArg Store.indexed hrefused)
  | markHandoffVerified handoffId now event =>
    rcases markHandoffVerified_indexed handoffId now event s with h | ⟨handoff, hstored, -, h⟩
    · exact hs.congr h
    · have hold := Table.get?_key hstored
      exact (hs.replace hold _ _).congr h
  | resolveCaseWithOutcome caseId handoffId outcome now event =>
    by_cases h : ∃ handoff, Resolves s caseId handoffId outcome handoff
    · obtain ⟨handoff, h⟩ := h
      refine Named.congr (resolveCaseWithOutcome_applied h now event) ?_
      have hold := Table.get?_key h.stored
      exact hs.replace hold _ _
    · exact hs.congr (resolveCaseWithOutcome_refused (not_exists.1 h) now event)

/-- **A call keeps the index exactly when it is not a stale write.** -/
theorem activeIndexed_step {s t : Store} {op : HandoffOp} (hn : Named s) (hi : ActiveIndexed s)
    (h : handoffStep s op t) : ActiveIndexed t ↔ ¬ StaleWrite s op := by
  obtain ⟨hfresh, rfl⟩ := h
  cases op with
  | upsertCase case => exact iff_of_true hi not_false
  | createHandoffWithObjectives handoff objectives caseStatus event outboxIntent =>
    refine iff_of_true ?_ not_false
    rcases createHandoff_indexed handoff objectives caseStatus event outboxIntent s with
      h | ⟨hfree, h⟩
    · exact (ActiveIndexed.congr h).2 hi
    · exact (ActiveIndexed.congr h).2 (addHandoff_activeIndexed hi hn hfresh.1 hfree)
  | appendHandoffUpdate update handoffStatus caseStatus caseHandoffStatus event =>
    by_cases h : ∃ handoff, Applied s update (handoffStatus.getD update.status) handoff
    · obtain ⟨handoff, h⟩ := h
      have hold := Table.get?_key h.stored
      refine (ActiveIndexed.congr
        (appendHandoffUpdate_indexed h caseStatus caseHandoffStatus event)).trans ?_
      unfold HandoffUpdate.applyTo
      rw [replaceHandoff_activeIndexed hi hold _ fun hc => (stays_finished h.allowed hc).2]
      refine not_congr ⟨fun hsup => ?_, fun hstale => ?_⟩
      · have htarget := (stays_finished h.allowed hsup.1).1
        exact ⟨h.unseen, handoff, h.stored, hsup, h.atomic, htarget, htarget ▸ h.targeted⟩
      · obtain ⟨-, handoff', hstored, hsup, -⟩ := hstale
        rw [h.stored] at hstored
        cases hstored
        exact hsup
    · have hrefused := appendHandoffUpdate_refused (not_exists.1 h) caseStatus caseHandoffStatus event
      refine iff_of_true ((ActiveIndexed.congr (congrArg Store.indexed hrefused)).2 hi) ?_
      rintro ⟨hunseen, handoff, hstored, -, hatomic, htarget, hverifier⟩
      refine h ⟨handoff, hunseen, hstored, hatomic, by rw [htarget]; exact hverifier, ?_⟩
      unfold allowedHandoffTransition
      rw [htarget, if_neg fun hv => hverifier hv.1, if_pos rfl]
  | markHandoffVerified handoffId now event =>
    refine iff_of_true ?_ not_false
    rcases markHandoffVerified_indexed handoffId now event s with h | ⟨handoff, hstored, hallowed, h⟩
    · exact (ActiveIndexed.congr h).2 hi
    · have hold := Table.get?_key hstored
      have hact : handoffActive handoff.status = true := by
        rcases (allowed_verified _).1 hallowed with hs | hs <;> rw [hs] <;> rfl
      refine (ActiveIndexed.congr h).2
        ((replaceHandoff_activeIndexed hi hold _ ?_).2 ?_)
      · intro hc; rw [hact] at hc; cases hc
      · rintro ⟨hc, -⟩; rw [hact] at hc; cases hc
  | resolveCaseWithOutcome caseId handoffId outcome now event =>
    by_cases h : ∃ handoff, Resolves s caseId handoffId outcome handoff
    · obtain ⟨handoff, h⟩ := h
      have hold := Table.get?_key h.stored
      refine (ActiveIndexed.congr (resolveCaseWithOutcome_applied h now event)).trans ?_
      rw [replaceHandoff_activeIndexed hi hold _ fun _ => rfl]
      refine not_congr ⟨fun hsup => ?_, fun hstale => ?_⟩
      · have htarget := (stays_finished h.allowed hsup.1).1
        exact ⟨h.atomic, h.about, h.named, handoff, h.stored, hsup, htarget.symm⟩
      · obtain ⟨-, -, -, handoff', hstored, hsup, -⟩ := hstale
        rw [h.stored] at hstored
        cases hstored
        exact hsup
    · refine iff_of_true ((ActiveIndexed.congr
        (resolveCaseWithOutcome_refused (not_exists.1 h) now event)).2 hi) ?_
      rintro ⟨hatomic, habout, hnamed, handoff, hstored, hsup, hres⟩
      exact h ⟨handoff, hatomic, habout, hnamed, hstored, by rw [hres]; rfl⟩

/-- What the index is for, in one state. -/
def IndexSound (s : Store) : Prop := ActiveUnique s ∧ ActiveIndexed s

/-- **The runs without a stale write are exactly the runs in which every state's index is
sound.** -/
theorem indexSound_run_iff {ops : List HandoffOp} {s : Store} :
    Run (Guarded handoffStep fun s op => ¬ StaleWrite s op) {} ops s ↔
      Run (Upheld handoffStep IndexSound) {} ops s := by
  refine Run.guarded_iff_upheld (fun _ _ _ hs h => named_step hs h) ?_ (fun h hm => ?_)
    ⟨fun h hm => ?_, fun h hm => ?_⟩
  · intro s op t hn hi h
    rw [← activeIndexed_step hn hi.2 h]
    exact ⟨fun ht => ht.2, fun ht => ⟨ht.unique, ht⟩⟩
  · cases hm
  · cases hm
  · cases hm

/-! ## A late cancellation -/

/-- A handoff of one case to engineering. -/
def restoreHandoff (handoffId idempotencyKey : String) : CaseHandoff where
  handoffId := handoffId
  caseId := "case_1"
  targetLoop := .engineering
  objective := "restore service"
  objectiveKey := "restore"
  idempotencyKey := idempotencyKey
  correlationId := "corr_1"
  createdAt := "2026-01-01T00:00:00+00:00"
  updatedAt := "2026-01-01T00:00:00+00:00"

/-- The first handoff is cancelled. -/
def cancelFirst (updateId externalEventId : String) : HandoffOp :=
  .appendHandoffUpdate {
    updateId := updateId
    handoffId := "handoff_1"
    caseId := "case_1"
    sourceLoop := .engineering
    updateType := .cancelled
    status := .cancelled
    externalEventId := externalEventId
    correlationId := "corr_1"
    createdAt := "2026-01-01T01:00:00+00:00" } none none none none

def createRestore (handoffId idempotencyKey : String) : HandoffOp :=
  .createHandoffWithObjectives (restoreHandoff handoffId idempotencyKey) [] none none none

/-- Cancel, replace, cancel the old one again under a new event id, replace again. -/
def lateCancel : List HandoffOp :=
  [.upsertCase (.atomic {
      caseId := "case_1"
      openedAt := "2026-01-01T00:00:00+00:00"
      updatedAt := "2026-01-01T00:00:00+00:00" }),
    createRestore "handoff_1" "k1",
    cancelFirst "hu_1" "evt_1",
    createRestore "handoff_2" "k2",
    cancelFirst "hu_2" "evt_2",
    createRestore "handoff_3" "k3"]

def lateCancelStore : Store := lateCancel.foldl (fun s op => op.run s) {}

theorem indexSound_lateCancel :
    Run handoffStep {} lateCancel lateCancelStore ∧ ¬ IndexSound lateCancelStore := by
  constructor
  · refine Run.cons ⟨trivial, rfl⟩ (Run.cons ⟨⟨rfl, by decide⟩, rfl⟩ (Run.cons ⟨trivial, rfl⟩
      (Run.cons ⟨⟨rfl, by decide⟩, rfl⟩ (Run.cons ⟨trivial, rfl⟩ (Run.single ⟨⟨rfl, by decide⟩, rfl⟩)))))
  · rintro ⟨hunique, -⟩
    have hrows : lateCancelStore.handoffs.rows =
        [{ restoreHandoff "handoff_1" "k1" with
            status := .cancelled
            updatedAt := "2026-01-01T01:00:00+00:00" },
          restoreHandoff "handoff_2" "k2", restoreHandoff "handoff_3" "k3"] := rfl
    have h2 : restoreHandoff "handoff_2" "k2" ∈ lateCancelStore.handoffs.rows := by
      rw [hrows]; simp
    have h3 : restoreHandoff "handoff_3" "k3" ∈ lateCancelStore.handoffs.rows := by
      rw [hrows]; simp
    have heq := hunique _ h2 _ h3 rfl rfl rfl
    exact absurd (congrArg CaseHandoff.handoffId heq) (by decide)

end NocAgent.Cases
