import NocAgent.Lib.Backends
import NocAgent.Cases.BackendContents
import NocAgent.Cases.HandoffStatus

/-!
# The two case stores agree on handoff progress and outcomes

* `BackendCall` — a call of one of the four methods; `BackendCall.inMemory` and
  `BackendCall.inPostgres` run it.
* `Database.Settled` — every row is taken, and is read back as it was written.
* `Agreeing` — the two stores hold the same, and their rows are settled.
* `BackendCall.Fits` — what a call needs for both stores to answer alike.
* `backendsAgree_run` — in every run of calls that fit, they do.

The stores differ where a reference or an argument is checked by one of them only, where a row that
is there is kept by one and replaced by the other, and where a record is not read back as it was
written.
-/

set_option autoImplicit false

namespace NocAgent.Cases

open Effects Effects.Action Keyed Latest Backends

inductive BackendCall where
  | appendHandoffUpdate (update : HandoffUpdate) (handoffStatus : Option HandoffStatus)
      (caseStatus : Option CaseStatus) (caseHandoffStatus : Option String)
      (event : Option CaseEvent)
  | upsertVerificationObjective (objective : VerificationObjective) (event : Option CaseEvent)
  | recordOutcome (outcome : OutcomeRecord) (event : Option CaseEvent)
  | resolveCaseWithOutcome (caseId handoffId : String) (outcome : OutcomeRecord) (now : String)
      (event : Option CaseEvent)

def BackendCall.Reply : BackendCall → Type
  | .appendHandoffUpdate .. => HandoffUpdateResult
  | .upsertVerificationObjective .. => VerificationObjective
  | .recordOutcome .. => OutcomeRecord
  | .resolveCaseWithOutcome .. => AtomicCaseProjection

def BackendCall.inMemory : (call : BackendCall) → StoreM call.Reply
  | .appendHandoffUpdate update handoffStatus caseStatus caseHandoffStatus event =>
    Cases.appendHandoffUpdate update handoffStatus caseStatus caseHandoffStatus event
  | .upsertVerificationObjective objective event =>
    Cases.upsertVerificationObjective objective event
  | .recordOutcome outcome event => Cases.recordOutcome outcome event
  | .resolveCaseWithOutcome caseId handoffId outcome now event =>
    Cases.resolveCaseWithOutcome caseId handoffId outcome now event

def BackendCall.inPostgres (py : Python) (collation : Collation) :
    (call : BackendCall) → DatabaseM call.Reply
  | .appendHandoffUpdate update handoffStatus caseStatus caseHandoffStatus event =>
    Postgres.appendHandoffUpdate py collation update handoffStatus caseStatus caseHandoffStatus event
  | .upsertVerificationObjective objective event =>
    Postgres.upsertVerificationObjective py objective event
  | .recordOutcome outcome event => Postgres.recordOutcome py outcome event
  | .resolveCaseWithOutcome caseId handoffId outcome now event =>
    Postgres.resolveCaseWithOutcome py caseId handoffId outcome now event

/-! ## Settled rows -/

/-- The case is taken, and read back as it was written. -/
def AtomicCaseProjection.Settled (py : Python) (case : AtomicCaseProjection) : Prop :=
  case.readBack py = case ∧ Storable case.modelDump

/-- Every row is taken, and is read back as it was written. -/
structure Database.Settled (py : Python) (d : Database) : Prop where
  cases : ∀ caseId case, d.atomicCase? caseId = some case → case.Settled py
  handoffs : ∀ row ∈ d.caseHandoffs.rows, row.readBack py = some row
  updates : ∀ row ∈ d.handoffUpdates.rows, row.readBack py = some row
  objectives : ∀ row ∈ d.verificationObjectives.rows, row.readBack py = some row
  outcomes : ∀ row ∈ d.outcomeRecords.rows, row.readBack py = some row

/-- The two stores hold the same, their rows are settled, and the references and the index of the
database hold. -/
structure Agreeing (py : Python) (s : Store) (d : Database) : Prop where
  same : SameContent s d
  settled : d.Settled py
  fingerprints : d.cases.UniqueBy activeFingerprint
  references : ∀ row ∈ d.verificationObjectives.rows, (d.cases.get? row.caseId).isSome = true

/-! ## What a call needs -/

/-- Both stores keep the event, and list it alike. -/
structure CaseEvent.StoredAlike (s : Store) (event : CaseEvent) : Prop where
  storable : Storable event.modelDump
  placed : s.events.get? event.eventId = none →
    (∀ caseId ∈ event.concerned, (s.cases.get? caseId).isSome = true) ∧ event.ListedOnce

/-- A handoff that has ended leaves no other one under its key. -/
def NotSuperseded (s : Store) (handoff : CaseHandoff) : Prop :=
  handoffActive handoff.status = false →
    truthyId (s.activeHandoffIndex (handoffKey handoff)) = none

/-- No storm case has the id. -/
def NoStorm (s : Store) (caseId : String) : Prop :=
  ∀ storm, s.cases.get? caseId ≠ some (.storm storm)

/-- An update of an event that is new: it is settled and names the case of its handoff, its id is
new, and the case is not reopened beside another with its fingerprint. -/
structure UpdateFits (py : Python) (s : Store) (update : HandoffUpdate) (target : HandoffStatus)
    (caseStatus : Option CaseStatus) (caseHandoffStatus : Option String)
    (event : Option CaseEvent) : Prop where
  settled : update.readBack py = some update
  fresh : s.handoffUpdates.get? update.updateId = none
  sameCase : ∀ handoff ∈ s.handoffs.get? update.handoffId, update.caseId = handoff.caseId
  current : ∀ handoff ∈ s.handoffs.get? update.handoffId, NotSuperseded s handoff
  reopened : ∀ case ∈ s.atomicCase? update.caseId, target ∉ TERMINAL_HANDOFF_STATUSES →
    s.cases.Accepts activeFingerprint
      (.atomic { case with status := caseStatus.getD case.status })
  label : ∀ text ∈ caseHandoffStatus, storableText text = true
  event : ∀ e ∈ event, e.StoredAlike s

/-- An objective that is settled and names a stored handoff; under its key the store has an objective
of the same age, or nothing with its id. -/
structure ObjectiveFits (py : Python) (s : Store) (objective : VerificationObjective)
    (event : Option CaseEvent) : Prop where
  settled : objective.readBack py = some objective
  kind : NoStorm s objective.caseId
  handoff : (s.handoffs.get? objective.handoffId).isSome = true
  created : ∀ id ∈ truthyId (s.verificationObjectiveIndex objective.caseKey),
    ∀ existing ∈ s.verificationObjectives.get? id, existing.createdAt = objective.createdAt
  fresh : truthyId (s.verificationObjectiveIndex objective.caseKey) = none →
    s.verificationObjectives.get? objective.objectiveId = none
  event : ∀ e ∈ event, e.StoredAlike s

/-- An outcome that is settled; one that is there already is of a stored case, and brings no new
event. -/
structure OutcomeFits (py : Python) (s : Store) (outcome : OutcomeRecord)
    (event : Option CaseEvent) : Prop where
  settled : outcome.readBack py = some outcome
  kind : NoStorm s outcome.workItemId
  known : (s.outcomes.get? outcome.outcomeId).isSome = true →
    (s.atomicCase? outcome.workItemId).isSome = true ∧
      ∀ e ∈ event, (s.events.get? e.eventId).isSome = true
  event : ∀ e ∈ event, e.StoredAlike s

/-- An outcome that is settled, new or recorded as it is, and a handoff that is current. -/
structure ResolutionFits (py : Python) (s : Store) (handoffId : String) (outcome : OutcomeRecord)
    (now : String) (event : Option CaseEvent) : Prop where
  settled : outcome.readBack py = some outcome
  recorded : ∀ existing ∈ s.outcomes.get? outcome.outcomeId, existing = outcome
  current : ∀ handoff ∈ s.handoffs.get? handoffId, NotSuperseded s handoff
  time : storableText now = true
  event : ∀ e ∈ event, e.StoredAlike s

def BackendCall.Fits (py : Python) (s : Store) : BackendCall → Prop
  | .appendHandoffUpdate update handoffStatus caseStatus caseHandoffStatus event =>
    truthyId (s.handoffUpdateExternalIndex update.externalKey) = none →
      UpdateFits py s update (handoffStatus.getD update.status) caseStatus caseHandoffStatus event
  | .upsertVerificationObjective objective event => ObjectiveFits py s objective event
  | .recordOutcome outcome event => OutcomeFits py s outcome event
  | .resolveCaseWithOutcome _ handoffId outcome now event =>
    ResolutionFits py s handoffId outcome now event

/-! ## Rows that stay settled -/

section Settled

variable {py : Python} {s : Store} {d : Database}

/-- Only a blank signature is filled in. -/
theorem readBack_case_iff {case : AtomicCaseProjection} : case.readBack py = case ↔
    (case.signalSignature = "" → stableSignalSignature py case.signalSnapshot = "") := by
  constructor
  · intro h hblank
    have hsame := congrArg AtomicCaseProjection.signalSignature h
    unfold AtomicCaseProjection.readBack at hsame
    rw [if_pos hblank] at hsame
    exact hsame.trans hblank
  · intro h
    unfold AtomicCaseProjection.readBack
    by_cases hblank : case.signalSignature = ""
    · rw [if_pos hblank, h hblank, ← hblank]
    · rw [if_neg hblank]

/-- A change that leaves the signal alone is read back too. -/
theorem readBack_case_congr {case written : AtomicCaseProjection} (h : case.readBack py = case)
    (hsignature : written.signalSignature = case.signalSignature)
    (hsnapshot : written.signalSnapshot = case.signalSnapshot) : written.readBack py = written := by
  rw [readBack_case_iff] at h ⊢
  rwa [hsignature, hsnapshot]

theorem atomicCase?_putCase (case : AtomicCaseProjection) (caseId : String) :
    (d.putCase case).atomicCase? caseId =
      if case.caseId = caseId then some case else d.atomicCase? caseId := by
  unfold Database.atomicCase? Database.putCase
  simp only
  rw [Table.get?_put]
  show (if case.caseId = caseId then some (CaseProjection.atomic case)
    else d.cases.get? caseId).bind CaseProjection.atomic? = _
  split <;> rfl

theorem Database.Settled.putCase (h : d.Settled py) {case : AtomicCaseProjection}
    (hcase : case.Settled py) : (d.putCase case).Settled py := by
  refine { h with cases := fun caseId found hfound => ?_ }
  rw [atomicCase?_putCase] at hfound
  split at hfound
  · cases hfound
    exact hcase
  · exact h.cases caseId found hfound

/-- A settled row that is written among settled rows. -/
theorem settled_put {ρ κ : Type} [DecidableEq κ] {key : ρ → κ} {read : ρ → Option ρ}
    {rows : Table key} (h : ∀ row ∈ rows.rows, read row = some row) {r : ρ}
    (hr : read r = some r) : ∀ row ∈ (rows.put r).rows, read row = some row := by
  intro row hrow
  rcases Table.mem_put.1 hrow with rfl | ⟨hrow, -⟩
  · exact hr
  · exact h row hrow

theorem Database.Settled.addEvent (h : d.Settled py) (event : CaseEvent) :
    (Postgres.addEvent d event).Settled py := by
  unfold Postgres.addEvent
  split
  · exact h
  · exact { h with }

/-- A settled handoff has the id it was given. -/
theorem handoffId_ne_empty {row : CaseHandoff} (h : row.readBack py = some row) :
    row.handoffId ≠ "" := by
  have hid := (CaseHandoff.of_readBack h).2.2.1
  rw [hid]
  exact sanitizeLhpToken_ne_empty py _ 180

end Settled

/-! ## Writes that keep the stores agreeing -/

section Writes

variable {py : Python} {s : Store} {d : Database}

theorem Agreeing.putCase (h : Agreeing py s d) {case : AtomicCaseProjection}
    (hread : case.Settled py) (hknown : (d.cases.get? case.caseId).isSome = true)
    (haccepts : d.cases.Accepts activeFingerprint (.atomic case)) :
    Agreeing py { s with cases := s.cases.put (.atomic case) } (d.putCase case) where
  same := h.same.putCase case
  settled := h.settled.putCase hread
  fingerprints := (Table.uniqueBy_put_iff h.fingerprints).2 haccepts
  references := fun row hrow => by
    show ((d.cases.put (.atomic case)).get? row.caseId).isSome = true
    rw [Postgres.isSome_get?_put (r := CaseProjection.atomic case) hknown]
    exact h.references row hrow

theorem addEvent_cases (event : CaseEvent) : (Postgres.addEvent d event).cases = d.cases := by
  unfold Postgres.addEvent
  split <;> rfl

theorem addEvent_objectives (event : CaseEvent) :
    (Postgres.addEvent d event).verificationObjectives = d.verificationObjectives := by
  unfold Postgres.addEvent
  split <;> rfl

theorem Agreeing.addEvent (h : Agreeing py s d) {event : CaseEvent}
    (hlisted : s.events.get? event.eventId = none → event.ListedOnce) :
    Agreeing py (s.addEvent event) (Postgres.addEvent d event) where
  same := h.same.addEvent hlisted
  settled := h.settled.addEvent event
  fingerprints := by
    rw [addEvent_cases]
    exact h.fingerprints
  references := by
    rw [addEvent_cases, addEvent_objectives]
    exact h.references

/-- The event of a call, if it has one. -/
theorem Agreeing.addEvent? (h : Agreeing py s d) {event : Option CaseEvent}
    (hevent : ∀ e ∈ event, s.events.get? e.eventId = none → e.ListedOnce) :
    Agreeing py (event.elim s s.addEvent) (event.elim d (Postgres.addEvent d)) := by
  cases event with
  | none => exact h
  | some e => exact h.addEvent (hevent e rfl)

/-- What a call answers about its event. -/
theorem storedEvent_eq (h : SameContent s d) (event : CaseEvent) :
    s.storedEvent event = Postgres.storedEvent d event := by
  unfold Store.storedEvent Postgres.storedEvent
  rw [h.events]

theorem accepts_of_storedAlike (h : SameContent s d) {event : CaseEvent}
    (hevent : event.StoredAlike s) : Postgres.Accepts d event := by
  refine ⟨hevent.storable, ?_⟩
  rw [← h.events, ← h.cases]
  cases hnew : s.events.get? event.eventId with
  | some existing => exact Or.inl rfl
  | none => exact Or.inr (hevent.placed hnew).1

theorem Agreeing.putOutcome (h : Agreeing py s d) {outcome : OutcomeRecord}
    (hread : outcome.readBack py = some outcome) :
    Agreeing py { s with outcomes := s.outcomes.put outcome } (d.putOutcome outcome) where
  same := h.same.putOutcome outcome
  settled := { h.settled with outcomes := settled_put h.settled.outcomes hread }
  fingerprints := h.fingerprints
  references := h.references

theorem Agreeing.replaceHandoff (h : Agreeing py s d) {handoff : CaseHandoff}
    (hstored : s.handoffs.get? handoff.handoffId = some handoff) {status : HandoffStatus}
    {actorLoop : LoopName}
    (hallowed : allowedHandoffTransition handoff.status status actorLoop = true)
    {updatedAt : String} (htime : storableText updatedAt = true)
    (hcurrent : NotSuperseded s handoff) :
    Agreeing py (s.replaceHandoff handoff (handoff.moved status updatedAt))
      (d.putHandoff (handoff.moved status updatedAt)) := by
  have hstored' : d.caseHandoffs.get? handoff.handoffId = some handoff := h.same.handoffs ▸ hstored
  have hread := h.settled.handoffs handoff (Table.mem_of_get? hstored')
  have hended : handoffActive handoff.status = false →
      handoffActive (handoff.moved status updatedAt).status = false := by
    rw [handoffActive_eq_false, handoffActive_eq_false]
    intro hterminal
    show status ∈ TERMINAL_HANDOFF_STATUSES
    rw [allowed_of_terminal hterminal hallowed]
    exact hterminal
  have hne : (handoff.moved status updatedAt).handoffId ≠ "" := by
    show handoff.handoffId ≠ ""
    exact handoffId_ne_empty hread
  exact {
    same := h.same.replaceHandoff hstored' rfl rfl hne hended hcurrent
    settled := { h.settled with
      handoffs := settled_put h.settled.handoffs (CaseHandoff.readBack_moved hread status htime) }
    fingerprints := h.fingerprints
    references := h.references }

end Writes

/-! ## Outcomes -/

section Outcomes

variable {py : Python} {s : Store} {d : Database}

/-- A case that is no storm is atomic, or not there. -/
theorem NoStorm.cases_get? {caseId : String} (h : NoStorm s caseId)
    (hnone : s.atomicCase? caseId = none) : s.cases.get? caseId = none := by
  cases hrow : s.cases.get? caseId with
  | none => rfl
  | some row =>
    cases row with
    | storm storm => exact absurd hrow (h storm)
    | atomic case =>
      rw [atomicCase?_eq_some.2 hrow] at hnone
      cases hnone

/-- An event that is there is not written. -/
theorem addEvent?_stored {event : Option CaseEvent}
    (h : ∀ e ∈ event, (d.caseEvents.get? e.eventId).isSome = true) :
    event.elim d (Postgres.addEvent d) = d := by
  cases event with
  | none => rfl
  | some e =>
    show Postgres.addEvent d e = d
    unfold Postgres.addEvent
    rw [if_pos (h e rfl)]

/-- A statement of the database, and the event behind it. -/
theorem thenEvent_returns {α : Type} {x : DatabaseM α} {event : Option CaseEvent} {t : Database}
    {stored : α} (hx : x d = (.ok stored, t)) (haccepts : ∀ e ∈ event, Postgres.Accepts t e) :
    (x >>= fun stored => do
      let _ ← Postgres.insertCaseEvent? event
      pure stored) d = (.ok stored, event.elim t (Postgres.addEvent t)) :=
  (bind_ok hx).trans (bind_ok (Postgres.insertCaseEvent?_returns.2 ⟨haccepts, rfl, rfl⟩))

theorem recordOutcome_alike (h : Agreeing py s d) {outcome : OutcomeRecord}
    {event : Option CaseEvent} (hfits : OutcomeFits py s outcome event) :
    SameEnd (Agreeing py) (recordOutcome outcome event s)
      (Postgres.recordOutcome py outcome event d) := by
  have haccepts : ∀ e ∈ event, Postgres.Accepts d e := fun e he =>
    accepts_of_storedAlike h.same (hfits.event e he)
  have hstorable := (Option.ite_none_right_eq_some.1 hfits.settled).1
  unfold Postgres.recordOutcome
  cases hcase : s.atomicCase? outcome.workItemId with
  | none =>
    -- the outcome is new, and its case is not there
    have hnew : s.outcomes.get? outcome.outcomeId = none := by
      by_contra hsome
      have hknown := (hfits.known (Option.isSome_iff_ne_none.2 hsome)).1
      rw [hcase] at hknown
      cases hknown
    have hmissing := hfits.kind.cases_get? hcase
    refine SameEnd.raises (e := .keyError) ?_ h fun stored u hy => ?_
    · unfold recordOutcome
      rw [requireAtomicCase_bind_run, hcase]
    · rw [bind_returns] at hy
      obtain ⟨a, t, hinsert, -⟩ := hy
      have hknown := (Postgres.insertOutcome_returns.1 hinsert).2
      rw [← h.same.outcomes, hnew, ← h.same.cases, hmissing] at hknown
      cases hknown.1
  | some case =>
    cases hrow : s.outcomes.get? outcome.outcomeId with
    | some existing =>
      have hrow' : d.outcomeRecords.get? outcome.outcomeId = some existing := h.same.outcomes ▸ hrow
      have hstored : ∀ e ∈ event, (d.caseEvents.get? e.eventId).isSome = true := fun e he => by
        rw [← h.same.events]
        exact (hfits.known (by rw [hrow]; rfl)).2 e he
      have hread := h.settled.outcomes existing (Table.mem_of_get? hrow')
      have hinsert : Postgres.insertOutcome py outcome d = (.ok existing, d) := by
        rw [Postgres.insertOutcome_returns, hrow']
        exact ⟨hstorable, hread, rfl⟩
      have hrun := thenEvent_returns hinsert haccepts
      rw [addEvent?_stored hstored] at hrun
      refine SameEnd.returns ?_ hrun h
      unfold recordOutcome
      rw [requireAtomicCase_bind_run, hcase]
      simp only [peek_bind_run, hrow, pure_run]
    | none =>
      have hrow' : d.outcomeRecords.get? outcome.outcomeId = none := h.same.outcomes ▸ hrow
      have hknown : (d.cases.get? outcome.workItemId).isSome = true := by
        rw [← h.same.cases, atomicCase?_eq_some.1 hcase]
        rfl
      have hinsert : Postgres.insertOutcome py outcome d = (.ok outcome, d.putOutcome outcome) := by
        rw [Postgres.insertOutcome_returns, hrow']
        exact ⟨hstorable, hknown, hfits.settled, rfl⟩
      have hrun := thenEvent_returns hinsert haccepts
      refine SameEnd.returns ?_ hrun ((h.putOutcome hfits.settled).addEvent? fun e he hnew =>
        ((hfits.event e he).placed hnew).2)
      unfold recordOutcome
      rw [requireAtomicCase_bind_run, hcase]
      simp only [peek_bind_run, hrow, alter_bind_run]
      exact bind_ok (storeEvent?_eq event _)

end Outcomes

/-! ## Objectives -/

section Objectives

variable {py : Python} {s : Store} {d : Database} {objective : VerificationObjective}

def Store.writeObjective (s : Store) (objective : VerificationObjective) : Store :=
  { s with
    verificationObjectives := s.verificationObjectives.put objective
    verificationObjectiveIndex :=
      s.verificationObjectiveIndex.set objective.caseKey objective.objectiveId }

/-- A settled objective under the id of another. -/
theorem settled_renamed {existing : VerificationObjective}
    (h : objective.readBack py = some objective)
    (hexisting : existing.readBack py = some existing) :
    VerificationObjective.readBack py { objective with objectiveId := existing.objectiveId } =
      some { objective with objectiveId := existing.objectiveId } := by
  obtain ⟨-, hid, htoken⟩ := VerificationObjective.of_readBack hexisting
  rw [VerificationObjective.readBack_renamed h hid, ← htoken]

theorem Agreeing.putObjective (h : Agreeing py s d) {objective : VerificationObjective}
    (hread : objective.readBack py = some objective)
    (hknown : (d.cases.get? objective.caseId).isSome = true)
    (hsame : SameContent (s.writeObjective objective) (d.putObjective objective)) :
    Agreeing py (s.writeObjective objective) (d.putObjective objective) where
  same := hsame
  settled := { h.settled with objectives := settled_put h.settled.objectives hread }
  fingerprints := h.fingerprints
  references := fun row hrow => by
    rcases Table.mem_put.1 hrow with rfl | ⟨hrow, -⟩
    · exact hknown
    · exact h.references row hrow

/-- The objective that the index of the memory names is the one that the database finds. -/
theorem indexed_objective (h : Agreeing py s d) {id : String}
    (hid : truthyId (s.verificationObjectiveIndex objective.caseKey) = some id) :
    ∃ existing, d.verificationObjectives.get? id = some existing ∧
      existing.caseKey = objective.caseKey ∧
      d.verificationObjectives.indexed (fun row => some row.caseKey) objective.caseKey =
        some existing := by
  obtain ⟨existing, hexisting, hkey⟩ := (h.same.objectiveIds objective.caseKey id).1 hid
  refine ⟨existing, hexisting, Option.some.inj hkey, ?_⟩
  rw [h.same.objectiveIds.indexed_eq, truthyIndex, hid]
  exact hexisting

theorem indexed_objective_none (h : Agreeing py s d)
    (hnone : truthyId (s.verificationObjectiveIndex objective.caseKey) = none) :
    d.verificationObjectives.indexed (fun row => some row.caseKey) objective.caseKey = none := by
  rw [h.same.objectiveIds.indexed_eq, truthyIndex, hnone]
  rfl

/-- What the memory does with an objective of an atomic case. -/
theorem upsertVerificationObjective_run {case : AtomicCaseProjection}
    (hcase : s.atomicCase? objective.caseId = some case) (event : Option CaseEvent) :
    let stored := { objective with objectiveId :=
      (truthyId (s.verificationObjectiveIndex objective.caseKey)).getD objective.objectiveId }
    upsertVerificationObjective objective event s = (.ok stored,
      event.elim (s.writeObjective stored) (s.writeObjective stored).addEvent) := by
  unfold upsertVerificationObjective upsertObjective
  rw [requireAtomicCase_bind_run, hcase]
  simp only [bind_bind_run, peek_bind_run, alter_bind_run, pure_bind_run]
  exact bind_ok (storeEvent?_eq event _)

theorem upsertVerificationObjective_alike (h : Agreeing py s d) {event : Option CaseEvent}
    (hfits : ObjectiveFits py s objective event) :
    SameEnd (Agreeing py) (upsertVerificationObjective objective event s)
      (Postgres.upsertVerificationObjective py objective event d) := by
  have haccepts : ∀ stored, ∀ e ∈ event, Postgres.Accepts (d.putObjective stored) e :=
    fun stored e he => accepts_of_storedAlike h.same (hfits.event e he)
  have hlisted : ∀ e ∈ event, s.events.get? e.eventId = none → e.ListedOnce :=
    fun e he hnew => ((hfits.event e he).placed hnew).2
  have hhandoff : ¬ Postgres.DanglingHandoff d objective := by
    rintro ⟨-, hdangling⟩
    have hknown := hfits.handoff
    rw [h.same.handoffs, Option.isNone_iff_eq_none.1 hdangling] at hknown
    cases hknown
  unfold Postgres.upsertVerificationObjective
  cases hcase : s.atomicCase? objective.caseId with
  | none =>
    have hmissing := hfits.kind.cases_get? hcase
    refine SameEnd.raises (e := .keyError) ?_ h fun stored u hy => ?_
    · unfold upsertVerificationObjective
      rw [requireAtomicCase_bind_run, hcase]
    · rw [bind_returns] at hy
      obtain ⟨a, t, hupsert, -⟩ := hy
      have hfound := (Postgres.upsertObjective_returns.1 hupsert).2
      cases hid : truthyId (s.verificationObjectiveIndex objective.caseKey) with
      | some id =>
        obtain ⟨existing, hexisting, hkey, -⟩ := indexed_objective h hid
        have hknown := h.references existing (Table.mem_of_get? hexisting)
        rw [show existing.caseId = objective.caseId from congrArg Prod.fst hkey,
          ← h.same.cases, hmissing] at hknown
        cases hknown
      | none =>
        rw [indexed_objective_none h hid] at hfound
        have hknown := hfound.2.1
        rw [← h.same.cases, hmissing] at hknown
        cases hknown
  | some case =>
    have hknown : (d.cases.get? objective.caseId).isSome = true := by
      rw [← h.same.cases, atomicCase?_eq_some.1 hcase]
      rfl
    have hmemory := upsertVerificationObjective_run hcase event
    cases hid : truthyId (s.verificationObjectiveIndex objective.caseKey) with
    | some id =>
      obtain ⟨existing, hexisting, hkey, hindexed⟩ := indexed_objective h hid
      have hread := h.settled.objectives existing (Table.mem_of_get? hexisting)
      have hage := hfits.created id hid existing (h.same.objectives ▸ hexisting)
      rw [hid, Option.getD_some, ← Table.key_of_get? hexisting] at hmemory
      have hrow : Postgres.conflictRow existing objective =
          { objective with objectiveId := existing.objectiveId } := by
        unfold Postgres.conflictRow
        rw [hage]
      have hsettled := settled_renamed hfits.settled hread
      have hupsert : Postgres.upsertObjective py objective d =
          (.ok { objective with objectiveId := existing.objectiveId },
            d.putObjective { objective with objectiveId := existing.objectiveId }) := by
        rw [Postgres.upsertObjective_returns, hindexed]
        refine ⟨hhandoff, ?_⟩
        show (Postgres.conflictRow existing objective).readBack py = _ ∧ _
        rw [hrow]
        exact ⟨hsettled, rfl⟩
      refine SameEnd.returns hmemory (thenEvent_returns hupsert (haccepts _)) ?_
      refine Agreeing.addEvent? (h.putObjective hsettled hknown ?_) hlisted
      have hne : existing.objectiveId ≠ "" := (VerificationObjective.of_readBack hread).1
      refine h.same.putObjective_again ?_ ?_ hkey hne
      · rw [Table.key_of_get? hexisting]
        exact hid
      · exact Table.get?_key hexisting
    | none =>
      rw [hid, Option.getD_none] at hmemory
      have hfresh : d.verificationObjectives.get? objective.objectiveId = none :=
        h.same.objectives ▸ hfits.fresh hid
      have hupsert : Postgres.upsertObjective py objective d =
          (.ok objective, d.putObjective objective) := by
        rw [Postgres.upsertObjective_returns, indexed_objective_none h hid]
        exact ⟨hhandoff, hfresh, hknown, hfits.settled, rfl⟩
      refine SameEnd.returns hmemory (thenEvent_returns hupsert (haccepts _)) ?_
      refine Agreeing.addEvent? (h.putObjective hfits.settled hknown ?_) hlisted
      exact h.same.putObjective_new hfresh (VerificationObjective.of_readBack hfits.settled).1 hid

end Objectives

/-! ## Resolutions -/

section Resolutions

variable {py : Python} {s : Store} {d : Database}

/-- The case as it is resolved. -/
def AtomicCaseProjection.resolvedAs (case : AtomicCaseProjection) (now : String) :
    AtomicCaseProjection :=
  { case with
    status := .resolved
    resolvedAt := some now
    resolutionReason := "lhp_outcome_verified"
    updatedAt := now }

theorem activeFingerprint_resolvedAs (case : AtomicCaseProjection) (now : String) :
    activeFingerprint (.atomic (case.resolvedAs now)) = none := by
  have hended : ¬ (case.resolvedAs now).Indexed := by
    rintro ⟨-, hopen⟩
    exact hopen (by decide : CaseStatus.resolved ∈ TERMINAL_CASE_STATUSES)
  exact if_neg hended

theorem storable_resolvedAs {case : AtomicCaseProjection} (h : Storable case.modelDump)
    {now : String} (htime : storableText now = true) :
    Storable (case.resolvedAs now).modelDump := by
  have hreason : storableText "lhp_outcome_verified" = true := by decide
  unfold AtomicCaseProjection.resolvedAs
  simp only [AtomicCaseProjection.modelDump, storable_cons, Json.storable, Option.elim,
    storableText_caseStatus, hreason, htime, true_and] at h ⊢
  simp only [h, and_self]

/-- Both resolve the handoff, or neither does. -/
theorem resolveHandoff_alike (h : Agreeing py s d) (handoffId : String) {now : String}
    (htime : storableText now = true)
    (hcurrent : ∀ handoff ∈ s.handoffs.get? handoffId, NotSuperseded s handoff) :
    (∃ t u, resolveHandoff handoffId now s = (.ok (), t) ∧
      Postgres.resolveHandoff py handoffId now d = (.ok (), u) ∧ Agreeing py t u ∧
      t.cases = s.cases ∧ t.events = s.events ∧ t.outcomes = s.outcomes) ∨
    (∃ e, resolveHandoff handoffId now s = (.error e, s)) ∧
      ∀ a u, Postgres.resolveHandoff py handoffId now d ≠ (.ok a, u) := by
  by_cases hblank : handoffId = ""
  · left
    refine ⟨s, d, ?_, ?_, h, rfl, rfl, rfl⟩
    · unfold resolveHandoff
      rw [if_pos hblank]
      rfl
    · rw [Postgres.resolveHandoff_returns, if_pos hblank]
  · cases hstored : s.handoffs.get? handoffId with
    | none =>
      right
      refine ⟨⟨.keyError, ?_⟩, fun a u hy => ?_⟩
      · unfold resolveHandoff
        rw [if_neg hblank, requireHandoff_bind_run, hstored]
      · rw [Postgres.resolveHandoff_returns, if_neg hblank] at hy
        obtain ⟨moved, ⟨row, handoff, hrow, -⟩, -⟩ := hy
        rw [← h.same.handoffs, hstored] at hrow
        cases hrow
    | some handoff =>
      have hid : handoff.handoffId = handoffId := Table.key_of_get? hstored
      have hstored' : d.caseHandoffs.get? handoffId = some handoff := h.same.handoffs ▸ hstored
      have hread := h.settled.handoffs handoff (Table.mem_of_get? hstored')
      cases hallowed : allowedHandoffTransition handoff.status .resolved .noc with
      | false =>
        right
        refine ⟨⟨.valueError, ?_⟩, fun a u hy => ?_⟩
        · unfold resolveHandoff
          rw [if_neg hblank, requireHandoff_bind_run, hstored]
          simp only [requireHandoffTransition_bind_run, hallowed, if_true]
        · rw [Postgres.resolveHandoff_returns, if_neg hblank] at hy
          obtain ⟨moved, ⟨row, found, hrow, hfound, hmay, -⟩, -⟩ := hy
          rw [hstored'] at hrow
          cases hrow
          rw [hread] at hfound
          cases hfound
          rw [hallowed] at hmay
          cases hmay
      | true =>
        left
        have hresolved := h.replaceHandoff (hid.symm ▸ hstored) hallowed htime
          (hcurrent handoff hstored)
        refine ⟨_, _, ?_, ?_, hresolved, ?_, ?_, ?_⟩
        · unfold resolveHandoff
          rw [if_neg hblank, requireHandoff_bind_run, hstored]
          simp only [requireHandoffTransition_bind_run, hallowed, Bool.true_eq_false, if_false]
          rfl
        · rw [Postgres.resolveHandoff_returns, if_neg hblank]
          refine ⟨_, ⟨handoff, handoff, hstored', hread, hallowed, rfl, ?_, ?_, ?_⟩, rfl⟩
          · exact Table.accepts_of_none (rfl : liveKey (handoff.moved .resolved now) = none)
          · rw [hid, hstored']
            rfl
          · rw [CaseHandoff.readBack_moved hread .resolved htime]
            rfl
        · unfold Store.replaceHandoff Store.indexIfActive
          split <;> rfl
        · unfold Store.replaceHandoff Store.indexIfActive
          split <;> rfl
        · unfold Store.replaceHandoff Store.indexIfActive
          split <;> rfl

/-- An outcome that is recorded as it is, or new. -/
theorem putOutcome_alike (h : Agreeing py s d) {outcome : OutcomeRecord}
    (hread : outcome.readBack py = some outcome)
    (hrecorded : ∀ existing ∈ s.outcomes.get? outcome.outcomeId, existing = outcome)
    (hknown : (d.cases.get? outcome.workItemId).isSome = true) :
    ∃ u, Postgres.insertOutcome py outcome d = (.ok outcome, u) ∧
      Agreeing py { s with outcomes := s.outcomes.put outcome } u ∧ u.cases = d.cases := by
  have hstorable := (Option.ite_none_right_eq_some.1 hread).1
  cases hrow : s.outcomes.get? outcome.outcomeId with
  | some existing =>
    obtain rfl := hrecorded existing hrow
    have hrow' : d.outcomeRecords.get? existing.outcomeId = some existing := h.same.outcomes ▸ hrow
    refine ⟨d, ?_, ?_, rfl⟩
    · rw [Postgres.insertOutcome_returns, hrow']
      exact ⟨hstorable, hread, rfl⟩
    · rw [Table.put_self (Table.mem_of_get? hrow)]
      exact h
  | none =>
    have hrow' : d.outcomeRecords.get? outcome.outcomeId = none := h.same.outcomes ▸ hrow
    refine ⟨d.putOutcome outcome, ?_, h.putOutcome hread, rfl⟩
    rw [Postgres.insertOutcome_returns, hrow']
    exact ⟨hstorable, hknown, hread, rfl⟩

theorem resolveCaseWithOutcome_alike (h : Agreeing py s d) {caseId handoffId now : String}
    {outcome : OutcomeRecord} {event : Option CaseEvent}
    (hfits : ResolutionFits py s handoffId outcome now event) :
    SameEnd (Agreeing py) (resolveCaseWithOutcome caseId handoffId outcome now event s)
      (Postgres.resolveCaseWithOutcome py caseId handoffId outcome now event d) := by
  unfold Postgres.resolveCaseWithOutcome
  cases hcase : s.atomicCase? caseId with
  | none =>
    refine SameEnd.raises (e := .keyError) ?_ h fun stored u hy => ?_
    · unfold resolveCaseWithOutcome
      rw [requireAtomicCase_bind_run, hcase]
    · obtain ⟨a, t, hfetch, -⟩ := bind_returns.1 hy
      obtain ⟨row, hrow, -⟩ := Postgres.fetchAtomicCase_returns.1 hfetch
      rw [h.same.atomicCase?, hcase] at hrow
      cases hrow
  | some case =>
    have hcase' : d.atomicCase? caseId = some case := (h.same.atomicCase? caseId).trans hcase
    obtain ⟨hread, hstorable⟩ := h.settled.cases caseId case hcase'
    have hfetch : Postgres.fetchAtomicCase py caseId d = (.ok case, d) :=
      Postgres.fetchAtomicCase_returns.2 ⟨case, hcase', hread.symm, rfl⟩
    by_cases hitem : outcome.workItemId = case.caseId
    · have hknown : (d.cases.get? case.caseId).isSome = true := by
        rw [caseId_of_atomicCase? hcase]
        exact Postgres.isSome_get?_of_atomicCase? hcase'
      rcases resolveHandoff_alike h handoffId hfits.time hfits.current with
        ⟨t, u, hmemory, hdatabase, htu, hcases, hevents, houtcomes⟩ | ⟨⟨e, hmemory⟩, hdatabase⟩
      · have hknown' : (u.cases.get? case.caseId).isSome = true := by
          rw [← htu.same.cases, hcases, h.same.cases]
          exact hknown
        obtain ⟨w, hinsert, htw, hsame⟩ := putOutcome_alike htu hfits.settled
          (by rw [houtcomes]; exact hfits.recorded) (by rw [hitem]; exact hknown')
        have hstill : (w.cases.get? (case.resolvedAs now).caseId).isSome = true := by
          rw [hsame]
          exact hknown'
        have hsettled : (case.resolvedAs now).Settled py :=
          ⟨readBack_case_congr hread rfl rfl, storable_resolvedAs hstorable hfits.time⟩
        have hresolved := htw.putCase hsettled hstill
          (Table.accepts_of_none (activeFingerprint_resolvedAs case now))
        have hstored : ∀ e ∈ event, e.StoredAlike t := fun e he => by
          obtain ⟨htaken, hplaced⟩ := hfits.event e he
          refine ⟨htaken, fun hnew => ?_⟩
          rw [hcases]
          exact hplaced (hevents ▸ hnew)
        have haccepts : ∀ e ∈ event, Postgres.Accepts (w.putCase (case.resolvedAs now)) e :=
          fun e he => (Postgres.accepts_putCase_iff hstill e).2
            (accepts_of_storedAlike htw.same ⟨(hstored e he).storable, (hstored e he).placed⟩)
        refine SameEnd.returns (a := case.resolvedAs now) ?_ ?_ (hresolved.addEvent?
          fun e he hnew => ((hstored e he).placed hnew).2)
        · unfold resolveCaseWithOutcome
          rw [requireAtomicCase_bind_run, hcase]
          simp only [raiseIf_bind_run, hitem, ne_eq, not_true_eq_false, if_false]
          rw [bind_ok hmemory]
          exact bind_ok (storeEvent?_eq event _)
        · rw [bind_ok hfetch, raiseIf_bind_run, if_neg (not_not_intro hitem), bind_ok hdatabase,
            bind_ok hinsert]
          have hupdate : Postgres.updateCaseProjection (case.resolvedAs now) w =
              (.ok (), w.putCase (case.resolvedAs now)) := by
            rw [Postgres.updateCaseProjection_returns]
            exact ⟨hsettled.2, Table.accepts_of_none (activeFingerprint_resolvedAs case now), hstill,
              rfl⟩
          refine (bind_ok hupdate).trans ?_
          exact bind_ok (Postgres.insertCaseEvent?_returns.2 ⟨haccepts, rfl, rfl⟩)
      · refine SameEnd.raises (e := e) ?_ h fun stored u hy => ?_
        · unfold resolveCaseWithOutcome
          rw [requireAtomicCase_bind_run, hcase]
          simp only [raiseIf_bind_run, hitem, ne_eq, not_true_eq_false, if_false]
          exact bind_error hmemory
        · rw [bind_ok hfetch, raiseIf_bind_run, if_neg (not_not_intro hitem)] at hy
          obtain ⟨a, t, hresolve, -⟩ := bind_returns.1 hy
          exact hdatabase a t hresolve
    · refine SameEnd.raises (e := .valueError) ?_ h fun stored u hy => ?_
      · unfold resolveCaseWithOutcome
        rw [requireAtomicCase_bind_run, hcase]
        simp only [raiseIf_bind_run, ne_eq, hitem, not_false_eq_true, if_true]
      · rw [bind_ok hfetch, raiseIf_bind_run, if_pos hitem] at hy
        cases hy

end Resolutions

/-! ## The handoff that survives -/

section Surviving

variable {collation : Collation}

/-- The database sorts text as Python compares it. -/
def Collation.ByCodePoints (collation : Collation) : Prop :=
  ∀ a b, collation.before a b = decide (a < b)

theorem handoffBefore_iff (h : collation.ByCodePoints) (a b : CaseHandoff) :
    collation.handoffBefore a b = true ↔ toLex (a.updatedAt, toLex (a.createdAt, a.handoffId)) <
      toLex (b.updatedAt, toLex (b.createdAt, b.handoffId)) := by
  unfold Collation.handoffBefore
  rw [h, h, h, Prod.Lex.toLex_lt_toLex, Prod.Lex.toLex_lt_toLex]
  simp

theorem latestHandoff_eq (h : collation.ByCodePoints) (rows : List CaseHandoff) :
    latestHandoff rows = latest collation.handoffBefore rows := by
  unfold latestHandoff latest
  refine List.foldl_ext _ _ _ fun best item _ => ?_
  cases best with
  | none => rfl
  | some b =>
    unfold later
    simp only [handoffBefore_iff h]

/-- Handoffs of one table are told apart by the order. -/
theorem sorts_handoffBefore (h : collation.ByCodePoints) (rows : Table CaseHandoff.handoffId)
    {items : List CaseHandoff} (hitems : ∀ item ∈ items, item ∈ rows.rows) :
    Sorts collation.handoffBefore items where
  irrefl x := by
    rw [← Bool.not_eq_true, handoffBefore_iff h]
    exact lt_irrefl _
  trans x y z := by
    rw [handoffBefore_iff h, handoffBefore_iff h, handoffBefore_iff h]
    exact lt_trans
  total x hx y hy hxy hyx := by
    rw [← Bool.not_eq_true, handoffBefore_iff h, not_lt] at hxy hyx
    have hsame := le_antisymm hyx hxy
    have hid : x.handoffId = y.handoffId := (Prod.ext_iff.1 (Prod.ext_iff.1 hsame).2).2
    have hx' := Table.mem_rows_iff.1 (hitems x hx)
    have hy' := Table.mem_rows_iff.1 (hitems y hy)
    rw [hid, hy'] at hx'
    exact (Option.some.inj hx').symm

theorem mem_of_survivors {rows : List CaseHandoff} {handoff item : CaseHandoff}
    (h : item ∈ survivors rows handoff) : item ∈ rows := (List.mem_filter.1 h).1

/-- **Both stores find the same surviving handoff.** -/
theorem survivors_latest (h : collation.ByCodePoints) {rows others : Table CaseHandoff.handoffId}
    (hsame : rows.get? = others.get?) (handoff : CaseHandoff) :
    latestHandoff (survivors rows.rows handoff) =
      latest collation.handoffBefore (survivors others.rows handoff) := by
  rw [latestHandoff_eq h]
  refine latest_congr (sorts_handoffBefore h rows fun item => mem_of_survivors) ?_
  intro item
  unfold survivors
  rw [List.mem_filter, List.mem_filter, Table.mem_rows_iff, Table.mem_rows_iff, hsame]

end Surviving

/-! ## Updates -/

section Updates

variable {py : Python} {collation : Collation} {s : Store} {d : Database} {update : HandoffUpdate}

def Store.putUpdate (s : Store) (update : HandoffUpdate) : Store :=
  { s with
    handoffUpdates := s.handoffUpdates.put update
    handoffUpdateExternalIndex :=
      s.handoffUpdateExternalIndex.set update.externalKey update.updateId }

theorem Agreeing.putUpdate (h : Agreeing py s d) (hread : update.readBack py = some update)
    (hfresh : s.handoffUpdates.get? update.updateId = none)
    (hfree : truthyId (s.handoffUpdateExternalIndex update.externalKey) = none) :
    Agreeing py (s.putUpdate update) (d.putUpdate update) where
  same := h.same.putUpdate (h.same.updates ▸ hfresh) (HandoffUpdate.of_readBack hread).1 hfree
  settled := { h.settled with updates := settled_put h.settled.updates hread }
  fingerprints := h.fingerprints
  references := h.references

/-- A new event is under no named key. -/
theorem accepts_namedKey (h : SameContent s d)
    (hfree : truthyId (s.handoffUpdateExternalIndex update.externalKey) = none) :
    d.handoffUpdates.Accepts namedKey update := by
  intro row hrow hsome hkey
  have hnamed : row.externalKey = update.externalKey := by
    unfold namedKey at hsome hkey
    split at hsome
    · cases hsome
    · rename_i hne
      rw [if_neg hne] at hkey
      split at hkey
      · cases hkey
      · exact Option.some.inj hkey
  have hfound := (h.received update.externalKey row.updateId).2
    ⟨row, Table.mem_rows_iff.1 hrow, congrArg some hnamed⟩
  rw [truthyIndex, hfree] at hfound
  cases hfound

/-- No other handoff is alive under the key of one that moves on. -/
theorem accepts_liveKey (h : Agreeing py s d) {handoff : CaseHandoff}
    (hstored : d.caseHandoffs.get? handoff.handoffId = some handoff) {status : HandoffStatus}
    {actorLoop : LoopName}
    (hallowed : allowedHandoffTransition handoff.status status actorLoop = true)
    (updatedAt : String) : d.caseHandoffs.Accepts liveKey (handoff.moved status updatedAt) := by
  cases hmoved : handoffActive status with
  | false => exact Table.accepts_of_none (by simp [liveKey, CaseHandoff.moved, hmoved])
  | true =>
    have hactive : handoffActive handoff.status = true := by
      by_contra hended
      have hterminal := handoffActive_eq_false.1 (Bool.not_eq_true _ ▸ hended)
      have hsame := allowed_of_terminal hterminal hallowed
      rw [hsame] at hmoved
      exact hended hmoved
    refine h.same.live.uniqueBy.accepts (Table.mem_of_get? hstored) rfl ?_
    simp [liveKey, CaseHandoff.moved, hmoved, hactive, handoffKey]

/-- The fingerprint of a case whose handoff ended, or that may be reopened. -/
theorem accepts_caseAfterUpdate (h : Agreeing py s d) {case : AtomicCaseProjection}
    (hcase : s.atomicCase? case.caseId = some case) {handoff : CaseHandoff}
    (surviving : Option CaseHandoff) (caseStatus : Option CaseStatus)
    (caseHandoffStatus : Option String) (stamp : String)
    (hreopened : handoff.status ∉ TERMINAL_HANDOFF_STATUSES → s.cases.Accepts activeFingerprint
      (.atomic { case with status := caseStatus.getD case.status })) :
    d.cases.Accepts activeFingerprint
      (.atomic (caseAfterUpdate case handoff surviving caseStatus caseHandoffStatus stamp)) := by
  unfold caseAfterUpdate
  split
  · have hstored : CaseProjection.atomic case ∈ d.cases.rows := by
      apply Table.mem_of_get?
      rw [← h.same.cases]
      exact atomicCase?_eq_some.1 hcase
    refine h.fingerprints.accepts hstored rfl ?_
    have hactive : ∀ status : HandoffStatus,
        caseStatusForHandoff status ∉ TERMINAL_CASE_STATUSES := by
      intro status
      cases status <;> decide
    have hopen : CaseStatus.investigating ∉ TERMINAL_CASE_STATUSES := by decide
    unfold activeFingerprint AtomicCaseProjection.Indexed
    by_cases hended : case.status ∈ TERMINAL_CASE_STATUSES
    · simp [hended]
    · cases surviving with
      | none => simp [hended, hopen]
      | some row => simp [hended, hactive]
  · rename_i hopen
    exact (Table.accepts_congr h.same.cases rfl rfl).1 (hreopened hopen)

theorem caseAfterUpdate_signal (case : AtomicCaseProjection) (handoff : CaseHandoff)
    (surviving : Option CaseHandoff) (caseStatus : Option CaseStatus)
    (caseHandoffStatus : Option String) (stamp : String) :
    let after := caseAfterUpdate case handoff surviving caseStatus caseHandoffStatus stamp
    after.caseId = case.caseId ∧ after.signalSignature = case.signalSignature ∧
      after.signalSnapshot = case.signalSnapshot := by
  unfold caseAfterUpdate
  split <;> exact ⟨rfl, rfl, rfl⟩

/-- A handoff that stays alive does not ask who survives it. -/
theorem caseAfterUpdate_open (case : AtomicCaseProjection) {handoff : CaseHandoff}
    (hopen : handoff.status ∉ TERMINAL_HANDOFF_STATUSES) (surviving : Option CaseHandoff)
    (caseStatus : Option CaseStatus) (caseHandoffStatus : Option String) (stamp : String) :
    caseAfterUpdate case handoff surviving caseStatus caseHandoffStatus stamp =
      caseAfterUpdate case handoff none caseStatus caseHandoffStatus stamp := by
  unfold caseAfterUpdate
  rw [if_neg hopen, if_neg hopen]

/-- What the database answers about an update that is there. -/
theorem replayUpdate_iff (h : Agreeing py s d) {existing : HandoffUpdate}
    (hread : existing.readBack py = some existing) {result : HandoffUpdateResult} {u : Database} :
    Postgres.replayUpdate py existing d = (.ok result, u) ↔ ∃ handoff case,
      s.handoffs.get? existing.handoffId = some handoff ∧
      s.atomicCase? handoff.caseId = some case ∧
      result = ⟨existing, handoff, case, none, false⟩ ∧ u = d := by
  rw [Postgres.replayUpdate_returns]
  have hsettled : ∀ id row, d.caseHandoffs.get? id = some row → row.readBack py = some row :=
    fun id row hrow => h.settled.handoffs row (Table.mem_of_get? hrow)
  constructor
  · rintro ⟨found, stored, handoff, case, hfound, hstored, hhandoff, hcase, rfl, rfl⟩
    obtain rfl := Option.some.inj (hread.symm.trans hfound)
    obtain rfl := Option.some.inj ((hsettled _ stored hstored).symm.trans hhandoff)
    rw [(h.settled.cases _ case hcase).1]
    exact ⟨stored, case, h.same.handoffs ▸ hstored, (h.same.atomicCase? _).symm.trans hcase, rfl,
      rfl⟩
  · rintro ⟨handoff, case, hstored, hcase, rfl, rfl⟩
    have hstored' : u.caseHandoffs.get? existing.handoffId = some handoff :=
      h.same.handoffs ▸ hstored
    have hcase' : u.atomicCase? handoff.caseId = some case := (h.same.atomicCase? _).trans hcase
    refine ⟨existing, handoff, handoff, case, hread, hstored', hsettled _ handoff hstored', hcase',
      ?_, rfl⟩
    rw [(h.settled.cases _ case hcase').1]

/-- An update that is there is answered alike. -/
theorem replay_alike (h : Agreeing py s d) {id : String}
    (hid : truthyId (s.handoffUpdateExternalIndex update.externalKey) = some id)
    (handoffStatus : Option HandoffStatus) (caseStatus : Option CaseStatus)
    (caseHandoffStatus : Option String) (event : Option CaseEvent) :
    SameEnd (Agreeing py)
      (appendHandoffUpdate update handoffStatus caseStatus caseHandoffStatus event s)
      (Postgres.appendHandoffUpdate py collation update handoffStatus caseStatus caseHandoffStatus
        event d) := by
  obtain ⟨existing, hexisting, hkey⟩ := (h.same.received update.externalKey id).1 hid
  have hindexed : d.handoffUpdates.indexed (fun row => some row.externalKey) update.externalKey =
      some existing := by
    rw [h.same.received.indexed_eq, truthyIndex, hid]
    exact hexisting
  have hread := h.settled.updates existing (Table.mem_of_get? hexisting)
  have hmemory : appendHandoffUpdate update handoffStatus caseStatus caseHandoffStatus event s =
      (requireHandoff existing.handoffId >>= fun handoff =>
        requireAtomicCase handoff.caseId >>= fun case =>
          (pure ⟨existing, handoff, case, none, false⟩ : StoreM HandoffUpdateResult)) s := by
    have hid' : truthyId (s.handoffUpdateExternalIndex
        (update.sourceLoop, update.externalEventId)) = some id := hid
    unfold appendHandoffUpdate
    simp only [peek_bind_run, hid', orRaise_bind_run, h.same.updates, hexisting]
  rw [hmemory]
  unfold Postgres.appendHandoffUpdate
  cases hstored : s.handoffs.get? existing.handoffId with
  | none =>
    refine SameEnd.raises (e := .keyError) ?_ h fun result u hy => ?_
    · rw [requireHandoff_bind_run, hstored]
    · rw [peek_bind_run, hindexed] at hy
      obtain ⟨handoff, case, hfound, -⟩ := (replayUpdate_iff h hread).1 hy
      rw [hstored] at hfound
      cases hfound
  | some handoff =>
    cases hcase : s.atomicCase? handoff.caseId with
    | none =>
      refine SameEnd.raises (e := .keyError) ?_ h fun result u hy => ?_
      · rw [requireHandoff_bind_run, hstored]
        simp only [requireAtomicCase_bind_run, hcase]
      · rw [peek_bind_run, hindexed] at hy
        obtain ⟨found, case, hfound, hnone, -⟩ := (replayUpdate_iff h hread).1 hy
        obtain rfl := Option.some.inj (hstored.symm.trans hfound)
        rw [hcase] at hnone
        cases hnone
    | some case =>
      refine SameEnd.returns (a := ⟨existing, handoff, case, none, false⟩) ?_ ?_ h
      · rw [requireHandoff_bind_run, hstored]
        simp only [requireAtomicCase_bind_run, hcase, pure_run]
      · rw [peek_bind_run, hindexed]
        exact (replayUpdate_iff h hread).2 ⟨handoff, case, hstored, hcase, rfl, rfl⟩

/-- What the database needs to apply an update is what the memory needs. -/
theorem Postgres.Applies.applied (h : Agreeing py s d) {target : HandoffStatus}
    (hfree : truthyId (s.handoffUpdateExternalIndex update.externalKey) = none)
    {caseStatus : Option CaseStatus} {caseHandoffStatus : Option String} {event : Option CaseEvent}
    {result : HandoffUpdateResult} {case : AtomicCaseProjection} {row handoff : CaseHandoff}
    {surviving : Option CaseHandoff} (hap : Postgres.Applies py d collation update target caseStatus
      caseHandoffStatus event result case row handoff surviving) :
    Applied s update target handoff := by
  have hread := h.settled.handoffs row (Table.mem_of_get? hap.stored)
  obtain rfl := Option.some.inj (hread.symm.trans hap.read)
  refine ⟨hfree, h.same.handoffs ▸ hap.stored, ?_, hap.targeted, hap.allowed⟩
  rw [hap.sameCase, ← h.same.atomicCase?, hap.found]
  rfl

theorem indexed_update_none (h : SameContent s d)
    (hfree : truthyId (s.handoffUpdateExternalIndex update.externalKey) = none) :
    d.handoffUpdates.indexed (fun row => some row.externalKey) update.externalKey = none := by
  rw [h.received.indexed_eq, truthyIndex, hfree]
  rfl

/-- The stores after the update and the handoff are written. -/
theorem Agreeing.applyUpdate (h : Agreeing py s d) {target : HandoffStatus}
    {caseStatus : Option CaseStatus} {event : Option CaseEvent} {handoff : CaseHandoff}
    {caseHandoffStatus : Option String}
    (hfits : UpdateFits py s update target caseStatus caseHandoffStatus event)
    (hap : Applied s update target handoff) :
    Agreeing py (s.applyUpdate update target handoff)
      ((d.putUpdate update).putHandoff (handoff.moved target update.createdAt)) := by
  have hput := h.putUpdate hfits.settled hfits.fresh hap.unseen
  have hstored : s.handoffs.get? handoff.handoffId = some handoff := Table.get?_key hap.stored
  exact hput.replaceHandoff hstored hap.allowed (HandoffUpdate.storable_createdAt hfits.settled)
    (hfits.current handoff hap.stored)

theorem applyUpdate_parts (s : Store) (update : HandoffUpdate) (target : HandoffStatus)
    (handoff : CaseHandoff) :
    (s.applyUpdate update target handoff).cases = s.cases ∧
      (s.applyUpdate update target handoff).events = s.events := by
  unfold Store.applyUpdate Store.replaceHandoff Store.indexIfActive
  split <;> exact ⟨rfl, rfl⟩

/-- What an applied update is answered. -/
def Store.updateResult (s : Store) (update : HandoffUpdate) (target : HandoffStatus)
    (caseStatus : Option CaseStatus) (caseHandoffStatus : Option String) (event : Option CaseEvent)
    (handoff : CaseHandoff) (case : AtomicCaseProjection) : HandoffUpdateResult where
  update := update
  handoff := handoff.moved target update.createdAt
  case := caseAfterUpdate case (handoff.moved target update.createdAt)
    ((s.applyUpdate update target handoff).survivingHandoff (handoff.moved target update.createdAt))
    caseStatus caseHandoffStatus update.createdAt
  event := event.map s.storedEvent
  created := true

theorem appendHandoffUpdate_run {handoffStatus : Option HandoffStatus} {handoff : CaseHandoff}
    {case : AtomicCaseProjection}
    (hap : Applied s update (handoffStatus.getD update.status) handoff)
    (hcase : s.atomicCase? handoff.caseId = some case) (caseStatus : Option CaseStatus)
    (caseHandoffStatus : Option String) (event : Option CaseEvent) :
    let result := s.updateResult update (handoffStatus.getD update.status) caseStatus
      caseHandoffStatus event handoff case
    let moved := s.applyUpdate update (handoffStatus.getD update.status) handoff
    let written : Store := { moved with cases := moved.cases.put (.atomic result.case) }
    appendHandoffUpdate update handoffStatus caseStatus caseHandoffStatus event s =
      (.ok result, event.elim written written.addEvent) := by
  intro result moved written
  have hevents : written.storedEvent = s.storedEvent := by
    funext e
    unfold Store.storedEvent
    rw [show written.events = s.events from (applyUpdate_parts s update _ handoff).2]
  rw [appendHandoffUpdate_applied hap hcase caseStatus caseHandoffStatus event]
  refine (bind_ok (storeEvent?_eq event written)).trans ?_
  rw [hevents]
  rfl

/-- The handoff that survives is the same, and is read back as it was written. -/
theorem survivingHandoff_read (h : Agreeing py s d) (hcollation : collation.ByCodePoints)
    (handoff : CaseHandoff) :
    (latest collation.handoffBefore (survivors d.caseHandoffs.rows handoff)).mapM
      (CaseHandoff.readBack py) = some (s.survivingHandoff handoff) := by
  have hlatest := survivors_latest hcollation h.same.handoffs handoff
  rw [← hlatest]
  show (latestHandoff (survivors s.handoffs.rows handoff)).mapM _ =
    some (latestHandoff (survivors s.handoffs.rows handoff))
  cases hsome : latestHandoff (survivors s.handoffs.rows handoff) with
  | none => rfl
  | some row =>
    rw [hlatest] at hsome
    have hsorts := sorts_handoffBefore hcollation d.caseHandoffs
      (fun item (hitem : item ∈ survivors d.caseHandoffs.rows handoff) => mem_of_survivors hitem)
    have hmem := mem_of_survivors ((latest_eq_some_iff hsorts).1 hsome).1
    show (row.readBack py).map some = some (some row)
    rw [h.settled.handoffs row hmem]
    rfl

/-- **What the memory applies, the database applies.** -/
theorem applies_of_applied (h : Agreeing py s d) (hcollation : collation.ByCodePoints)
    {target : HandoffStatus} {caseStatus : Option CaseStatus} {caseHandoffStatus : Option String}
    {event : Option CaseEvent} {handoff : CaseHandoff} {case : AtomicCaseProjection}
    (hfits : UpdateFits py s update target caseStatus caseHandoffStatus event)
    (hap : Applied s update target handoff) (hcase : s.atomicCase? handoff.caseId = some case) :
    Postgres.Applies py d collation update target caseStatus caseHandoffStatus event
      (s.updateResult update target caseStatus caseHandoffStatus event handoff case) case handoff
      handoff (if target ∈ TERMINAL_HANDOFF_STATUSES then
        (s.applyUpdate update target handoff).survivingHandoff
          (handoff.moved target update.createdAt) else none) := by
  let moved := handoff.moved target update.createdAt
  let surviving := (s.applyUpdate update target handoff).survivingHandoff moved
  have hstored : d.caseHandoffs.get? update.handoffId = some handoff :=
    h.same.handoffs ▸ hap.stored
  have hstored' := Table.get?_key hstored
  have hread := h.settled.handoffs handoff (Table.mem_of_get? hstored)
  have hid : update.caseId = handoff.caseId := hfits.sameCase handoff hap.stored
  have hcase' : d.atomicCase? handoff.caseId = some case := (h.same.atomicCase? _).trans hcase
  have hown : s.atomicCase? case.caseId = some case := by
    rw [caseId_of_atomicCase? hcase]
    exact hcase
  have hsignal := caseAfterUpdate_signal case moved surviving caseStatus caseHandoffStatus
    update.createdAt
  have hmoved := h.applyUpdate hfits hap
  have htime := HandoffUpdate.storable_createdAt hfits.settled
  obtain ⟨hcaseRead, hstorable⟩ := h.settled.cases _ case hcase'
  refine {
    found := hid ▸ hcase'
    stored := hstored
    read := hread
    sameCase := hid.symm
    targeted := hap.targeted
    allowed := hap.allowed
    fresh := h.same.updates ▸ hfits.fresh
    named := accepts_namedKey h.same hap.unseen
    valid := hfits.settled
    live := accepts_liveKey h hstored' hap.allowed update.createdAt
    kept := by rw [hstored']; rfl
    moved := CaseHandoff.readBack_moved hread target htime
    survived := ?_
    case_eq := ?_
    storable := storable_caseAfterUpdate hstorable moved surviving caseStatus hfits.label htime
    accepted := accepts_caseAfterUpdate h hown surviving caseStatus caseHandoffStatus
      update.createdAt fun hopen => ?_
    known := ?_
    eventAccepted := fun e he => accepts_of_storedAlike h.same (hfits.event e he)
    event_eq := ?_
    created := rfl }
  · split
    · exact survivingHandoff_read hmoved hcollation moved
    · rfl
  · rw [hcaseRead]
    split
    · rfl
    · rename_i hopen
      exact caseAfterUpdate_open case hopen surviving caseStatus caseHandoffStatus update.createdAt
  · exact hfits.reopened case (hid ▸ hcase) hopen
  · show (d.cases.get? (caseAfterUpdate case moved surviving caseStatus caseHandoffStatus
      update.createdAt).caseId).isSome = true
    rw [hsignal.1, ← h.same.cases, atomicCase?_eq_some.1 hown]
    rfl
  · show event.map s.storedEvent = event.map (Postgres.storedEvent d)
    rw [funext (storedEvent_eq h.same)]

theorem applyUpdate_alike (h : Agreeing py s d) (hcollation : collation.ByCodePoints)
    (hfree : truthyId (s.handoffUpdateExternalIndex update.externalKey) = none)
    {handoffStatus : Option HandoffStatus} {caseStatus : Option CaseStatus}
    {caseHandoffStatus : Option String} {event : Option CaseEvent}
    (hfits : UpdateFits py s update (handoffStatus.getD update.status) caseStatus caseHandoffStatus
      event) :
    SameEnd (Agreeing py)
      (appendHandoffUpdate update handoffStatus caseStatus caseHandoffStatus event s)
      (Postgres.appendHandoffUpdate py collation update handoffStatus caseStatus caseHandoffStatus
        event d) := by
  have hindexed := indexed_update_none h.same hfree
  unfold Postgres.appendHandoffUpdate
  by_cases hex : ∃ handoff, Applied s update (handoffStatus.getD update.status) handoff
  · obtain ⟨handoff, hap⟩ := hex
    obtain ⟨case, hcase⟩ := Option.isSome_iff_exists.1 hap.atomic
    have happlies := applies_of_applied h hcollation hfits hap hcase
    have hread := h.settled.cases _ case ((h.same.atomicCase? _).trans hcase)
    obtain ⟨-, hsignature, hsnapshot⟩ := caseAfterUpdate_signal case
      (handoff.moved (handoffStatus.getD update.status) update.createdAt)
      ((s.applyUpdate update (handoffStatus.getD update.status) handoff).survivingHandoff
        (handoff.moved (handoffStatus.getD update.status) update.createdAt))
      caseStatus caseHandoffStatus update.createdAt
    have hwritten := (h.applyUpdate hfits hap).putCase
      ⟨readBack_case_congr hread.1 hsignature hsnapshot, happlies.storable⟩ happlies.known
      happlies.accepted
    have hevents := (applyUpdate_parts s update (handoffStatus.getD update.status) handoff).2
    refine SameEnd.returns (appendHandoffUpdate_run hap hcase caseStatus caseHandoffStatus event) ?_
      (hwritten.addEvent? fun e he hnew => ((hfits.event e he).placed (hevents ▸ hnew)).2)
    rw [peek_bind_run, hindexed]
    exact Postgres.applyUpdate_returns.2 ⟨case, handoff, handoff, _, happlies, rfl⟩
  · push Not at hex
    obtain ⟨e, hraises⟩ := appendHandoffUpdate_raises hfree hex caseStatus caseHandoffStatus event
    refine SameEnd.raises hraises h fun result u hy => ?_
    rw [peek_bind_run, hindexed] at hy
    obtain ⟨case, row, handoff, surviving, happlies, -⟩ := Postgres.applyUpdate_returns.1 hy
    exact hex handoff (happlies.applied h hfree)

end Updates

/-! ## Runs -/

section Runs

variable {py : Python} {collation : Collation} {s : Store} {d : Database}

/-- **A call that fits ends the same in both stores.** -/
theorem BackendCall.alike (h : Agreeing py s d) (hcollation : collation.ByCodePoints)
    {call : BackendCall} (hfits : call.Fits py s) :
    SameEnd (Agreeing py) (call.inMemory s) (call.inPostgres py collation d) := by
  cases call with
  | appendHandoffUpdate update handoffStatus caseStatus caseHandoffStatus event =>
    cases hseen : truthyId (s.handoffUpdateExternalIndex update.externalKey) with
    | some id => exact replay_alike h hseen handoffStatus caseStatus caseHandoffStatus event
    | none => exact applyUpdate_alike h hcollation hseen (hfits hseen)
  | upsertVerificationObjective objective event => exact upsertVerificationObjective_alike h hfits
  | recordOutcome outcome event => exact recordOutcome_alike h hfits
  | resolveCaseWithOutcome caseId handoffId outcome now event =>
    exact resolveCaseWithOutcome_alike h hfits

end Runs

/-! ## A handoff that is accepted twice and resolved -/

/-- `COLLATE "C"`. -/
def codePoints : Collation where
  before a b := decide (a < b)
  irrefl a := decide_eq_false (lt_irrefl a)
  trans _ _ _ hab hbc := decide_eq_true (lt_trans (of_decide_eq_true hab) (of_decide_eq_true hbc))
  total _ _ hab hba :=
    le_antisymm (not_lt.1 (of_decide_eq_false hba)) (not_lt.1 (of_decide_eq_false hab))

def outageCase : AtomicCaseProjection where
  caseId := "case_1"
  signalSignature := "sig_1"
  openedAt := "2026-01-01T00:00:00+00:00"
  updatedAt := "2026-01-01T00:00:00+00:00"

def dnsHandoff : CaseHandoff where
  handoffId := "handoff_1"
  caseId := "case_1"
  targetLoop := .engineering
  objective := "restore service"
  objectiveKey := "dns"
  knowledgeScope := "—"
  owner := "—"
  idempotencyKey := "dns"
  fingerprint := "unknown"
  caseType := "unknown"
  correlationId := "corr_1"
  traceId := "unknown"
  createdAt := "2026-01-01T00:00:00+00:00"
  updatedAt := "2026-01-01T00:00:00+00:00"

def dnsUpdate : HandoffUpdate where
  updateId := "hu_1"
  handoffId := "handoff_1"
  caseId := "case_1"
  sourceLoop := .engineering
  updateType := .accepted
  status := .accepted
  summary := "—"
  externalEventId := "run_7"
  correlationId := "corr_1"
  traceId := "unknown"
  payloadHash := "9f86d081"
  createdAt := "2026-01-01T01:00:00+00:00"

def dnsOutcome : OutcomeRecord where
  outcomeId := "outcome_1"
  workItemId := "case_1"
  caseType := "unknown"
  fingerprint := "unknown"
  proposedAction := "—"
  actionTaken := "—"
  createdAt := "2026-01-01T02:00:00+00:00"

def outageStore : Store where
  cases := Table.empty.put (.atomic outageCase)
  handoffs := Table.empty.put dnsHandoff
  handoffIdempotencyIndex := Index.set (fun _ => none) "dns" "handoff_1"
  activeHandoffIndex := Index.set (fun _ => none) (handoffKey dnsHandoff) "handoff_1"

def outageDatabase : Database where
  cases := Table.empty.put (.atomic outageCase)
  caseHandoffs := Table.empty.put dnsHandoff

def dnsCalls : List BackendCall :=
  [.appendHandoffUpdate dnsUpdate none none none none,
    .appendHandoffUpdate { dnsUpdate with updateId := "hu_2" } none none none none,
    .resolveCaseWithOutcome "case_1" "" dnsOutcome "2026-01-01T02:00:00+00:00" none,
    .recordOutcome dnsOutcome none]

theorem agreeing_dns : Agreeing asciiPython outageStore outageDatabase where
  same := {
    cases := rfl
    events := rfl
    listed := fun _ _ => rfl
    handoffs := rfl
    keyed := by
      show Mirrors _ (Table.empty.put dnsHandoff)
        (truthyIndex (Index.set (fun _ => none) "dns" "handoff_1"))
      rw [truthyIndex_set (by decide)]
      exact (Mirrors.empty _).put_new rfl rfl rfl
    live := by
      show Mirrors _ (Table.empty.put dnsHandoff)
        (truthyIndex (Index.set (fun _ => none) (handoffKey dnsHandoff) "handoff_1"))
      rw [truthyIndex_set (by decide)]
      exact (Mirrors.empty _).put_new rfl rfl rfl
    updates := rfl
    received := Mirrors.empty _
    objectives := rfl
    objectiveIds := Mirrors.empty _
    outcomes := rfl }
  settled := {
    cases := fun caseId case hcase => by
      rw [show outageDatabase = Database.putCase { caseHandoffs := Table.empty.put dnsHandoff }
        outageCase from rfl, atomicCase?_putCase] at hcase
      split at hcase
      · cases hcase
        exact ⟨rfl, by decide⟩
      · cases hcase
    handoffs := fun row hrow => by
      rw [List.mem_singleton.1 hrow]
      rfl
    updates := fun row hrow => by cases hrow
    objectives := fun row hrow => by cases hrow
    outcomes := fun row hrow => by cases hrow }
  fingerprints := by decide +kernel
  references := fun row hrow => by cases hrow

/-- An event that is seen again is not looked at. -/
theorem dnsCalls_fit :
    Fitting (fun s call => call.Fits asciiPython s) BackendCall.inMemory dnsCalls outageStore := by
  refine ⟨fun _ => ⟨rfl, rfl, ?_, ?_, ?_, nofun, nofun⟩, fun hnew => ?_,
    ⟨rfl, ?_, ?_, by decide, nofun⟩, ⟨rfl, ?_, ?_, nofun⟩, trivial⟩
  · rintro handoff ⟨⟩
    rfl
  · rintro handoff ⟨⟩ hended
    cases hended
  · rintro case ⟨⟩ -
    decide +kernel
  · exact absurd hnew (by decide +kernel)
  · rintro existing ⟨⟩
  · rintro handoff ⟨⟩
  · rintro storm ⟨⟩
  · exact fun _ => ⟨rfl, nofun⟩

end NocAgent.Cases
