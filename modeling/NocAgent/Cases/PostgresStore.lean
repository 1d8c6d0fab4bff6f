import NocAgent.Lib.Atomic
import NocAgent.Lib.Latest
import NocAgent.Cases.ActiveFingerprint
import NocAgent.Cases.RecordReads

/-!
# Handoff progress and outcomes in Postgres

* `Database` — the tables of `SCHEMA_STATEMENTS` that the four methods read and write.
* One statement an `Action`: it raises where a constraint is violated, and where a row is not taken or
  does not validate.
* `appendHandoffUpdate`, `upsertVerificationObjective`, `recordOutcome`, `resolveCaseWithOutcome` of
  `PostgresCaseStore`, each in one transaction.
* `insertCaseEvent_returns` and its siblings — what it takes to return, and what is then written.

The advisory locks make every call one step.  A column repeats the field of the payload that it is
named after, so a row is its payload.
-/

set_option autoImplicit false

namespace NocAgent.Cases

open Effects Effects.Action Keyed Latest

/-- The tables that the four methods read and write. -/
structure Database where
  cases : Table CaseProjection.caseId := .empty
  caseEvents : Table CaseEvent.eventId := .empty
  caseHandoffs : Table CaseHandoff.handoffId := .empty
  handoffUpdates : Table HandoffUpdate.updateId := .empty
  verificationObjectives : Table VerificationObjective.objectiveId := .empty
  outcomeRecords : Table OutcomeRecord.outcomeId := .empty

abbrev DatabaseM := Action Database PyExc

def uniqueViolation : PyExc := .named "UniqueViolationError" ""

def foreignKeyViolation : PyExc := .named "ForeignKeyViolationError" ""

/-- A number that JSON does not have, or a NUL. -/
def invalidJson : PyExc := .named "InvalidTextRepresentationError" ""

/-! ## Keys -/

/-- The partial key of `case_handoffs_active_unique_idx`. -/
def liveKey (handoff : CaseHandoff) : Option HandoffKey :=
  if handoffActive handoff.status then some (handoffKey handoff) else none

def HandoffUpdate.externalKey (update : HandoffUpdate) : LoopName × String :=
  (update.sourceLoop, update.externalEventId)

/-- The partial key of `handoff_updates_external_event_unique_idx`. -/
def namedKey (update : HandoffUpdate) : Option (LoopName × String) :=
  if update.externalEventId = "" then none else some update.externalKey

/-- The key of `UNIQUE(case_id, objective_key)`. -/
def VerificationObjective.caseKey (objective : VerificationObjective) : String × String :=
  (objective.caseId, objective.objectiveKey)

/-- The cases an event is about. -/
def CaseEvent.concerned (event : CaseEvent) : List String :=
  event.caseId.toList ++ event.metaCaseId.toList

/-- The order in which the database sorts text: only equal texts tie. -/
structure Collation where
  before : String → String → Bool
  irrefl : ∀ a, before a a = false
  trans : ∀ a b c, before a b = true → before b c = true → before a c = true
  total : ∀ a b, before a b = false → before b a = false → a = b

/-- `ORDER BY updated_at, created_at, handoff_id`. -/
def Collation.handoffBefore (collation : Collation) (a b : CaseHandoff) : Bool :=
  collation.before a.updatedAt b.updatedAt || (a.updatedAt == b.updatedAt &&
    (collation.before a.createdAt b.createdAt || (a.createdAt == b.createdAt &&
      collation.before a.handoffId b.handoffId)))

/-- The handoffs of the case that are alive, but for `handoff`. -/
def survivors (rows : List CaseHandoff) (handoff : CaseHandoff) : List CaseHandoff :=
  rows.filter fun item => item.caseId = handoff.caseId ∧ item.handoffId ≠ handoff.handoffId ∧
    item.status ∉ TERMINAL_HANDOFF_STATUSES

def Database.atomicCase? (d : Database) (caseId : String) : Option AtomicCaseProjection :=
  (d.cases.get? caseId).bind CaseProjection.atomic?

namespace Database

variable (d : Database)

def putCase (case : AtomicCaseProjection) : Database := { d with cases := d.cases.put (.atomic case) }

def putEvent (event : CaseEvent) : Database := { d with caseEvents := d.caseEvents.put event }

def putHandoff (handoff : CaseHandoff) : Database :=
  { d with caseHandoffs := d.caseHandoffs.put handoff }

def putUpdate (update : HandoffUpdate) : Database :=
  { d with handoffUpdates := d.handoffUpdates.put update }

def putObjective (objective : VerificationObjective) : Database :=
  { d with verificationObjectives := d.verificationObjectives.put objective }

def putOutcome (outcome : OutcomeRecord) : Database :=
  { d with outcomeRecords := d.outcomeRecords.put outcome }

end Database

namespace Postgres

variable (py : Python)

/-! ## Statements -/

/-- The case that a `SELECT payload FROM cases` finds, if it is an atomic one. -/
def fetchAtomicCase (caseId : String) : DatabaseM AtomicCaseProjection := do
  let row ← peek fun d => d.atomicCase? caseId
  let case ← orRaise row .keyError
  pure (case.readBack py)

def fetchHandoff (handoffId : String) : DatabaseM CaseHandoff := do
  let row ← peek fun d => d.caseHandoffs.get? handoffId
  let row ← orRaise row .keyError
  orRaise (row.readBack py) .validationError

/-- `_insert_case_event`. -/
def insertCaseEvent (event : CaseEvent) : DatabaseM CaseEvent := do
  raiseIf (¬ Storable event.modelDump) invalidJson
  let d ← peek fun d => d
  match d.caseEvents.get? event.eventId with
  | some existing => pure existing
  | none => do
    raiseIf ((event.concerned.any fun caseId => (d.cases.get? caseId).isNone) = true)
      foreignKeyViolation
    alter fun d => d.putEvent event
    pure event

/-- `await _insert_case_event(conn, event) if event is not None else None`. -/
def insertCaseEvent? : Option CaseEvent → DatabaseM (Option CaseEvent)
  | none => pure none
  | some event => do
    let stored ← insertCaseEvent event
    pure (some stored)

/-- `_update_case_projection`. -/
def updateCaseProjection (case : AtomicCaseProjection) : DatabaseM Unit := do
  raiseIf (¬ Storable case.modelDump) invalidJson
  let d ← peek fun d => d
  raiseIf (¬ d.cases.Accepts activeFingerprint (.atomic case)) uniqueViolation
  let _ ← orRaise (d.cases.get? case.caseId) .keyError
  alter fun d => d.putCase case

/-- `_update_case_handoff`. -/
def updateCaseHandoff (handoff : CaseHandoff) : DatabaseM CaseHandoff := do
  let d ← peek fun d => d
  raiseIf (¬ d.caseHandoffs.Accepts liveKey handoff) uniqueViolation
  let _ ← orRaise (d.caseHandoffs.get? handoff.handoffId) .keyError
  alter fun d => d.putHandoff handoff
  orRaise (handoff.readBack py) .validationError

/-- `_insert_handoff_update`. -/
def insertHandoffUpdate (update : HandoffUpdate) : DatabaseM HandoffUpdate := do
  let d ← peek fun d => d
  raiseIf ((d.handoffUpdates.get? update.updateId).isSome = true) uniqueViolation
  raiseIf (¬ d.handoffUpdates.Accepts namedKey update) uniqueViolation
  raiseIf ((d.caseHandoffs.get? update.handoffId).isNone = true ∨
    (d.cases.get? update.caseId).isNone = true) foreignKeyViolation
  alter fun d => d.putUpdate update
  orRaise (update.readBack py) .validationError

/-- `objective.handoff_id or None`, as a reference. -/
def DanglingHandoff (d : Database) (objective : VerificationObjective) : Prop :=
  objective.handoffId ≠ "" ∧ (d.caseHandoffs.get? objective.handoffId).isNone = true

instance (d : Database) (objective : VerificationObjective) :
    Decidable (DanglingHandoff d objective) := by
  unfold DanglingHandoff; infer_instance

/-- The row that the `ON CONFLICT` clause leaves: it keeps its id and the time it was created. -/
def conflictRow (existing objective : VerificationObjective) : VerificationObjective :=
  { objective with
    objectiveId := existing.objectiveId
    createdAt := existing.createdAt }

/-- `_upsert_verification_objective`. -/
def upsertObjective (objective : VerificationObjective) : DatabaseM VerificationObjective := do
  let d ← peek fun d => d
  match d.verificationObjectives.indexed (fun row => some row.caseKey) objective.caseKey with
  | some existing => do
    raiseIf (DanglingHandoff d objective) foreignKeyViolation
    alter fun d => d.putObjective (conflictRow existing objective)
    orRaise ((conflictRow existing objective).readBack py) .validationError
  | none => do
    raiseIf ((d.verificationObjectives.get? objective.objectiveId).isSome = true) uniqueViolation
    raiseIf ((d.cases.get? objective.caseId).isNone = true ∨ DanglingHandoff d objective)
      foreignKeyViolation
    alter fun d => d.putObjective objective
    orRaise (objective.readBack py) .validationError

/-- `_insert_outcome`. -/
def insertOutcome (outcome : OutcomeRecord) : DatabaseM OutcomeRecord := do
  raiseIf (¬ Storable outcome.modelDump) invalidJson
  let d ← peek fun d => d
  match d.outcomeRecords.get? outcome.outcomeId with
  | some existing => orRaise (existing.readBack py) .validationError
  | none => do
    raiseIf ((d.cases.get? outcome.workItemId).isNone = true) foreignKeyViolation
    alter fun d => d.putOutcome outcome
    orRaise (outcome.readBack py) .validationError

/-! ## What a statement takes to return -/

/-- The database takes the event, or has it. -/
def Accepts (d : Database) (event : CaseEvent) : Prop :=
  Storable event.modelDump ∧ ((d.caseEvents.get? event.eventId).isSome = true ∨
    ∀ caseId ∈ event.concerned, (d.cases.get? caseId).isSome = true)

def storedEvent (d : Database) (event : CaseEvent) : CaseEvent :=
  (d.caseEvents.get? event.eventId).getD event

def addEvent (d : Database) (event : CaseEvent) : Database :=
  if (d.caseEvents.get? event.eventId).isSome then d
  else d.putEvent event

section Returns

variable {py : Python} {d t : Database}

theorem fetchAtomicCase_returns {caseId : String} {case : AtomicCaseProjection} :
    fetchAtomicCase py caseId d = (.ok case, t) ↔
      ∃ row, d.atomicCase? caseId = some row ∧ case = row.readBack py ∧ t = d := by
  simp only [fetchAtomicCase, peek_bind_run, orRaise_bind_returns, pure_returns]

theorem fetchHandoff_returns {handoffId : String} {handoff : CaseHandoff} :
    fetchHandoff py handoffId d = (.ok handoff, t) ↔
      ∃ row, d.caseHandoffs.get? handoffId = some row ∧ row.readBack py = some handoff ∧ t = d := by
  simp only [fetchHandoff, peek_bind_run, orRaise_bind_returns, orRaise_returns]

theorem insertCaseEvent_returns {event stored : CaseEvent} :
    insertCaseEvent event d = (.ok stored, t) ↔
      Accepts d event ∧ stored = storedEvent d event ∧ t = addEvent d event := by
  unfold insertCaseEvent Accepts storedEvent addEvent
  rw [raiseIf_bind_returns, not_not, peek_bind_run, and_assoc]
  refine and_congr_right fun _ => ?_
  cases d.caseEvents.get? event.eventId with
  | some existing => simp [pure_returns, -pure_run]
  | none =>
    dsimp only
    rw [raiseIf_bind_returns, alter_bind_run, pure_returns]
    simp [Option.isSome_iff_ne_none]

theorem insertCaseEvent?_returns {event stored : Option CaseEvent} :
    insertCaseEvent? event d = (.ok stored, t) ↔ (∀ e ∈ event, Accepts d e) ∧
      stored = event.map (storedEvent d) ∧ t = event.elim d (addEvent d) := by
  cases event with
  | none => simp [insertCaseEvent?, pure_returns, -pure_run]
  | some event =>
    simp only [insertCaseEvent?, bind_returns, insertCaseEvent_returns, pure_returns]
    simp

theorem updateCaseProjection_returns {case : AtomicCaseProjection} {u : Unit} :
    updateCaseProjection case d = (.ok u, t) ↔ Storable case.modelDump ∧
      d.cases.Accepts activeFingerprint (.atomic case) ∧
      (d.cases.get? case.caseId).isSome = true ∧
      t = d.putCase case := by
  unfold updateCaseProjection
  rw [raiseIf_bind_returns, not_not, peek_bind_run, raiseIf_bind_returns, not_not, orRaise_bind_returns, exists_and_right,
    ← Option.isSome_iff_exists, alter_run, Prod.mk.injEq, eq_self, true_and, eq_comm (a := t)]

theorem updateCaseHandoff_returns {handoff stored : CaseHandoff} :
    updateCaseHandoff py handoff d = (.ok stored, t) ↔ d.caseHandoffs.Accepts liveKey handoff ∧
      (d.caseHandoffs.get? handoff.handoffId).isSome = true ∧ handoff.readBack py = some stored ∧
      t = d.putHandoff handoff := by
  unfold updateCaseHandoff
  rw [peek_bind_run, raiseIf_bind_returns, not_not, orRaise_bind_returns, exists_and_right,
    ← Option.isSome_iff_exists, alter_bind_run, orRaise_returns]

theorem insertHandoffUpdate_returns {update stored : HandoffUpdate} :
    insertHandoffUpdate py update d = (.ok stored, t) ↔
      d.handoffUpdates.get? update.updateId = none ∧ d.handoffUpdates.Accepts namedKey update ∧
      (d.caseHandoffs.get? update.handoffId).isSome = true ∧
      (d.cases.get? update.caseId).isSome = true ∧ update.readBack py = some stored ∧
      t = d.putUpdate update := by
  unfold insertHandoffUpdate
  rw [peek_bind_run, raiseIf_bind_returns, raiseIf_bind_returns, raiseIf_bind_returns,
    alter_bind_run, orRaise_returns]
  simp [Option.isSome_iff_ne_none, and_assoc]

theorem upsertObjective_returns {objective stored : VerificationObjective} :
    upsertObjective py objective d = (.ok stored, t) ↔ ¬ DanglingHandoff d objective ∧
      match d.verificationObjectives.indexed (fun row => some row.caseKey) objective.caseKey with
      | some existing =>
        (conflictRow existing objective).readBack py = some stored ∧
        t = d.putObjective (conflictRow existing objective)
      | none =>
        d.verificationObjectives.get? objective.objectiveId = none ∧
        (d.cases.get? objective.caseId).isSome = true ∧ objective.readBack py = some stored ∧
        t = d.putObjective objective := by
  unfold upsertObjective
  rw [peek_bind_run]
  cases d.verificationObjectives.indexed (fun row => some row.caseKey) objective.caseKey with
  | some existing =>
    dsimp only
    rw [raiseIf_bind_returns, alter_bind_run, orRaise_returns]
  | none =>
    dsimp only
    rw [raiseIf_bind_returns, raiseIf_bind_returns, alter_bind_run, orRaise_returns, not_or]
    simp only [Option.isSome_iff_ne_none, Option.isNone_iff_eq_none, not_not, ne_eq]
    tauto

theorem insertOutcome_returns {outcome stored : OutcomeRecord} :
    insertOutcome py outcome d = (.ok stored, t) ↔ Storable outcome.modelDump ∧
      match d.outcomeRecords.get? outcome.outcomeId with
      | some existing => existing.readBack py = some stored ∧ t = d
      | none =>
        (d.cases.get? outcome.workItemId).isSome = true ∧ outcome.readBack py = some stored ∧
        t = d.putOutcome outcome := by
  unfold insertOutcome
  rw [raiseIf_bind_returns, not_not, peek_bind_run]
  refine and_congr_right fun _ => ?_
  cases d.outcomeRecords.get? outcome.outcomeId with
  | some existing => exact orRaise_returns
  | none =>
    dsimp only
    rw [raiseIf_bind_returns, alter_bind_run, orRaise_returns]
    simp [Option.isSome_iff_ne_none]

end Returns

/-! ## Methods -/

/-- The handoff that `ORDER BY ... DESC LIMIT 1` finds; its row is validated too. -/
def fetchSurviving (collation : Collation) (target : HandoffStatus) (handoff : CaseHandoff) :
    DatabaseM (Option CaseHandoff) :=
  if target ∈ TERMINAL_HANDOFF_STATUSES then do
    let row ← peek fun d => latest collation.handoffBefore (survivors d.caseHandoffs.rows handoff)
    orRaise (row.mapM (CaseHandoff.readBack py)) .validationError
  else pure none

/-- The update is there already. -/
def replayUpdate (row : HandoffUpdate) : DatabaseM HandoffUpdateResult := do
  let existing ← orRaise (row.readBack py) .validationError
  let handoff ← fetchHandoff py existing.handoffId
  let case ← fetchAtomicCase py handoff.caseId
  pure ⟨existing, handoff, case, none, false⟩

def applyUpdate (collation : Collation) (update : HandoffUpdate) (target : HandoffStatus)
    (caseStatus : Option CaseStatus) (caseHandoffStatus : Option String)
    (event : Option CaseEvent) : DatabaseM HandoffUpdateResult := do
  let case ← fetchAtomicCase py update.caseId
  let handoff ← fetchHandoff py update.handoffId
  raiseIf (handoff.caseId ≠ update.caseId) .valueError
  raiseIf (target ∈ VERIFIER_ONLY_HANDOFF_STATUSES) .valueError
  raiseIf (allowedHandoffTransition handoff.status target update.sourceLoop = false) .valueError
  let stored ← insertHandoffUpdate py update
  let updated ← updateCaseHandoff py (handoff.moved target stored.createdAt)
  let surviving ← fetchSurviving py collation target updated
  let updatedCase :=
    caseAfterUpdate case updated surviving caseStatus caseHandoffStatus stored.createdAt
  updateCaseProjection updatedCase
  let storedEvent ← insertCaseEvent? event
  pure ⟨stored, updated, updatedCase, storedEvent, true⟩

def appendHandoffUpdate (collation : Collation) (update : HandoffUpdate)
    (handoffStatus : Option HandoffStatus) (caseStatus : Option CaseStatus)
    (caseHandoffStatus : Option String) (event : Option CaseEvent) :
    DatabaseM HandoffUpdateResult := transaction do
  let row ← peek fun d =>
    d.handoffUpdates.indexed (fun row => some row.externalKey) update.externalKey
  match row with
  | some row => replayUpdate py row
  | none =>
    applyUpdate py collation update (handoffStatus.getD update.status) caseStatus caseHandoffStatus
      event

def upsertVerificationObjective (objective : VerificationObjective) (event : Option CaseEvent) :
    DatabaseM VerificationObjective := transaction do
  let stored ← upsertObjective py objective
  let _ ← insertCaseEvent? event
  pure stored

def recordOutcome (outcome : OutcomeRecord) (event : Option CaseEvent) :
    DatabaseM OutcomeRecord := transaction do
  let stored ← insertOutcome py outcome
  let _ ← insertCaseEvent? event
  pure stored

/-- `if handoff_id:` resolve the handoff too. -/
def resolveHandoff (handoffId now : String) : DatabaseM Unit :=
  if handoffId = "" then pure ()
  else do
    let handoff ← fetchHandoff py handoffId
    raiseIf (allowedHandoffTransition handoff.status .resolved .noc = false) .valueError
    let _ ← updateCaseHandoff py (handoff.moved .resolved now)
    pure ()

def resolveCaseWithOutcome (caseId handoffId : String) (outcome : OutcomeRecord) (now : String)
    (event : Option CaseEvent) : DatabaseM AtomicCaseProjection := transaction do
  let case ← fetchAtomicCase py caseId
  raiseIf (outcome.workItemId ≠ case.caseId) .valueError
  resolveHandoff py handoffId now
  let _ ← insertOutcome py outcome
  let resolved := { case with
    status := .resolved
    resolvedAt := some now
    resolutionReason := "lhp_outcome_verified"
    updatedAt := now }
  updateCaseProjection resolved
  let _ ← insertCaseEvent? event
  pure resolved

/-! ## What a method takes to return -/

section Methods

variable {py : Python} {d t : Database} {collation : Collation}

theorem fetchSurviving_returns {target : HandoffStatus} {handoff : CaseHandoff}
    {surviving : Option CaseHandoff} :
    fetchSurviving py collation target handoff d = (.ok surviving, t) ↔
      (if target ∈ TERMINAL_HANDOFF_STATUSES then
        (latest collation.handoffBefore (survivors d.caseHandoffs.rows handoff)).mapM
          (CaseHandoff.readBack py) = some surviving
      else surviving = none) ∧ t = d := by
  unfold fetchSurviving
  split
  · rw [peek_bind_run, orRaise_returns]
  · exact pure_returns

theorem replayUpdate_returns {row : HandoffUpdate} {result : HandoffUpdateResult} :
    replayUpdate py row d = (.ok result, t) ↔ ∃ existing stored handoff case,
      row.readBack py = some existing ∧ d.caseHandoffs.get? existing.handoffId = some stored ∧
      stored.readBack py = some handoff ∧ d.atomicCase? handoff.caseId = some case ∧
      result = ⟨existing, handoff, case.readBack py, none, false⟩ ∧ t = d := by
  unfold replayUpdate
  rw [orRaise_bind_returns]
  simp only [bind_returns, fetchHandoff_returns, fetchAtomicCase_returns, pure_returns]
  constructor
  · rintro ⟨existing, hread, handoff, d₁, ⟨stored, hstored, hhandoff, rfl⟩, c, d₂,
      ⟨case, hcase, rfl, rfl⟩, rfl, rfl⟩
    exact ⟨existing, stored, handoff, case, hread, hstored, hhandoff, hcase, rfl, rfl⟩
  · rintro ⟨existing, stored, handoff, case, hread, hstored, hhandoff, hcase, rfl, rfl⟩
    exact ⟨existing, hread, handoff, t, ⟨stored, hstored, hhandoff, rfl⟩, case.readBack py, t,
      ⟨case, hcase, rfl, rfl⟩, rfl, rfl⟩

/-- The rows of an applied update. -/
def written (d : Database) (update : HandoffUpdate) (handoff : CaseHandoff)
    (case : AtomicCaseProjection) : Database :=
  ((d.putUpdate update).putHandoff handoff).putCase case

variable (py d collation) in
/-- What an update that is applied finds, and what it returns. -/
structure Applies (update : HandoffUpdate) (target : HandoffStatus) (caseStatus : Option CaseStatus)
    (caseHandoffStatus : Option String) (event : Option CaseEvent) (result : HandoffUpdateResult)
    (case : AtomicCaseProjection) (row handoff : CaseHandoff) (surviving : Option CaseHandoff) :
    Prop where
  found : d.atomicCase? update.caseId = some case
  stored : d.caseHandoffs.get? update.handoffId = some row
  read : row.readBack py = some handoff
  sameCase : handoff.caseId = update.caseId
  targeted : target ∉ VERIFIER_ONLY_HANDOFF_STATUSES
  allowed : allowedHandoffTransition handoff.status target update.sourceLoop = true
  fresh : d.handoffUpdates.get? update.updateId = none
  named : d.handoffUpdates.Accepts namedKey update
  valid : update.readBack py = some result.update
  live : d.caseHandoffs.Accepts liveKey (handoff.moved target result.update.createdAt)
  kept : (d.caseHandoffs.get? handoff.handoffId).isSome = true
  moved : (handoff.moved target result.update.createdAt).readBack py = some result.handoff
  survived : if target ∈ TERMINAL_HANDOFF_STATUSES then
      (latest collation.handoffBefore (survivors (d.caseHandoffs.put
        (handoff.moved target result.update.createdAt)).rows result.handoff)).mapM
          (CaseHandoff.readBack py) = some surviving
    else surviving = none
  case_eq : result.case = caseAfterUpdate (case.readBack py) result.handoff surviving caseStatus
    caseHandoffStatus result.update.createdAt
  storable : Storable result.case.modelDump
  accepted : d.cases.Accepts activeFingerprint (.atomic result.case)
  known : (d.cases.get? result.case.caseId).isSome = true
  eventAccepted : ∀ e ∈ event, Accepts d e
  event_eq : result.event = event.map (storedEvent d)
  created : result.created = true

theorem isSome_get?_of_atomicCase? {caseId : String} {case : AtomicCaseProjection}
    (h : d.atomicCase? caseId = some case) : (d.cases.get? caseId).isSome = true := by
  obtain ⟨row, hrow, -⟩ := Option.bind_eq_some_iff.1 h
  rw [hrow]
  rfl

/-- Replacing a row leaves every reference to it in place. -/
theorem isSome_get?_put {κ ρ : Type} [DecidableEq κ] {key : ρ → κ} {rows : Table key} {r : ρ}
    (h : (rows.get? (key r)).isSome = true) (k : κ) :
    ((rows.put r).get? k).isSome = (rows.get? k).isSome := by
  rw [Table.get?_put]
  split
  · rename_i hk
    rw [← hk, h]
    rfl
  · rfl

theorem accepts_putCase_iff {case : AtomicCaseProjection}
    (hknown : (d.cases.get? case.caseId).isSome = true) (event : CaseEvent) :
    Accepts (d.putCase case) event ↔ Accepts d event := by
  unfold Accepts Database.putCase
  simp only [isSome_get?_put (r := CaseProjection.atomic case) hknown]

theorem applyUpdate_returns {update : HandoffUpdate} {target : HandoffStatus}
    {caseStatus : Option CaseStatus} {caseHandoffStatus : Option String}
    {event : Option CaseEvent} {result : HandoffUpdateResult} :
    applyUpdate py collation update target caseStatus caseHandoffStatus event d =
      (.ok result, t) ↔ ∃ case row handoff surviving,
      Applies py d collation update target caseStatus caseHandoffStatus event result case row handoff
        surviving ∧
      t = event.elim (written d update (handoff.moved target result.update.createdAt) result.case)
        (addEvent (written d update (handoff.moved target result.update.createdAt) result.case)) := by
  unfold applyUpdate
  simp only [bind_returns, fetchAtomicCase_returns, fetchHandoff_returns, raiseIf_returns,
    insertHandoffUpdate_returns, updateCaseHandoff_returns, fetchSurviving_returns,
    updateCaseProjection_returns, insertCaseEvent?_returns, pure_returns]
  constructor
  · rintro ⟨c, d₁, ⟨case, hcase, rfl, rfl⟩, handoff, d₂, ⟨row, hrow, hread, rfl⟩, u₁, d₃,
      ⟨hsame, rfl⟩, u₂, d₄, ⟨htarget, rfl⟩, u₃, d₅, ⟨hallowed, rfl⟩, stored, d₆,
      ⟨hfresh, hnamed, hhandoff, hknown, hstored, rfl⟩, updated, d₇,
      ⟨hlive, hexists, hupdated, rfl⟩, surviving, d₈, ⟨hsurviving, rfl⟩, u₄, d₉,
      ⟨hstorable, hfingerprint, hcaseRow, rfl⟩, e, d₁₀, ⟨hevent, rfl, rfl⟩, rfl, rfl⟩
    exact ⟨case, row, handoff, surviving, {
      found := hcase
      stored := hrow
      read := hread
      sameCase := not_not.1 hsame
      targeted := htarget
      allowed := by simpa using hallowed
      fresh := hfresh
      named := hnamed
      valid := hstored
      live := hlive
      kept := hexists
      moved := hupdated
      survived := hsurviving
      case_eq := rfl
      storable := hstorable
      accepted := hfingerprint
      known := hcaseRow
      eventAccepted := fun e he => (accepts_putCase_iff hcaseRow e).1 (hevent e he)
      event_eq := rfl
      created := rfl }, rfl⟩
  · rintro ⟨case, row, handoff, surviving, h, rfl⟩
    obtain ⟨stored, updated, updatedCase, storedEvent, created⟩ := result
    obtain rfl : created = true := h.created
    obtain rfl : updatedCase = caseAfterUpdate (case.readBack py) updated surviving caseStatus
      caseHandoffStatus stored.createdAt := h.case_eq
    refine ⟨_, d, ⟨case, h.found, rfl, rfl⟩, handoff, d, ⟨row, h.stored, h.read, rfl⟩, (), d,
      ⟨not_not.2 h.sameCase, rfl⟩, (), d, ⟨h.targeted, rfl⟩, (), d, ⟨by simp [h.allowed], rfl⟩,
      stored, _, ⟨h.fresh, h.named, by rw [h.stored]; rfl, isSome_get?_of_atomicCase? h.found,
        h.valid, rfl⟩, updated, _, ⟨h.live, h.kept, h.moved, rfl⟩, surviving, _, ⟨h.survived, rfl⟩,
      (), _, ⟨h.storable, h.accepted, h.known, rfl⟩, storedEvent, _, ⟨fun e he => ?_, h.event_eq, rfl⟩, rfl, rfl⟩
    exact (accepts_putCase_iff h.known e).2 (h.eventAccepted e he)

/-- What a call that resolves a handoff finds, and the handoff it writes. -/
def Resolved (py : Python) (d : Database) (handoffId now : String) (moved : CaseHandoff) : Prop :=
  ∃ row handoff, d.caseHandoffs.get? handoffId = some row ∧ row.readBack py = some handoff ∧
    allowedHandoffTransition handoff.status .resolved .noc = true ∧
    moved = handoff.moved .resolved now ∧ d.caseHandoffs.Accepts liveKey moved ∧
    (d.caseHandoffs.get? handoff.handoffId).isSome = true ∧ (moved.readBack py).isSome = true

theorem resolveHandoff_returns {handoffId now : String} {u : Unit} :
    resolveHandoff py handoffId now d = (.ok u, t) ↔
      if handoffId = "" then t = d
      else ∃ moved, Resolved py d handoffId now moved ∧ t = d.putHandoff moved := by
  unfold resolveHandoff Resolved
  split
  · exact pure_returns.trans (and_iff_right rfl)
  · simp only [bind_returns, fetchHandoff_returns, raiseIf_returns, updateCaseHandoff_returns,
      pure_returns]
    constructor
    · rintro ⟨handoff, d₁, ⟨row, hrow, hread, rfl⟩, v, d₂, ⟨hallowed, rfl⟩, stored, d₃,
        ⟨hlive, hkept, hstored, rfl⟩, -, rfl⟩
      exact ⟨_, ⟨row, handoff, hrow, hread, by simpa using hallowed, rfl, hlive, hkept,
        by rw [hstored]; rfl⟩, rfl⟩
    · rintro ⟨moved, ⟨row, handoff, hrow, hread, hallowed, rfl, hlive, hkept, hstored⟩, rfl⟩
      obtain ⟨stored, hstored⟩ := Option.isSome_iff_exists.1 hstored
      exact ⟨handoff, d, ⟨row, hrow, hread, rfl⟩, (), d, ⟨by simp [hallowed], rfl⟩, stored, _,
        ⟨hlive, hkept, hstored, rfl⟩, trivial, rfl⟩

end Methods

end Postgres

end NocAgent.Cases
