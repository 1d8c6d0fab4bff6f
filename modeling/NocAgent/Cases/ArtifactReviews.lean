import NocAgent.Cases.Lhp
import NocAgent.Lib.Lts
import NocAgent.Lib.Table

/-!
# Recording and reviewing knowledge artifacts

The Postgres store keeps one artifact for each case, type and version.

* `recordKnowledgeArtifact` — `INSERT ... ON CONFLICT (case_id, artifact_type, version) DO UPDATE`, with
  the event in one transaction; `recordInMemory` is the same call of the in-memory store.
* `reviewLhpKnowledgeArtifact` — what an operator decides.
* `RecordsStored` — an artifact that is recorded again is as it is stored, and brings no new event.
* `Untouched` — recording again changes nothing.

Principal result: `artifacts_run_iff` — the runs in which recording again changes nothing are those in
which nothing else is recorded again.
-/

set_option autoImplicit false

namespace NocAgent.Cases

open Keyed Lts

/-! ## The table -/

abbrev ArtifactKey := String × String × Nat

def KnowledgeArtifact.key (a : KnowledgeArtifact) : ArtifactKey := (a.caseId, a.artifactType, a.version)

/-- A row of `knowledge_artifacts`: the columns, and the dump of the artifact. -/
structure ArtifactRow where
  artifactId : String
  caseId : String
  handoffId : Option String
  artifactType : String
  scope : String
  status : KnowledgeArtifactStatus
  reviewStatus : KnowledgeReviewStatus
  version : Nat
  contentHash : String
  createdBy : LoopName
  createdAt : String
  payload : KnowledgeArtifact
  schemaVersion : String

def ArtifactRow.key (row : ArtifactRow) : ArtifactKey := (row.caseId, row.artifactType, row.version)

/-- What Postgres holds of artifacts. -/
structure ArtifactStore where
  artifacts : Table ArtifactRow.key := .empty
  events : List CaseEvent := []

/-- `_insert_case_event`: an event that is there stays. -/
def insertCaseEvent (events : List CaseEvent) (event : CaseEvent) : List CaseEvent :=
  if event.eventId ∈ events.map CaseEvent.eventId then events else events ++ [event]

def insertOptionalEvent (events : List CaseEvent) : Option CaseEvent → List CaseEvent
  | some event => insertCaseEvent events event
  | none => events

section Postgres

/- `jsonb` is what a column of that type makes of a mapping. -/
variable (jsonb : JsonDict → JsonDict)

/-- The dump of an artifact, in a `jsonb` column. -/
def storedPayload (a : KnowledgeArtifact) : KnowledgeArtifact := { a with payload := jsonb a.payload }

/-- `VALUES ($1, ..., $13)`. -/
def ArtifactRow.proposed (a : KnowledgeArtifact) : ArtifactRow where
  artifactId := a.artifactId
  caseId := a.caseId
  handoffId := if a.handoffId = "" then none else some a.handoffId
  artifactType := a.artifactType
  scope := a.scope
  status := a.status
  reviewStatus := a.reviewStatus
  version := a.version
  contentHash := a.contentHash
  createdBy := a.createdBy
  createdAt := a.createdAt
  payload := storedPayload jsonb a
  schemaVersion := a.schemaVersion

/-- `DO UPDATE SET ...`. -/
def ArtifactRow.overwritten (row excluded : ArtifactRow) : ArtifactRow :=
  { row with
    status := excluded.status
    reviewStatus := excluded.reviewStatus
    contentHash := excluded.contentHash
    payload := { excluded.payload with artifactId := row.artifactId, createdAt := row.createdAt }
    schemaVersion := excluded.schemaVersion }

/-- `record_knowledge_artifact`; `none` is a transaction that is rolled back. -/
def recordKnowledgeArtifact (s : ArtifactStore) (a : KnowledgeArtifact) (event : Option CaseEvent) :
    Option ArtifactStore :=
  match s.artifacts.get? a.key with
  | some row => some ⟨s.artifacts.put (row.overwritten (.proposed jsonb a)),
      insertOptionalEvent s.events event⟩
  | none =>
    -- the primary key is not the arbiter of the conflict
    if a.artifactId ∈ s.artifacts.rows.map ArtifactRow.artifactId then none
    else some ⟨s.artifacts.put (.proposed jsonb a), insertOptionalEvent s.events event⟩

/-- `update_knowledge_artifact`. -/
def updateKnowledgeArtifact (s : ArtifactStore) (a : KnowledgeArtifact) (event : Option CaseEvent) :
    Option ArtifactStore :=
  match s.artifacts.rows.find? fun row => row.artifactId = a.artifactId with
  | some row => some ⟨s.artifacts.put { row with
        status := a.status
        reviewStatus := a.reviewStatus
        contentHash := a.contentHash
        payload := storedPayload jsonb a
        schemaVersion := a.schemaVersion }, insertOptionalEvent s.events event⟩
  | none => none

end Postgres

/-! ## The in-memory store -/

/-- What the in-memory store holds of artifacts. -/
structure ArtifactMemory where
  artifacts : Table KnowledgeArtifact.artifactId := .empty
  index : Index ArtifactKey String := .empty
  events : List CaseEvent := []

/-- `record_knowledge_artifact` of the in-memory store, for a case that is there and atomic. -/
def recordInMemory (m : ArtifactMemory) (a : KnowledgeArtifact) (event : Option CaseEvent) :
    ArtifactMemory :=
  match m.index a.key with
  | some _ => m
  | none => ⟨m.artifacts.put a, m.index.set a.key a.artifactId, insertOptionalEvent m.events event⟩

/-- There, recording again changes nothing. -/
theorem recordInMemory_again (m : ArtifactMemory) (a b : KnowledgeArtifact)
    (first second : Option CaseEvent) (h : b.key = a.key) :
    recordInMemory (recordInMemory m a first) b second = recordInMemory m a first := by
  have hindex : ∃ id, (recordInMemory m a first).index b.key = some id := by
    rw [h]
    unfold recordInMemory
    split
    · next id hid => exact ⟨id, hid⟩
    · exact ⟨a.artifactId, Index.set_self _ _ _⟩
  obtain ⟨id, hid⟩ := hindex
  rw [recordInMemory, hid]

/-! ## Reviews -/

/-- What an operator decides. -/
structure ArtifactReview where
  artifactId : String
  reviewStatus : KnowledgeReviewStatus
  actorId : String
  comment : String := ""
  eventId : String
  occurredAt : String

/-- `review_status` as a `status`. -/
def KnowledgeReviewStatus.status? : KnowledgeReviewStatus → Option KnowledgeArtifactStatus
  | .pending => none
  | .approved => some .approved
  | .rejected => some .rejected
  | .superseded => some .superseded
  | .deprecated => some .deprecated
  | .published => some .published

section Reviews

variable (py : Python) (policyVersion : String)

/-- `KnowledgeArtifact.model_validate` of a dump: its validators run again; `none` is a
`ValidationError`. -/
def KnowledgeArtifact.modelValidate (a : KnowledgeArtifact) : Option KnowledgeArtifact := do
  let caseId ← requireLhpToken py a.caseId 180
  let artifactType ← requireLhpToken py a.artifactType 180
  pure { a with
    artifactId := sanitizeLhpToken py a.artifactId 180
    caseId := caseId
    handoffId := sanitizeLhpToken py a.handoffId 180
    artifactType := artifactType
    scope := sanitizeLhpText py (.str a.scope) 1200
    contentHash := sanitizeLhpToken py a.contentHash 180
    summary := sanitizeLhpText py (.str a.summary) 1200
    sourceRefs := (a.sourceRefs.take 50).map fun ref => sanitizeLhpText py (.str ref) 300
    payload := sanitizePayloadDict py a.payload }

/-- The artifact with the review. -/
def ArtifactReview.applied (review : ArtifactReview) (a : KnowledgeArtifact) :
    Option KnowledgeArtifact :=
  KnowledgeArtifact.modelValidate py { a with
    reviewStatus := review.reviewStatus
    status := (KnowledgeReviewStatus.status? review.reviewStatus).getD a.status
    payload := dictPut a.payload "review" (.dict (sanitizePayloadDict py
      [("actor_id", .str review.actorId), ("comment", .str review.comment),
        ("review_status", .str review.reviewStatus.text), ("policy_version", .str policyVersion),
        ("untrusted_operator_text", .bool true), ("model_consumption_allowed", .bool false)])) }

def ArtifactReview.event (review : ArtifactReview) (reviewed : KnowledgeArtifact) : CaseEvent where
  eventId := review.eventId
  caseId := some reviewed.caseId
  eventType := "lhp_knowledge_artifact_reviewed"
  actorType := .operator
  actorId := review.actorId
  source := "loop_console"
  occurredAt := review.occurredAt
  policyVersion := policyVersion
  payload := [("artifact_id", .str reviewed.artifactId),
    ("review_status", .str reviewed.reviewStatus.text), ("comment", .str review.comment),
    ("untrusted_operator_text", .bool true), ("model_consumption_allowed", .bool false)]

/-- `review_lhp_knowledge_artifact`, of the row that is found; `none` raises. -/
def reviewLhpKnowledgeArtifact (jsonb : JsonDict → JsonDict) (s : ArtifactStore) (row : ArtifactRow)
    (review : ArtifactReview) : Option ArtifactStore := do
  let artifact ← KnowledgeArtifact.modelValidate py row.payload
  if artifact.artifactId ≠ review.artifactId then none
  else
    let reviewed ← review.applied py policyVersion artifact
    updateKnowledgeArtifact jsonb s reviewed (some (review.event policyVersion reviewed))

end Reviews

/-! ## Calls in a row -/

inductive ArtifactLabel where
  /-- `commits`: the transaction is not rolled back for another reason -/
  | record (a : KnowledgeArtifact) (event : Option CaseEvent) (commits : Bool)
  | review (row : ArtifactRow) (review : ArtifactReview) (commits : Bool)

section Calls

variable (py : Python) (policyVersion : String) (jsonb : JsonDict → JsonDict)

def ArtifactStore.next (s : ArtifactStore) : ArtifactLabel → ArtifactStore
  | .record a event commits =>
    if commits then (recordKnowledgeArtifact jsonb s a event).getD s else s
  | .review row review commits =>
    if commits then (reviewLhpKnowledgeArtifact py policyVersion jsonb s row review).getD s else s

/-- The row that a review finds is there. -/
def ArtifactLabel.Found (s : ArtifactStore) : ArtifactLabel → Prop
  | .record _ _ _ => True
  | .review row _ _ => row ∈ s.artifacts.rows

def artifactStep (s : ArtifactStore) (l : ArtifactLabel) (t : ArtifactStore) : Prop :=
  l.Found s ∧ t = s.next py policyVersion jsonb l

end Calls

/-- Recording an artifact whose case, type and version are there changes nothing. -/
def Untouched (s : ArtifactStore) (l : ArtifactLabel) (t : ArtifactStore) : Prop :=
  match l with
  | .record a _ _ => (s.artifacts.get? a.key).isSome = true → t = s
  | .review _ _ _ => True

/-- An event that adds nothing. -/
def Known (events : List CaseEvent) (event : Option CaseEvent) : Prop :=
  ∀ e ∈ event, e.eventId ∈ events.map CaseEvent.eventId

/-- An artifact that is recorded again is the one that is stored, but for its id and its time, and
brings no new event. -/
def RecordsStored (jsonb : JsonDict → JsonDict) (s : ArtifactStore) : ArtifactLabel → Prop
  | .record a event commits => commits = true → ∀ row, s.artifacts.get? a.key = some row →
      { storedPayload jsonb a with artifactId := row.artifactId, createdAt := row.createdAt } =
        row.payload ∧ Known s.events event
  | .review _ _ _ => True

/-! ## Recording again -/

section Runs

variable {py : Python} {policyVersion : String} {jsonb : JsonDict → JsonDict}
variable {s t : ArtifactStore} {l : ArtifactLabel} {a : KnowledgeArtifact} {row : ArtifactRow}
variable {event : Option CaseEvent}

/-- The columns repeat what is in the dump. -/
structure ArtifactRow.Mirrors (row : ArtifactRow) : Prop where
  status : row.status = row.payload.status
  reviewStatus : row.reviewStatus = row.payload.reviewStatus
  contentHash : row.contentHash = row.payload.contentHash
  schemaVersion : row.schemaVersion = row.payload.schemaVersion

def Mirrored (s : ArtifactStore) : Prop := ∀ row ∈ s.artifacts.rows, row.Mirrors

/-- What a call that goes through writes. -/
inductive ArtifactWrite (s : ArtifactStore) : ArtifactStore → Prop where
  | unchanged : ArtifactWrite s s
  | put {row : ArtifactRow} (hmirrors : row.Mirrors) (events : List CaseEvent) :
      ArtifactWrite s ⟨s.artifacts.put row, events⟩

theorem recordKnowledgeArtifact_write :
    ArtifactWrite s ((recordKnowledgeArtifact jsonb s a event).getD s) := by
  unfold recordKnowledgeArtifact
  split
  · exact .put ⟨rfl, rfl, rfl, rfl⟩ _
  · split
    · exact .unchanged
    · exact .put ⟨rfl, rfl, rfl, rfl⟩ _

theorem updateKnowledgeArtifact_write :
    ArtifactWrite s ((updateKnowledgeArtifact jsonb s a event).getD s) := by
  unfold updateKnowledgeArtifact
  split
  · exact .put ⟨rfl, rfl, rfl, rfl⟩ _
  · exact .unchanged

theorem reviewLhpKnowledgeArtifact_write {review : ArtifactReview} : ArtifactWrite s
    ((reviewLhpKnowledgeArtifact py policyVersion jsonb s row review).getD s) := by
  unfold reviewLhpKnowledgeArtifact
  cases KnowledgeArtifact.modelValidate py row.payload with
  | none => exact .unchanged
  | some artifact =>
    rw [Option.bind_eq_bind, Option.bind_some]
    split
    · exact .unchanged
    · cases review.applied py policyVersion artifact with
      | none => exact .unchanged
      | some reviewed => exact updateKnowledgeArtifact_write

/-- **Every call keeps the columns true.** -/
theorem Mirrored.step (hs : Mirrored s) (h : artifactStep py policyVersion jsonb s l t) :
    Mirrored t := by
  have hwrite : ArtifactWrite s t := by
    obtain ⟨-, rfl⟩ := h
    cases l with
    | record a event commits =>
      cases commits with
      | true => exact recordKnowledgeArtifact_write
      | false => exact .unchanged
    | review row review commits =>
      cases commits with
      | true => exact reviewLhpKnowledgeArtifact_write
      | false => exact .unchanged
  cases hwrite with
  | unchanged => exact hs
  | put hmirrors =>
    intro other hother
    rcases Table.mem_put.1 hother with rfl | ⟨hold, -⟩
    · exact hmirrors
    · exact hs other hold

/-- A row that is overwritten stays as it is when the dump does. -/
theorem overwritten_eq_iff (hrow : row.Mirrors) : row.overwritten (.proposed jsonb a) = row ↔
    { storedPayload jsonb a with artifactId := row.artifactId, createdAt := row.createdAt } =
      row.payload := by
  constructor
  · intro h
    exact congrArg ArtifactRow.payload h
  · intro h
    have hstatus : a.status = row.status :=
      (congrArg KnowledgeArtifact.status h).trans hrow.status.symm
    have hreview : a.reviewStatus = row.reviewStatus :=
      (congrArg KnowledgeArtifact.reviewStatus h).trans hrow.reviewStatus.symm
    have hhash : a.contentHash = row.contentHash :=
      (congrArg KnowledgeArtifact.contentHash h).trans hrow.contentHash.symm
    have hschema : a.schemaVersion = row.schemaVersion :=
      (congrArg KnowledgeArtifact.schemaVersion h).trans hrow.schemaVersion.symm
    change { row with
      status := a.status
      reviewStatus := a.reviewStatus
      contentHash := a.contentHash
      payload := { storedPayload jsonb a with artifactId := row.artifactId, createdAt := row.createdAt }
      schemaVersion := a.schemaVersion } = row
    rw [h, hstatus, hreview, hhash, hschema]

theorem insertOptionalEvent_eq_iff (events : List CaseEvent) (event : Option CaseEvent) :
    insertOptionalEvent events event = events ↔ Known events event := by
  cases event with
  | none => exact iff_of_true rfl fun _ h => by cases h
  | some e =>
    have hknown : Known events (some e) ↔ e.eventId ∈ events.map CaseEvent.eventId :=
      ⟨fun h => h e rfl, fun h other hother => by cases hother; exact h⟩
    rw [hknown]
    change insertCaseEvent events e = events ↔ _
    unfold insertCaseEvent
    split
    · next h => exact iff_of_true rfl h
    · next h =>
      refine iff_of_false (fun heq => ?_) h
      exact absurd (List.append_right_eq_self.1 heq) (List.cons_ne_nil _ _)

/-- Recording again leaves the store alone exactly when it brings nothing new. -/
theorem record_again_iff (hs : Mirrored s) (hrow : s.artifacts.get? a.key = some row) :
    (recordKnowledgeArtifact jsonb s a event).getD s = s ↔
      { storedPayload jsonb a with artifactId := row.artifactId, createdAt := row.createdAt } =
        row.payload ∧ Known s.events event := by
  have hmem := Table.mem_of_get? hrow
  have hsame : row.overwritten (.proposed jsonb a) = row ↔ _ := overwritten_eq_iff (hs row hmem)
  rw [← hsame, ← insertOptionalEvent_eq_iff]
  unfold recordKnowledgeArtifact
  rw [hrow]
  change (⟨s.artifacts.put (row.overwritten (.proposed jsonb a)), insertOptionalEvent s.events event⟩ :
    ArtifactStore) = s ↔ _
  constructor
  · intro h
    refine ⟨?_, congrArg ArtifactStore.events h⟩
    have hkey : ArtifactRow.key (row.overwritten (.proposed jsonb a)) = row.key := rfl
    have htable : s.artifacts.put (row.overwritten (.proposed jsonb a)) = s.artifacts :=
      congrArg ArtifactStore.artifacts h
    have hput := Table.get?_put_self s.artifacts (row.overwritten (.proposed jsonb a))
    rw [hkey, htable, Table.get?_key hrow] at hput
    exact (Option.some.inj hput).symm
  · rintro ⟨hsame, hevents⟩
    rw [hsame, hevents, Table.put_self hmem]

/-- **A call leaves what is stored alone exactly if it records what is stored.** -/
theorem untouched_iff (hs : Mirrored s) (h : artifactStep py policyVersion jsonb s l t) :
    Untouched s l t ↔ RecordsStored jsonb s l := by
  obtain ⟨-, rfl⟩ := h
  cases l with
  | review => exact Iff.rfl
  | record a event commits =>
    cases commits with
    | false => exact iff_of_true (fun _ => rfl) fun h => by cases h
    | true =>
      change ((s.artifacts.get? a.key).isSome = true →
        (recordKnowledgeArtifact jsonb s a event).getD s = s) ↔ (true = true → _)
      cases hrow : s.artifacts.get? a.key with
      | none => exact iff_of_true (fun h => by cases h) fun _ _ h => by cases h
      | some row =>
        rw [record_again_iff hs hrow]
        exact ⟨fun h _ other hother => Option.some.inj hother ▸ h rfl, fun h _ => h rfl row rfl⟩

end Runs

/-- **The runs in which recording again changes nothing are those in which only what is stored is
recorded again.** -/
theorem artifacts_run_iff (py : Python) (policyVersion : String) (jsonb : JsonDict → JsonDict)
    (s : ArtifactStore) (ls : List ArtifactLabel) :
    Run (Guarded (artifactStep py policyVersion jsonb) (RecordsStored jsonb)) {} ls s ↔
      Run (Doing (artifactStep py policyVersion jsonb) Untouched) {} ls s :=
  Run.guarded_iff_doing_under (J := Mirrored) (Q := Untouched)
    (fun _ _ _ hs h => hs.step h) (fun _ _ _ hs h => untouched_iff hs h)
    fun _ h => absurd h List.not_mem_nil

/-- A lesson, as the Knowledge loop records it. -/
def lesson : KnowledgeArtifact where
  artifactId := "ka_1"
  caseId := "case_1"
  artifactType := "lesson"
  version_pos := Nat.one_pos
  contentHash := "h1"
  summary := "renew early"
  createdAt := "2026-01-01"

/-- The event of a recording, with an id of its own. -/
def recordedEvent (eventId : String) : CaseEvent where
  eventId := eventId
  caseId := some "case_1"
  eventType := "lhp_knowledge_artifact_recorded"
  occurredAt := "2026-01-01"

def approval : ArtifactReview where
  artifactId := "ka_1"
  reviewStatus := .approved
  actorId := "alice"
  eventId := "ev_review"
  occurredAt := "2026-01-02"

/-- The lesson is recorded and approved. -/
def approvedStore : ArtifactStore :=
  ({} : ArtifactStore).next asciiPython "v1" id (.record lesson (some (recordedEvent "ev_1")) true)
    |>.next asciiPython "v1" id (.review (.proposed id lesson) approval true)

/-- **A repeated recording takes the approval back.** -/
theorem approval_reverted : Run (artifactStep asciiPython "v1" id) {}
      [.record lesson (some (recordedEvent "ev_1")) true,
        .review (.proposed id lesson) approval true] approvedStore ∧
    ((approvedStore.artifacts.get? lesson.key).map fun row => row.payload.reviewStatus) =
      some .approved ∧
    let again := approvedStore.next asciiPython "v1" id
      (.record lesson (some (recordedEvent "ev_2")) true)
    ((again.artifacts.get? lesson.key).map fun row => row.payload.reviewStatus) = some .pending ∧
      again.events.length = approvedStore.events.length + 1 := by
  refine ⟨Run.cons ⟨trivial, rfl⟩ (Run.single ⟨List.mem_singleton_self _, rfl⟩), ?_, ?_, ?_⟩
  · decide
  · decide
  · decide

end NocAgent.Cases
