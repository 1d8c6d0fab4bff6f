import NocAgent.Cases.Models
import NocAgent.Python.JsonText

/-!
# Loop Handoff Protocol v1

* Handoffs, updates, verification objectives, knowledge artifacts, deliveries and outcomes.
* `sanitizeLhpToken`, `requireLhpToken` — the identifiers the records are built from.
* `sanitizeLhpText`, `sanitizeLhpPayload` — evidence.
* `lhpPayloadHash` — the digest of the canonical JSON.
* `allowedHandoffTransition` — the handoff state machine.
-/

set_option autoImplicit false

namespace NocAgent.Cases

def LHP_SCHEMA_VERSION : String := "lhp.v1"

def MAX_VERIFICATION_OBJECTIVES_PER_HANDOFF : Nat := 20

inductive LoopName where
  | noc
  | engineering
  | knowledge
  | soc
  deriving DecidableEq, Repr

def LoopName.text : LoopName → String
  | .noc => "noc"
  | .engineering => "engineering"
  | .knowledge => "knowledge"
  | .soc => "soc"

inductive HandoffStatus where
  | requested
  | accepted
  | inProgress
  | changePlanned
  | implemented
  | blocked
  | failed
  | needsHuman
  | verified
  | resolved
  | cancelled
  | expired
  deriving DecidableEq, Repr

def HandoffStatus.text : HandoffStatus → String
  | .requested => "requested"
  | .accepted => "accepted"
  | .inProgress => "in_progress"
  | .changePlanned => "change_planned"
  | .implemented => "implemented"
  | .blocked => "blocked"
  | .failed => "failed"
  | .needsHuman => "needs_human"
  | .verified => "verified"
  | .resolved => "resolved"
  | .cancelled => "cancelled"
  | .expired => "expired"

inductive HandoffUpdateType where
  | accepted
  | investigating
  | blocked
  | changePlanned
  | changeApplied
  | implemented
  | failed
  | needsHuman
  | cancelled
  deriving DecidableEq, Repr

def HandoffUpdateType.text : HandoffUpdateType → String
  | .accepted => "accepted"
  | .investigating => "investigating"
  | .blocked => "blocked"
  | .changePlanned => "change_planned"
  | .changeApplied => "change_applied"
  | .implemented => "implemented"
  | .failed => "failed"
  | .needsHuman => "needs_human"
  | .cancelled => "cancelled"

inductive UpdateConfidence where
  | low
  | medium
  | high
  | unknown
  deriving DecidableEq, Repr

def UpdateConfidence.text : UpdateConfidence → String
  | .low => "low"
  | .medium => "medium"
  | .high => "high"
  | .unknown => "unknown"

inductive VerificationStatus where
  | pending
  | pass
  | fail
  | unknown
  | skipped
  deriving DecidableEq, Repr

def VerificationStatus.text : VerificationStatus → String
  | .pending => "pending"
  | .pass => "pass"
  | .fail => "fail"
  | .unknown => "unknown"
  | .skipped => "skipped"

inductive KnowledgeArtifactStatus where
  | proposed
  | approved
  | rejected
  | superseded
  | deprecated
  | published
  deriving DecidableEq, Repr

def KnowledgeArtifactStatus.text : KnowledgeArtifactStatus → String
  | .proposed => "proposed"
  | .approved => "approved"
  | .rejected => "rejected"
  | .superseded => "superseded"
  | .deprecated => "deprecated"
  | .published => "published"

inductive KnowledgeReviewStatus where
  | pending
  | approved
  | rejected
  | superseded
  | deprecated
  | published
  deriving DecidableEq, Repr

def KnowledgeReviewStatus.text : KnowledgeReviewStatus → String
  | .pending => "pending"
  | .approved => "approved"
  | .rejected => "rejected"
  | .superseded => "superseded"
  | .deprecated => "deprecated"
  | .published => "published"

inductive HandoffTransport where
  | githubIssue
  | http
  | queue
  deriving DecidableEq, Repr

def HandoffTransport.text : HandoffTransport → String
  | .githubIssue => "github_issue"
  | .http => "http"
  | .queue => "queue"

inductive DeliveryStatus where
  | pending
  | inProgress
  | succeeded
  | failed
  | abandoned
  deriving DecidableEq, Repr

def DeliveryStatus.text : DeliveryStatus → String
  | .pending => "pending"
  | .inProgress => "in_progress"
  | .succeeded => "succeeded"
  | .failed => "failed"
  | .abandoned => "abandoned"

def TERMINAL_HANDOFF_STATUSES : List HandoffStatus := [.resolved, .cancelled, .expired]

def VERIFIER_ONLY_HANDOFF_STATUSES : List HandoffStatus := [.verified, .resolved]

def _ALLOWED_HANDOFF_TRANSITIONS : HandoffStatus → List HandoffStatus
  | .requested => [.accepted, .blocked, .failed, .needsHuman, .cancelled, .expired]
  | .accepted => [.inProgress, .blocked, .failed, .needsHuman, .cancelled, .expired]
  | .inProgress => [.blocked, .failed, .needsHuman, .changePlanned, .implemented, .cancelled, .expired]
  | .changePlanned => [.blocked, .failed, .needsHuman, .implemented, .cancelled, .expired]
  | .implemented => [.failed, .needsHuman, .verified, .cancelled, .expired]
  | .verified => [.resolved, .failed, .needsHuman]
  | .blocked => [.accepted, .needsHuman, .failed, .cancelled, .expired]
  | .failed => [.accepted, .needsHuman, .cancelled, .expired]
  | .needsHuman => [.accepted, .inProgress, .cancelled, .expired]
  | .resolved => []
  | .cancelled => []
  | .expired => []

/-! ## Identifiers -/

/-- `ch.isalnum() or ch in _TOKEN_ALLOWED`. -/
def tokenChar (py : Python) (c : Char) : Bool :=
  py.isAlnum c || c == '_' || c == '-' || c == ':' || c == '.' || c == '/'

def sanitizeLhpToken (py : Python) (text : String) (limit : Nat) : String :=
  let kept := String.ofList (text.toList.filter (tokenChar py))
  takeChars (max 1 limit) (if kept = "" then "unknown" else kept)

/-- `none` is `ValueError`. -/
def requireLhpToken (py : Python) (value : String) (limit : Nat) : Option String :=
  if strip value = "" then none else some (sanitizeLhpToken py value limit)

/-! ## Evidence text -/

def _SECRET_TEXT_PATTERNS : List String :=
  ["-----BEGIN [A-Z0-9 ]*PRIVATE KEY-----",
    "\\bBearer\\s+[A-Za-z0-9._~+/=-]+",
    "\\bAuthorization\\s*:\\s*[^\\s]+(?:\\s+[^\\s]+)?",
    "\\b(password|passwd|secret|token|credential)\\s*[:=]\\s*[^\\s,;]+"]

def _FORBIDDEN_TEXT_MARKERS : List String :=
  ["raw_log", "packet_capture", "transcript", "authorization", "credential", "secret"]

def _BLOCKED_TEXT_CHARS : List Char := ['\x60', '<', '>', '[', ']', '\x7b', '\x7d']

def sanitizeLhpText (py : Python) (value : Json) (limit : Nat) : String :=
  let text := _SECRET_TEXT_PATTERNS.foldl (fun text pattern => py.redact pattern text)
    (textOf py value)
  let cleaned := text.toList.map fun c =>
    if c ∈ _BLOCKED_TEXT_CHARS ∨ c.toNat < 32 then ' ' else c
  let rendered := collapseSpace (String.ofList cleaned)
  takeChars (max 1 limit) (if rendered = "" then "—" else rendered)

/-- The key a sanitized mapping stores a value under. -/
def safeKey (py : Python) (key : String) : String :=
  let safe := sanitizeLhpToken py key 80
  if _FORBIDDEN_TEXT_MARKERS.any fun marker => hasText marker (py.lower safe) then "redacted_key"
  else safe

def sanitizeLhpPayload (py : Python) (stringLimit : Nat) : Nat → Json → Json
  | 0, value => .str (sanitizeLhpText py value stringLimit)
  | depth + 1, value =>
    match value with
    | .str s => .str (sanitizeLhpText py (.str s) stringLimit)
    | .list xs => .list ((xs.take 50).map (sanitizeLhpPayload py stringLimit depth))
    | .dict kvs => .dict ((kvs.take 100).foldl (fun rendered kv =>
        dictPut rendered (safeKey py kv.1) (sanitizeLhpPayload py stringLimit depth kv.2)) [])
    | value => value

/-- `sanitize_lhp_payload(value)` of a mapping: it is a mapping again. -/
def sanitizePayloadDict (py : Python) (payload : JsonDict) : JsonDict :=
  ((sanitizeLhpPayload py 2000 6 (.dict payload)).dict?).getD []

/-! ## Canonical JSON -/

/-- Stable JSON for hashing and signing bounded LHP payloads. -/
def canonicalLhpJson (py : Python) (value : Json) : String :=
  String.ofList (jsonText py (sortKeys value))

def lhpPayloadHash (py : Python) (value : Json) : String := py.sha256 (canonicalLhpJson py value)

/-! ## Records -/

/-- A bounded reference to evidence stored elsewhere or summarized safely. -/
structure EvidenceRef where
  type : String
  ref : String
  summary : String := ""
  payload : JsonDict := []

/-- Current-state record for one structured cross-loop handoff. -/
structure CaseHandoff where
  handoffId : String
  caseId : String
  sourceLoop : LoopName := .noc
  targetLoop : LoopName
  objective : String
  objectiveKey : String
  knowledgeScope : String := ""
  status : HandoffStatus := .requested
  owner : String := ""
  verifier : LoopName := .noc
  idempotencyKey : String
  fingerprint : String := ""
  resource : JsonDict := []
  caseType : String := ""
  constraints : List String := []
  acceptanceCriteria : List String := []
  knowledgeContextRefs : List String := []
  payload : JsonDict := []
  correlationId : String
  traceId : String := ""
  createdBy : String := "noc_agent_loop"
  createdAt : String
  updatedAt : String
  expiresAt : String := ""
  schemaVersion : String := LHP_SCHEMA_VERSION

/-- Structured progress update from a target loop. -/
structure HandoffUpdate where
  updateId : String
  handoffId : String
  caseId : String
  sourceLoop : LoopName
  updateType : HandoffUpdateType
  status : HandoffStatus
  summary : String := ""
  evidence : List EvidenceRef := []
  confidence : UpdateConfidence := .unknown
  externalEventId : String
  correlationId : String
  traceId : String := ""
  payloadHash : String := ""
  payload : JsonDict := []
  createdAt : String
  schemaVersion : String := LHP_SCHEMA_VERSION

def EvidenceRef.modelDump (ref : EvidenceRef) : JsonDict :=
  [("type", .str ref.type), ("ref", .str ref.ref), ("summary", .str ref.summary),
    ("payload", .dict ref.payload)]

/-- The digest of `_fill_hash_and_validate_status`. -/
def HandoffUpdate.defaultPayloadHash (py : Python) (update : HandoffUpdate) : String :=
  lhpPayloadHash py (.dict [("case_id", .str update.caseId), ("handoff_id", .str update.handoffId),
    ("source_loop", .str update.sourceLoop.text), ("update_type", .str update.updateType.text),
    ("status", .str update.status.text), ("summary", .str update.summary),
    ("evidence", .list (update.evidence.map fun ref => .dict ref.modelDump)),
    ("payload", .dict update.payload)])

/-- A missing digest is computed. -/
def HandoffUpdate.fillPayloadHash (py : Python) (update : HandoffUpdate) : HandoffUpdate :=
  { update with
    payloadHash := if update.payloadHash = "" then update.defaultPayloadHash py
      else update.payloadHash }

/-- The default number of passes passes its own check. -/
theorem three_passes_pos : 1 ≤ 3 := by decide

/-- Machine-checkable or operator-reviewable condition for case resolution. -/
structure VerificationObjective where
  objectiveId : String
  caseId : String
  handoffId : String := ""
  objectiveKey : String
  objectiveType : String
  name : String
  description : String := ""
  requiredStatus : VerificationStatus := .pass
  status : VerificationStatus := .pending
  required : Bool := true
  requiredConsecutivePasses : Nat := 3
  requiredConsecutivePasses_pos : 1 ≤ requiredConsecutivePasses := by
    first | exact three_passes_pos | exact Nat.le_of_ble_eq_true rfl
  consecutivePassCount : Nat := 0
  lastCheckedAt : String := ""
  nextCheckAt : String := ""
  evidenceRef : String := ""
  failureReason : String := ""
  payload : JsonDict := []
  resultPayload : JsonDict := []
  createdAt : String
  updatedAt : String
  schemaVersion : String := LHP_SCHEMA_VERSION

/-- Review-gated, versioned Knowledge Loop output attached to a case. -/
structure KnowledgeArtifact where
  artifactId : String
  caseId : String
  handoffId : String := ""
  artifactType : String
  scope : String := ""
  status : KnowledgeArtifactStatus := .proposed
  reviewStatus : KnowledgeReviewStatus := .pending
  version : Nat := 1
  version_pos : 1 ≤ version := by exact Nat.le_refl 1
  contentHash : String := ""
  summary : String := ""
  sourceRefs : List String := []
  payload : JsonDict := []
  createdBy : LoopName := .knowledge
  createdAt : String
  schemaVersion : String := LHP_SCHEMA_VERSION

/-- Transport-specific delivery state for a `CaseHandoff`. -/
structure HandoffTransportDelivery where
  deliveryId : String
  handoffId : String
  caseId : String
  transport : HandoffTransport := .githubIssue
  status : DeliveryStatus := .pending
  idempotencyKey : String
  externalId : String := ""
  externalUrl : String := ""
  attempts : Nat := 0
  maxAttempts : Nat := 10
  maxAttempts_range : 1 ≤ maxAttempts ∧ maxAttempts ≤ 100 := by decide
  nextAttemptAt : String
  lastError : String := ""
  payloadHash : String := ""
  payload : JsonDict := []
  createdAt : String
  updatedAt : String
  schemaVersion : String := LHP_SCHEMA_VERSION

/-- Final cross-loop outcome; its work item is a case. -/
structure OutcomeRecord where
  outcomeId : String
  workItemId : String
  caseType : String := ""
  fingerprint : String := ""
  agentRoles : List LoopName := []
  proposedAction : String := ""
  actionTaken : String := ""
  humanReview : JsonDict := []
  validation : JsonDict := []
  safety : JsonDict := []
  evidenceQuality : JsonDict := []
  learning : JsonDict := []
  finalScore : List (String × PyFloat) := []
  evidenceRefs : List String := []
  payload : JsonDict := []
  createdAt : String
  schemaVersion : String := LHP_SCHEMA_VERSION

/-! ## The handoff state machine -/

def allowedHandoffTransition (current target : HandoffStatus) (actorLoop : LoopName) : Bool :=
  if target ∈ VERIFIER_ONLY_HANDOFF_STATUSES ∧ actorLoop ≠ .noc then false
  else if current = target then true
  else target ∈ _ALLOWED_HANDOFF_TRANSITIONS current

/-- Only an implemented or a verified handoff can be marked verified. -/
theorem allowed_verified (current : HandoffStatus) :
    allowedHandoffTransition current .verified .noc = true ↔
      current = .implemented ∨ current = .verified := by
  cases current <;> decide

/-- Only a verified or a resolved handoff can be resolved. -/
theorem allowed_resolved (current : HandoffStatus) :
    allowedHandoffTransition current .resolved .noc = true ↔
      current = .verified ∨ current = .resolved := by
  cases current <;> decide

/-- **A finished handoff never changes status.** -/
theorem allowed_of_terminal {current target : HandoffStatus} {actorLoop : LoopName}
    (h : current ∈ TERMINAL_HANDOFF_STATUSES)
    (ht : allowedHandoffTransition current target actorLoop = true) : target = current := by
  unfold allowedHandoffTransition at ht
  split at ht
  · cases ht
  · split at ht
    · rename_i heq
      exact heq.symm
    · have hnone : _ALLOWED_HANDOFF_TRANSITIONS current = [] := by
        simp only [TERMINAL_HANDOFF_STATUSES, List.mem_cons, List.not_mem_nil, or_false] at h
        rcases h with rfl | rfl | rfl <;> rfl
      rw [hnone] at ht
      simp at ht

end NocAgent.Cases
