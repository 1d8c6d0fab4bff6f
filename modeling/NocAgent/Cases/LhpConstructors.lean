import NocAgent.Cases.LhpModels
import NocAgent.Lib.Fields

/-!
# The constructors of the LHP records

* `FieldKind` — what the validators of a field and its type do with a value.
* `caseHandoffFields` and its siblings — the fields of each record, in the order of its class.
* `LhpRecord.construct` — the constructor, and `LhpRecord.read` — `model_validate` of the JSON of a
  dump, as the reads of the Postgres store do it.

A record is kept as the mapping that `model_dump(mode="json")` gives.
-/

set_option autoImplicit false

namespace NocAgent

mutual

/-- Every number is finite. -/
def Json.finite : Json → Bool
  | .float (.fin _) => true
  | .float _ => false
  | .list xs => Json.finiteItems xs
  | .dict kvs => Json.finiteFields kvs
  | _ => true

def Json.finiteItems : List Json → Bool
  | [] => true
  | x :: xs => Json.finite x && Json.finiteItems xs

def Json.finiteFields : List (String × Json) → Bool
  | [] => true
  | (_, x) :: kvs => Json.finite x && Json.finiteFields kvs

end

end NocAgent

namespace NocAgent.Cases

open Fields

/-! ## Validators -/

def MAX_COLLECTION_ITEMS : Nat := 50

/-- The conversions of the validation library that the fields rely on; `none` is an error. -/
structure Pydantic where
  bool : Json → Option Bool
  int : Json → Option Int

inductive FieldKind where
  /-- `sanitize_lhp_token`, or `require_lhp_token`. -/
  | token (required : Bool) (limit : Nat)
  /-- `sanitize_lhp_text`, or `require_lhp_text`. -/
  | text (required : Bool) (limit : Nat)
  /-- A list, each item through `sanitize_lhp_text`. -/
  | texts (limit : Nat)
  /-- `sanitize_lhp_payload`, as a mapping. -/
  | payload
  /-- A string without a validator of its own. -/
  | plain
  | choice (options : List String)
  | bool
  | int (least : Int) (most : Option Int)
  /-- A list of `EvidenceRef`. -/
  | evidence

/-- `value if isinstance(value, list | tuple | set) else [value] if value else []`. -/
def listItems : Json → List Json
  | .list xs => xs
  | value => if value.truthy then [value] else []

/-- `_safe_dict`. -/
def safeDict (py : Python) (value : Json) : Json :=
  match sanitizeLhpPayload py 2000 6 (value.or (.dict [])) with
  | .dict sanitized => .dict sanitized
  | sanitized => .dict [("value", sanitized)]

section Validators

variable (py : Python) (pydantic : Pydantic)

/-- The validators of a field and the check of its type; `none` is a `ValidationError`. -/
def FieldKind.validate (evidence : Json → Option Json) : FieldKind → Json → Option Json
  | .token required limit, value =>
    if required then (requireLhpToken py (textOf py value) limit).map .str
    else some (.str (sanitizeLhpToken py (textOf py value) limit))
  | .text required limit, value =>
    if required ∧ strip (textOf py value) = "" then none
    else some (.str (sanitizeLhpText py value limit))
  | .texts limit, value =>
    some (.list (((listItems value).take MAX_COLLECTION_ITEMS).map fun item =>
      .str (sanitizeLhpText py item limit)))
  | .payload, value => some (safeDict py value)
  | .plain, value =>
    match value with
    | .str s => some (.str s)
    | _ => none
  | .choice options, value =>
    match value with
    | .str s => if s ∈ options then some (.str s) else none
    | _ => none
  | .bool, value => (pydantic.bool value).map .bool
  | .int least most, value =>
    match pydantic.int value with
    | some n => if least ≤ n ∧ (∀ bound ∈ most, n ≤ bound) then some (.int n) else none
    | none => none
  | .evidence, value => evidence value

abbrev LhpField := Field FieldKind Json

def evidenceRefFields : List LhpField :=
  [⟨"type", none, .token false 160⟩, ⟨"ref", none, .token false 160⟩,
    ⟨"summary", some (.str ""), .text false 700⟩, ⟨"payload", some (.dict []), .payload⟩]

/-- One item of `evidence`. -/
def evidenceRef : Json → Option Json
  | .dict args =>
    (Fields.construct (FieldKind.validate py pydantic fun _ => none) evidenceRefFields args).map .dict
  | _ => none

def evidenceRefs : Json → Option Json
  | .list xs => (xs.mapM (evidenceRef py pydantic)).map .list
  | _ => none

end Validators

/-! ## Fields -/

/-- What `uuid4().hex[:12]` and `utc_now()` give for the omitted fields. -/
structure Factories where
  hex : String → String
  now : String → String

def Factories.id (factories : Factories) (start name : String) : Option Json :=
  some (.str (start ++ factories.hex name))

def Factories.stamp (factories : Factories) (name : String) : Option Json :=
  some (.str (factories.now name))

def loopNames : List String := [LoopName.noc, .engineering, .knowledge, .soc].map LoopName.text

def handoffStatuses : List String :=
  [HandoffStatus.requested, .accepted, .inProgress, .changePlanned, .implemented, .blocked, .failed,
    .needsHuman, .verified, .resolved, .cancelled, .expired].map HandoffStatus.text

def handoffUpdateTypes : List String :=
  [HandoffUpdateType.accepted, .investigating, .blocked, .changePlanned, .changeApplied, .implemented,
    .failed, .needsHuman, .cancelled].map HandoffUpdateType.text

def verificationStatuses : List String :=
  [VerificationStatus.pending, .pass, .fail, .unknown, .skipped].map VerificationStatus.text

def knowledgeArtifactStatuses : List String :=
  [KnowledgeArtifactStatus.proposed, .approved, .rejected, .superseded, .deprecated,
    .published].map KnowledgeArtifactStatus.text

def knowledgeReviewStatuses : List String :=
  [KnowledgeReviewStatus.pending, .approved, .rejected, .superseded, .deprecated,
    .published].map KnowledgeReviewStatus.text

section Tables

variable (factories : Factories)

def caseHandoffFields : List LhpField :=
  [⟨"handoff_id", factories.id "handoff_" "handoff_id", .token false 180⟩,
    ⟨"case_id", none, .token true 180⟩,
    ⟨"source_loop", some (.str "noc"), .choice loopNames⟩,
    ⟨"target_loop", none, .choice loopNames⟩,
    ⟨"objective", none, .text true 500⟩,
    ⟨"objective_key", none, .token true 180⟩,
    ⟨"knowledge_scope", some (.str ""), .text false 500⟩,
    ⟨"status", some (.str "requested"), .choice handoffStatuses⟩,
    ⟨"owner", some (.str ""), .text false 500⟩,
    ⟨"verifier", some (.str "noc"), .choice loopNames⟩,
    ⟨"idempotency_key", none, .token true 180⟩,
    ⟨"fingerprint", some (.str ""), .token false 180⟩,
    ⟨"resource", some (.dict []), .payload⟩,
    ⟨"case_type", some (.str ""), .token false 180⟩,
    ⟨"constraints", some (.list []), .texts 500⟩,
    ⟨"acceptance_criteria", some (.list []), .texts 500⟩,
    ⟨"knowledge_context_refs", some (.list []), .texts 500⟩,
    ⟨"payload", some (.dict []), .payload⟩,
    ⟨"correlation_id", factories.id "corr_" "correlation_id", .token false 180⟩,
    ⟨"trace_id", some (.str ""), .token false 180⟩,
    ⟨"created_by", some (.str "noc_agent_loop"), .text false 500⟩,
    ⟨"created_at", factories.stamp "created_at", .plain⟩,
    ⟨"updated_at", factories.stamp "updated_at", .plain⟩,
    ⟨"expires_at", some (.str ""), .plain⟩,
    ⟨"schema_version", some (.str LHP_SCHEMA_VERSION), .plain⟩]

def handoffUpdateFields : List LhpField :=
  [⟨"update_id", factories.id "hu_" "update_id", .token false 180⟩,
    ⟨"handoff_id", none, .token true 180⟩,
    ⟨"case_id", none, .token true 180⟩,
    ⟨"source_loop", none, .choice loopNames⟩,
    ⟨"update_type", none, .choice handoffUpdateTypes⟩,
    ⟨"status", none, .choice handoffStatuses⟩,
    ⟨"summary", some (.str ""), .text false 1200⟩,
    ⟨"evidence", some (.list []), .evidence⟩,
    ⟨"confidence", some (.str "unknown"), .choice ["low", "medium", "high", "unknown"]⟩,
    ⟨"external_event_id", none, .token true 180⟩,
    ⟨"correlation_id", none, .token true 180⟩,
    ⟨"trace_id", some (.str ""), .token false 180⟩,
    ⟨"payload_hash", some (.str ""), .plain⟩,
    ⟨"payload", some (.dict []), .payload⟩,
    ⟨"created_at", factories.stamp "created_at", .plain⟩,
    ⟨"schema_version", some (.str LHP_SCHEMA_VERSION), .plain⟩]

def verificationObjectiveFields : List LhpField :=
  [⟨"objective_id", factories.id "vo_" "objective_id", .token false 180⟩,
    ⟨"case_id", none, .token true 180⟩,
    ⟨"handoff_id", some (.str ""), .token false 180⟩,
    ⟨"objective_key", none, .token true 180⟩,
    ⟨"objective_type", none, .token true 180⟩,
    ⟨"name", none, .text true 800⟩,
    ⟨"description", some (.str ""), .text false 800⟩,
    ⟨"required_status", some (.str "pass"), .choice verificationStatuses⟩,
    ⟨"status", some (.str "pending"), .choice verificationStatuses⟩,
    ⟨"required", some (.bool true), .bool⟩,
    ⟨"required_consecutive_passes", some (.int 3), .int 1 none⟩,
    ⟨"consecutive_pass_count", some (.int 0), .int 0 none⟩,
    ⟨"last_checked_at", some (.str ""), .plain⟩,
    ⟨"next_check_at", some (.str ""), .plain⟩,
    ⟨"evidence_ref", some (.str ""), .token false 180⟩,
    ⟨"failure_reason", some (.str ""), .text false 800⟩,
    ⟨"payload", some (.dict []), .payload⟩,
    ⟨"result_payload", some (.dict []), .payload⟩,
    ⟨"created_at", factories.stamp "created_at", .plain⟩,
    ⟨"updated_at", factories.stamp "updated_at", .plain⟩,
    ⟨"schema_version", some (.str LHP_SCHEMA_VERSION), .plain⟩]

def knowledgeArtifactFields : List LhpField :=
  [⟨"artifact_id", factories.id "ka_" "artifact_id", .token false 180⟩,
    ⟨"case_id", none, .token true 180⟩,
    ⟨"handoff_id", some (.str ""), .token false 180⟩,
    ⟨"artifact_type", none, .token true 180⟩,
    ⟨"scope", some (.str ""), .text false 1200⟩,
    ⟨"status", some (.str "proposed"), .choice knowledgeArtifactStatuses⟩,
    ⟨"review_status", some (.str "pending"), .choice knowledgeReviewStatuses⟩,
    ⟨"version", some (.int 1), .int 1 none⟩,
    ⟨"content_hash", some (.str ""), .token false 180⟩,
    ⟨"summary", some (.str ""), .text false 1200⟩,
    ⟨"source_refs", some (.list []), .texts 300⟩,
    ⟨"payload", some (.dict []), .payload⟩,
    ⟨"created_by", some (.str "knowledge"), .choice loopNames⟩,
    ⟨"created_at", factories.stamp "created_at", .plain⟩,
    ⟨"schema_version", some (.str LHP_SCHEMA_VERSION), .plain⟩]

def handoffTransportDeliveryFields : List LhpField :=
  [⟨"delivery_id", factories.id "deliv_" "delivery_id", .token false 180⟩,
    ⟨"handoff_id", none, .token true 180⟩,
    ⟨"case_id", none, .token true 180⟩,
    ⟨"transport", some (.str "github_issue"), .choice ["github_issue", "http", "queue"]⟩,
    ⟨"status", some (.str "pending"),
      .choice ["pending", "in_progress", "succeeded", "failed", "abandoned"]⟩,
    ⟨"idempotency_key", none, .token true 180⟩,
    ⟨"external_id", some (.str ""), .token false 180⟩,
    ⟨"external_url", some (.str ""), .text false 800⟩,
    ⟨"attempts", some (.int 0), .int 0 none⟩,
    ⟨"max_attempts", some (.int 10), .int 1 (some 100)⟩,
    ⟨"next_attempt_at", factories.stamp "next_attempt_at", .plain⟩,
    ⟨"last_error", some (.str ""), .text false 800⟩,
    ⟨"payload_hash", some (.str ""), .token false 180⟩,
    ⟨"payload", some (.dict []), .payload⟩,
    ⟨"created_at", factories.stamp "created_at", .plain⟩,
    ⟨"updated_at", factories.stamp "updated_at", .plain⟩,
    ⟨"schema_version", some (.str LHP_SCHEMA_VERSION), .plain⟩]

end Tables

/-! ## Records -/

/-- The records of the protocol that the store keeps. -/
inductive LhpRecord where
  | caseHandoff
  | handoffUpdate
  | verificationObjective
  | knowledgeArtifact
  | handoffTransportDelivery

def LhpRecord.fields (factories : Factories) : LhpRecord → List LhpField
  | .caseHandoff => caseHandoffFields factories
  | .handoffUpdate => handoffUpdateFields factories
  | .verificationObjective => verificationObjectiveFields factories
  | .knowledgeArtifact => knowledgeArtifactFields factories
  | .handoffTransportDelivery => handoffTransportDeliveryFields factories

/-- A missing digest is computed. -/
def fillDigest (name : String) (digest : JsonDict → String) (r : JsonDict) : JsonDict :=
  if (r.get name).truthy then r else dictPut r name (.str (digest r))

section Records

variable (py : Python) (pydantic : Pydantic)

def updateDigest (r : JsonDict) : String :=
  lhpPayloadHash py (.dict (["case_id", "handoff_id", "source_loop", "update_type", "status",
    "summary", "evidence", "payload"].map fun key => (key, r.get key)))

def artifactDigest (r : JsonDict) : String :=
  lhpPayloadHash py (.dict (["summary", "payload", "source_refs"].map fun key => (key, r.get key)))

/-- A loop other than the NOC claims a status of the verifier. -/
def claimsVerified (r : JsonDict) : Bool :=
  !(r.get "source_loop").isStr "noc" &&
    VERIFIER_ONLY_HANDOFF_STATUSES.any fun status => (r.get "status").isStr status.text

/-- The `model_validator(mode="after")` of the class. -/
def LhpRecord.after : LhpRecord → JsonDict → Option JsonDict
  | .handoffUpdate, r =>
    if claimsVerified r then none else some (fillDigest "payload_hash" (updateDigest py) r)
  | .knowledgeArtifact, r => some (fillDigest "content_hash" (artifactDigest py) r)
  | .handoffTransportDelivery, r =>
    some (fillDigest "payload_hash" (fun r => lhpPayloadHash py (r.get "payload")) r)
  | _, r => some r

def lhpValidate : FieldKind → Json → Option Json :=
  FieldKind.validate py pydantic (evidenceRefs py pydantic)

/-- The constructor, and `model_validate` of a mapping. -/
def LhpRecord.construct (factories : Factories) (record : LhpRecord) (args : JsonDict) :
    Option JsonDict :=
  (Fields.construct (lhpValidate py pydantic) (record.fields factories) args).bind (record.after py)

/-- The digest is the one of the update that is stored. -/
theorem updateDigest_modelDump (u : HandoffUpdate) :
    updateDigest py u.modelDump = u.defaultPayloadHash py := rfl

end Records

/-! ## Reads -/

/-- `json.loads(json.dumps(d))` through a `jsonb` column, which has no NaN and no infinity. -/
def throughJson (d : JsonDict) : Option JsonDict := if Json.finiteFields d then some d else none

/-- What a read of the stored record gives. -/
def LhpRecord.read (py : Python) (pydantic : Pydantic) (factories : Factories) (record : LhpRecord)
    (r : JsonDict) : Option JsonDict :=
  (throughJson r).bind (record.construct py pydantic factories)

end NocAgent.Cases
