import NocAgent.Cases.LhpConstructors
import NocAgent.Cases.Sanitizers

/-!
# Constructing an LHP record once more

A second construction runs every validator on what it returned, and on defaults that it never saw.

* `FieldKind.Settled` — a value that the validators of a field leave alone when they run again.
* `LhpRecord.blankDefaults` — the fields whose default is text that their validator replaces.
* `ArgsSettled` — every such field is given, and every given value is settled.

Principal result: `construct_settled_iff`.
-/

set_option autoImplicit false

namespace NocAgent.Cases

open Fields

/-! ## Settled values -/

/-- `_safe_dict` leaves alone what it returned for the value. -/
def DictSettled (py : Python) (value : Json) : Prop :=
  match value.or (.dict []) with
  | .dict kvs => PayloadSettled py 2000 6 (.dict kvs)
  -- what is no mapping is put under a key, one level deeper
  | other => PayloadSettled py 2000 6 other ∧ Fits py 5 other

/-- The validators of a field leave alone what they returned for the value. -/
def FieldKind.Settled (py : Python) (evidence : Json → Prop) : FieldKind → Json → Prop
  | .text _ limit, value => TextSettled py value limit
  | .texts limit, value =>
    ∀ item ∈ (listItems value).take MAX_COLLECTION_ITEMS, TextSettled py item limit
  | .payload, value => DictSettled py value
  | .evidence, value => evidence value
  | _, _ => True

/-- The fields with a blank default are given, and all that is given is settled. -/
structure ArgsSettled (py : Python) (evidence : Json → Prop) (fields : List LhpField)
    (blankDefaults : List String) (args : JsonDict) : Prop where
  given : ∀ name ∈ blankDefaults, (args.lookup name).isSome = true
  settled : ∀ f ∈ fields, ∀ value, args.lookup f.name = some value →
    f.kind.Settled py evidence value

def EvidenceRefSettled (py : Python) : Json → Prop
  | .dict args => ArgsSettled py (fun _ => True) evidenceRefFields ["summary"] args
  | _ => True

def EvidenceSettled (py : Python) : Json → Prop
  | .list xs => ∀ x ∈ xs, EvidenceRefSettled py x
  | _ => True

/-- The fields with a default that their validator, had it run, would have replaced. -/
def LhpRecord.blankDefaults : LhpRecord → List String
  | .caseHandoff => ["knowledge_scope", "owner", "fingerprint", "case_type", "trace_id"]
  | .handoffUpdate => ["summary", "trace_id"]
  | .verificationObjective => ["handoff_id", "description", "evidence_ref", "failure_reason"]
  | .knowledgeArtifact => ["handoff_id", "scope", "summary"]
  | .handoffTransportDelivery => ["external_id", "external_url", "last_error"]

/-- The field with a digest that is computed when it is missing. -/
def LhpRecord.digestField : LhpRecord → Option String
  | .handoffUpdate | .handoffTransportDelivery => some "payload_hash"
  | .knowledgeArtifact => some "content_hash"
  | _ => none

/-- What is used of the validation library: it keeps a value of the right type. -/
structure PydanticLaws (pydantic : Pydantic) : Prop where
  bool : ∀ b : Bool, pydantic.bool (.bool b) = some b
  int : ∀ n : Int, pydantic.int (.int n) = some n

/-- `uuid4().hex[:12]`. -/
structure FactoryLaws (factories : Factories) : Prop where
  hex : ∀ name : String, HexText (factories.hex name)
  short : ∀ name : String, (factories.hex name).toList.length ≤ 12

/-! ## A validator that runs again -/

section Again

variable {py : Python} {pydantic : Pydantic} (laws : SanitizerLaws py)

include laws in
/-- The key that a value other than a mapping is put under. -/
theorem keptItems_value (x : Json) : keptItems py [("value", x)] = [("value", x)] := by
  have htoken : sanitizeLhpToken py "value" 80 = "value" := by
    refine sanitizeLhpToken_of_token (fun c hc => ?_) (by decide) (by decide)
    have hall : "value".toList.all Char.isAlphanum = true := by decide
    exact tokenChar_of_alphanum laws.toKeyLaws (List.all_eq_true.1 hall c hc)
  have hkey : safeKey py "value" = "value" := by
    rw [safeKey_eq, htoken, laws.lower "value" (by decide)]
    decide
  unfold keptItems
  rw [List.take_of_length_le (Nat.succ_le_succ (Nat.zero_le 99)), List.foldl_cons, hkey]
  rfl

theorem safeDict_dict (kvs : JsonDict) :
    safeDict py (.dict kvs) = sanitizeLhpPayload py 2000 6 (.dict kvs) := by
  unfold safeDict
  rw [Json.dict_or_empty, sanitizeLhpPayload_dict]

include laws in
/-- **A mapping stays exactly when it is settled.** -/
theorem safeDict_iff (value : Json) :
    safeDict py (safeDict py value) = safeDict py value ↔ DictSettled py value := by
  have hdict : ∀ kvs, value.or (.dict []) = .dict kvs →
      (safeDict py (safeDict py value) = safeDict py value ↔ DictSettled py value) := by
    intro kvs hvalue
    have hsafe : safeDict py value = sanitizeLhpPayload py 2000 6 (.dict kvs) := by
      rw [← safeDict_dict]
      unfold safeDict
      rw [hvalue, Json.dict_or_empty]
    unfold DictSettled
    rw [hvalue, hsafe]
    dsimp only
    rw [← sanitizeLhpPayload_iff laws, sanitizeLhpPayload_dict, safeDict_dict]
  have hother : ∀ x, value.or (.dict []) = x →
      safeDict py value = .dict [("value", sanitizeLhpPayload py 2000 6 x)] →
      (DictSettled py value ↔ PayloadSettled py 2000 6 x ∧ Fits py 5 x) →
      (safeDict py (safeDict py value) = safeDict py value ↔ DictSettled py value) := by
    intro x hvalue hsafe hsettled
    rw [hsettled, ← sanitizeLhpPayload_less_iff laws, hsafe, safeDict_dict, sanitizeLhpPayload_dict,
      keptItems_value laws]
    simp
  cases hvalue : value.or (.dict []) with
  | dict kvs => exact hdict kvs hvalue
  | _ =>
    refine hother _ hvalue ?_ ?_
    · unfold safeDict
      rw [hvalue]
      rfl
    · unfold DictSettled
      rw [hvalue]

variable (py) in
/-- A required text passes the check a second time. -/
theorem strip_sanitizeLhpText (value : Json) (limit : Nat) :
    strip (sanitizeLhpText py value limit) ≠ "" := by
  have htake : ∀ s : String, s ≠ "" → (∀ c ∈ s.toList.head?, isSpace c = false) →
      strip (takeChars (max 1 limit) s) ≠ "" := by
    intro s hne hhead
    refine strip_ne_empty (takeChars_nonempty (by omega) hne) fun c hc => hhead c ?_
    rw [toList_takeChars, List.head?_take, if_neg (by omega)] at hc
    exact hc
  rw [sanitizeLhpText_eq]
  split
  · refine htake "—" (by decide) ?_
    rintro c ⟨⟩
    rfl
  · rename_i hne
    exact htake _ hne (head?_collapseSpace _)

theorem requireLhpToken_eq_some {value token : String} {limit : Nat}
    (h : requireLhpToken py value limit = some token) :
    token = sanitizeLhpToken py value limit := by
  unfold requireLhpToken at h
  split at h
  · cases h
  · exact (Option.some.inj h).symm

include laws in
/-- The validators of a field leave alone what they returned exactly when the value is settled. -/
theorem validate_again_iff (plaws : PydanticLaws pydantic) {check : Json → Option Json}
    {evidence : Json → Prop}
    (hevidence : ∀ value v, check value = some v → (check v = some v ↔ evidence value))
    {kind : FieldKind} {value v : Json} (h : kind.validate py pydantic check value = some v) :
    kind.validate py pydantic check v = some v ↔ kind.Settled py evidence value := by
  cases kind with
  | token required limit =>
    refine iff_of_true ?_ trivial
    have hv : v = .str (sanitizeLhpToken py (textOf py value) limit) := by
      cases required with
      | false => exact (Option.some.inj h).symm
      | true =>
        obtain ⟨token, htoken, rfl⟩ := Option.map_eq_some_iff.1 h
        rw [requireLhpToken_eq_some htoken]
    rw [hv]
    unfold FieldKind.validate
    dsimp only
    rw [textOf_str, requireLhpToken_idem laws, sanitizeLhpToken_idem laws, Option.map_some,
      ite_self]
  | text required limit =>
    unfold FieldKind.validate at h ⊢
    dsimp only at h ⊢
    split at h
    · cases h
    · obtain rfl := Option.some.inj h
      rw [textOf_str, if_neg fun hblank => strip_sanitizeLhpText py value limit hblank.2]
      rw [Option.some.injEq, Json.str.injEq, sanitizeLhpText_iff laws]
      rfl
  | texts limit =>
    unfold FieldKind.validate at h ⊢
    dsimp only at h ⊢
    obtain rfl := Option.some.inj h
    unfold listItems
    dsimp only
    rw [← List.map_take, List.take_take, min_self, List.map_map, Option.some.injEq,
      Json.list.injEq, List.map_inj_left]
    refine forall₂_congr fun item _ => ?_
    rw [Function.comp_apply, Json.str.injEq, sanitizeLhpText_iff laws]
  | payload =>
    obtain rfl := Option.some.inj h
    exact Option.some_inj.trans (safeDict_iff laws value)
  | plain =>
    refine iff_of_true ?_ trivial
    unfold FieldKind.validate at h ⊢
    dsimp only at h ⊢
    split at h
    · obtain rfl := Option.some.inj h
      rfl
    · cases h
  | choice options =>
    refine iff_of_true ?_ trivial
    unfold FieldKind.validate at h ⊢
    dsimp only at h ⊢
    split at h
    · split at h
      · rename_i hmem
        obtain rfl := Option.some.inj h
        exact if_pos hmem
      · cases h
    · cases h
  | bool =>
    obtain ⟨b, -, rfl⟩ := Option.map_eq_some_iff.1 h
    refine iff_of_true ?_ trivial
    change (pydantic.bool (.bool b)).map Json.bool = _
    rw [plaws.bool]
    rfl
  | int least most =>
    refine iff_of_true ?_ trivial
    unfold FieldKind.validate at h ⊢
    dsimp only at h ⊢
    split at h
    · split at h
      · rename_i n _ hrange
        obtain rfl := Option.some.inj h
        rw [plaws.int]
        exact if_pos hrange
      · cases h
    · cases h
  | evidence => exact hevidence value v h

/-! ## Defaults -/

/-- A validator replaces the default. -/
structure BlankDefault (f : LhpField) : Prop where
  blank : f.default = some (.str "")
  kind : (∃ limit, f.kind = .token false limit) ∨ ∃ limit, f.kind = .text false limit

variable (py pydantic) in
/-- A default is replaced by the validator that never saw it, is a digest that will be filled in, or
is left alone. -/
structure FitsDefault (check : Json → Option Json) (blankDefaults : List String)
    (digestField : Option String) (f : LhpField) : Prop where
  blank : f.name ∈ blankDefaults → BlankDefault f
  kept : f.name ∉ blankDefaults → digestField ≠ some f.name →
    ∀ v, f.default = some v → f.kind.validate py pydantic check v = some v
  finite : ∀ v, f.default = some v → v.finite = true

theorem validate_blank (check : Json → Option Json) {f : LhpField} (h : BlankDefault f) :
    f.kind.validate py pydantic check (.str "") ≠ some (.str "") := by
  obtain ⟨limit, hkind⟩ | ⟨limit, hkind⟩ := h.kind
  · rw [hkind]
    intro heq
    have htoken := Json.str.inj (Option.some.inj heq)
    exact sanitizeLhpToken_ne_empty py _ limit htoken
  · rw [hkind]
    intro heq
    unfold FieldKind.validate at heq
    dsimp only at heq
    rw [if_neg fun h => Bool.false_ne_true h.1] at heq
    have htext := Json.str.inj (Option.some.inj heq)
    exact strip_sanitizeLhpText py (.str "") limit (by rw [htext]; decide)

include laws in
theorem tokenChars_hex {digits : String} (h : HexText digits) :
    ∀ c ∈ digits.toList, tokenChar py c = true := by
  intro c hc
  have hall : "0123456789abcdef".toList.all Char.isAlphanum = true := by decide
  exact tokenChar_of_alphanum laws.toKeyLaws (List.all_eq_true.1 hall c (h c hc))

include laws in
/-- Hexadecimal digits behind a prefix are a token. -/
theorem sanitizeLhpToken_hex {start digits : String} {limit : Nat}
    (hstart : (start.toList.all fun c => c.isAlphanum || c == '_') = true)
    (hdigits : HexText digits) (hne : start ++ digits ≠ "")
    (hlen : (start ++ digits).toList.length ≤ limit) :
    sanitizeLhpToken py (start ++ digits) limit = start ++ digits := by
  refine sanitizeLhpToken_of_token (fun c hc => ?_) hne hlen
  rw [String.toList_append, List.mem_append] at hc
  rcases hc with hc | hc
  · have hchar := List.all_eq_true.1 hstart c hc
    rw [Bool.or_eq_true, beq_iff_eq] at hchar
    rcases hchar with hchar | rfl
    · exact tokenChar_of_alphanum laws.toKeyLaws hchar
    · simp [tokenChar]
  · exact tokenChars_hex laws hdigits c hc

section Defaults

variable {check : Json → Option Json} {factories : Factories} {name : String}
  {blankDefaults : List String} {digestField : Option String}

theorem fits_of_kept {v : Json} {kind : FieldKind} (hname : name ∉ blankDefaults)
    (hfinite : v.finite = true) (hkept : kind.validate py pydantic check v = some v) :
    FitsDefault py pydantic check blankDefaults digestField ⟨name, some v, kind⟩ where
  blank h := absurd h hname
  kept := by
    rintro - - w ⟨⟩
    exact hkept
  finite := by
    rintro w ⟨⟩
    exact hfinite

@[simp] theorem fits_required (kind : FieldKind) (hname : name ∉ blankDefaults) :
    FitsDefault py pydantic check blankDefaults digestField ⟨name, none, kind⟩ where
  blank h := absurd h hname
  kept := by rintro - - w ⟨⟩
  finite := by rintro w ⟨⟩

@[simp] theorem fits_blank_token (limit : Nat)
    (hname : name ∈ blankDefaults ∨ digestField = some name) :
    FitsDefault py pydantic check blankDefaults digestField
      ⟨name, some (.str ""), .token false limit⟩ where
  blank _ := ⟨rfl, Or.inl ⟨limit, rfl⟩⟩
  kept h h' := absurd hname (not_or.2 ⟨h, h'⟩)
  finite := by
    rintro w ⟨⟩
    rfl

@[simp] theorem fits_blank_text (limit : Nat) (hname : name ∈ blankDefaults) :
    FitsDefault py pydantic check blankDefaults digestField
      ⟨name, some (.str ""), .text false limit⟩ where
  blank _ := ⟨rfl, Or.inr ⟨limit, rfl⟩⟩
  kept h := absurd hname h
  finite := by
    rintro w ⟨⟩
    rfl

@[simp] theorem fits_plain (s : String) (hname : name ∉ blankDefaults) :
    FitsDefault py pydantic check blankDefaults digestField ⟨name, some (.str s), .plain⟩ :=
  fits_of_kept hname rfl rfl

@[simp] theorem fits_stamp (source : String) (hname : name ∉ blankDefaults) :
    FitsDefault py pydantic check blankDefaults digestField
      ⟨name, factories.stamp source, .plain⟩ :=
  fits_plain _ hname

@[simp] theorem fits_choice {s : String} {options : List String} (hname : name ∉ blankDefaults)
    (hs : s ∈ options) :
    FitsDefault py pydantic check blankDefaults digestField
      ⟨name, some (.str s), .choice options⟩ :=
  fits_of_kept hname rfl (if_pos hs)

@[simp] theorem fits_texts (limit : Nat) (hname : name ∉ blankDefaults) :
    FitsDefault py pydantic check blankDefaults digestField ⟨name, some (.list []), .texts limit⟩ :=
  fits_of_kept hname rfl rfl

@[simp] theorem fits_payload (hname : name ∉ blankDefaults) :
    FitsDefault py pydantic check blankDefaults digestField ⟨name, some (.dict []), .payload⟩ :=
  fits_of_kept hname rfl rfl

@[simp] theorem fits_evidence (hname : name ∉ blankDefaults) :
    FitsDefault py pydantic (evidenceRefs py pydantic) blankDefaults digestField
      ⟨name, some (.list []), .evidence⟩ :=
  fits_of_kept hname rfl rfl

theorem fits_bool (plaws : PydanticLaws pydantic) (b : Bool) (hname : name ∉ blankDefaults) :
    FitsDefault py pydantic check blankDefaults digestField ⟨name, some (.bool b), .bool⟩ := by
  refine fits_of_kept hname rfl ?_
  change (pydantic.bool (.bool b)).map Json.bool = _
  rw [plaws.bool]
  rfl

theorem fits_int (plaws : PydanticLaws pydantic) {n least : Int} {most : Option Int}
    (hname : name ∉ blankDefaults) (hn : least ≤ n ∧ ∀ bound ∈ most, n ≤ bound) :
    FitsDefault py pydantic check blankDefaults digestField
      ⟨name, some (.int n), .int least most⟩ := by
  refine fits_of_kept hname rfl ?_
  unfold FieldKind.validate
  dsimp only
  rw [plaws.int]
  exact if_pos hn

include laws in
theorem fits_id (flaws : FactoryLaws factories) (source start : String)
    (hname : name ∉ blankDefaults)
    (hstart : (start.toList.all fun c => c.isAlphanum || c == '_') = true) (hne : start ≠ "")
    (hshort : start.toList.length ≤ 160) :
    FitsDefault py pydantic check blankDefaults digestField
      ⟨name, factories.id start source, .token false 180⟩ := by
  have hlen : (start ++ factories.hex source).toList.length ≤ 180 := by
    have hhex := flaws.short source
    rw [String.toList_append, List.length_append]
    omega
  have hne' : start ++ factories.hex source ≠ "" := by
    intro hnil
    have hlist := congrArg String.toList hnil
    rw [String.toList_append] at hlist
    exact hne (String.toList_eq_nil_iff.1 (List.append_eq_nil_iff.1 hlist).1)
  refine fits_of_kept hname rfl ?_
  change some (Json.str (sanitizeLhpToken py (textOf py (.str _)) 180)) = _
  rw [textOf_str, sanitizeLhpToken_hex laws hstart (flaws.hex source) hne' hlen]

include laws in
/-- The creator of a handoff has no character that a secret has. -/
theorem fits_creator (hname : name ∉ blankDefaults) :
    FitsDefault py pydantic check blankDefaults digestField
      ⟨name, some (.str "noc_agent_loop"), .text false 500⟩ := by
  have hfix : redactSecrets py "noc_agent_loop" = "noc_agent_loop" := by
    rcases redactSecrets_cases laws "noc_agent_loop" with ⟨-, hfix⟩ | ⟨-, hlt⟩
    · exact hfix
    · exact absurd hlt (by simp [show secretMarks "noc_agent_loop" = 0 from by decide])
  have hrendered : renderedText py (.str "noc_agent_loop") = "noc_agent_loop" := by
    unfold renderedText
    rw [textOf_str, hfix]
    decide
  have hstays : sanitizeLhpText py (.str "noc_agent_loop") 500 = "noc_agent_loop" := by
    rw [sanitizeLhpText_eq, hrendered, if_neg (by decide), takeChars_of_length_le (by decide)]
  refine fits_of_kept hname rfl ?_
  unfold FieldKind.validate
  dsimp only
  rw [if_neg fun h => Bool.false_ne_true h.1, hstays]

end Defaults

/-! ## The tables -/

variable (py pydantic) in
theorem evidenceRef_fits : ∀ f ∈ evidenceRefFields,
    FitsDefault py pydantic (fun _ => none) ["summary"] none f := by
  simp [evidenceRefFields]

include laws in
theorem fields_fit {factories : Factories} (plaws : PydanticLaws pydantic)
    (flaws : FactoryLaws factories) (record : LhpRecord) : ∀ f ∈ record.fields factories,
      FitsDefault py pydantic (evidenceRefs py pydantic) record.blankDefaults record.digestField
        f := by
  cases record with
  | caseHandoff =>
    simp [LhpRecord.fields, caseHandoffFields, LhpRecord.blankDefaults, loopNames,
      handoffStatuses, LoopName.text, HandoffStatus.text, fits_id laws flaws, fits_creator laws]
  | handoffUpdate =>
    simp [LhpRecord.fields, handoffUpdateFields, LhpRecord.blankDefaults, fits_id laws flaws]
  | verificationObjective =>
    simp [LhpRecord.fields, verificationObjectiveFields, LhpRecord.blankDefaults,
      verificationStatuses, VerificationStatus.text, fits_id laws flaws, fits_bool plaws,
      fits_int plaws]
  | knowledgeArtifact =>
    simp [LhpRecord.fields, knowledgeArtifactFields, LhpRecord.blankDefaults,
      LhpRecord.digestField, knowledgeArtifactStatuses, knowledgeReviewStatuses, loopNames,
      LoopName.text, KnowledgeArtifactStatus.text, KnowledgeReviewStatus.text, fits_id laws flaws,
      fits_int plaws]
  | handoffTransportDelivery =>
    simp [LhpRecord.fields, handoffTransportDeliveryFields, LhpRecord.blankDefaults,
      LhpRecord.digestField, fits_id laws flaws, fits_int plaws]

theorem fields_same (factories other : Factories) (record : LhpRecord) :
    (record.fields factories).map (fun f => (f.name, f.kind)) =
      (record.fields other).map fun f => (f.name, f.kind) := by
  cases record <;> rfl

/-- The names of the fields do not depend on the factories. -/
theorem fields_names (factories : Factories) (record : LhpRecord) :
    (record.fields factories).map Field.name =
      (record.fields ⟨fun _ => "", fun _ => ""⟩).map Field.name := by
  cases record <;> rfl

theorem fields_nodup (factories : Factories) (record : LhpRecord) :
    ((record.fields factories).map Field.name).Nodup := by
  rw [fields_names]
  cases record <;> decide

theorem blankDefaults_fields (factories : Factories) (record : LhpRecord) :
    ∀ name ∈ record.blankDefaults, ∃ f ∈ record.fields factories, f.name = name := by
  simp only [← List.mem_map, fields_names factories]
  cases record <;> decide

/-! ## A construction that runs again -/

section Construction

variable {check : Json → Option Json} {evidence : Json → Prop} {fields : List LhpField}
  {blankDefaults : List String} {digestField : Option String} {args r : JsonDict}

include laws in
/-- **Constructing a record once more leaves it exactly when its arguments are settled.** -/
theorem construct_settled_iff (plaws : PydanticLaws pydantic)
    (hevidence : ∀ value v, check value = some v → (check v = some v ↔ evidence value))
    (hn : (fields.map Field.name).Nodup)
    (hnames : ∀ name ∈ blankDefaults, ∃ f ∈ fields, f.name = name)
    (hfits : ∀ f ∈ fields, FitsDefault py pydantic check blankDefaults digestField f)
    (hdigest : ∀ name ∈ digestField, (args.lookup name).isSome = true)
    (h : construct (FieldKind.validate py pydantic check) fields args = some r) :
    construct (FieldKind.validate py pydantic check) fields r = some r ↔
      ArgsSettled py evidence fields blankDefaults args := by
  rw [construct_again_iff h hn]
  constructor
  · intro hall
    refine ⟨fun name hname => ?_, fun f hf value hvalue => ?_⟩
    · obtain ⟨f, hf, rfl⟩ := hnames name hname
      by_contra hnone
      have hlookup : args.lookup f.name = none := Option.not_isSome_iff_eq_none.1 hnone
      have hblank := (hfits f hf).blank hname
      refine validate_blank check hblank (hall f hf (.str "") ?_)
      unfold Field.read
      rw [hlookup, hblank.blank]
    · obtain ⟨v, -, hread⟩ := read_of_construct h hn hf
      have hkeeps := hall f hf v hread
      unfold Field.read at hread
      rw [hvalue] at hread
      exact (validate_again_iff laws plaws hevidence hread).1 hkeeps
  · intro hsettled f hf v hread
    unfold Field.read at hread
    cases hvalue : args.lookup f.name with
    | some value =>
      rw [hvalue] at hread
      exact (validate_again_iff laws plaws hevidence hread).2 (hsettled.settled f hf value hvalue)
    | none =>
      rw [hvalue] at hread
      refine (hfits f hf).kept (fun hblank => ?_) (fun hdigest' => ?_) v hread
      · have hgiven := hsettled.given f.name hblank
        rw [hvalue] at hgiven
        cases hgiven
      · have hgiven := hdigest f.name hdigest'
        rw [hvalue] at hgiven
        cases hgiven

end Construction

/-! ## Evidence -/

include laws in
theorem evidenceRef_again_iff (plaws : PydanticLaws pydantic) {value v : Json}
    (h : evidenceRef py pydantic value = some v) :
    evidenceRef py pydantic v = some v ↔ EvidenceRefSettled py value := by
  unfold evidenceRef at h
  split at h
  · rename_i args
    obtain ⟨r, hr, rfl⟩ := Option.map_eq_some_iff.1 h
    have hnone : ∀ value v : Json, (none : Option Json) = some v →
        ((none : Option Json) = some v ↔ True) := by
      intro value v hv
      cases hv
    have hagain := construct_settled_iff laws plaws hnone (by decide) (by decide)
      (evidenceRef_fits py pydantic) (by simp) hr
    change (construct _ evidenceRefFields r).map Json.dict = some (.dict r) ↔ _
    rw [Option.map_eq_some_iff]
    simp only [Json.dict.injEq, exists_eq_right]
    exact hagain
  · cases h

/-- Every checked item comes from one. -/
theorem mem_of_mapM {f : Json → Option Json} : ∀ {xs ys : List Json}, xs.mapM f = some ys →
    ∀ y ∈ ys, ∃ x ∈ xs, f x = some y
  | [], ys, h, y, hy => by
    obtain rfl := Option.some.inj h
    exact absurd hy List.not_mem_nil
  | x :: xs, ys, h, y, hy => by
    rw [List.mapM_cons] at h
    obtain ⟨first, hfirst, h⟩ := Option.bind_eq_some_iff.1 h
    obtain ⟨rest, hrest, h⟩ := Option.bind_eq_some_iff.1 h
    obtain rfl := Option.some.inj h
    rcases List.mem_cons.1 hy with rfl | hy
    · exact ⟨x, List.mem_cons_self, hfirst⟩
    · obtain ⟨source, hsource, hread⟩ := mem_of_mapM hrest y hy
      exact ⟨source, List.mem_cons_of_mem x hsource, hread⟩

/-- Items that are checked one by one are checked again one by one. -/
theorem mapM_again_iff {f : Json → Option Json} {P : Json → Prop}
    (hf : ∀ x y, f x = some y → (f y = some y ↔ P x)) :
    ∀ {xs ys : List Json}, xs.mapM f = some ys → (ys.mapM f = some ys ↔ ∀ x ∈ xs, P x)
  | [], ys, h => by
    obtain rfl := Option.some.inj h
    exact iff_of_true rfl fun _ hx => absurd hx List.not_mem_nil
  | x :: xs, ys, h => by
    rw [List.mapM_cons] at h
    obtain ⟨y, hy, h⟩ := Option.bind_eq_some_iff.1 h
    obtain ⟨rest, hrest, h⟩ := Option.bind_eq_some_iff.1 h
    obtain rfl := Option.some.inj h
    rw [List.mapM_cons, List.forall_mem_cons, ← hf x y hy, ← mapM_again_iff hf hrest]
    constructor
    · intro hagain
      obtain ⟨z, hz, hagain⟩ := Option.bind_eq_some_iff.1 hagain
      obtain ⟨others, hothers, hagain⟩ := Option.bind_eq_some_iff.1 hagain
      obtain ⟨rfl, rfl⟩ := List.cons.inj (Option.some.inj hagain)
      exact ⟨hz, hothers⟩
    · rintro ⟨hy, hrest⟩
      rw [hy, hrest]
      rfl

include laws in
theorem evidenceRefs_again_iff (plaws : PydanticLaws pydantic) (value v : Json)
    (h : evidenceRefs py pydantic value = some v) :
    evidenceRefs py pydantic v = some v ↔ EvidenceSettled py value := by
  unfold evidenceRefs at h
  split at h
  · rename_i xs
    obtain ⟨ys, hys, rfl⟩ := Option.map_eq_some_iff.1 h
    have hagain := mapM_again_iff (fun x y => evidenceRef_again_iff laws plaws) hys
    change (ys.mapM (evidenceRef py pydantic)).map Json.list = some (.list ys) ↔ _
    rw [Option.map_eq_some_iff]
    simp only [Json.list.injEq, exists_eq_right]
    exact hagain
  · cases h

end Again

end NocAgent.Cases
