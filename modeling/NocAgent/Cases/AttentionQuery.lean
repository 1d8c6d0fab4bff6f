import NocAgent.Cases.Attention
import NocAgent.Lib.Sql
import NocAgent.Python.Stamp

/-!
# The attention query of the PostgreSQL store

* `CandidateRow.where_` — the condition that `list_attention_candidates` gives the database.
* `OtherwiseDue` — what both predicates ask apart from the two deadlines.
* `OnlyFarOffset` — every deadline in the future has an offset the database does not read.
* `agrees_iff` — the condition selects the case exactly when `attentionDue` returns a request,
  unless the case is otherwise due and some deadline is in the future, but none that the database
  reads.
-/

set_option autoImplicit false

namespace NocAgent.Cases

open Sql

/-- The parts of the database that the model leaves open. -/
structure Postgres where
  /-- `a > b` of two texts, under the collation of the column -/
  textGreater : String → String → Bool
  /-- the text of a JSON number that is no integer, or of a container -/
  jsonText : Json → String
  /-- `pg_input_is_valid(value, 'timestamp with time zone')` -/
  isValid : String → Bool
  /-- `value::timestamptz` of a valid text, in microseconds -/
  timestamptz : String → Int
  /-- `value::timestamp AT TIME ZONE 'UTC'` of a valid text, in microseconds -/
  timestampUtc : String → Int

/-- `payload->>key`. -/
def textField (pg : Postgres) (payload : JsonDict) (key : String) : Option String :=
  match payload.get key with
  | .null => none
  | .bool b => some (if b then "true" else "false")
  | .int n => some (toString n)
  | .str s => some s
  | value => some (pg.jsonText value)

/-! ## Rows -/

/-- The fields of a stored case that the query reads. -/
def AtomicCaseProjection.payload (case : AtomicCaseProjection) : JsonDict :=
  [("identity", .dict case.identity),
    ("severity", .str case.severity.text),
    ("resolution_reason", .str case.resolutionReason),
    ("report_generation", .int case.reportGeneration),
    ("acknowledged_by", .str case.acknowledgedBy),
    ("acknowledged_at", .str case.acknowledgedAt),
    ("snoozed_until", .str case.snoozedUntil),
    ("suppressed_until", .str case.suppressedUntil),
    ("covered_by_meta_case", .bool case.coveredByMetaCase),
    ("independent_action_required", .bool case.independentActionRequired)]

/-- The fields of a stored delivery that the query reads. -/
def AttentionDelivery.payload (delivery : AttentionDelivery) : JsonDict :=
  [("generation", .int delivery.generation),
    ("phase", .str delivery.phase.text),
    ("severity", .str delivery.severity.text)]

/-- A row of `cases` with the row of `case_attention_delivery` that the join finds. -/
structure CandidateRow where
  caseId : String
  kind : String
  status : String
  payload : JsonDict
  attention : Option AttentionDelivery

/-- The row of a stored case; its status is that of the payload. -/
def candidateRow (case : AtomicCaseProjection) (attention : Option AttentionDelivery) :
    CandidateRow where
  caseId := case.caseId
  kind := "atomic"
  status := case.status.text
  payload := case.payload
  attention := attention

/-! ## Patterns -/

/-- `'^[0-9]{4}-[0-9]{2}-[0-9]{2}([T ]|$)'`. -/
def dateShaped : List Char → Bool
  | y₁ :: y₂ :: y₃ :: y₄ :: '-' :: m₁ :: m₂ :: '-' :: d₁ :: d₂ :: rest =>
    [y₁, y₂, y₃, y₄, m₁, m₂, d₁, d₂].all Char.isDigit &&
      match rest with
      | [] => true
      | c :: _ => c == 'T' || c == ' '
  | _ => false

/-- `'(Z|[+-][0-9]{2}(:?[0-9]{2})?)'`, the whole text. -/
def zoneShaped : List Char → Bool
  | ['Z'] => true
  | [sign, h₁, h₂] => (sign == '+' || sign == '-') && [h₁, h₂].all Char.isDigit
  | [sign, h₁, h₂, m₁, m₂] =>
    (sign == '+' || sign == '-') && [h₁, h₂, m₁, m₂].all Char.isDigit
  | [sign, h₁, h₂, ':', m₁, m₂] =>
    (sign == '+' || sign == '-') && [h₁, h₂, m₁, m₂].all Char.isDigit
  | _ => false

/-- `'[T ].*(Z|[+-][0-9]{2}(:?[0-9]{2})?)$'`, anywhere in the text. -/
def zoned : List Char → Bool
  | [] => false
  | c :: rest => (c == 'T' || c == ' ') && rest.tails.any zoneShaped || zoned rest

/-! ## The condition -/

/-- The deadline a text names; `NULL` for a text that names none. -/
def deadline (pg : Postgres) (value : Option String) : Option Int :=
  value.bind fun value =>
    if dateShaped value.toList = true ∧ pg.isValid value = true then
      if zoned value.toList = true then some (pg.timestamptz value)
      else some (pg.timestampUtc value)
    else none

/-- `CASE severity WHEN 'HIGH' THEN 3 WHEN 'MEDIUM' THEN 2 WHEN 'LOW' THEN 1 ELSE 0 END`. -/
def severityCase (severity : Option String) : Option Nat :=
  if severity = some "HIGH" then some 3
  else if severity = some "MEDIUM" then some 2
  else if severity = some "LOW" then some 1
  else some 0

section Clause

variable (pg : Postgres) (row : CandidateRow)

/-- `c.payload->>key`. -/
def CandidateRow.c (key : String) : Option String := textField pg row.payload key

/-- `a.payload->>key`: `NULL` when the join found no delivery. -/
def CandidateRow.a (key : String) : Option String :=
  row.attention.bind fun delivery => textField pg delivery.payload key

/-- `EXISTS (SELECT 1 FROM (VALUES ...) AS deadlines(value) WHERE CASE ... END > $3)`. -/
def CandidateRow.heldBack (now : Int) : Truth :=
  exists_ [row.c pg "suppressed_until", row.c pg "snoozed_until"] fun value =>
    compare (fun until_ now => decide (now < until_)) (deadline pg value) (some now)

/-- The branch of a resolved case. -/
def CandidateRow.recoveryDue : Truth :=
  and (Sql.eq (some row.status) (some "resolved")) <|
  and (Sql.eq (row.c pg "resolution_reason") (some "positive_clean_observation")) <|
  Sql.eq (row.a pg "phase") (some "firing")

/-- The branch of a case that is not resolved. -/
def CandidateRow.firingDue (now reminderSeconds : Int) : Truth :=
  and (ne (some row.status) (some "resolved")) <|
  and (Sql.eq (coalesce (row.c pg "acknowledged_at") "") (some "")) <|
  and (Sql.eq (coalesce (row.c pg "acknowledged_by") "") (some "")) <|
  or (isNull (row.attention.map AttentionDelivery.caseId)) <|
  or (Sql.eq (row.a pg "phase") (some "recovered")) <|
  or (compare (fun new old => decide (old < new)) (severityCase (row.c pg "severity"))
    (severityCase (row.a pg "severity"))) <|
  or (ne (coalesce (row.c pg "report_generation") "0") (row.a pg "generation")) <|
  and (Sql.eq (row.c pg "severity") (some "HIGH")) <|
  compare (fun delivered cutoff => decide (delivered ≤ cutoff))
    (row.attention.map AttentionDelivery.deliveredAt)
    (some (now - max 21600 reminderSeconds * 1000000))

/-- The `WHERE` clause of `list_attention_candidates`. -/
def CandidateRow.where_ (afterCaseId : String) (now reminderSeconds : Int) : Truth :=
  and (Sql.eq (some row.kind) (some "atomic")) <|
  and (compare pg.textGreater (some row.caseId) (some afterCaseId)) <|
  and (isIn ((row.payload.get "identity").dict?.bind fun identity =>
    textField pg identity "source") ["alertmanager", "icinga2"]) <|
  and (not (isIn (some row.status) ["closed", "expired", "linked", "recovered_pending"])) <|
  and (or (isDistinctFrom (row.c pg "covered_by_meta_case") (some "true"))
    (Sql.eq (row.c pg "independent_action_required") (some "true"))) <|
  and (not (row.heldBack pg now)) <|
  or (row.recoveryDue pg) (row.firingDue pg now reminderSeconds)

end Clause

/-! ## What both predicates ask -/

/-- The case needs attention when no deadline holds it back. -/
def OtherwiseDue (case : AtomicCaseProjection) (previous : Option AttentionDelivery)
    (now reminderSeconds : Int) : Prop :=
  case.status ∉ [.closed, .expired, .linked, .recoveredPending] ∧
  (case.coveredByMetaCase = true → case.independentActionRequired = true) ∧
  (case.status = .resolved ∧ case.resolutionReason = "positive_clean_observation" ∧
      (∃ d ∈ previous, d.phase = .firing) ∨
    case.status ≠ .resolved ∧ case.acknowledgedAt = "" ∧ case.acknowledgedBy = "" ∧
      ∀ d ∈ previous, d.phase = .recovered ∨
        SEVERITY_RANK d.severity < SEVERITY_RANK case.severity ∨
        case.reportGeneration ≠ d.generation ∨
        case.severity = .high ∧ d.deliveredAt ≤ now - max 21600 reminderSeconds * 1000000)

section Policy

variable {case : AtomicCaseProjection} {previous : Option AttentionDelivery}
  {now reminderSeconds : Int}

theorem reminder_elapsed (delivered : Int) :
    max hours6 (reminderSeconds * 1000000) ≤ now - delivered ↔
      delivered ≤ now - max 21600 reminderSeconds * 1000000 := by
  unfold hours6
  omega

theorem attentionKind_recovered :
    (∃ kind, attentionKind case previous .recovered now reminderSeconds = some kind) ↔
      case.resolutionReason = "positive_clean_observation" ∧ ∃ d ∈ previous, d.phase = .firing := by
  unfold attentionKind
  by_cases hreason : case.resolutionReason = "positive_clean_observation"
  · cases previous with
    | none => simp [hreason]
    | some d => by_cases hphase : d.phase = .firing <;> simp [hreason, hphase]
  · simp [hreason]

theorem attentionKind_firing :
    (∃ kind, attentionKind case previous .firing now reminderSeconds = some kind) ↔
      case.acknowledgedAt = "" ∧ case.acknowledgedBy = "" ∧
      ∀ d ∈ previous, d.phase = .recovered ∨
        SEVERITY_RANK d.severity < SEVERITY_RANK case.severity ∨
        case.reportGeneration ≠ d.generation ∨
        case.severity = .high ∧ d.deliveredAt ≤ now - max 21600 reminderSeconds * 1000000 := by
  unfold attentionKind
  by_cases hack : case.acknowledgedAt ≠ "" ∨ case.acknowledgedBy ≠ ""
  · simp only [if_pos hack]
    constructor
    · rintro ⟨kind, h⟩
      cases h
    · rintro ⟨hat, hby, -⟩
      exact absurd hack (by simp [hat, hby])
  · simp only [if_neg hack]
    rw [not_or, not_not, not_not] at hack
    cases previous with
    | none => simp [hack.1, hack.2]
    | some d =>
      simp only [Option.mem_def, Option.some.injEq, forall_eq', ← reminder_elapsed, hack.1, hack.2,
        true_and]
      -- the branches in the order of the code
      by_cases hphase : d.phase = .recovered
      · rw [if_pos hphase]
        exact ⟨fun _ => Or.inl hphase, fun _ => ⟨_, rfl⟩⟩
      by_cases hseverity : SEVERITY_RANK d.severity < SEVERITY_RANK case.severity
      · rw [if_neg hphase, if_pos hseverity]
        exact ⟨fun _ => Or.inr (Or.inl hseverity), fun _ => ⟨_, rfl⟩⟩
      by_cases hgeneration : case.reportGeneration ≠ d.generation
      · rw [if_neg hphase, if_neg hseverity, if_pos hgeneration]
        exact ⟨fun _ => Or.inr (Or.inr (Or.inl hgeneration)), fun _ => ⟨_, rfl⟩⟩
      by_cases hlate : case.severity = .high ∧
        max hours6 (reminderSeconds * 1000000) ≤ now - d.deliveredAt
      · rw [if_neg hphase, if_neg hseverity, if_neg hgeneration, if_pos hlate]
        exact ⟨fun _ => Or.inr (Or.inr (Or.inr hlate)), fun _ => ⟨_, rfl⟩⟩
      · rw [if_neg hphase, if_neg hseverity, if_neg hgeneration, if_neg hlate]
        refine iff_of_false (by simp) ?_
        rintro (h | h | h | h)
        exacts [hphase h, hseverity h, hgeneration h, hlate h]

/-- **`attentionDue` returns a request exactly when the case is otherwise due and no deadline is
in the future.** -/
theorem attentionDue_isSome_iff (py : Python) (hprevious : ∀ d ∈ previous, d.caseId = case.caseId) :
    (∃ request, attentionDue py case previous now reminderSeconds = .ok (some request)) ↔
      OtherwiseDue case previous now reminderSeconds ∧
        isFuture py case.suppressedUntil now = false ∧
        isFuture py case.snoozedUntil now = false := by
  have hown : ¬ ∃ d ∈ previous, d.caseId ≠ case.caseId := by
    rintro ⟨d, hd, hne⟩
    exact hne (hprevious d hd)
  have hphase : (∃ kind, attentionKind case previous
      (if case.status = .resolved then .recovered else .firing) now reminderSeconds = some kind) ↔
      (case.status = .resolved ∧ case.resolutionReason = "positive_clean_observation" ∧
          (∃ d ∈ previous, d.phase = .firing) ∨
        case.status ≠ .resolved ∧ case.acknowledgedAt = "" ∧ case.acknowledgedBy = "" ∧
          ∀ d ∈ previous, d.phase = .recovered ∨
            SEVERITY_RANK d.severity < SEVERITY_RANK case.severity ∨
            case.reportGeneration ≠ d.generation ∨
            case.severity = .high ∧
              d.deliveredAt ≤ now - max 21600 reminderSeconds * 1000000) := by
    by_cases hresolved : case.status = .resolved
    · rw [if_pos hresolved, attentionKind_recovered]
      simp [hresolved]
    · rw [if_neg hresolved, attentionKind_firing]
      simp [hresolved]
  unfold OtherwiseDue
  rw [← hphase]
  unfold attentionDue
  rw [if_neg hown]
  by_cases hstatus : case.status ∈ [.closed, .expired, .linked, .recoveredPending]
  · rw [if_pos hstatus]
    exact iff_of_false (by simp) fun h => h.1.1 hstatus
  by_cases hcovered : case.coveredByMetaCase = true ∧ case.independentActionRequired = false
  · rw [if_neg hstatus, if_pos hcovered]
    refine iff_of_false (by simp) fun h => ?_
    have hmarked := h.1.2.1 hcovered.1
    rw [hcovered.2] at hmarked
    cases hmarked
  by_cases hfuture : isFuture py case.suppressedUntil now = true ∨
    isFuture py case.snoozedUntil now = true
  · rw [if_neg hstatus, if_neg hcovered, if_pos hfuture]
    refine iff_of_false (by simp) fun h => ?_
    rw [h.2.1, h.2.2] at hfuture
    simp at hfuture
  · rw [if_neg hstatus, if_neg hcovered, if_neg hfuture]
    rw [not_or, Bool.not_eq_true, Bool.not_eq_true] at hfuture
    have hmarked : case.coveredByMetaCase = true → case.independentActionRequired = true := by
      intro h
      by_contra hne
      exact hcovered ⟨h, by simpa using hne⟩
    dsimp only
    cases attentionKind case previous (if case.status = .resolved then .recovered else .firing) now
      reminderSeconds with
    | none => exact iff_of_false (by simp) fun h => by simpa using h.1.2.2
    | some kind =>
      exact iff_of_true ⟨_, rfl⟩ ⟨⟨hstatus, hmarked, kind, rfl⟩, hfuture.1, hfuture.2⟩

end Policy

/-! ## What the condition selects -/

section Selection

variable {pg : Postgres} {case : AtomicCaseProjection} {previous : Option AttentionDelivery}
  {afterCaseId : String} {now reminderSeconds : Int}

theorem CaseStatus.text_resolved (status : CaseStatus) :
    status.text = "resolved" ↔ status = .resolved := by
  cases status <;> decide

theorem AttentionPhase.text_eq (phase other : AttentionPhase) :
    phase.text = other.text ↔ phase = other := by
  cases phase <;> cases other <;> decide

theorem Severity.text_high (severity : Severity) : severity.text = "HIGH" ↔ severity = .high := by
  cases severity <;> decide

theorem severityCase_text (severity : Severity) :
    severityCase (some severity.text) = some (SEVERITY_RANK severity) := by
  cases severity <;> decide

/-- The deadline of a text is in the future, as the database reads it. -/
def pgFuture (pg : Postgres) (value : String) (now : Int) : Prop :=
  ∃ until_ ∈ deadline pg (some value), now < until_

theorem selects_not_heldBack :
    Selects (not ((candidateRow case previous).heldBack pg now)) ↔
      ¬ pgFuture pg case.suppressedUntil now ∧ ¬ pgFuture pg case.snoozedUntil now := by
  have hsuppressed : (candidateRow case previous).c pg "suppressed_until" =
      some case.suppressedUntil := rfl
  have hsnoozed : (candidateRow case previous).c pg "snoozed_until" = some case.snoozedUntil := rfl
  unfold CandidateRow.heldBack pgFuture
  rw [selects_not_exists, hsuppressed, hsnoozed]
  simp

theorem selects_recoveryDue :
    Selects ((candidateRow case previous).recoveryDue pg) ↔
      case.status = .resolved ∧ case.resolutionReason = "positive_clean_observation" ∧
        ∃ d ∈ previous, d.phase = .firing := by
  have hreason : (candidateRow case previous).c pg "resolution_reason" =
      some case.resolutionReason := rfl
  have hphase : (candidateRow case previous).a pg "phase" = some "firing" ↔
      ∃ d ∈ previous, d.phase = .firing := by
    cases previous with
    | none => simp [CandidateRow.a, candidateRow]
    | some d =>
      change some d.phase.text = some AttentionPhase.firing.text ↔ _
      simp [AttentionPhase.text_eq]
  unfold CandidateRow.recoveryDue
  rw [selects_and, selects_and, selects_eq, selects_eq, selects_eq, hphase, hreason,
    Option.some_inj, Option.some_inj]
  exact and_congr_left' (CaseStatus.text_resolved case.status)

/-- A generation is written in decimal. -/
theorem generation_text (a b : Nat) : toString (a : Int) = toString (b : Int) ↔ a = b := by
  refine ⟨fun h => ?_, fun h => by rw [h]⟩
  have hdigits : Nat.toDigits 10 a = Nat.toDigits 10 b := String.ofList_inj.1 h
  have hvalue := congrArg (Nat.ofDigitChars 10 · 0) hdigits
  simpa only [Nat.ofDigitChars_toDigits (b := 10) (by decide) (by decide)] using hvalue

theorem selects_firingDue :
    Selects ((candidateRow case previous).firingDue pg now reminderSeconds) ↔
      case.status ≠ .resolved ∧ case.acknowledgedAt = "" ∧ case.acknowledgedBy = "" ∧
      ∀ d ∈ previous, d.phase = .recovered ∨
        SEVERITY_RANK d.severity < SEVERITY_RANK case.severity ∨
        case.reportGeneration ≠ d.generation ∨
        case.severity = .high ∧ d.deliveredAt ≤ now - max 21600 reminderSeconds * 1000000 := by
  have hstatus : Selects (ne (some case.status.text) (some "resolved")) ↔
      case.status ≠ .resolved := by
    simp [CaseStatus.text_resolved]
  have hat : coalesce ((candidateRow case previous).c pg "acknowledged_at") "" =
      some case.acknowledgedAt := rfl
  have hby : coalesce ((candidateRow case previous).c pg "acknowledged_by") "" =
      some case.acknowledgedBy := rfl
  have hseverity : (candidateRow case previous).c pg "severity" = some case.severity.text := rfl
  have hgeneration : coalesce ((candidateRow case previous).c pg "report_generation") "0" =
      some (toString (case.reportGeneration : Int)) := rfl
  unfold CandidateRow.firingDue
  rw [selects_and, selects_and, selects_and, selects_eq, selects_eq, hat, hby, Option.some_inj,
    Option.some_inj, hseverity, hgeneration, severityCase_text]
  refine and_congr hstatus (and_congr_right fun _ => and_congr_right fun _ => ?_)
  cases previous with
  | none => simp [candidateRow]
  | some d =>
    have hphase : (candidateRow case (some d)).a pg "phase" = some d.phase.text := rfl
    have hrank : severityCase ((candidateRow case (some d)).a pg "severity") =
        some (SEVERITY_RANK d.severity) := severityCase_text d.severity
    have hother : (candidateRow case (some d)).a pg "generation" =
        some (toString (d.generation : Int)) := rfl
    have hrecovered : d.phase.text = "recovered" ↔ d.phase = .recovered :=
      AttentionPhase.text_eq d.phase .recovered
    have hchanged : Selects (ne (some (toString (case.reportGeneration : Int)))
        (some (toString (d.generation : Int)))) ↔ case.reportGeneration ≠ d.generation := by
      rw [selects_ne]
      constructor
      · rintro ⟨_, hthis, _, hthat, h⟩
        cases hthis
        cases hthat
        exact mt (generation_text _ _).2 h
      · intro h
        exact ⟨_, rfl, _, rfl, mt (generation_text _ _).1 h⟩
    rw [hphase, hrank, hother]
    simp only [selects_or, selects_and, selects_isNull, selects_eq, selects_compare, hchanged,
      Option.some_inj, hrecovered, Severity.text_high]
    simp [candidateRow]

/-- **The condition selects a stored case exactly when the case is otherwise due and the database
reads no deadline that is in the future.** -/
theorem selects_where_iff (howned : case.owned = true)
    (hafter : pg.textGreater case.caseId afterCaseId = true) :
    Selects ((candidateRow case previous).where_ pg afterCaseId now reminderSeconds) ↔
      OtherwiseDue case previous now reminderSeconds ∧
        ¬ pgFuture pg case.suppressedUntil now ∧ ¬ pgFuture pg case.snoozedUntil now := by
  have hsource : ∃ source ∈ ((case.payload.get "identity").dict?.bind fun identity =>
      textField pg identity "source"), source ∈ ["alertmanager", "icinga2"] := by
    have hidentity : case.payload.get "identity" = .dict case.identity := rfl
    unfold AtomicCaseProjection.owned at howned
    rw [Bool.or_eq_true, Json.isStr_iff, Json.isStr_iff] at howned
    rw [hidentity]
    rcases howned with hsource | hsource
    · exact ⟨"alertmanager", by simp [Json.dict?, textField, hsource], by decide⟩
    · exact ⟨"icinga2", by simp [Json.dict?, textField, hsource], by decide⟩
  have hstatus : case.status.text ∉ ["closed", "expired", "linked", "recovered_pending"] ↔
      case.status ∉ [.closed, .expired, .linked, .recoveredPending] := by
    cases case.status <;> decide
  have hcovered : (candidateRow case previous).c pg "covered_by_meta_case" ≠ some "true" ∨
      (candidateRow case previous).c pg "independent_action_required" = some "true" ↔
      (case.coveredByMetaCase = true → case.independentActionRequired = true) := by
    change some (if case.coveredByMetaCase = true then "true" else "false") ≠ some "true" ∨
      some (if case.independentActionRequired = true then "true" else "false") = some "true" ↔ _
    cases case.coveredByMetaCase <;> cases case.independentActionRequired <;> decide
  unfold CandidateRow.where_ OtherwiseDue
  simp only [selects_and, selects_or, selects_eq, selects_isIn, selects_not_isIn,
    selects_isDistinctFrom, selects_not_heldBack, selects_recoveryDue, selects_firingDue, hcovered]
  constructor
  · rintro ⟨-, -, -, hopen, hmarked, hdeadlines, hdue⟩
    exact ⟨⟨hstatus.1 hopen, hmarked, hdue⟩, hdeadlines⟩
  · rintro ⟨⟨hopen, hmarked, hdue⟩, hdeadlines⟩
    refine ⟨rfl, ?_, hsource, hstatus.2 hopen, hmarked, hdeadlines, hdue⟩
    exact (selects_compare _ _ _).2 ⟨_, rfl, _, rfl, hafter⟩

end Selection

/-! ## Deadlines -/

section Deadlines

variable {py : Python} {pg : Postgres}

/-- An empty field, or what `isoformat()` wrote. -/
def deadlineText (stamp : Option IsoStamp) : String := (stamp.map IsoStamp.text).getD ""

/-- The interpreter reads the timestamp back.  The database does so for offsets up to 15:59: its
input rejects a time zone displacement of sixteen hours or more. -/
structure ReadsStamp (py : Python) (pg : Postgres) (stamp : IsoStamp) : Prop where
  parseIso : py.parseIso stamp.text = some stamp.instant
  isValid : pg.isValid stamp.text = true ↔ stamp.offset.natAbs < 960
  timestamptz : stamp.offset.natAbs < 960 → pg.timestamptz stamp.text = stamp.instant

theorem dateShaped_text (stamp : IsoStamp) : dateShaped stamp.text.toList = true := by
  unfold IsoStamp.text IsoStamp.date digits4 digits2
  rw [String.toList_ofList]
  simp [dateShaped, isDigit_digit]

theorem zoneShaped_zone (stamp : IsoStamp) : zoneShaped stamp.zone = true := by
  unfold IsoStamp.zone digits2
  split <;> simp [zoneShaped, isDigit_digit]

theorem zoned_append (date : List Char) {rest : List Char}
    (h : rest.tails.any zoneShaped = true) : zoned (date ++ 'T' :: rest) = true := by
  induction date with
  | nil => simp [zoned, h]
  | cons c date ih => simp only [List.cons_append, zoned, ih, Bool.or_true]

theorem zoned_text (stamp : IsoStamp) : zoned stamp.text.toList = true := by
  unfold IsoStamp.text
  rw [String.toList_ofList]
  refine zoned_append _ (List.any_eq_true.2 ⟨stamp.zone, ?_, zoneShaped_zone stamp⟩)
  exact (List.mem_tails _ _).2 (List.suffix_append _ _)

theorem text_ne_empty (stamp : IsoStamp) : stamp.text ≠ "" := by
  intro h
  have hshaped := dateShaped_text stamp
  rw [h] at hshaped
  cases hshaped

/-- A deadline the database reads is the instant it names. -/
theorem pgFuture_text {stamp : Option IsoStamp} {now : Int}
    (h : ∀ s ∈ stamp, ReadsStamp py pg s) :
    pgFuture pg (deadlineText stamp) now ↔
      ∃ s ∈ stamp, s.offset.natAbs < 960 ∧ now < s.instant := by
  unfold pgFuture
  cases stamp with
  | none => simp [deadlineText, deadline, dateShaped]
  | some s =>
    have hs := h s rfl
    change (∃ until_ ∈ deadline pg (some s.text), now < until_) ↔ _
    unfold deadline
    simp only [Option.bind_some, dateShaped_text, zoned_text, true_and, if_true, hs.isValid]
    by_cases hnear : s.offset.natAbs < 960
    · simp [hnear, hs.timestamptz hnear]
    · simp [hnear]

theorem isFuture_text {stamp : Option IsoStamp} {now : Int}
    (h : ∀ s ∈ stamp, ReadsStamp py pg s) :
    isFuture py (deadlineText stamp) now = false ↔ ∀ s ∈ stamp, ¬ now < s.instant := by
  unfold isFuture
  cases stamp with
  | none => simp [deadlineText]
  | some s =>
    change (if s.text = "" then false else _) = false ↔ _
    rw [if_neg (text_ne_empty s), deadlineText, Option.map_some, Option.getD_some,
      (h s rfl).parseIso]
    simp

end Deadlines

/-- Some deadline is in the future, but every such deadline is written with an offset of sixteen
hours or more. -/
def OnlyFarOffset (stamps : List IsoStamp) (now : Int) : Prop :=
  (∃ stamp ∈ stamps, now < stamp.instant) ∧
    ∀ stamp ∈ stamps, now < stamp.instant → 960 ≤ stamp.offset.natAbs

/-- Noon of the second of January 1970, `hours` ahead of UTC. -/
def noonAhead (hours : Nat) (h : hours < 24) : IsoStamp where
  year := 1970
  month := 1
  day := 2
  hour := 12
  minute := 0
  second := 0
  microsecond := 0
  offset := 60 * hours
  year_range := by decide
  month_range := by decide
  day_range := by decide
  time_range := by decide
  offset_range := by omega

/-- An interpreter and a database that read one timestamp. -/
def noonPython (stamp : IsoStamp) : Python := tablePython [(stamp.text, stamp.instant)]

def noonPostgres (stamp : IsoStamp) : Postgres where
  textGreater := fun a b => decide (b < a)
  jsonText := asciiPython.repr
  isValid := fun text => decide (text = stamp.text ∧ stamp.offset.natAbs < 960)
  timestamptz := fun _ => stamp.instant
  timestampUtc := fun _ => stamp.instant

/-- A new alert, suppressed until the timestamp. -/
def suppressedCase (stamp : IsoStamp) : AtomicCaseProjection where
  caseId := "case_1"
  identity := [("source", .str "alertmanager")]
  openedAt := "1970-01-01T00:00:00+00:00"
  updatedAt := "1970-01-01T00:00:00+00:00"
  suppressedUntil := stamp.text

theorem noon_reads (hours : Nat) (h : hours < 24) :
    ReadsStamp (noonPython (noonAhead hours h)) (noonPostgres (noonAhead hours h))
      (noonAhead hours h) where
  parseIso := by simp [noonPython, tablePython]
  isValid := by simp [noonPostgres]
  timestamptz := fun _ => rfl

end NocAgent.Cases
