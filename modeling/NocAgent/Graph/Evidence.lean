import NocAgent.Python.Value

/-!
# What a diagnosis is worth

A specialist's synthesis becomes a finding; its confidence is capped where nothing was measured, and
a proposal is validated only under high confidence.

* `DiagnosticSynthesis.contractHolds` — the checks a synthesis passes whenever it is built or read.
* `evidenceItem`, `specialistFinding` — the finding of a synthesis.
* `evidenceValidation`, `proposalBuild`, `diagnose` — the nodes of the graph, in their order.
* `Unmeasured` — no evidence is flagged, and no tool is named after a measurement.
* `capped_iff` — what is unmeasured is capped exactly when no name only contains the letters of a
  measurement, or the confidence was low anyway.
-/

set_option autoImplicit false

namespace NocAgent

/-! ## The synthesis of an agent -/

/-- The double `0.8`. -/
def DOUBLE_0_80 : ℚ := 3602879701896397 / 4503599627370496

/-- What a tool gave. -/
structure DiagnosticEvidence where
  evidenceId : String := ""
  tool : String := ""
  target : String := ""
  collectedAt : String := ""
  collectionWindow : String := ""
  observedValue : String := ""
  expectedValue : String := ""
  interpretation : String := ""
  directMeasurement : Bool := false
  truncated : Bool := false

/-- `item.model_dump(mode="json")`. -/
def DiagnosticEvidence.dump (item : DiagnosticEvidence) : JsonDict :=
  [("evidence_id", .str item.evidenceId), ("tool", .str item.tool), ("target", .str item.target),
    ("collected_at", .str item.collectedAt), ("collection_window", .str item.collectionWindow),
    ("observed_value", .str item.observedValue), ("expected_value", .str item.expectedValue),
    ("interpretation", .str item.interpretation),
    ("direct_measurement", .bool item.directMeasurement), ("truncated", .bool item.truncated)]

/-- What was observed of a subject. -/
structure StateObservation where
  subject : String := ""
  evidenceRefs : List String := []

/-- Where an attribute is not as expected. -/
structure StateDelta where
  subject : String := ""
  attributeName : String := ""
  expectedValue : String := ""
  observedValue : String := ""
  evidenceRefs : List String := []

/-- A fact, with its evidence. -/
structure ConfirmedFact where
  statement : String := ""
  evidenceRefs : List String := []

/-- A hypothesis, with its evidence. -/
structure Hypothesis where
  statement : String := ""
  evidenceRefs : List String := []

/-- Evidence that does not agree. -/
structure TelemetryContradiction where
  summary : String := ""
  evidenceRefs : List String := []

/-- What is proposed, and what it rests on. -/
structure RemediationProposal where
  proposedActions : List String := []
  evidenceRefs : List String := []
  approvalRequired : Bool := true

/-- The diagnosis that is written. -/
structure DiagnosticSynthesis where
  readOnly : Bool := true
  incidentSummary : String := ""
  observedState : List StateObservation := []
  deltas : List StateDelta := []
  evidenceChain : List DiagnosticEvidence := []
  confirmedFacts : List ConfirmedFact := []
  hypotheses : List Hypothesis := []
  contradictions : List TelemetryContradiction := []
  confidenceScore : ℚ := 0
  confidenceBasis : String := ""
  recommendedNextChecks : List String := []
  remediationProposal : Option RemediationProposal := none
  executedActions : List String := []
  humanEscalationReason : String := ""

/-- `[item.evidence_id for item in self.evidence_chain if item.evidence_id]`. -/
def DiagnosticSynthesis.evidenceIds (s : DiagnosticSynthesis) : List String :=
  (s.evidenceChain.map DiagnosticEvidence.evidenceId).filter (· ≠ "")

/-- `validate_refs`. -/
def validRefs (known : List String) (required : Bool) (refs : List String) : Bool :=
  !(required && refs.isEmpty) && refs.all known.contains

/-- `Field(ge=0.0, le=1.0)`. -/
def isConfidence (x : ℚ) : Bool := 0 ≤ x && x ≤ 1

/-- What the validators of `DiagnosticSynthesis` let pass. -/
def DiagnosticSynthesis.contractHolds (s : DiagnosticSynthesis) : Bool :=
  let known := s.evidenceIds
  s.readOnly && isConfidence s.confidenceScore && s.executedActions.isEmpty &&
    s.remediationProposal.all RemediationProposal.approvalRequired && decide known.Nodup &&
    s.observedState.all (fun o => validRefs known false o.evidenceRefs) &&
    s.deltas.all (fun d => validRefs known true d.evidenceRefs) &&
    s.confirmedFacts.all (fun f => validRefs known true f.evidenceRefs) &&
    s.hypotheses.all (fun h => validRefs known false h.evidenceRefs) &&
    s.contradictions.all (fun c => validRefs known false c.evidenceRefs) &&
    s.remediationProposal.all (fun r => validRefs known true r.evidenceRefs) &&
    !(DOUBLE_0_80 < s.confidenceScore && !s.evidenceChain.any DiagnosticEvidence.directMeasurement)

/-- `DiagnosticSynthesis.model_validate`. -/
def DiagnosticSynthesis.validate (s : DiagnosticSynthesis) : Except PyExc DiagnosticSynthesis :=
  if s.contractHolds then .ok s else .error .validationError

/-! ## The finding -/

def MEASUREMENT_TOKENS : List String :=
  ["tcpdump", "pflog", "nft_log", "ndp", "arp_state", "capture"]

/-- `is_direct_measurement`. -/
def isDirectMeasurement (py : Python) (value : String) : Bool :=
  MEASUREMENT_TOKENS.any fun token => hasText token (py.lower value)

/-- A line of evidence of a specialist. -/
structure EvidenceItem where
  tool : String
  summary : String
  directMeasurement : Bool := false
  payload : JsonDict := []

/-- The first text that is not empty, or the last. -/
def firstText : List String → String
  | [] => ""
  | [text] => text
  | text :: rest => if text = "" then firstText rest else text

/-- `_evidence_item`. -/
def evidenceItem (py : Python) (item : DiagnosticEvidence) : EvidenceItem :=
  let evidenceId := firstText [item.evidenceId, item.tool, "agent_observation"]
  let source := if item.tool = "" ∧ item.target = "" then evidenceId
    else item.tool ++ "(" ++ item.target ++ ")"
  let reading := firstText
    [item.interpretation, item.observedValue, "Agent reported diagnostic evidence."]
  { tool := evidenceId
    summary := ": ".intercalate ([source, reading].filter (· ≠ ""))
    directMeasurement := item.directMeasurement || isDirectMeasurement py item.tool
    payload := item.dump }

inductive FindingSpecialist where
  | bgp
  | securityFirewall
  | infrastructure
  deriving DecidableEq, Repr

/-- What a specialist found. -/
structure SpecialistFinding where
  specialist : FindingSpecialist
  summary : String
  assessment : String
  confidence : ℚ
  evidence : List EvidenceItem := []

/-- `SpecialistFinding.model_validate`. -/
def SpecialistFinding.validate (finding : SpecialistFinding) : Except PyExc SpecialistFinding :=
  if isConfidence finding.confidence then .ok finding else .error .validationError

/-- `title + "; ".join(...)` of the texts that are not empty, where there are any items. -/
def assessmentSection (title : String) (texts : List String) : List String :=
  if texts = [] then [] else [title ++ "; ".intercalate (texts.filter (· ≠ ""))]

/-- What an assessment says of a delta. -/
def StateDelta.text (delta : StateDelta) : String :=
  if delta.subject = "" ∧ delta.attributeName = "" ∧ delta.expectedValue = "" ∧
      delta.observedValue = "" then ""
  else delta.subject ++ " " ++ delta.attributeName ++ ": expected " ++ delta.expectedValue ++
    ", observed " ++ delta.observedValue

/-- `_synthesis_assessment`. -/
def synthesisAssessment (synthesis : DiagnosticSynthesis) : String :=
  let sections :=
    assessmentSection "Facts: " (synthesis.confirmedFacts.map ConfirmedFact.statement) ++
    assessmentSection "Deltas: " (synthesis.deltas.map StateDelta.text) ++
    assessmentSection "Hypotheses: " (synthesis.hypotheses.map Hypothesis.statement) ++
    assessmentSection "Contradictions: "
      (synthesis.contradictions.map TelemetryContradiction.summary) ++
    if synthesis.confidenceBasis = "" then [] else
      ["Confidence basis: " ++ synthesis.confidenceBasis]
  firstText [strip ("\n".intercalate sections), synthesis.incidentSummary]

/-- The finding that `_run_specialist` builds. -/
def specialistFinding (py : Python) (specialist : FindingSpecialist)
    (synthesis : DiagnosticSynthesis) : SpecialistFinding where
  specialist := specialist
  summary := synthesis.incidentSummary
  assessment := synthesisAssessment synthesis
  confidence := synthesis.confidenceScore
  evidence := synthesis.evidenceChain.map (evidenceItem py)

/-! ## The nodes -/

inductive ValidationStatus where
  | notRun
  | validated
  | needsMoreEvidence
  deriving DecidableEq, Repr

/-- The change that a diagnosis leads to. -/
structure ChangeProposal where
  incidentId : String
  resourceId : String
  assessment : String
  rootCauseHypothesis : String
  confidence : ℚ
  evidenceRefs : List String := []
  driftFindings : List String := []
  proposedRemediation : List String := []
  structuredActions : List JsonDict := []
  validationStatus : ValidationStatus := .notRun
  humanReviewRationale : String := ""

/-- What the nodes of a diagnosis read and write. -/
structure DiagnosisState where
  incidentId : String
  resourceId : String
  specialistFinding : SpecialistFinding
  diagnosticSynthesis : DiagnosticSynthesis
  driftFindings : List String := []
  proposals : List ChangeProposal := []

/-- The confidence that `evidence_validation` leaves. -/
def validatedConfidence (finding : SpecialistFinding) : ℚ :=
  let direct := finding.evidence.any EvidenceItem.directMeasurement
  let confidence := if DOUBLE_0_80 < finding.confidence ∧ direct = false then DOUBLE_0_80
    else finding.confidence
  if direct = false ∧ 1 / 2 < confidence then 1 / 2 else confidence

/-- `evidence_validation`. -/
def evidenceValidation (state : DiagnosisState) : Except PyExc DiagnosisState :=
  match state.specialistFinding.validate with
  | .error e => .error e
  | .ok finding =>
    match state.diagnosticSynthesis.validate with
    | .error e => .error e
    | .ok synthesis => .ok { state with
        specialistFinding := { finding with confidence := validatedConfidence finding }
        diagnosticSynthesis := { synthesis with confidenceScore := validatedConfidence finding } }

/-- `golden_state_drift_check`; `drifts` is what `drift_findings_for` returns. -/
def goldenStateDriftCheck (drifts : List String) (state : DiagnosisState) : DiagnosisState :=
  { state with driftFindings := drifts }

/-- The texts that a synthesis proposes. -/
def DiagnosticSynthesis.proposed (synthesis : DiagnosticSynthesis) : List String :=
  synthesis.remediationProposal.elim synthesis.recommendedNextChecks
    RemediationProposal.proposedActions

/-- `proposal_build`; `structuredActions` are the actions that `_structured_actions` reads in the
proposed texts. -/
def proposalBuild (structuredActions : List String → Except PyExc (List JsonDict))
    (state : DiagnosisState) : Except PyExc DiagnosisState :=
  match state.specialistFinding.validate with
  | .error e => .error e
  | .ok finding =>
    match state.diagnosticSynthesis.validate with
    | .error e => .error e
    | .ok synthesis =>
      match structuredActions synthesis.proposed with
      | .error e => .error e
      | .ok actions => .ok { state with proposals := [{
          incidentId := state.incidentId
          resourceId := state.resourceId
          assessment := finding.summary
          rootCauseHypothesis := finding.assessment
          confidence := finding.confidence
          evidenceRefs := synthesis.remediationProposal.elim
            (finding.evidence.map EvidenceItem.tool) RemediationProposal.evidenceRefs
          driftFindings := state.driftFindings
          proposedRemediation := synthesis.proposed
          structuredActions := actions
          validationStatus := if finding.confidence < DOUBLE_0_80 then .needsMoreEvidence
            else .validated
          humanReviewRationale := firstText [synthesis.humanEscalationReason,
            "Diagnostic tranche requires human review before any execution."] }] }

/-- What an agent is asked about. -/
structure DiagnosisRequest where
  incidentId : String
  resourceId : String
  specialist : FindingSpecialist
  drifts : List String := []
  structuredActions : List String → Except PyExc (List JsonDict)

/-- What a specialist leaves. -/
def DiagnosisRequest.specialistState (py : Python) (request : DiagnosisRequest)
    (synthesis : DiagnosticSynthesis) : DiagnosisState where
  incidentId := request.incidentId
  resourceId := request.resourceId
  specialistFinding := specialistFinding py request.specialist synthesis
  diagnosticSynthesis := synthesis

/-- From the synthesis of the agent to the proposal: a specialist, `evidence_validation`,
`golden_state_drift_check` and `proposal_build`. -/
def diagnose (py : Python) (request : DiagnosisRequest) (reported : DiagnosticSynthesis) :
    Except PyExc DiagnosisState :=
  match reported.validate with
  | .error e => .error e
  | .ok synthesis =>
    match evidenceValidation (request.specialistState py synthesis) with
    | .error e => .error e
    | .ok state =>
      proposalBuild request.structuredActions (goldenStateDriftCheck request.drifts state)

/-! ## The property -/

/-- A text between underscores and hyphens. -/
def delimitedWords (text : String) : List (List Char) :=
  text.toList.splitOnP fun c => c = '_' || c = '-'

/-- The words of a measurement follow each other in the name of the tool. -/
def NamesMeasurement (py : Python) (tool : String) : Prop :=
  ∃ token ∈ MEASUREMENT_TOKENS, delimitedWords token <:+: delimitedWords (py.lower tool)

instance (py : Python) (tool : String) : Decidable (NamesMeasurement py tool) := by
  unfold NamesMeasurement
  infer_instance

/-- No evidence is flagged as measured, and no tool is named after a measurement. -/
def Unmeasured (py : Python) (evidence : List DiagnosticEvidence) : Prop :=
  ∀ item ∈ evidence, item.directMeasurement = false ∧ ¬ NamesMeasurement py item.tool

instance (py : Python) (evidence : List DiagnosticEvidence) : Decidable (Unmeasured py evidence) :=
  inferInstanceAs (Decidable (∀ item ∈ evidence, _))

/-- **The diagnosis is not trusted.** -/
structure Capped (state : DiagnosisState) : Prop where
  finding : state.specialistFinding.confidence ≤ 1 / 2
  synthesis : state.diagnosticSynthesis.confidenceScore ≤ 1 / 2
  proposals : ∀ proposal ∈ state.proposals, proposal.validationStatus = .needsMoreEvidence

/-- A name has the letters of a measurement in it. -/
def ContainsMeasurement (py : Python) (tool : String) : Prop :=
  ∃ token ∈ MEASUREMENT_TOKENS, hasText token (py.lower tool) = true

instance (py : Python) (tool : String) : Decidable (ContainsMeasurement py tool) :=
  inferInstanceAs (Decidable (∃ token ∈ MEASUREMENT_TOKENS, _))

/-! ## The nodes one after the other -/

section Diagnosis

variable {py : Python} {request : DiagnosisRequest} {reported : DiagnosticSynthesis}

theorem isDirectMeasurement_iff {tool : String} :
    isDirectMeasurement py tool = true ↔ ContainsMeasurement py tool := by
  unfold isDirectMeasurement
  rw [List.any_eq_true]
  rfl

/-- The evidence of a finding is measured when an item is flagged or its tool looks like it. -/
theorem direct_specialistFinding (py : Python) (specialist : FindingSpecialist)
    (reported : DiagnosticSynthesis) :
    (specialistFinding py specialist reported).evidence.any EvidenceItem.directMeasurement = true ↔
      ∃ item ∈ reported.evidenceChain,
        item.directMeasurement = true ∨ ContainsMeasurement py item.tool := by
  unfold specialistFinding
  rw [List.any_map, List.any_eq_true]
  refine exists_congr fun item => and_congr_right fun _ => ?_
  rw [← isDirectMeasurement_iff, ← Bool.or_eq_true_iff]
  rfl

theorem validatedConfidence_direct {finding : SpecialistFinding}
    (h : finding.evidence.any EvidenceItem.directMeasurement = true) :
    validatedConfidence finding = finding.confidence := by
  unfold validatedConfidence
  simp [h]

/-- Without a measurement the confidence is at most a half. -/
theorem validatedConfidence_unmeasured {finding : SpecialistFinding}
    (h : finding.evidence.any EvidenceItem.directMeasurement = false) :
    validatedConfidence finding = min finding.confidence (1 / 2) := by
  unfold validatedConfidence
  simp only [h, and_true, true_and]
  by_cases hhigh : DOUBLE_0_80 < finding.confidence
  · have hhalf : (1 : ℚ) / 2 < DOUBLE_0_80 := by norm_num [DOUBLE_0_80]
    rw [if_pos hhigh, if_pos hhalf, min_eq_right (hhalf.trans hhigh).le]
  · rw [if_neg hhigh]
    by_cases hhalf : 1 / 2 < finding.confidence
    · rw [if_pos hhalf, min_eq_right hhalf.le]
    · rw [if_neg hhalf, min_eq_left (not_lt.1 hhalf)]

/-- The confidence is never raised, and stays a confidence. -/
theorem validatedConfidence_mem (finding : SpecialistFinding)
    (h : isConfidence finding.confidence = true) :
    isConfidence (validatedConfidence finding) = true ∧
      validatedConfidence finding ≤ finding.confidence := by
  cases hdirect : finding.evidence.any EvidenceItem.directMeasurement with
  | true =>
    rw [validatedConfidence_direct hdirect]
    exact ⟨h, le_rfl⟩
  | false =>
    rw [validatedConfidence_unmeasured hdirect]
    simp only [isConfidence, Bool.and_eq_true, decide_eq_true_eq] at h ⊢
    exact ⟨⟨le_min h.1 (by norm_num), (min_le_left _ _).trans h.2⟩, min_le_left _ _⟩

/-- A synthesis whose confidence is lowered passes its checks again. -/
theorem contractHolds_lowered {confidence : ℚ} (h : reported.contractHolds = true)
    (hconfidence : isConfidence confidence = true) (hle : confidence ≤ reported.confidenceScore) :
    DiagnosticSynthesis.contractHolds { reported with confidenceScore := confidence } = true := by
  unfold DiagnosticSynthesis.contractHolds DiagnosticSynthesis.evidenceIds at h ⊢
  simp only [Bool.and_eq_true] at h ⊢
  obtain ⟨⟨⟨⟨⟨⟨⟨⟨⟨⟨⟨hread, -⟩, hactions⟩, happroval⟩, hids⟩, hobserved⟩, hdeltas⟩, hfacts⟩,
    hhypotheses⟩, hcontradictions⟩, hremediation⟩, hmeasured⟩ := h
  refine ⟨⟨⟨⟨⟨⟨⟨⟨⟨⟨⟨hread, hconfidence⟩, hactions⟩, happroval⟩, hids⟩, hobserved⟩, hdeltas⟩,
    hfacts⟩, hhypotheses⟩, hcontradictions⟩, hremediation⟩, ?_⟩
  simp only [Bool.not_eq_true', Bool.and_eq_false_iff, decide_eq_false_iff_not] at hmeasured ⊢
  exact hmeasured.imp_left fun hlow hhigh => hlow (hhigh.trans_le hle)

/-- The confidence of a diagnosis. -/
def diagnosedConfidence (py : Python) (request : DiagnosisRequest)
    (reported : DiagnosticSynthesis) : ℚ :=
  validatedConfidence (specialistFinding py request.specialist reported)

/-- What a diagnosis leaves. -/
structure Diagnosed (py : Python) (request : DiagnosisRequest) (reported : DiagnosticSynthesis)
    (done : DiagnosisState) : Prop where
  finding : done.specialistFinding.confidence = diagnosedConfidence py request reported
  synthesis : done.diagnosticSynthesis.confidenceScore = diagnosedConfidence py request reported
  proposals : ∃ proposal, done.proposals = [proposal] ∧
    proposal.confidence = diagnosedConfidence py request reported ∧
    proposal.validationStatus = if diagnosedConfidence py request reported < DOUBLE_0_80
      then .needsMoreEvidence else .validated

theorem validate_of_contract (h : reported.contractHolds = true) :
    reported.validate = .ok reported := by
  unfold DiagnosticSynthesis.validate
  rw [if_pos h]

theorem validate_of_confidence {finding : SpecialistFinding}
    (h : isConfidence finding.confidence = true) : finding.validate = .ok finding := by
  unfold SpecialistFinding.validate
  rw [if_pos h]

theorem evidenceValidation_eq (state : DiagnosisState)
    (hfinding : isConfidence state.specialistFinding.confidence = true)
    (hsynthesis : state.diagnosticSynthesis.contractHolds = true) :
    evidenceValidation state = .ok { state with
      specialistFinding := { state.specialistFinding with
        confidence := validatedConfidence state.specialistFinding }
      diagnosticSynthesis := { state.diagnosticSynthesis with
        confidenceScore := validatedConfidence state.specialistFinding } } := by
  unfold evidenceValidation
  rw [validate_of_confidence hfinding, validate_of_contract hsynthesis]

/-- The proposal of a state. -/
theorem proposalBuild_cases (structuredActions : List String → Except PyExc (List JsonDict))
    (state : DiagnosisState) (hfinding : isConfidence state.specialistFinding.confidence = true)
    (hsynthesis : state.diagnosticSynthesis.contractHolds = true) :
    (∃ e, structuredActions state.diagnosticSynthesis.proposed = .error e ∧
      proposalBuild structuredActions state = .error e) ∨
    ∃ actions proposal, structuredActions state.diagnosticSynthesis.proposed = .ok actions ∧
      proposalBuild structuredActions state = .ok { state with proposals := [proposal] } ∧
      proposal.confidence = state.specialistFinding.confidence ∧
      proposal.validationStatus = if state.specialistFinding.confidence < DOUBLE_0_80
        then .needsMoreEvidence else .validated := by
  unfold proposalBuild
  rw [validate_of_confidence hfinding, validate_of_contract hsynthesis]
  dsimp only
  cases structuredActions state.diagnosticSynthesis.proposed with
  | error e => exact Or.inl ⟨e, rfl, rfl⟩
  | ok actions => exact Or.inr ⟨actions, _, rfl, rfl, rfl, rfl⟩

theorem isConfidence_of_contract (h : reported.contractHolds = true) :
    isConfidence reported.confidenceScore = true := by
  unfold DiagnosticSynthesis.contractHolds at h
  simp only [Bool.and_eq_true] at h
  exact h.1.1.1.1.1.1.1.1.1.1.2

/-- The state between the nodes. -/
theorem diagnose_eq (py : Python) (request : DiagnosisRequest)
    (h : reported.contractHolds = true) :
    ∃ state : DiagnosisState, diagnose py request reported =
        proposalBuild request.structuredActions state ∧
      state.specialistFinding.confidence = diagnosedConfidence py request reported ∧
      state.diagnosticSynthesis = { reported with
        confidenceScore := diagnosedConfidence py request reported } := by
  unfold diagnose
  rw [validate_of_contract h]
  dsimp only
  rw [evidenceValidation_eq (request.specialistState py reported) (isConfidence_of_contract h) h]
  exact ⟨_, rfl, rfl, rfl⟩

/-- **A diagnosis comes to an end** where the synthesis passes its checks and the actions in the
proposed texts can be read. -/
theorem diagnose_cases (py : Python) (request : DiagnosisRequest)
    (h : reported.contractHolds = true) :
    (∃ e, request.structuredActions reported.proposed = .error e ∧
      diagnose py request reported = .error e) ∨
    ∃ actions done, request.structuredActions reported.proposed = .ok actions ∧
      diagnose py request reported = .ok done ∧ Diagnosed py request reported done := by
  obtain ⟨state, hdiagnose, hfinding, hsynthesis⟩ := diagnose_eq py request h
  obtain ⟨hconfidence, hle⟩ := validatedConfidence_mem
    (specialistFinding py request.specialist reported) (isConfidence_of_contract h)
  have hlowered := contractHolds_lowered h hconfidence hle
  have hproposed : state.diagnosticSynthesis.proposed = reported.proposed := by
    rw [hsynthesis]
    rfl
  rw [hdiagnose, ← hproposed]
  rcases proposalBuild_cases request.structuredActions state
    (by rw [hfinding]; exact hconfidence) (by rw [hsynthesis]; exact hlowered) with
    hraised | ⟨actions, proposal, hactions, hbuilt, hproposal, hstatus⟩
  · exact Or.inl hraised
  · rw [hfinding] at hproposal hstatus
    exact Or.inr ⟨actions, _, hactions, hbuilt,
      hfinding, by rw [hsynthesis], proposal, rfl, hproposal, hstatus⟩

theorem Diagnosed.capped_iff_le {done : DiagnosisState} (h : Diagnosed py request reported done) :
    Capped done ↔ diagnosedConfidence py request reported ≤ 1 / 2 := by
  obtain ⟨proposal, hproposals, -, hvalidation⟩ := h.proposals
  refine ⟨fun hcapped => h.finding ▸ hcapped.finding, fun hle =>
    ⟨h.finding ▸ hle, h.synthesis ▸ hle, fun other hother => ?_⟩⟩
  rw [hproposals, List.mem_singleton] at hother
  rw [hother, hvalidation, if_pos (hle.trans_lt (by norm_num [DOUBLE_0_80]))]

/-- A synthesis that does not pass its checks is refused. -/
theorem contractHolds_of_diagnose {done : DiagnosisState}
    (h : diagnose py request reported = .ok done) : reported.contractHolds = true := by
  by_contra hnot
  unfold diagnose DiagnosticSynthesis.validate at h
  rw [if_neg hnot] at h
  cases h

theorem diagnosed_of_diagnose {done : DiagnosisState}
    (h : diagnose py request reported = .ok done) : Diagnosed py request reported done := by
  rcases diagnose_cases py request (contractHolds_of_diagnose h) with
    ⟨e, -, herror⟩ | ⟨actions, done', -, hdone, hspec⟩
  · rw [h] at herror
    cases herror
  · rw [h] at hdone
    cases hdone
    exact hspec

end Diagnosis

/-- **What is unmeasured is not trusted exactly when** no tool's name has the letters of a
measurement in it, or the confidence was low anyway. -/
theorem capped_iff (py : Python) (request : DiagnosisRequest) (reported : DiagnosticSynthesis)
    (hunmeasured : Unmeasured py reported.evidenceChain) {done : DiagnosisState}
    (h : diagnose py request reported = .ok done) :
    Capped done ↔ (∀ item ∈ reported.evidenceChain, ¬ ContainsMeasurement py item.tool) ∨
      reported.confidenceScore ≤ 1 / 2 := by
  have hdirect := direct_specialistFinding py request.specialist reported
  rw [(diagnosed_of_diagnose h).capped_iff_le]
  by_cases hnone : ∀ item ∈ reported.evidenceChain, ¬ ContainsMeasurement py item.tool
  · refine iff_of_true ?_ (Or.inl hnone)
    have hindirect : (specialistFinding py request.specialist reported).evidence.any
        EvidenceItem.directMeasurement = false := by
      rw [Bool.eq_false_iff, Ne, hdirect]
      rintro ⟨item, hitem, hflag | hname⟩
      · rw [(hunmeasured item hitem).1] at hflag
        cases hflag
      · exact hnone item hitem hname
    unfold diagnosedConfidence
    rw [validatedConfidence_unmeasured hindirect]
    exact min_le_right _ _
  · rw [or_iff_right hnone]
    push Not at hnone
    obtain ⟨item, hitem, hname⟩ := hnone
    unfold diagnosedConfidence
    rw [validatedConfidence_direct (hdirect.2 ⟨item, hitem, Or.inr hname⟩)]
    rfl

/-! ## A journal and an endpoint -/

/-- The diagnosis ends, and is not trusted. -/
def EndsCapped (outcome : Except PyExc DiagnosisState) : Prop :=
  ∃ done, outcome = .ok done ∧ Capped done

def webRequest : DiagnosisRequest where
  incidentId := "inc_1"
  resourceId := "web1"
  specialist := .infrastructure
  structuredActions _ := .ok []

/-- What an agent reports after one call of a tool. -/
def toolReport (tool : String) : DiagnosticSynthesis where
  incidentSummary := "web1 is slow"
  evidenceChain := [{ evidenceId := "ev1", tool := tool, target := "web1" }]
  confidenceScore := DOUBLE_0_80

theorem endsCapped_journal :
    EndsCapped (diagnose asciiPython webRequest (toolReport "os_service_logs")) := by
  have hcontract : (toolReport "os_service_logs").contractHolds = true := by decide +kernel
  rcases diagnose_cases asciiPython webRequest hcontract with ⟨e, herror, -⟩ | ⟨_, done, -, h, -⟩
  · cases herror
  · refine ⟨done, h, (capped_iff asciiPython webRequest _ (by decide +kernel) h).2 (Or.inl ?_)⟩
    simp only [toolReport, List.forall_mem_singleton]
    decide +kernel

/-- **The letters of `ndp` are in `endpoint`**, and the confidence of the agent stands. -/
theorem endpoint_trusted : ∃ done,
    diagnose asciiPython webRequest (toolReport "http_endpoint_check") = .ok done ∧
      Unmeasured asciiPython (toolReport "http_endpoint_check").evidenceChain ∧ ¬ Capped done := by
  have hcontract : (toolReport "http_endpoint_check").contractHolds = true := by decide +kernel
  rcases diagnose_cases asciiPython webRequest hcontract with
    ⟨e, herror, -⟩ | ⟨_, done, -, h, hspec⟩
  · cases herror
  · refine ⟨done, h, by decide +kernel, fun hcapped => ?_⟩
    have hle := hspec.capped_iff_le.1 hcapped
    revert hle
    decide +kernel

end NocAgent
