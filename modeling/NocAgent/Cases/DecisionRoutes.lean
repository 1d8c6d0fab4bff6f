import NocAgent.Cases.OperatorDecisions

/-!
# Which decisions close a case

* `Identified` — cases have ids without blanks around them, and aliases are of stored cases;
  `identified_run` — it holds of every reachable store.
* `Store.verdict?` — the status of a case and when it was resolved; each part of the routes leaves
  them alone or says what it does to them.
* `recordOperatorDecision_verdict` — a decision that is no verdict resolves a case that has a
  summary.
* `onlyVerdictsClose_iff` — when it closes none, and the control route and the loop console agree.
-/

set_option autoImplicit false

namespace NocAgent.Cases

open Effects Effects.Action Keyed Lts

/-! ## Finding a case -/

/-- Every case is found under its stripped id, and every alias is of a stored case. -/
structure Identified (s : Store) : Prop where
  named : ∀ {caseId case}, s.atomicCase? caseId = some case → strip caseId = caseId ∧ caseId ≠ ""
  owned : ∀ row ∈ s.aliases.rows, (s.atomicCase? row.caseId).isSome

section Finding

variable {s t : Store} {identifier caseId : String} {case : AtomicCaseProjection}

/-- A stored case is found under its own id. -/
theorem graphCase?_self (h : s.atomicCase? caseId = some case) (hid : strip caseId = caseId)
    (hne : caseId ≠ "") : s.graphCase? caseId = some case := by
  have hfound : s.graphCaseId? caseId = some caseId := by
    unfold Store.graphCaseId?
    rw [hid, if_neg hne, h]
    exact congrArg some (caseId_of_atomicCase? h)
  unfold Store.graphCase?
  rw [hfound, Option.getD_some]
  unfold orText
  rw [if_neg hne]
  exact h

theorem caseByNumber?_stored (h : s.caseByNumber? identifier = some caseId) :
    (s.atomicCase? caseId).isSome := by
  obtain ⟨case, hfound, rfl⟩ := Option.map_eq_some_iff.1 h
  have hmem : case ∈ s.cases.rows.filterMap CaseProjection.atomic? :=
    (List.mem_insertionSort _).1 (List.mem_of_mem_take (List.mem_of_find?_eq_some hfound))
  obtain ⟨row, hrow, hatomic⟩ := List.mem_filterMap.1 hmem
  rw [CaseProjection.atomic?_eq_some.1 hatomic] at hrow
  exact Option.isSome_iff_exists.2 ⟨case, atomicCase?_eq_some.2 (Table.mem_rows_iff.1 hrow)⟩

theorem resolves?_stored (hs : Identified s) {aliasType : AliasType}
    (h : s.resolves? aliasType identifier = some caseId) : (s.atomicCase? caseId).isSome := by
  obtain ⟨row, hrow, hopen⟩ := Option.bind_eq_some_iff.1 h
  obtain ⟨aliasId, -, hget⟩ := Option.bind_eq_some_iff.1 hrow
  split at hopen
  · cases hopen
    exact hs.owned row (Table.mem_of_get? hget)
  · cases hopen

theorem aliasedCaseId?_stored (hs : Identified s) : ∀ {aliasTypes : List AliasType},
    s.aliasedCaseId? identifier aliasTypes = some caseId → (s.atomicCase? caseId).isSome
  | [], h => caseByNumber?_stored h
  | _ :: _, h => by
    rcases Option.or_eq_some_iff.1 h with hfirst | ⟨-, hrest⟩
    · exact resolves?_stored hs (Option.filter_eq_some_iff.1 hfirst).1
    · exact aliasedCaseId?_stored hs hrest

theorem graphCaseId?_stored (hs : Identified s) (h : s.graphCaseId? identifier = some caseId) :
    (s.atomicCase? caseId).isSome := by
  unfold Store.graphCaseId? at h
  split at h
  · cases h
  · rcases Option.or_eq_some_iff.1 h with hdirect | ⟨-, halias⟩
    · obtain ⟨case, hcase, rfl⟩ := Option.map_eq_some_iff.1 hdirect
      rw [caseId_of_atomicCase? hcase, hcase]
      rfl
    · exact aliasedCaseId?_stored hs halias

/-- `resolve_case_identifier(identifier) or identifier`. -/
def Store.resolvedId (s : Store) (identifier : String) : String :=
  orText ((s.graphCaseId? identifier).getD "") identifier

/-- Resolving an identifier once more finds the same case. -/
theorem graphCase?_resolvedId (hs : Identified s) (identifier : String) :
    s.graphCase? (s.resolvedId identifier) = s.graphCase? identifier := by
  cases hid : s.graphCaseId? identifier with
  | none =>
    have hsame : s.resolvedId identifier = identifier := by
      unfold Store.resolvedId
      rw [hid]
      rfl
    rw [hsame]
  | some caseId =>
    obtain ⟨case, hcase⟩ := Option.isSome_iff_exists.1 (graphCaseId?_stored hs hid)
    obtain ⟨hstrip, hne⟩ := hs.named hcase
    have hsame : s.resolvedId identifier = caseId := by
      unfold Store.resolvedId orText
      rw [hid, Option.getD_some, if_neg hne]
    have hfound : s.graphCase? identifier = s.atomicCase? (s.resolvedId identifier) := rfl
    rw [hfound, hsame, hcase]
    exact graphCase?_self hcase hstrip hne

theorem graphCase?_caseId (h : s.graphCase? identifier = some case) :
    case.caseId = s.resolvedId identifier :=
  caseId_of_atomicCase? h

end Finding

/-! ## Status and resolution -/

/-- The status of a case and when it was resolved. -/
def Store.verdict? (s : Store) (caseId : String) : Option (CaseStatus × Option String) :=
  (s.atomicCase? caseId).map fun case => (case.status, case.resolvedAt)

section Verdicts

variable {s t : Store} {case written : AtomicCaseProjection}

theorem verdict?_put (h : t.cases = s.cases.put (.atomic written)) :
    t.verdict? = Function.update s.verdict? written.caseId
      (some (written.status, written.resolvedAt)) := by
  funext caseId
  unfold Store.verdict?
  rw [atomicCase?_put h]
  by_cases hid : written.caseId = caseId
  · subst hid
    rw [if_pos rfl, Function.update_self]
    rfl
  · rw [if_neg hid, Function.update_of_ne (Ne.symm hid)]

/-- Writing a case back with the status and the resolution it has. -/
theorem verdict?_rewritten (h : t.cases = s.cases.put (.atomic written))
    (hstored : s.atomicCase? written.caseId = some case) (hstatus : written.status = case.status)
    (hresolved : written.resolvedAt = case.resolvedAt) : t.verdict? = s.verdict? := by
  rw [verdict?_put h, hstatus, hresolved]
  refine Function.update_eq_self_iff.2 ?_
  unfold Store.verdict?
  rw [hstored]
  rfl

/-- A case becomes resolved: nothing changes exactly when it was. -/
theorem update_resolved_iff (hstored : s.atomicCase? case.caseId = some case) (now : String) :
    Function.update s.verdict? case.caseId (some (.resolved, some (case.resolvedAt.getD now))) =
      s.verdict? ↔ case.status = .resolved ∧ case.resolvedAt.isSome := by
  have hverdict : s.verdict? case.caseId = some (case.status, case.resolvedAt) := by
    unfold Store.verdict?
    rw [hstored]
    rfl
  rw [Function.update_eq_self_iff, hverdict, Option.some.injEq, Prod.mk.injEq]
  refine and_congr eq_comm ?_
  cases case.resolvedAt with
  | none => simp
  | some resolvedAt => simp

theorem storeEvent_verdict (event : CaseEvent) : Fixes Store.verdict? (storeEvent event) :=
  storeEvent_fixes (fun _ _ _ => rfl) event

/-- The guard itself writes nothing. -/
theorem caseWriteGuard_verdict {α : Type} (caseId : String) {body : StoreM α}
    (h : Fixes Store.verdict? body) : Fixes Store.verdict? (caseWriteGuard caseId body) :=
  Fixes.bind (Fixes.peek _) fun _ => Fixes.bind (Fixes.raiseIf _ _) fun _ => h

theorem ack_verdict (policy : CasePolicy) (caseId operator eventId now : String) (draw : Draw) :
    Fixes Store.verdict? (ack policy caseId operator eventId now draw) := by
  intro s
  cases hcase : s.atomicCase? caseId with
  | none =>
    unfold ack
    rw [requireAtomicCase_bind_run, hcase]
  | some case =>
    obtain ⟨ev, ix, hrun⟩ := ack_run policy hcase operator eventId now draw
    rw [hrun]
    have hstored : s.atomicCase? (acknowledgedCase policy case operator now).caseId = some case := by
      rw [← caseId_of_atomicCase? hcase] at hcase
      exact hcase
    exact verdict?_rewritten rfl hstored rfl rfl

theorem recordFeedback_verdict (feedback : OperatorFeedback) :
    Fixes Store.verdict? (recordFeedback feedback) := by
  refine Fixes.bind (Fixes.peek _) fun existing => ?_
  cases existing with
  | some existing => exact Fixes.pure _
  | none => exact Fixes.bind (Fixes.alter fun _ => rfl) fun _ => Fixes.pure _

theorem recordOperatorFeedback_verdict (policy : CasePolicy) (feedback : OperatorFeedback)
    (now : String) (draw : Draw) :
    Fixes Store.verdict? (recordOperatorFeedback policy feedback now draw) := by
  refine Fixes.bind (recordFeedback_verdict feedback) fun stored => ?_
  cases truthyId stored.caseId with
  | none => exact Fixes.pure _
  | some caseId =>
    intro s
    dsimp only
    rw [requireAtomicCase_bind_run]
    cases hcase : s.atomicCase? caseId with
    | none => rfl
    | some case =>
      have hid := caseId_of_atomicCase? hcase
      subst hid
      dsimp only
      split
      · rfl
      · unfold putCase
        rw [alter_bind_run]
        refine (Fixes.bind (storeEvent_verdict _) (fun _ => Fixes.pure _) _).trans ?_
        exact verdict?_rewritten (s := s) rfl hcase rfl rfl

theorem writeOperatorFeedback_verdict (py : Python) (policy : CasePolicy) (caseId : String)
    (request : DecisionRequest) (payload : JsonDict) (submittedIdentifier feedbackId : String)
    (draws : DecisionDraws) : Fixes Store.verdict?
      (writeOperatorFeedback py policy caseId request payload submittedIdentifier feedbackId draws) :=
  Fixes.bind (Fixes.raiseIf _ _) fun _ =>
    caseWriteGuard_verdict caseId (recordOperatorFeedback_verdict policy _ _ _)

end Verdicts

/-! ## A decision that is no verdict -/

/-- Printable ASCII characters are in no Unicode category that begins with C. -/
def PrintsAscii (py : Python) : Prop :=
  ∀ c : Char, 32 ≤ c.toNat → c.toNat < 127 → py.isOther c = false

section Recording

variable {py : Python} {s : Store} {case : AtomicCaseProjection}

theorem safeString_ascii (hpy : PrintsAscii py) {text : String} {limit : Nat}
    (hascii : ∀ c ∈ text.toList, 32 ≤ c.toNat ∧ c.toNat < 127)
    (hlength : text.toList.length ≤ limit) : safeString py limit (.str text) = text := by
  have hnul : text.toList.filter (fun c => c ≠ Char.ofNat 0) = text.toList := by
    refine List.filter_eq_self.2 fun c hc => decide_eq_true ?_
    rintro rfl
    exact absurd (hascii _ hc).1 (by decide)
  have hkept : text.toList.filter (fun c => c ∈ "\n\r\t".toList ∨ py.isOther c = false) =
      text.toList :=
    List.filter_eq_self.2 fun c hc =>
      decide_eq_true (Or.inr (hpy c (hascii c hc).1 (hascii c hc).2))
  unfold safeString takeChars
  rw [textOf_str]
  dsimp only
  rw [hnul, hkept, String.toList_ofList, List.take_of_length_le hlength, String.ofList_toList]

theorem decisionFields_status (hpy : PrintsAscii py) (decision summary : JsonDict)
    (hstatus : (summary.get "status").isStr "waiting_approval" = false) :
    fieldsStatus py (decisionFields decision summary) = "resolved" := by
  have hsafe : ∀ {limit : Nat} (text : String),
      text.toList.all (fun c => decide (32 ≤ c.toNat ∧ c.toNat < 127)) = true →
      text.toList.length ≤ limit → safeString py limit (.str text) = text :=
    fun _ h h' => safeString_ascii hpy (fun c hc => of_decide_eq_true (List.all_eq_true.1 h c hc)) h'
  have hget : (boundedDict py 1000 5 (decisionFields decision summary)).get "status" =
      .str "resolved" := by
    unfold boundedDict decisionFields
    simp only [boundedJson, hstatus, List.take, List.foldl, Json.dict?, Option.getD_some,
      get_dictPut]
    rw [hsafe "status" (by decide) (by decide), hsafe "decision_status" (by decide) (by decide),
      hsafe "operator_decision" (by decide) (by decide),
      hsafe "executed_actions" (by decide) (by decide),
      hsafe "verification_results" (by decide) (by decide)]
    simp only [Bool.false_eq_true, if_false]
    rw [hsafe "resolved" (by decide) (by decide)]
    simp
  unfold fieldsStatus
  rw [hget, textOf_str]

theorem foldl_dictPut_isEmpty (f : String × Json → String × Json) :
    ∀ (xs : JsonDict) (d : JsonDict),
      (xs.foldl (fun d kv => dictPut d (f kv).1 (f kv).2) d).isEmpty = (d.isEmpty && xs.isEmpty)
  | [], d => by simp
  | x :: xs, d => by
    have hput : (dictPut d (f x).1 (f x).2).isEmpty = false := by
      unfold dictPut
      split
      · rfl
      · split <;> rfl
    rw [List.foldl_cons, foldl_dictPut_isEmpty f xs, hput]
    simp

theorem boundedDict_isEmpty (py : Python) (stringLimit depth : Nat) (d : JsonDict) :
    (boundedDict py stringLimit (depth + 1) d).isEmpty = d.isEmpty := by
  unfold boundedDict
  simp only [boundedJson, Json.dict?, Option.getD_some]
  rw [foldl_dictPut_isEmpty fun kv => (safeString py 80 (.str kv.1),
    boundedJson py stringLimit depth kv.2)]
  cases d <;> rfl

/-- The case an identifier stands for, if it has a summary. -/
def Store.summarized? (s : Store) (identifier : String) : Option AtomicCaseProjection :=
  (s.graphCase? identifier).filter fun case => (truthyDict case.graphSummary).isSome

/-- The summary that is read is empty when the stored one is. -/
theorem summarized?_read (py : Python) (s : Store) (identifier : String) :
    (truthyDict (((s.graphCase? identifier).bind AtomicCaseProjection.graphSummary).map
      (boundedDict py 1000 5))).isSome = (s.summarized? identifier).isSome := by
  unfold Store.summarized? truthyDict
  cases s.graphCase? identifier with
  | none => rfl
  | some case =>
    simp only [Option.bind_some, Option.isSome_filter, Option.any_some]
    cases case.graphSummary with
    | none => rfl
    | some summary => rw [Option.map_some, Option.any_some, Option.any_some, boundedDict_isEmpty]

/-- An update to "resolved". -/
theorem graphUpdatedCase_resolves {fields : JsonDict} (h : fieldsStatus py fields = "resolved")
    (case : AtomicCaseProjection) (draws : GraphDraws) :
    (graphUpdatedCase py case fields draws).caseId = case.caseId ∧
      (graphUpdatedCase py case fields draws).status = .resolved ∧
      (graphUpdatedCase py case fields draws).resolvedAt =
        some (case.resolvedAt.getD draws.resolvedAt) := by
  have hstatus : caseStatusOf "resolved" case.status = .resolved := rfl
  unfold graphUpdatedCase
  dsimp only
  rw [h, if_pos (show ("resolved" : String) ≠ "" by decide), hstatus]
  refine ⟨rfl, rfl, ?_⟩
  cases case.resolvedAt with
  | none => exact if_pos ⟨by decide, by decide, rfl⟩
  | some resolvedAt => exact if_neg fun h => by cases h.2.2

/-- **Recording a decision resolves the case.** -/
theorem storeDecision_verdict (hpy : PrintsAscii py) (hstored : s.atomicCase? case.caseId = some case)
    (hid : strip case.caseId = case.caseId) (hne : case.caseId ≠ "") {decision summary : JsonDict}
    (hstatus : (summary.get "status").isStr "waiting_approval" = false) (draws : DecisionDraws) :
    (storeDecision py case.caseId decision summary draws s).2.verdict? =
      Function.update s.verdict? case.caseId
        (some (.resolved, some (case.resolvedAt.getD draws.update.resolvedAt))) := by
  have hfound := graphCase?_self hstored hid hne
  have hknown : ∀ {t : Store} {stored : AtomicCaseProjection},
      t.atomicCase? case.caseId = some stored → (t.cases.get? case.caseId).isSome = true := by
    intro t stored h
    rw [atomicCase?_eq_some.1 h]
    rfl
  obtain ⟨ev, ix, hsummary⟩ := writeSummary_run py hfound summary draws.summary
  generalize hmiddle : summarizedCase py case summary draws.summary.updatedAt = middle at hsummary
  have hmiddleId : middle.caseId = case.caseId := by rw [← hmiddle]; rfl
  have hmiddleResolved : middle.resolvedAt = case.resolvedAt := by rw [← hmiddle]; rfl
  have hput : putSummary py case.caseId summary draws.summary s = writeSummary py case.caseId summary
      draws.summary s := by
    unfold putSummary
    rw [requireGraphCase_bind_run, hfound]
    dsimp only
    rw [caseWriteGuard_run, if_pos (hknown hstored)]
  unfold storeDecision
  rw [bind_ok (hput.trans hsummary), bind_pure_state]
  generalize hs : ({ s with
    cases := s.cases.put (.atomic middle)
    events := ev
    caseEvents := ix } : Store) = t
  have hcases : t.cases = s.cases.put (.atomic middle) := by rw [← hs]
  have hstill : t.atomicCase? case.caseId = some middle := by
    rw [atomicCase?_put hcases, if_pos hmiddleId]
  have hfoundAgain := graphCase?_self hstill hid hne
  obtain ⟨ev', ix', hfields⟩ := writeCaseUpdate_run py hfoundAgain (decisionFields decision summary)
    draws.update
  unfold updateCase
  rw [requireGraphCase_bind_run, hfoundAgain]
  dsimp only
  rw [hmiddleId, caseWriteGuard_run, if_pos (hknown hstill), hfields]
  obtain ⟨hid', hresolved, hresolvedAt⟩ := graphUpdatedCase_resolves
    (decisionFields_status hpy decision summary hstatus) middle draws.update
  rw [verdict?_put rfl, hid', hresolved, hresolvedAt, verdict?_put hcases, hmiddleId,
    hmiddleResolved, Function.update_idem]

/-- The decision is none that resumes an investigation. -/
def NoApproval (decision : JsonDict) : Prop :=
  (decision.getD "decision" (.str "acknowledged")).isStr "approved" = false

theorem decidedSummary_status (status : Json) (decision summary : JsonDict) (now : String) :
    ((decidedSummary status decision summary now).get "status").isStr "waiting_approval" = false := by
  unfold decidedSummary dictMerge
  simp only [List.foldl, get_dictPut]
  cases status.isStr "approved" <;> cases status.isStr "rejected" <;> simp [Json.isStr]

/-- **A decision that does not resume the investigation resolves the case, if it has a summary.** -/
theorem recordOperatorDecision_verdict (hs : Identified s) (hpy : PrintsAscii py)
    (resume : GraphResume) (identifier : String) {decision : JsonDict} (hnot : NoApproval decision)
    (draws : DecisionDraws) :
    (recordOperatorDecision py resume identifier decision draws s).2.verdict? =
      match s.summarized? identifier with
      | some case => Function.update s.verdict? case.caseId
          (some (.resolved, some (case.resolvedAt.getD draws.update.resolvedAt)))
      | none => s.verdict? := by
  have hresolved : orText ((s.graphCaseId? identifier).getD "") identifier =
      s.resolvedId identifier := rfl
  have hread := summarized?_read py s identifier
  unfold recordOperatorDecision
  rw [bind_ok (resolveCaseIdentifier_run identifier s)]
  dsimp only
  rw [hresolved, bind_ok (getSummary_run py (s.resolvedId identifier) s),
    graphCase?_resolvedId hs]
  generalize truthyDict (((s.graphCase? identifier).bind AtomicCaseProjection.graphSummary).map
    (boundedDict py 1000 5)) = read at hread ⊢
  cases hcase : s.summarized? identifier with
  | none =>
    rw [hcase] at hread
    cases read with
    | none => rfl
    | some summary => cases hread
  | some case =>
    rw [hcase] at hread
    obtain ⟨summary, rfl⟩ := Option.isSome_iff_exists.1 hread
    obtain ⟨hfound, -⟩ := Option.filter_eq_some_iff.1 hcase
    have hstored := graphCase?_stored hfound
    obtain ⟨hstrip, hne⟩ := hs.named hstored
    have hstatus : (JsonDict.getD (dictPut decision "incident_id" (.str (s.resolvedId identifier)))
        "decision" (.str "acknowledged")).isStr "approved" = false := by
      unfold JsonDict.getD
      rw [lookup_dictPut, if_neg (by decide)]
      exact hnot
    dsimp only
    rw [if_neg (by rw [hstatus]; simp), pure_bind_run]
    dsimp only
    rw [bind_pure_state, ← graphCase?_caseId hfound]
    exact storeDecision_verdict hpy hstored hstrip hne (decidedSummary_status _ _ _ _) draws

/-- A decision that is no verdict closes the case: it has a summary and was not resolved. -/
def DecisionCloses (s : Store) (identifier : String) : Prop :=
  ∃ case ∈ s.summarized? identifier, ¬ (case.status = .resolved ∧ case.resolvedAt.isSome)

instance (s : Store) (identifier : String) : Decidable (DecisionCloses s identifier) := by
  unfold DecisionCloses; infer_instance

theorem recordOperatorDecision_spares_iff (hs : Identified s) (hpy : PrintsAscii py)
    (resume : GraphResume) (identifier : String) {decision : JsonDict} (hnot : NoApproval decision)
    (draws : DecisionDraws) :
    (recordOperatorDecision py resume identifier decision draws s).2.verdict? = s.verdict? ↔
      ¬ DecisionCloses s identifier := by
  rw [recordOperatorDecision_verdict hs hpy resume identifier hnot draws]
  unfold DecisionCloses
  cases hcase : s.summarized? identifier with
  | none => exact iff_of_true rfl fun ⟨_, hnone, _⟩ => by cases hnone
  | some case =>
    have hstored := graphCase?_stored (Option.filter_eq_some_iff.1 hcase).1
    rw [update_resolved_iff hstored]
    refine ⟨?_, fun h => ?_⟩
    · rintro hdone ⟨_, hsame, hopen⟩
      cases hsame
      exact hopen hdone
    · by_contra hopen
      exact h ⟨case, rfl, hopen⟩

end Recording

/-! ## The claim about the routes -/

inductive DecisionRoute where
  | controlCase
  | controlIncident
  | signedResume
  | loopConsole
  | discord
  deriving DecidableEq, Repr

/-- A decision as it is sent to a route; only the loop console reads the key. -/
structure DecisionCall where
  identifier : String
  request : DecisionRequest
  idempotencyKey : String
  draws : DecisionDraws

/-- What `_case_service_case_for_identifier` finds. -/
def Store.caseFor? (py : Python) (s : Store) (identifier : String) : Option CaseProjection :=
  (validatedLookupIdentifier py identifier).bind fun text =>
    (s.cases.get? text).or ((s.listCases 500).find? fun case => case.HasNumber text)

section Claim

variable (py : Python) (policy : CasePolicy) (resume : GraphResume)

/-- The store that a route leaves, whether it returns or raises. -/
def DecisionRoute.leaves (call : DecisionCall) (s : Store) : DecisionRoute → Store
  | .controlCase =>
    (controlCaseDecision py policy resume call.identifier call.request call.draws s).2
  | .controlIncident =>
    (decideIncident py policy resume call.identifier call.request call.draws s).2
  | .signedResume => (Cases.signedResume py policy resume call.identifier call.request call.draws s).2
  | .loopConsole => (loopConsoleDecision py policy resume call.identifier call.request
      call.idempotencyKey call.draws s).2
  | .discord => (discordDecision py resume call.identifier call.request call.draws s).2

/-- The loop console takes the decision: the case is an atomic one, and the request repeats none. -/
def ConsoleTakes (s : Store) (call : DecisionCall) : Prop :=
  ∃ case, s.caseFor? py call.identifier = some (.atomic case) ∧
    ¬ s.HasEvent case.caseId (loopConsoleActionId py call.idempotencyKey case.caseId)

/-- **Only approve and reject close a case**, whatever the route, and a decision that the loop
console takes leaves the statuses that the control route leaves. -/
structure OnlyVerdictsClose (s : Store) (call : DecisionCall) : Prop where
  spares : call.request.decision ∉ ["approved", "rejected"] →
    ∀ route : DecisionRoute, (route.leaves py policy resume call s).verdict? = s.verdict?
  agrees : ConsoleTakes py s call → ∀ caseId,
    ((DecisionRoute.controlCase.leaves py policy resume call s).verdict? caseId).map Prod.fst =
      ((DecisionRoute.loopConsole.leaves py policy resume call s).verdict? caseId).map Prod.fst

/-- The decision is a verdict, or no route finds a case that it closes. -/
def Spares (s : Store) (call : DecisionCall) : Prop :=
  call.request.decision ∈ ["approved", "rejected"] ∨ ¬ DecisionCloses s call.identifier ∧
    (call.request.decision = "acknowledged" → ∀ case, s.caseFor? py call.identifier = some case →
      ¬ DecisionCloses s (graphIncidentIdentifier py case))

end Claim

/-! ## What the routes do -/

section Routes

variable {py : Python} {policy : CasePolicy} {resume : GraphResume} {s : Store}

theorem resolveCaseIdentifier_fixes {τ : Type} (f : Store → τ) (identifier : String) :
    Fixes f (resolveCaseIdentifier identifier) := by
  intro s
  rw [resolveCaseIdentifier_run]

theorem caseForIdentifier_fixes {τ : Type} (f : Store → τ) (identifier : String) :
    Fixes f (caseForIdentifier py identifier) := by
  refine Fixes.bind (Fixes.orRaise _ _) fun text => Fixes.bind (Fixes.peek _) fun case => ?_
  cases case with
  | some case => exact Fixes.pure _
  | none => exact Fixes.peek _

theorem caseForIdentifier_found {identifier : String} {case : CaseProjection}
    (h : s.caseFor? py identifier = some case) :
    caseForIdentifier py identifier s = (.ok (some case), s) := by
  obtain ⟨text, htext, hcase⟩ := Option.bind_eq_some_iff.1 h
  unfold caseForIdentifier getCase
  rw [htext, orRaise_bind_run]
  dsimp only
  rw [peek_bind_run]
  cases hget : s.cases.get? text with
  | some found =>
    rw [hget] at hcase
    cases hcase
    rfl
  | none =>
    rw [hget] at hcase
    exact congrArg (fun found => (Except.ok found, s)) hcase

/-- Without a case, a route stops. -/
theorem caseForIdentifier_missing {β : Type} {identifier : String} {e : PyExc}
    (h : s.caseFor? py identifier = none) (k : CaseProjection → StoreM β) :
    ((caseForIdentifier py identifier >>= fun case => orRaise case e >>= k) s).2 = s := by
  unfold caseForIdentifier getCase
  cases htext : validatedLookupIdentifier py identifier with
  | none => rfl
  | some text =>
    rw [bind_bind_run, orRaise_bind_run]
    dsimp only
    rw [bind_bind_run, peek_bind_run]
    unfold Store.caseFor? at h
    rw [htext, Option.bind_some] at h
    cases hget : s.cases.get? text with
    | some found =>
      rw [hget] at h
      cases h
    | none =>
      rw [hget, Option.none_or] at h
      dsimp only
      rw [peek_bind_run, h]
      rfl

theorem checkSummaryId_fixes {τ : Type} (f : Store → τ) (caseId : String) :
    Fixes f (checkSummaryId py caseId) :=
  Fixes.bind (Fixes.orRaise _ _) fun _ => Fixes.pure _

/-- A decision that is no verdict is not applied to the case. -/
theorem applyPrimaryDecisionState_other {τ : Type} (f : Store → τ) (case : CaseProjection)
    {request : DecisionRequest} (hnot : request.decision ∉ ["approved", "rejected"])
    (dump : JsonDict) (summary : Option JsonDict) (eventId : String) (draws : DecisionDraws) :
    Fixes f (applyPrimaryDecisionState py case request dump summary eventId draws) := by
  cases case with
  | storm case => exact Fixes.pure _
  | atomic case =>
    unfold applyPrimaryDecisionState
    dsimp only
    rw [if_pos hnot]
    exact Fixes.pure _

/-- The event of a verdict has no part in the statuses. -/
theorem applyPrimaryDecisionState_verdict (case : CaseProjection) (request : DecisionRequest)
    (dump : JsonDict) (summary : Option JsonDict) (eventId eventId' : String)
    (draws : DecisionDraws) (s : Store) :
    (applyPrimaryDecisionState py case request dump summary eventId draws s).2.verdict? =
      (applyPrimaryDecisionState py case request dump summary eventId' draws s).2.verdict? := by
  cases case with
  | storm case => rfl
  | atomic case =>
    unfold applyPrimaryDecisionState getCase putCase
    dsimp only
    split
    · rfl
    · rw [caseWriteGuard_run, caseWriteGuard_run]
      split
      · simp only [peek_bind_run, raiseIf_bind_run, alter_bind_run]
        split
        · rfl
        · rw [Fixes.bind (storeEvent_verdict _) (fun _ => Fixes.pure _) _,
            Fixes.bind (storeEvent_verdict _) (fun _ => Fixes.pure _) _]
      · rfl

theorem recordPrimaryDecision_verdict (case : CaseProjection) (request : DecisionRequest)
    (draws : DecisionDraws) (s : Store) :
    (recordPrimaryDecision py resume case request draws s).2.verdict? =
      (recordOperatorDecision py resume (graphIncidentIdentifier py case)
        (request.approval (graphIncidentIdentifier py case) draws.decidedAt) draws s).2.verdict? := by
  unfold recordPrimaryDecision
  rw [Fixes.after (f := Store.verdict?)]
  exact fun summary => Fixes.bind (Fixes.raiseIf _ _) fun _ => Fixes.pure _

/-- An acknowledgement on the control route does what the graph runtime does. -/
theorem controlCaseDecision_acknowledged {identifier : String} {request : DecisionRequest}
    (hack : request.decision = "acknowledged") {case : CaseProjection}
    (hfound : s.caseFor? py identifier = some case) (draws : DecisionDraws) :
    (controlCaseDecision py policy resume identifier request draws s).2.verdict? =
      (recordOperatorDecision py resume (graphIncidentIdentifier py case)
        (request.approval (graphIncidentIdentifier py case) draws.decidedAt) draws s).2.verdict? := by
  unfold controlCaseDecision
  rw [raiseIf_bind_run, if_neg (by rw [hack]; decide), bind_ok (caseForIdentifier_found hfound),
    orRaise_bind_run]
  dsimp only
  rw [Fixes.after (f := Store.verdict?), recordPrimaryDecision_verdict]
  intro summary
  refine Fixes.bind ?_ fun updated =>
    Fixes.bind (writeOperatorFeedback_verdict _ _ _ _ _ _ _ _) fun _ =>
      Fixes.bind (caseForIdentifier_fixes _ _) fun again => ?_
  · unfold settleControlDecision
    rw [if_pos hack]
    exact Fixes.bind (ack_verdict _ _ _ _ _ _) fun _ => Fixes.pure _
  · split
    · exact Fixes.bind (checkSummaryId_fixes _ _) fun _ => Fixes.pure _
    · exact Fixes.pure _

/-- The loop console only acknowledges. -/
theorem loopConsoleDecision_acknowledged (identifier : String) {request : DecisionRequest}
    (hack : request.decision = "acknowledged") (idempotencyKey : String) (draws : DecisionDraws) :
    Fixes Store.verdict?
      (loopConsoleDecision py policy resume identifier request idempotencyKey draws) := by
  refine Fixes.bind (Fixes.raiseIf _ _) fun _ => Fixes.bind (caseForIdentifier_fixes _ _) fun case =>
    Fixes.bind (Fixes.orRaise _ _) fun case => Fixes.bind (Fixes.orRaise _ _) fun atomic =>
      Fixes.bind ?_ fun settled =>
        Fixes.bind (writeOperatorFeedback_verdict _ _ _ _ _ _ _ _) fun _ => Fixes.pure _
  refine Fixes.bind (Fixes.peek _) fun repeated => ?_
  split
  · exact Fixes.bind (checkSummaryId_fixes _ _) fun _ => Fixes.pure _
  · exact Fixes.bind (ack_verdict _ _ _ _ _ _) fun _ =>
      Fixes.bind (checkSummaryId_fixes _ _) fun _ => Fixes.pure _

/-- An acknowledgement of an incident does what the graph runtime does, if there is a summary. -/
theorem incidentDecision_acknowledged (source incidentId : String) {request : DecisionRequest}
    (hack : request.decision = "acknowledged") (dump : JsonDict) (draws : DecisionDraws)
    (s : Store) :
    (incidentDecision py policy resume source incidentId request dump draws s).2.verdict? =
      if ((s.graphCase? incidentId).bind AtomicCaseProjection.graphSummary).isSome then
        (recordOperatorDecision py resume incidentId
          (request.approval incidentId draws.decidedAt) draws s).2.verdict?
      else s.verdict? := by
  have hnot : request.decision ∉ ["approved", "rejected"] := by
    rw [hack]
    decide
  unfold incidentDecision
  rw [raiseIf_bind_run, if_neg (by rw [hack]; decide), Fixes.after (f := Store.verdict?)]
  · unfold recordControlIncidentDecision
    rw [bind_ok (getSummary_run py incidentId s)]
    cases (s.graphCase? incidentId).bind AtomicCaseProjection.graphSummary with
    | none => rfl
    | some summary =>
      rw [Option.map_some, Option.isSome_some, if_pos rfl]
      refine Fixes.after (f := Store.verdict?) (fun recorded => ?_) _ s
      refine Fixes.bind (resolveCaseIdentifier_fixes _ _) fun caseId => ?_
      cases truthyId caseId with
      | none => exact Fixes.pure _
      | some caseId =>
        refine Fixes.bind (Fixes.peek _) fun case => ?_
        cases case with
        | none => exact Fixes.pure _
        | some case =>
          exact Fixes.bind (applyPrimaryDecisionState_other _ case hnot _ _ _ _) fun _ =>
            Fixes.pure _
  · intro summary
    refine Fixes.bind (Fixes.orRaise _ _) fun summary => Fixes.bind (Fixes.swallow ?_) fun _ =>
      Fixes.pure _
    refine Fixes.bind (caseForIdentifier_fixes _ _) fun case => ?_
    split
    · exact Fixes.pure _
    · exact writeOperatorFeedback_verdict _ _ _ _ _ _ _ _

theorem verdict_let {decision : String} (h : decision ∈ ["approved", "rejected"]) :
    decision ∈ DECISIONS ∧ decision ≠ "acknowledged" := by
  rcases List.mem_pair.1 h with rfl | rfl <;> decide

/-- A verdict on the control route. -/
theorem controlCaseDecision_verdict {identifier : String} {request : DecisionRequest}
    (hverdict : request.decision ∈ ["approved", "rejected"]) {case : CaseProjection}
    (hfound : s.caseFor? py identifier = some case) (draws : DecisionDraws) :
    (controlCaseDecision py policy resume identifier request draws s).2.verdict? =
      ((recordPrimaryDecision py resume case request draws >>= fun summary =>
        applyPrimaryDecisionState py case request request.dump summary "" draws) s).2.verdict? := by
  obtain ⟨hlet, hnotAck⟩ := verdict_let hverdict
  unfold controlCaseDecision
  rw [raiseIf_bind_run, if_neg (not_not.2 hlet),
    bind_ok (caseForIdentifier_found hfound), orRaise_bind_run]
  dsimp only
  rcases hrecorded : recordPrimaryDecision py resume case request draws s with ⟨e | summary, t⟩
  · rw [bind_error hrecorded, bind_error hrecorded]
  · rw [bind_ok hrecorded, bind_ok hrecorded]
    unfold settleControlDecision
    rw [if_neg hnotAck, Fixes.after (f := Store.verdict?)]
    refine fun updated => Fixes.bind (writeOperatorFeedback_verdict _ _ _ _ _ _ _ _) fun _ =>
      Fixes.bind (caseForIdentifier_fixes _ _) fun again => ?_
    split
    · exact Fixes.bind (checkSummaryId_fixes _ _) fun _ => Fixes.pure _
    · exact Fixes.pure _

/-- A verdict that the loop console takes. -/
theorem loopConsoleDecision_verdict {identifier : String} {request : DecisionRequest}
    (hverdict : request.decision ∈ ["approved", "rejected"]) {case : AtomicCaseProjection}
    (hfound : s.caseFor? py identifier = some (.atomic case)) {idempotencyKey : String}
    (hnew : ¬ s.HasEvent case.caseId (loopConsoleActionId py idempotencyKey case.caseId))
    (draws : DecisionDraws) :
    (loopConsoleDecision py policy resume identifier request idempotencyKey draws s).2.verdict? =
      ((recordPrimaryDecision py resume (.atomic case) request draws >>= fun summary =>
        applyPrimaryDecisionState py (.atomic case) request request.dump summary
          (loopConsoleActionId py idempotencyKey case.caseId) draws) s).2.verdict? := by
  obtain ⟨hlet, hnotAck⟩ := verdict_let hverdict
  unfold loopConsoleDecision
  rw [raiseIf_bind_run, if_neg (not_not.2 hlet),
    bind_ok (caseForIdentifier_found hfound), orRaise_bind_run]
  dsimp only
  rw [orRaise_bind_run]
  dsimp only [CaseProjection.atomic?]
  rw [Fixes.after (f := Store.verdict?)]
  · unfold settleConsoleDecision
    rw [peek_bind_run, if_neg (by rw [decide_eq_true_eq]; exact hnew), if_neg hnotAck]
    rcases hrecorded : recordPrimaryDecision py resume (.atomic case) request draws s with
      ⟨e | summary, t⟩
    · rw [bind_error hrecorded, bind_error hrecorded]
    · rw [bind_ok hrecorded, bind_ok hrecorded]
      exact congrArg Store.verdict? (bind_pure_state _ (fun updated => (updated, summary)) t)
  · exact fun settled => Fixes.bind (writeOperatorFeedback_verdict _ _ _ _ _ _ _ _) fun _ =>
      Fixes.pure _

/-- Both routes take a verdict alike. -/
theorem verdict_agrees {identifier : String} {request : DecisionRequest}
    (hverdict : request.decision ∈ ["approved", "rejected"]) {case : AtomicCaseProjection}
    (hfound : s.caseFor? py identifier = some (.atomic case)) {idempotencyKey : String}
    (hnew : ¬ s.HasEvent case.caseId (loopConsoleActionId py idempotencyKey case.caseId))
    (draws : DecisionDraws) :
    (controlCaseDecision py policy resume identifier request draws s).2.verdict? =
      (loopConsoleDecision py policy resume identifier request idempotencyKey draws s).2.verdict? := by
  rw [controlCaseDecision_verdict hverdict hfound, loopConsoleDecision_verdict hverdict hfound hnew]
  rcases hrecorded : recordPrimaryDecision py resume (.atomic case) request draws s with
    ⟨e | summary, t⟩
  · rw [bind_error hrecorded, bind_error hrecorded]
  · rw [bind_ok hrecorded, bind_ok hrecorded]
    exact applyPrimaryDecisionState_verdict _ _ _ _ _ _ _ t

theorem noApproval_request (incidentId : Json) {request : DecisionRequest}
    (h : request.decision ≠ "approved") (rest : JsonDict) :
    NoApproval (("incident_id", incidentId) :: request.dump ++ rest) := by
  unfold NoApproval JsonDict.getD DecisionRequest.dump
  simp only [List.cons_append, lookup_cons_eq]
  simpa [Json.isStr] using h

/-- A decision that no request lets through changes nothing. -/
theorem refused_leaves {call : DecisionCall} (h : call.request.decision ∉ DECISIONS)
    {route : DecisionRoute} (hroute : route ≠ .discord) :
    route.leaves py policy resume call s = s := by
  cases route with
  | controlCase =>
    unfold DecisionRoute.leaves controlCaseDecision
    rw [raiseIf_bind_run, if_pos h]
  | controlIncident =>
    unfold DecisionRoute.leaves decideIncident incidentDecision
    rw [raiseIf_bind_run, if_pos h]
  | signedResume =>
    unfold DecisionRoute.leaves Cases.signedResume incidentDecision
    rw [raiseIf_bind_run, if_pos h]
  | loopConsole =>
    unfold DecisionRoute.leaves loopConsoleDecision
    rw [raiseIf_bind_run, if_pos h]
  | discord => exact absurd rfl hroute

/-- An acknowledgement of an incident closes no case exactly when the graph runtime closes none. -/
theorem incidentDecision_spares_iff (hs : Identified s) (hpy : PrintsAscii py)
    (source incidentId : String) {request : DecisionRequest}
    (hack : request.decision = "acknowledged") (dump : JsonDict) (draws : DecisionDraws) :
    (incidentDecision py policy resume source incidentId request dump draws s).2.verdict? =
      s.verdict? ↔ ¬ DecisionCloses s incidentId := by
  have hnot : request.decision ≠ "approved" := by
    rw [hack]
    decide
  rw [incidentDecision_acknowledged source incidentId hack]
  split
  · exact recordOperatorDecision_spares_iff hs hpy resume incidentId (noApproval_request _ hnot _) draws
  · rename_i hnone
    refine iff_of_true rfl ?_
    rintro ⟨case, hcase, -⟩
    obtain ⟨hfound, hsummary⟩ := Option.filter_eq_some_iff.1 hcase
    rw [hfound, Option.bind_some] at hnone
    unfold truthyDict at hsummary
    rw [Option.not_isSome_iff_eq_none.1 hnone] at hsummary
    cases hsummary

/-- An acknowledgement on the control route. -/
theorem controlCaseDecision_spares_iff (hs : Identified s) (hpy : PrintsAscii py)
    {identifier : String} {request : DecisionRequest} (hack : request.decision = "acknowledged")
    (draws : DecisionDraws) :
    (controlCaseDecision py policy resume identifier request draws s).2.verdict? = s.verdict? ↔
      ∀ case, s.caseFor? py identifier = some case →
        ¬ DecisionCloses s (graphIncidentIdentifier py case) := by
  have hnot : request.decision ≠ "approved" := by
    rw [hack]
    decide
  cases hfound : s.caseFor? py identifier with
  | none =>
    refine iff_of_true ?_ fun case hcase => by cases hcase
    unfold controlCaseDecision
    rw [raiseIf_bind_run, if_neg (by rw [hack]; decide), caseForIdentifier_missing hfound]
  | some case =>
    have happroval : NoApproval
        (request.approval (graphIncidentIdentifier py case) draws.decidedAt) :=
      noApproval_request _ hnot _
    rw [controlCaseDecision_acknowledged hack hfound,
      recordOperatorDecision_spares_iff hs hpy resume _ happroval]
    refine ⟨fun h other hother => ?_, fun h => h case rfl⟩
    cases hother
    exact h

/-- **From a store whose cases are identified: only verdicts close a case exactly when the decision
is a verdict or no route finds a case that it closes.** -/
theorem Identified.onlyVerdictsClose (hs : Identified s) (hpy : PrintsAscii py)
    (call : DecisionCall) : OnlyVerdictsClose py policy resume s call ↔ Spares py s call := by
  by_cases hverdict : call.request.decision ∈ ["approved", "rejected"]
  · refine iff_of_true ⟨fun hnot => absurd hverdict hnot, ?_⟩ (Or.inl hverdict)
    rintro ⟨case, hfound, hnew⟩ caseId
    unfold DecisionRoute.leaves
    rw [verdict_agrees hverdict hfound hnew]
  have hnot : call.request.decision ≠ "approved" := by
    intro h
    rw [h] at hverdict
    exact hverdict (by decide)
  have hdiscord : (DecisionRoute.discord.leaves py policy resume call s).verdict? = s.verdict? ↔
      ¬ DecisionCloses s call.identifier :=
    recordOperatorDecision_spares_iff hs hpy resume call.identifier
      (by simpa using noApproval_request (.str call.identifier) hnot []) call.draws
  constructor
  · intro h
    refine Or.inr ⟨hdiscord.1 (h.spares hverdict .discord), fun hack => ?_⟩
    exact (controlCaseDecision_spares_iff hs hpy hack call.draws).1 (h.spares hverdict .controlCase)
  · intro h
    obtain ⟨hidentifier, hcase⟩ := h.resolve_left hverdict
    have hspares : ∀ route : DecisionRoute,
        (route.leaves py policy resume call s).verdict? = s.verdict? := by
      intro route
      by_cases hlet : call.request.decision ∈ DECISIONS
      · have hack : call.request.decision = "acknowledged" := by
          rcases List.mem_append.1 (show call.request.decision ∈
            ["approved", "rejected"] ++ ["acknowledged"] from hlet) with hm | hm
          · exact absurd hm hverdict
          · exact List.mem_singleton.1 hm
        cases route with
        | controlCase => exact (controlCaseDecision_spares_iff hs hpy hack call.draws).2 (hcase hack)
        | controlIncident =>
          exact (incidentDecision_spares_iff hs hpy _ _ hack _ call.draws).2 hidentifier
        | signedResume =>
          exact (incidentDecision_spares_iff hs hpy _ _ hack _ call.draws).2 hidentifier
        | loopConsole => exact loopConsoleDecision_acknowledged _ hack _ call.draws s
        | discord => exact hdiscord.2 hidentifier
      · by_cases hroute : route = .discord
        · rw [hroute]
          exact hdiscord.2 hidentifier
        · rw [refused_leaves hlet hroute]
    refine ⟨fun _ => hspares, fun _ caseId => ?_⟩
    rw [hspares .controlCase, hspares .loopConsole]

end Routes

/-! ## Reachable stores -/

inductive RegistryOp where
  /-- `create_atomic_case`, which makes every new atomic case -/
  | create (case : AtomicCaseProjection) (aliases : List CaseIdentityAlias)
      (events : List CaseEvent)
  | link (call : LinkCall)
  /-- a method that makes no atomic case and no alias -/
  | elsewhere (t : Store)

def RegistryOp.run : RegistryOp → Store → Store
  | .create case aliases events, s => (createAtomicCase case aliases events s).2
  | .link call, s => (call.run s).2
  | .elsewhere t, _ => t

/-- A new case has the id that was drawn for it, and its aliases name it. -/
def RegistryOp.Allowed (s : Store) : RegistryOp → Prop
  | .create case aliases _ => strip case.caseId = case.caseId ∧ case.caseId ≠ "" ∧
      ∀ entry ∈ aliases, entry.caseId = case.caseId
  | .link call => call.draws.Fresh s
  | .elsewhere t => t.aliases = s.aliases ∧
      ∀ caseId, (t.atomicCase? caseId).isSome = (s.atomicCase? caseId).isSome

def registryStep (s : Store) (op : RegistryOp) (t : Store) : Prop := op.Allowed s ∧ t = op.run s

section Reachable

variable {s t : Store}

theorem Identified.congr (hs : Identified s)
    (hcases : ∀ caseId, (t.atomicCase? caseId).isSome = (s.atomicCase? caseId).isSome)
    (howned : ∀ row ∈ t.aliases.rows, (s.atomicCase? row.caseId).isSome) : Identified t := by
  constructor
  · intro caseId case hcase
    have hsome : (s.atomicCase? caseId).isSome := by
      rw [← hcases, hcase]
      rfl
    obtain ⟨old, hold⟩ := Option.isSome_iff_exists.1 hsome
    exact hs.named hold
  · exact fun row hrow => (hcases _).trans (howned row hrow)

theorem Identified.create (hs : Identified s) {case : AtomicCaseProjection}
    {aliases : List CaseIdentityAlias} (hid : strip case.caseId = case.caseId)
    (hne : case.caseId ≠ "") (haliases : ∀ entry ∈ aliases, entry.caseId = case.caseId)
    (events : List CaseEvent) : Identified (createAtomicCase case aliases events s).2 := by
  have hrun := aliasedCase_run aliases s
  cases hfree : s.aliased aliases with
  | error e =>
    rw [hfree] at hrun
    unfold createAtomicCase
    rw [bind_error hrun]
    exact hs
  | ok aliased =>
    rw [hfree] at hrun
    cases aliased with
    | some existing =>
      unfold createAtomicCase
      rw [bind_ok hrun]
      exact hs
    | none =>
      cases hsame : s.sameFingerprint case.fingerprint with
      | some existing =>
        unfold createAtomicCase
        rw [bind_ok hrun]
        dsimp only
        rw [peek_bind_run, hsame]
        exact hs
      | none =>
        obtain ⟨stored, ev, ix, hcreated⟩ := createAtomicCase_created case hfree hsame events
        rw [hcreated]
        constructor
        · intro caseId found hfound
          rw [atomicCase?_put rfl] at hfound
          split at hfound
          · rename_i hcaseId
            rw [← hcaseId]
            exact ⟨hid, hne⟩
          · exact hs.named hfound
        · intro row hrow
          rw [atomicCase?_put rfl]
          split
          · rfl
          · rename_i hother
            rcases Table.mem_foldl_put hrow with hnew | hold
            · exact absurd (haliases row hnew).symm hother
            · exact hs.owned row hold

/-- Handing aliases over gives them to the parent. -/
theorem foldl_move_caseId {P : String → Prop} {toCaseId now : String} {draws : LinkDraws}
    (hto : P toCaseId) : ∀ {entries : List CaseIdentityAlias} {tables : AliasTables},
      (∀ row ∈ tables.aliases.rows, P row.caseId) → (∀ entry ∈ entries, P entry.caseId) →
      ∀ row ∈ (entries.foldl (AliasTables.move toCaseId now draws) tables).aliases.rows,
        P row.caseId
  | [], _, h, _ => h
  | entry :: rest, tables, h, hentries => by
    rw [List.forall_mem_cons] at hentries
    rw [List.foldl_cons]
    refine foldl_move_caseId hto (fun row hrow => ?_) hentries.2
    have hput : ∀ row ∈ (tables.aliases.put (entry.retired now)).rows, P row.caseId := by
      intro row hrow
      rcases Table.mem_put.1 hrow with rfl | ⟨hrow, -⟩
      · exact hentries.1
      · exact h row hrow
    unfold AliasTables.move at hrow
    split at hrow
    · rcases Table.mem_put.1 hrow with rfl | ⟨hrow, -⟩
      · exact hto
      · exact hput row hrow
    · exact hput row hrow

theorem Identified.link (hs : Identified s) {call : LinkCall} (hfresh : call.draws.Fresh s) :
    Identified (call.run s).2 := by
  cases hlink : s.linkable? call with
  | none =>
    rw [linkCall_refused hlink]
    exact hs
  | some pair =>
    obtain ⟨child, parent⟩ := pair
    obtain ⟨-, hchild, hparent, -⟩ := linkable?_eq_some.1 hlink
    have hchildId := caseId_of_atomicCase? hchild
    have hparentId := caseId_of_atomicCase? hparent
    obtain ⟨result, ev, ix, hrun⟩ := linkCall_linked hlink hfresh
    have hcases : ∀ caseId, ((call.run s).2.atomicCase? caseId).isSome =
        (s.atomicCase? caseId).isSome := by
      intro caseId
      let linked := linkedChild child parent call.reason call.evidenceRefs call.now
      let middle : Store := { s with cases := s.cases.put (.atomic linked) }
      rw [atomicCase?_put (s := middle) (linkCall_cases hlink), atomicCase?_put (s := s) rfl]
      rw [← hchildId] at hchild
      rw [← hparentId] at hparent
      split
      · rename_i hid
        rw [← hid, show (linkedParent parent call.now).caseId = parent.caseId from rfl, hparent]
        rfl
      · split
        · rename_i hid
          rw [← hid, show linked.caseId = child.caseId from rfl, hchild]
          rfl
        · rfl
    refine hs.congr hcases ?_
    rw [hrun]
    refine foldl_move_caseId (P := fun caseId => (s.atomicCase? caseId).isSome) ?_ hs.owned ?_
    · rw [hparentId, hparent]
      rfl
    · intro entry hentry
      exact hs.owned entry (Table.mem_of_get? (mem_activeAliases.1 hentry).1)

theorem identified_run {ops : List RegistryOp} (h : Run registryStep {} ops s) : Identified s := by
  refine h.invariant (fun s op t hs hstep => ?_) ⟨fun {_ _} h => (by cases h), fun row h => (by cases h)⟩
  obtain ⟨hallowed, rfl⟩ := hstep
  cases op with
  | create case aliases events => exact hs.create hallowed.1 hallowed.2.1 hallowed.2.2 events
  | link call => exact hs.link hallowed
  | elsewhere t =>
    refine hs.congr hallowed.2 fun row hrow => ?_
    change row ∈ t.aliases.rows at hrow
    rw [hallowed.1] at hrow
    exact hs.owned row hrow

/-- **From every reachable store.** -/
theorem onlyVerdictsClose_iff {py : Python} {policy : CasePolicy} {resume : GraphResume}
    {ops : List RegistryOp} (hrun : Run registryStep {} ops s) (hpy : PrintsAscii py)
    (call : DecisionCall) : OnlyVerdictsClose py policy resume s call ↔ Spares py s call :=
  (identified_run hrun).onlyVerdictsClose hpy call

end Reachable

/-! ## An acknowledgement -/

theorem printsAscii_ascii : PrintsAscii asciiPython := by
  intro c hlow hhigh
  simp only [asciiPython, Bool.or_eq_false_iff, decide_eq_false_iff_not, beq_eq_false_iff_ne]
  omega

/-- A case whose investigation has not answered. -/
def openedCase : AtomicCaseProjection where
  caseId := "case_1"
  openedAt := "2026-01-01T00:00:00+00:00"
  updatedAt := "2026-01-01T00:00:00+00:00"

def openedStore : Store := (createAtomicCase openedCase [] [] {}).2

/-- The investigation has answered and waits for an approval. -/
def awaitingCase : AtomicCaseProjection :=
  { openedCase with
    status := .waitingApproval
    lastDiagnosis := [("graph_summary", .dict [("status", .str "waiting_approval"),
      ("thread_id", .str "thread_1")])] }

def awaitingStore : Store := (upsertCase (.atomic awaitingCase) openedStore).2

theorem run_openedStore : Run registryStep {} [.create openedCase [] []] openedStore :=
  Run.single ⟨⟨by decide +kernel, by decide, fun _ h => by cases h⟩, rfl⟩

theorem run_awaitingStore :
    Run registryStep {} [.create openedCase [] [], .elsewhere awaitingStore] awaitingStore := by
  refine run_openedStore.snoc ⟨⟨rfl, fun caseId => ?_⟩, rfl⟩
  rw [atomicCase?_put (s := openedStore) (t := awaitingStore) rfl]
  split
  · rename_i hid
    rw [← hid]
    decide +kernel
  · rfl

def morningDraws : DecisionDraws where
  decidedAt := "2026-01-01T08:00:00+00:00"
  summarizedAt := "2026-01-01T08:00:00+00:00"
  summary := ⟨"2026-01-01T08:00:00+00:00", "2026-01-01T08:00:00+00:00",
    ⟨"evt_summary", "2026-01-01T08:00:00+00:00"⟩⟩
  update := ⟨"2026-01-01T08:00:01+00:00", "2026-01-01T08:00:01+00:00",
    ⟨"evt_update", "2026-01-01T08:00:01+00:00"⟩⟩
  ackedAt := "2026-01-01T08:00:02+00:00"
  ack := ⟨"evt_ack", "2026-01-01T08:00:02+00:00"⟩
  appliedAt := "2026-01-01T08:00:02+00:00"
  applied := ⟨"evt_applied", "2026-01-01T08:00:02+00:00"⟩
  feedbackId := "fb_1"
  feedbackCreatedAt := "2026-01-01T08:00:03+00:00"
  feedbackAt := "2026-01-01T08:00:03+00:00"
  feedback := ⟨"evt_feedback", "2026-01-01T08:00:03+00:00"⟩

def acknowledgement : DecisionCall where
  identifier := "case_1"
  request := {
    decision := "acknowledged"
    operator := "operator" }
  idempotencyKey := "key_1"
  draws := morningDraws

/-- A graph that ends without a result. -/
def idleResume : GraphResume := fun _ _ => pure []

theorem onlyVerdictsClose_opened :
    OnlyVerdictsClose asciiPython {} idleResume openedStore acknowledgement := by
  refine (onlyVerdictsClose_iff run_openedStore printsAscii_ascii acknowledgement).2
    (Or.inr ⟨by decide +kernel, fun _ case hcase => ?_⟩)
  have hfound : Store.caseFor? asciiPython openedStore acknowledgement.identifier =
      some (.atomic openedCase) := rfl
  cases hfound.symm.trans hcase
  decide +kernel

/-- The control route resolves the case that is acknowledged, the loop console does not. -/
theorem not_onlyVerdictsClose_acknowledged :
    Run registryStep {} [.create openedCase [] [], .elsewhere awaitingStore] awaitingStore ∧
    (DecisionRoute.controlCase.leaves asciiPython {} idleResume acknowledgement
      awaitingStore).verdict? "case_1" = some (.resolved, some "2026-01-01T08:00:01+00:00") ∧
    (DecisionRoute.loopConsole.leaves asciiPython {} idleResume acknowledgement
      awaitingStore).verdict? "case_1" = some (.waitingApproval, none) ∧
    ¬ OnlyVerdictsClose asciiPython {} idleResume awaitingStore acknowledgement := by
  have hcontrol : (DecisionRoute.controlCase.leaves asciiPython {} idleResume acknowledgement
      awaitingStore).verdict? "case_1" = some (.resolved, some "2026-01-01T08:00:01+00:00") := by
    decide +kernel
  refine ⟨run_awaitingStore, hcontrol, by decide +kernel, fun h => ?_⟩
  have hsame := congrFun (h.spares (by decide) .controlCase) "case_1"
  rw [hcontrol] at hsame
  exact absurd hsame (by decide +kernel)

end NocAgent.Cases
