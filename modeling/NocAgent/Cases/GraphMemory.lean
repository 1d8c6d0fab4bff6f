import NocAgent.Cases.Linking

/-!
# The graph's memory on the case store

* `safeString`, `boundedJson`, `summaryPayload` — what is left of a value that is stored.
* `resolveCaseIdentifier` — an incident by its case id, its source's names or its number.
* `putSummary`, `updateCase`, `linkToParentCase` — the writes; the first two hold the guard of
  the case and read it again.
* `Store.graphCaseId?`, `Store.graphCase?` — what the lookups find.
-/

set_option autoImplicit false

namespace NocAgent.Cases

open Effects Effects.Action Keyed

/-! ## Values that are stored -/

section Values

variable (py : Python)

/-- `_safe_string`. -/
def safeString (limit : Nat) (value : Json) : String :=
  let text := (textOf py value).toList.filter fun c => c ≠ Char.ofNat 0
  takeChars limit (String.ofList (text.filter fun c => c ∈ "\n\r\t".toList ∨ py.isOther c = false))

/-- `_bounded_json`, by `max_depth`. -/
def boundedJson (stringLimit : Nat) : Nat → Json → Json
  | 0, value => .str (safeString py stringLimit value)
  | _ + 1, .str s => .str (safeString py stringLimit (.str s))
  | depth + 1, .list xs => .list ((xs.take 50).map (boundedJson stringLimit depth))
  | depth + 1, .dict kvs =>
    .dict ((kvs.take 100).foldl (fun d kv =>
      dictPut d (safeString py 80 (.str kv.1)) (boundedJson stringLimit depth kv.2)) [])
  | _ + 1, value => value

/-- `_bounded_json` of a dict, which is a dict again. -/
def boundedDict (stringLimit depth : Nat) (d : JsonDict) : JsonDict :=
  ((boundedJson py stringLimit depth (.dict d)).dict?).getD []

/-- `if key in payload: payload[key] = _safe_string(payload.get(key), limit=128)`. -/
def shortenField (key : String) (payload : JsonDict) : JsonDict :=
  if payload.has key then dictPut payload key (.str (safeString py 128 (payload.get key)))
  else payload

/-- `_summary_payload`. -/
def summaryPayload (summary : JsonDict) : JsonDict :=
  shortenField py "thread_id" (shortenField py "incident_id"
    (boundedDict py 2000 6 (dictWithout summary "case_context")))

end Values

/-- The statuses a graph may give a case. -/
def graphAuthored (value : String) : Option CaseStatus :=
  if value = "investigating" then some .investigating
  else if value = "waiting_approval" then some .waitingApproval
  else if value = "recovered_pending" then some .recoveredPending
  else none

/-- `_case_status`: a decision resolves the case, and an unknown status changes nothing. -/
def caseStatusOf (value : String) (fallback : CaseStatus) : CaseStatus :=
  if value = "approved" then .resolved
  else if value = "rejected" ∨ value = "finalized" then .resolved
  else
    match graphAuthored value with
    | some status => status
    | none =>
      if value = "resolved" then .resolved
      else if value = "expired" then .expired
      else if value = "linked" then .linked
      else if value = "closed" then .closed
      else fallback

/-! ## Finding a case -/

/-- `list_cases(kind="atomic", limit=limit)`: the latest update first. -/
def Store.listAtomicCases (s : Store) (limit : Nat) : List AtomicCaseProjection :=
  ((s.cases.rows.filterMap CaseProjection.atomic?).insertionSort fun a b =>
    b.updatedAt ≤ a.updatedAt).take limit

def Store.caseByNumber? (s : Store) (text : String) : Option String :=
  ((s.listAtomicCases 500).find? fun case => strip case.caseNumber = text).map
    AtomicCaseProjection.caseId

/-- The first of the aliases that resolves to a case. -/
def resolveByAlias (text : String) : List AliasType → StoreM (Option String)
  | [] => peek fun s => s.caseByNumber? text
  | aliasType :: rest => do
    let caseId ← resolveAlias aliasType text
    match truthyId caseId with
    | some caseId => pure (some caseId)
    | none => resolveByAlias text rest

def resolveCaseIdentifier (identifier : String) : StoreM (Option String) :=
  let text := strip identifier
  if text = "" then pure none
  else do
    let direct ← getCase text
    match direct.bind CaseProjection.atomic? with
    | some case => pure (some case.caseId)
    | none => resolveByAlias text [.sourceFp, .sourceEventId]

/-- `_case`. -/
def graphCase (incidentId : String) : StoreM (Option AtomicCaseProjection) := do
  let caseId ← resolveCaseIdentifier incidentId
  let case ← getCase (orText (caseId.getD "") incidentId)
  pure (case.bind CaseProjection.atomic?)

/-- `_require_case`. -/
def requireGraphCase (incidentId : String) : StoreM AtomicCaseProjection := do
  let case ← graphCase incidentId
  orRaise case .keyError

/-- `case_write_guard`, which nobody else can hold. -/
def caseWriteGuard {α : Type} (caseId : String) (body : StoreM α) : StoreM α := do
  let known ← peek fun s => (s.cases.get? caseId).isSome
  raiseIf (known = false) .keyError
  body

/-! ## The writes -/

/-- The clock as a write reads it, and its event. -/
structure GraphDraws where
  resolvedAt : String
  updatedAt : String
  event : Draw

def graphEvent (case : AtomicCaseProjection) (eventType : String) (payload : JsonDict)
    (draw : Draw) : CaseEvent where
  eventId := draw.eventId
  caseId := some case.caseId
  eventType := eventType
  actorType := .graph
  occurredAt := draw.now
  payload := payload

section Writes

variable (py : Python)

/-- `diagnosis["thread_id"] = ...`, when there is a thread id. -/
def withThread (threadId : Json) (diagnosis : JsonDict) : JsonDict :=
  if threadId.truthy then dictPut diagnosis "thread_id" (.str (safeString py 128 threadId))
  else diagnosis

/-- `str(rendered.get("status") or "")`. -/
def summaryStatus (summary : JsonDict) : String :=
  textOf py ((summaryPayload py summary).get "status")

/-- The case with a new summary. -/
def summarizedCase (case : AtomicCaseProjection) (summary : JsonDict) (now : String) :
    AtomicCaseProjection :=
  let rendered := summaryPayload py summary
  { case with
    lastDiagnosis := withThread py (rendered.get "thread_id")
      (dictPut case.lastDiagnosis "graph_summary" (.dict rendered))
    status := (graphAuthored (summaryStatus py summary)).getD case.status
    summary :=
      if (rendered.get "title").truthy then safeString py 1000 (rendered.get "title")
      else case.summary
    updatedAt := now }

/-- `put_summary`, under the guard. -/
def writeSummary (caseId : String) (summary : JsonDict) (draws : GraphDraws) : StoreM Unit := do
  let case ← requireGraphCase caseId
  let rendered := summaryPayload py summary
  let updated := summarizedCase py case summary draws.updatedAt
  putCase updated
  let _ ← storeEvent (graphEvent updated "graph_summary_recorded"
    [("status", .str (safeString py 64 (rendered.get "status"))),
      ("thread_id", .str (safeString py 128 (rendered.get "thread_id"))),
      ("title", .str (safeString py 500 (rendered.get "title")))] draws.event)
  pure ()

def putSummary (incidentId : String) (summary : JsonDict) (draws : GraphDraws) : StoreM Unit := do
  let case ← requireGraphCase incidentId
  caseWriteGuard case.caseId (writeSummary py case.caseId summary draws)

/-- The summary of a case, if it is a dict. -/
def AtomicCaseProjection.graphSummary (case : AtomicCaseProjection) : Option JsonDict :=
  (case.lastDiagnosis.get "graph_summary").dict?

def getSummary (incidentId : String) : StoreM (Option JsonDict) := do
  let case ← graphCase incidentId
  pure ((case.bind AtomicCaseProjection.graphSummary).map (boundedDict py 1000 5))

/-- `str(safe_fields.get("status") or "")`. -/
def fieldsStatus (fields : JsonDict) : String :=
  textOf py ((boundedDict py 1000 5 fields).get "status")

/-- The summary with the fields of an update. -/
def updatedSummary (case : AtomicCaseProjection) (safeFields : JsonDict) : JsonDict :=
  let graphUpdate : JsonDict := dictWithout safeFields "case_context"
  let graphUpdate : JsonDict :=
    if (graphUpdate.get "decision_status").truthy then
      dictPut graphUpdate "status" (.str (textOf py (graphUpdate.get "decision_status")))
    else graphUpdate
  dictSetDefault (dictSetDefault (dictMerge (case.graphSummary.getD []) graphUpdate)
    "incident_id" (.str case.caseId)) "case_number" (.str case.caseNumber)

/-- The case with an update of the graph. -/
def graphUpdatedCase (case : AtomicCaseProjection) (fields : JsonDict) (draws : GraphDraws) :
    AtomicCaseProjection :=
  let safeFields := boundedDict py 1000 5 fields
  let given := fieldsStatus py fields
  let status := if given ≠ "" then caseStatusOf given case.status else case.status
  { case with
    status := status
    resolvedAt :=
      if given ≠ "" ∧ status ∈ TERMINAL_CASE_STATUSES ∧ case.resolvedAt = none then
        some draws.resolvedAt
      else case.resolvedAt
    summary :=
      if (safeFields.get "diagnostic_summary").truthy then
        safeString py 1000 (safeFields.get "diagnostic_summary")
      else case.summary
    lastDiagnosis := withThread py (safeFields.get "thread_id")
      (dictPut case.lastDiagnosis "graph_summary"
        (.dict (summaryPayload py (updatedSummary py case safeFields))))
    updatedAt := draws.updatedAt }

/-- `update_case`, under the guard. -/
def writeCaseUpdate (caseId : String) (fields : JsonDict) (draws : GraphDraws) :
    StoreM AtomicCaseProjection := do
  let case ← requireGraphCase caseId
  let safeFields := boundedDict py 1000 5 fields
  let updated := graphUpdatedCase py case fields draws
  putCase updated
  let _ ← storeEvent (graphEvent updated "graph_case_updated"
    [("status", .str (safeString py 64 (.str (fieldsStatus py fields)))),
      ("thread_id", .str (safeString py 128 (safeFields.get "thread_id"))),
      ("diagnostic_summary", .str (safeString py 500 (safeFields.get "diagnostic_summary")))]
    draws.event)
  pure updated

/-- `update_case`; the graph sees the case it returns. -/
def updateCase (incidentId : String) (fields : JsonDict) (draws : GraphDraws) :
    StoreM AtomicCaseProjection := do
  let case ← requireGraphCase incidentId
  caseWriteGuard case.caseId (writeCaseUpdate py case.caseId fields draws)

/-- `link_to_parent_case`; `none` is `case_not_found`. -/
def linkToParentCase (childCaseId parentCaseId reason : String) (evidenceRefs : List Json)
    (now : String) (draws : LinkDraws) : StoreM (Option CaseLinkResult) := do
  let child ← resolveCaseIdentifier childCaseId
  let parent ← resolveCaseIdentifier parentCaseId
  match truthyId child, truthyId parent with
  | some child, some parent =>
    linkChildCase child parent (safeString py 500 (.str reason))
      ((evidenceRefs.take 20).map (safeString py 160)) now draws
  | _, _ => pure none

end Writes

/-! ## What the lookups find -/

def Store.aliasedCaseId? (s : Store) (text : String) : List AliasType → Option String
  | [] => s.caseByNumber? text
  | aliasType :: rest =>
    (truthyId (s.resolves? aliasType text)).or (s.aliasedCaseId? text rest)

/-- The case id an identifier stands for. -/
def Store.graphCaseId? (s : Store) (identifier : String) : Option String :=
  if strip identifier = "" then none
  else ((s.atomicCase? (strip identifier)).map AtomicCaseProjection.caseId).or
    (s.aliasedCaseId? (strip identifier) [.sourceFp, .sourceEventId])

/-- The case an incident stands for. -/
def Store.graphCase? (s : Store) (incidentId : String) : Option AtomicCaseProjection :=
  s.atomicCase? (orText ((s.graphCaseId? incidentId).getD "") incidentId)

theorem resolveByAlias_run (text : String) (s : Store) : ∀ aliasTypes : List AliasType,
    resolveByAlias text aliasTypes s = (.ok (s.aliasedCaseId? text aliasTypes), s)
  | [] => rfl
  | aliasType :: rest => by
    have hfirst := resolveAlias_run aliasType text s
    unfold resolveByAlias Store.aliasedCaseId?
    rw [bind_ok hfirst]
    cases truthyId (s.resolves? aliasType text) with
    | some caseId => rfl
    | none => exact resolveByAlias_run text s rest

theorem resolveCaseIdentifier_run (identifier : String) (s : Store) :
    resolveCaseIdentifier identifier s = (.ok (s.graphCaseId? identifier), s) := by
  unfold resolveCaseIdentifier Store.graphCaseId?
  by_cases hempty : strip identifier = ""
  · simp only [hempty, if_true]
    rfl
  · simp only [hempty, if_false]
    unfold getCase
    rw [peek_bind_run]
    change (match s.atomicCase? (strip identifier) with
      | some case => (pure (some case.caseId) : StoreM (Option String))
      | none => resolveByAlias (strip identifier) [.sourceFp, .sourceEventId]) s = _
    cases s.atomicCase? (strip identifier) with
    | some case => rfl
    | none => exact resolveByAlias_run _ s _

theorem graphCase_run (incidentId : String) (s : Store) :
    graphCase incidentId s = (.ok (s.graphCase? incidentId), s) := by
  unfold graphCase
  rw [bind_ok (resolveCaseIdentifier_run incidentId s)]
  rfl

@[simp] theorem requireGraphCase_bind_run {β : Type} (incidentId : String)
    (f : AtomicCaseProjection → StoreM β) (s : Store) :
    (requireGraphCase incidentId >>= f) s =
      match s.graphCase? incidentId with
      | some case => f case s
      | none => (.error .keyError, s) := by
  unfold requireGraphCase
  rw [bind_bind_run, bind_ok (graphCase_run incidentId s), orRaise_bind_run]
  cases s.graphCase? incidentId <;> rfl

theorem getSummary_run (py : Python) (incidentId : String) (s : Store) :
    getSummary py incidentId s = (.ok (((s.graphCase? incidentId).bind
      AtomicCaseProjection.graphSummary).map (boundedDict py 1000 5)), s) := by
  unfold getSummary
  rw [bind_ok (graphCase_run incidentId s)]
  rfl

/-- A case that is found is stored under its own id. -/
theorem graphCase?_stored {s : Store} {incidentId : String} {case : AtomicCaseProjection}
    (h : s.graphCase? incidentId = some case) : s.atomicCase? case.caseId = some case := by
  have hid := caseId_of_atomicCase? h
  unfold Store.graphCase? at h
  rw [hid]
  exact h

/-! ## What the writes do -/

section Runs

variable (py : Python) {s : Store} {incidentId : String} {case : AtomicCaseProjection}

theorem writeSummary_run (h : s.graphCase? incidentId = some case) (summary : JsonDict)
    (draws : GraphDraws) : ∃ ev ix, writeSummary py incidentId summary draws s = (.ok (), { s with
      cases := s.cases.put (.atomic (summarizedCase py case summary draws.updatedAt))
      events := ev
      caseEvents := ix }) := by
  unfold writeSummary putCase
  simp only [requireGraphCase_bind_run, h, alter_bind_run]
  obtain ⟨stored, ev, ix, hrun⟩ := storeEvent_run _ _
  exact ⟨ev, ix, (bind_ok hrun).trans rfl⟩

theorem writeCaseUpdate_run (h : s.graphCase? incidentId = some case) (fields : JsonDict)
    (draws : GraphDraws) : ∃ ev ix, writeCaseUpdate py incidentId fields draws s =
      (.ok (graphUpdatedCase py case fields draws), { s with
        cases := s.cases.put (.atomic (graphUpdatedCase py case fields draws))
        events := ev
        caseEvents := ix }) := by
  unfold writeCaseUpdate putCase
  simp only [requireGraphCase_bind_run, h, alter_bind_run]
  obtain ⟨stored, ev, ix, hrun⟩ := storeEvent_run _ _
  exact ⟨ev, ix, (bind_ok hrun).trans rfl⟩

/-- Without the case, nothing is written. -/
theorem requireGraphCase_missing {β : Type} (h : s.graphCase? incidentId = none)
    (f : AtomicCaseProjection → StoreM β) :
    (requireGraphCase incidentId >>= f) s = (.error .keyError, s) := by
  rw [requireGraphCase_bind_run, h]

theorem caseWriteGuard_run {α : Type} (caseId : String) (body : StoreM α) (s : Store) :
    caseWriteGuard caseId body s =
      if (s.cases.get? caseId).isSome then body s else (.error .keyError, s) := by
  unfold caseWriteGuard
  rw [peek_bind_run, raiseIf_bind_run]
  cases (s.cases.get? caseId).isSome <;> rfl

theorem caseWriteGuard_pure_state {α β : Type} (caseId : String) (body : StoreM α) (f : α → β)
    (s : Store) : (caseWriteGuard caseId (body >>= fun a => pure (f a)) s).2 =
      (caseWriteGuard caseId body s).2 := by
  rw [caseWriteGuard_run, caseWriteGuard_run]
  split
  · exact bind_pure_state body f s
  · rfl

end Runs

end NocAgent.Cases
