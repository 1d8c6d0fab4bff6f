import NocAgent.Cases.ActiveFingerprint
import NocAgent.Cases.Investigation
import NocAgent.Cases.Notifications

/-!
# The reactive webhooks

* `AlertManagerPayload`, `IcingaNotification` — what the webhooks receive, and the payload made of
  it.
* `reactivePrimary` — the observations of a payload are applied, the first firing one that is due
  claims an investigation, and a payload for it is handed on.
* `isRecoveryAlert` — what the investigation asks before it starts.
* `reactivePrimary_recovery_iff` — it is a recovery exactly when the alert that the observation was
  matched to says so.
-/

set_option autoImplicit false

namespace NocAgent.Cases

open Effects Effects.Action Keyed

/-! ## Payloads -/

/-- The body of an AlertManager webhook. -/
structure AlertManagerPayload where
  receiver : String
  status : String
  alerts : List JsonDict
  groupLabels : JsonDict
  commonLabels : JsonDict
  commonAnnotations : JsonDict
  externalURL : String
  version : String
  groupKey : String
  truncatedAlerts : Int := 0

/-- The body of an Icinga webhook. -/
structure IcingaNotification where
  hostName : String
  hostAddress : Option String := none
  serviceName : Option String := none
  checkCommand : Option String := none
  state : String
  stateType : Option String := none
  output : Option String := none
  tags : JsonDict := []

inductive WebhookPayload where
  | alertmanager (payload : AlertManagerPayload)
  | icinga (notif : IcingaNotification)

/-- `payload.model_dump()`, and its source. -/
def AlertManagerPayload.modelDump (payload : AlertManagerPayload) : JsonDict :=
  [("receiver", .str payload.receiver), ("status", .str payload.status),
    ("alerts", .list (payload.alerts.map .dict)), ("groupLabels", .dict payload.groupLabels),
    ("commonLabels", .dict payload.commonLabels),
    ("commonAnnotations", .dict payload.commonAnnotations),
    ("externalURL", .str payload.externalURL), ("version", .str payload.version),
    ("groupKey", .str payload.groupKey), ("truncatedAlerts", .int payload.truncatedAlerts),
    ("source", .str "alertmanager")]

/-- `value or default` of optional text. -/
def orElseText (value : Option String) (default : String) : String :=
  orText (value.getD "") default

/-- `_icinga_to_alert_payload`. -/
def icingaToAlertPayload (py : Python) (notif : IcingaNotification) : JsonDict :=
  let name := orElseText notif.serviceName (orElseText notif.checkCommand "host-check")
  let status :=
    if py.upper (notif.stateType.getD "") = "PROBLEM" ∨ py.upper notif.state ∉ ["OK", "UP"] then
      "firing"
    else "resolved"
  [("source", .str "icinga2"), ("status", .str status),
    ("groupLabels", .dict [("alertname", .str name), ("host", .str notif.hostName)]),
    ("commonLabels", .dict [("host", .str notif.hostName),
      ("service", .str (notif.serviceName.getD "")),
      ("address", .str (notif.hostAddress.getD "")),
      ("check_command", .str (notif.checkCommand.getD ""))]),
    ("commonAnnotations", .dict [("summary", .str (notif.output.getD ""))]),
    ("alerts", .list [.dict [
      ("labels", .dict [("alertname", .str name), ("host", .str notif.hostName),
        ("service", .str (notif.serviceName.getD "")), ("state", .str notif.state)]),
      ("annotations", .dict [("summary", .str (notif.output.getD ""))]),
      ("status", .str notif.state)]]),
    ("tags", .dict notif.tags)]

def WebhookPayload.alertPayload (py : Python) : WebhookPayload → JsonDict
  | .alertmanager payload => payload.modelDump
  | .icinga notif => icingaToAlertPayload py notif

/-- What one webhook request draws. -/
structure ReactiveDraws where
  observationId : Nat → String
  observedAt : String
  observe : Nat → ObserveDraws
  /-- the clock of each `should_investigate` -/
  clock : Nat → Int
  asked : Int
  now : String
  event : Draw

section Reactive

variable (py : Python) (policy : CasePolicy)

/-- `_reactive_observations_from_alert_payload`. -/
def reactiveObservations (draws : ReactiveDraws) (payload : JsonDict) : List ObservationRecord :=
  if textOf py (payload.get "source") = "icinga2" then
    [observationFromIcingaAlertPayload py (draws.observationId 0) draws.observedAt payload]
  else observationsFromAlertmanager py draws.observationId payload

/-! ## Recovery -/

def RECOVERY_STATUSES : List String := ["resolved", "recovery", "ok", "up"]

def saysRecovery (status : Json) : Bool := py.lower (textOf py status) ∈ RECOVERY_STATUSES

/-- `_first_alert`. -/
def firstAlert (payload : JsonDict) : JsonDict := dictOf ((alertsOf payload).headD .null)

/-- `_is_recovery_alert`. -/
def isRecoveryAlert (payload : JsonDict) : Bool :=
  saysRecovery py (payload.get "status") || saysRecovery py ((firstAlert payload).get "status")

/-! ## The payload of an observation -/

/-- The instant an observation's alert started, as its snapshot or its record has it. -/
def observationStartsAt (observation : ObservationRecord) : Json :=
  ((observation.signalSnapshot.get "startsAt").or (.str observation.observedAt)).or (.str "")

/-- A raw alert is the one of an observation: by its fingerprint, or by all of its labels, times
and annotations. -/
def alertMatches (payload : JsonDict) (observation : ObservationRecord) (alert : JsonDict) : Bool :=
  let fingerprint := alertFingerprint py payload alert
  let startsAt := textOf py (observationStartsAt observation)
  let endsAt := textOf py (observation.signalSnapshot.get "endsAt")
  (fingerprint ≠ "" && observation.sourceFingerprint ≠ "" &&
      fingerprint == observation.sourceFingerprint) ||
    (Json.eq (.dict (alertLabels payload alert)) (.dict observation.labels) &&
      (startsAt == "" || alertStartsAt py alert == startsAt) &&
      (endsAt == "" || textOf py ((alert.get "endsAt").or (alert.get "ends_at")) == endsAt) &&
      (observation.annotations.isEmpty ||
        Json.eq (.dict (alertAnnotations payload alert)) (.dict observation.annotations)))

/-- `_matching_alert_for_observation`. -/
def matchingAlertForObservation (payload : JsonDict) (observation : ObservationRecord) :
    Option JsonDict :=
  ((alertsOf payload).filterMap Json.dict?).find? (alertMatches py payload observation)

/-- An alert made of the observation, when no raw alert is its own. -/
def alertFromObservation (observation : ObservationRecord) : JsonDict :=
  let startsAt := observationStartsAt observation
  let endsAt := (observation.signalSnapshot.get "endsAt").or (.str "")
  let generatorUrl :=
    ((observation.signalSnapshot.get "generatorURL").or (.str observation.payloadRef)).or (.str "")
  [("status", .str observation.status.text), ("labels", .dict observation.labels),
    ("annotations", .dict observation.annotations)] ++
    (if startsAt.truthy then [("startsAt", startsAt)] else []) ++
    (if endsAt.truthy then [("endsAt", endsAt)] else []) ++
    (if generatorUrl.truthy then [("generatorURL", generatorUrl)] else [])

/-- `_case_service_alert_payload_for_result`. -/
def alertPayloadForResult (payload : JsonDict) (observation : ObservationRecord) : JsonDict :=
  let selected := (matchingAlertForObservation py payload observation).getD
    (alertFromObservation observation)
  dictPut (dictPut (dictPut payload "alerts" (.list [.dict selected])) "status"
    (.str observation.status.text)) "truncatedAlerts" (.int 0)

/-! ## The request -/

/-- `_case_service_reactive_investigation_result`: the first firing result that is due, or the
first firing one when the question raises. -/
def reactiveInvestigationResult (clock : Nat → Int) :
    Option ObserveResult → Nat → List ObserveResult → Option ObserveResult
  | _, _, [] => none
  | firstFiring, n, result :: rest =>
    match result.observation.status, result.case with
    | .firing, some case =>
      match shouldInvestigate py policy case (clock n) with
      | .ok true => some result
      | .ok false => reactiveInvestigationResult clock (firstFiring.or (some result)) (n + 1) rest
      | .error _ => firstFiring.or (some result)
    | _, _ => reactiveInvestigationResult clock firstFiring n rest

/-- `CaseService.claim_investigation`. -/
def CaseService.claimInvestigation (case : AtomicCaseProjection) (asked : Int) (now : String)
    (draw : Draw) : StoreM (Option AtomicCaseProjection) :=
  match claimRequest py policy case "in_progress" asked now draw with
  | .error e => raise e
  | .ok none => pure none
  | .ok (some request) => Cases.claimInvestigation request

/-- What is handed to `investigate_alert`. -/
structure Handed where
  observation : ObservationRecord
  case : AtomicCaseProjection
  payload : JsonDict

/-- `_observe_case_service_reactive_primary`; `report` may request a report of a result. -/
def observeReactivePrimary (report : ObserveResult → StoreM Unit) (draws : ReactiveDraws)
    (payload : JsonDict) : StoreM (List ObserveResult) :=
  forEach (fun item => do
    let result ← observe py policy item.1 (draws.observe item.2)
    report result
    pure result) (reactiveObservations py draws payload).zipIdx

/-- `_case_service_reactive_primary_response`, up to the investigation it queues. -/
def reactivePrimary (report : ObserveResult → StoreM Unit) (draws : ReactiveDraws)
    (payload : JsonDict) : StoreM (Option Handed) := do
  let results ← observeReactivePrimary py policy report draws payload
  match reactiveInvestigationResult py policy draws.clock none 0 results with
  | none => pure none
  | some result =>
    match result.case with
    | none => pure none
    | some case => do
      report result
      let claimed ← CaseService.claimInvestigation py policy case draws.asked draws.now draws.event
      pure (claimed.map fun case => {
        observation := result.observation
        case := case
        payload := alertPayloadForResult py payload result.observation })

end Reactive

/-! ## Recoveries that are handed on -/

/-- The first raw alert that is the one of the observation says that it recovered. -/
def MatchesRecovered (py : Python) (payload : JsonDict) (observation : ObservationRecord) : Prop :=
  ∃ before alert after, (alertsOf payload).filterMap Json.dict? = before ++ alert :: after ∧
    (∀ earlier ∈ before, alertMatches py payload observation earlier = false) ∧
    alertMatches py payload observation alert = true ∧
    saysRecovery py (alert.get "status") = true

section Recoveries

variable {py : Python} {policy : CasePolicy}

theorem matchesRecovered_iff {payload : JsonDict} {observation : ObservationRecord} :
    MatchesRecovered py payload observation ↔
      ∃ alert ∈ matchingAlertForObservation py payload observation,
        saysRecovery py (alert.get "status") = true := by
  unfold matchingAlertForObservation MatchesRecovered
  constructor
  · rintro ⟨before, alert, after, hsplit, hbefore, hmatches, hrecovery⟩
    refine ⟨alert, List.find?_eq_some_iff_append.2 ⟨hmatches, before, after, hsplit, ?_⟩, hrecovery⟩
    intro earlier hearlier
    rw [hbefore earlier hearlier]
    rfl
  · rintro ⟨alert, hfind, hrecovery⟩
    obtain ⟨hmatches, before, after, hsplit, hbefore⟩ := List.find?_eq_some_iff_append.1 hfind
    refine ⟨before, alert, after, hsplit, fun earlier hearlier => ?_, hmatches, hrecovery⟩
    simpa using hbefore earlier hearlier

/-- The payload of an observation has the observation's status and one alert. -/
theorem isRecoveryAlert_payloadForResult (payload : JsonDict) (observation : ObservationRecord) :
    isRecoveryAlert py (alertPayloadForResult py payload observation) =
      (saysRecovery py (.str observation.status.text) ||
        saysRecovery py (((matchingAlertForObservation py payload observation).getD
          (alertFromObservation observation)).get "status")) := by
  have hstatus : JsonDict.get (alertPayloadForResult py payload observation) "status" =
      .str observation.status.text := by
    unfold alertPayloadForResult
    rw [get_dictPut, if_neg (by decide), get_dictPut, if_pos rfl]
  have halerts : JsonDict.get (alertPayloadForResult py payload observation) "alerts" =
      .list [.dict ((matchingAlertForObservation py payload observation).getD
        (alertFromObservation observation))] := by
    unfold alertPayloadForResult
    rw [get_dictPut, if_neg (by decide), get_dictPut, if_neg (by decide), get_dictPut, if_pos rfl]
  unfold isRecoveryAlert firstAlert alertsOf
  rw [hstatus, halerts]
  rfl

theorem saysRecovery_firing (hlower : py.lower "firing" = "firing") :
    saysRecovery py (.str "firing") = false := by
  unfold saysRecovery
  rw [textOf_str, hlower]
  decide

/-- **The payload of a firing observation is a recovery exactly when the alert it was matched to
says so.** -/
theorem isRecoveryAlert_firing (hlower : py.lower "firing" = "firing") (payload : JsonDict)
    {observation : ObservationRecord} (hfiring : observation.status = .firing) :
    isRecoveryAlert py (alertPayloadForResult py payload observation) = true ↔
      MatchesRecovered py payload observation := by
  have htext : observation.status.text = "firing" := by rw [hfiring]; rfl
  rw [isRecoveryAlert_payloadForResult, htext, saysRecovery_firing hlower, Bool.false_or,
    matchesRecovered_iff]
  cases hmatch : matchingAlertForObservation py payload observation with
  | none =>
    -- an alert made of the observation has its status
    have hmade : JsonDict.get (alertFromObservation observation) "status" = .str "firing" := by
      rw [← htext]
      rfl
    rw [Option.getD_none, hmade, saysRecovery_firing hlower]
    simp
  | some alert => simp

/-- What is investigated is firing and has a case. -/
theorem reactiveInvestigationResult_firing {clock : Nat → Int} :
    ∀ {results : List ObserveResult} {firstFiring : Option ObserveResult} {n : Nat}
      {result : ObserveResult},
      (∀ first ∈ firstFiring, first.observation.status = .firing) →
      reactiveInvestigationResult py policy clock firstFiring n results = some result →
      result.observation.status = .firing
  | [], _, _, _, _, h => by cases h
  | head :: rest, firstFiring, n, result, hfirst, h => by
    unfold reactiveInvestigationResult at h
    split at h
    · rename_i case hfiring hcase
      have hor : ∀ first ∈ firstFiring.or (some head), first.observation.status = .firing := by
        intro first hmem
        cases firstFiring with
        | none =>
          cases hmem
          exact hfiring
        | some other =>
          cases hmem
          exact hfirst first rfl
      split at h
      · cases h
        exact hfiring
      · exact reactiveInvestigationResult_firing hor h
      · exact hor result h
    · exact reactiveInvestigationResult_firing hfirst h

/-- What is handed on is the payload of a firing observation. -/
theorem reactivePrimary_handed {report : ObserveResult → StoreM Unit} {draws : ReactiveDraws}
    {payload : JsonDict} {s t : Store} {handed : Handed}
    (h : reactivePrimary py policy report draws payload s = (.ok (some handed), t)) :
    handed.observation.status = .firing ∧
      handed.payload = alertPayloadForResult py payload handed.observation := by
  unfold reactivePrimary at h
  obtain ⟨e, u, -, hr⟩ | ⟨results, u, -, h⟩ := bind_inv h
  · cases hr
  cases hresult : reactiveInvestigationResult py policy draws.clock none 0 results with
  | none =>
    rw [hresult] at h
    cases h
  | some result =>
    rw [hresult] at h
    dsimp only at h
    have hfiring := reactiveInvestigationResult_firing (by simp) hresult
    cases hcase : result.case with
    | none =>
      rw [hcase] at h
      cases h
    | some case =>
      rw [hcase] at h
      obtain ⟨e, u, -, hr⟩ | ⟨_, u, -, h⟩ := bind_inv h
      · cases hr
      obtain ⟨e, u, -, hr⟩ | ⟨claimed, u, -, h⟩ := bind_inv h
      · cases hr
      rw [pure_run] at h
      have hsome : claimed.map _ = some handed := (Except.ok.inj (Prod.mk.inj h).1)
      obtain ⟨case, -, rfl⟩ := Option.map_eq_some_iff.1 hsome
      exact ⟨hfiring, rfl⟩

/-- **Of every request: what it hands to the investigation is no recovery exactly when the first
raw alert that is the one of the observation does not say that it recovered.** -/
theorem reactivePrimary_recovery_iff (hlower : py.lower "firing" = "firing")
    {webhook : WebhookPayload} {report : ObserveResult → StoreM Unit} {draws : ReactiveDraws}
    {s t : Store} {handed : Handed}
    (h : reactivePrimary py policy report draws (webhook.alertPayload py) s =
      (.ok (some handed), t)) :
    isRecoveryAlert py handed.payload = false ↔
      ¬ MatchesRecovered py (webhook.alertPayload py) handed.observation := by
  obtain ⟨hfiring, hpayload⟩ := reactivePrimary_handed h
  rw [hpayload, ← isRecoveryAlert_firing hlower _ hfiring, Bool.not_eq_true]

end Recoveries

/-! ## Icinga -/

/-- **The alert of an Icinga notification has no time and its observation has one, so no alert is
matched to it.** -/
theorem not_matchesRecovered_icinga (py : Python) (notif : IcingaNotification)
    {observationId now : String} (hnow : now ≠ "") :
    ¬ MatchesRecovered py (icingaToAlertPayload py notif)
      (observationFromIcingaAlertPayload py observationId now (icingaToAlertPayload py notif)) := by
  have hall : ∀ alert ∈ (alertsOf (icingaToAlertPayload py notif)).filterMap Json.dict?,
      alertFingerprint py (icingaToAlertPayload py notif) alert = "" ∧
        alertStartsAt py alert = "" := by
    intro alert hmem
    cases List.mem_singleton.1 hmem
    exact ⟨rfl, rfl⟩
  rintro ⟨before, alert, after, hsplit, -, hmatches, -⟩
  obtain ⟨hfingerprint, hstarts⟩ := hall alert (by rw [hsplit]; simp)
  have hobserved : textOf py (observationStartsAt (observationFromIcingaAlertPayload py
      observationId now (icingaToAlertPayload py notif))) = now := by
    change textOf py (((Json.null).or (.str now)).or (.str "")) = now
    simp [Json.or, Json.truthy, hnow]
  unfold alertMatches at hmatches
  rw [hfingerprint, hstarts, hobserved] at hmatches
  simp [hnow, Ne.symm hnow] at hmatches

/-! ## A group with an alert that resolved and fires again -/

def refiredPayload : AlertManagerPayload where
  receiver := "noc"
  status := "firing"
  alerts := [
    [("status", .str "resolved"), ("fingerprint", .str "f1"),
      ("labels", .dict [("alertname", .str "BgpDown"), ("host", .str "r1")])],
    [("status", .str "firing"), ("fingerprint", .str "f1"),
      ("labels", .dict [("alertname", .str "BgpDown"), ("host", .str "r1")])]]
  groupLabels := []
  commonLabels := []
  commonAnnotations := []
  externalURL := ""
  version := "4"
  groupKey := "site:fra1"

def refiredDraws : ReactiveDraws where
  observationId n := "obs_" ++ toString n
  observedAt := "2026-01-01T01:00:00+00:00"
  observe n := (alertCall (toString n) n .firing "" "" "2026-01-01T01:00:00+00:00").draws
  clock _ := 0
  asked := 0
  now := "2026-01-01T01:00:00+00:00"
  event := ⟨"evt_i", "2026-01-01T01:00:00+00:00"⟩

def refired : Except PyExc (Option Handed) × Store :=
  reactivePrimary (tablePython []) {} (fun _ => pure ()) refiredDraws
    ((WebhookPayload.alertmanager refiredPayload).alertPayload (tablePython [])) {}

/-- The resolved alert is handed on for the firing observation. -/
theorem recovery_handed_refired :
    ∃ handed, refired.1 = .ok (some handed) ∧ handed.observation.status = .firing ∧
      isRecoveryAlert (tablePython []) handed.payload = true :=
  ⟨_, rfl, rfl, by decide +kernel⟩

theorem reactivePrimary_recovery_iff_refired : ∃ handed, refired.1 = .ok (some handed) ∧
    MatchesRecovered (tablePython [])
      ((WebhookPayload.alertmanager refiredPayload).alertPayload (tablePython []))
      handed.observation := by
  have hlower : (tablePython []).lower "firing" = "firing" := by decide
  have hrun : reactivePrimary (tablePython []) {} (fun _ => pure ()) refiredDraws
      ((WebhookPayload.alertmanager refiredPayload).alertPayload (tablePython [])) {} =
        (refired.1, refired.2) := rfl
  refine ⟨_, rfl, ?_⟩
  by_contra hnot
  have hfalse := (reactivePrimary_recovery_iff hlower hrun).2 hnot
  revert hfalse
  decide +kernel

end NocAgent.Cases
