import NocAgent.Cases.Observe

/-!
# Alertmanager payloads as observations

* `observationsFromAlertmanager` — one observation an alert, with the names its case is found by.
* `observationFromIcingaAlertPayload` — the one observation of an Icinga notification.
* `FromAlertmanager` — an observation of some payload.
* `FromAlertmanager.fingerprint_ne` — its source fingerprint is never empty.
-/

set_option autoImplicit false

namespace NocAgent.Cases

section Alerts

variable (py : Python)

/-- `_dict`. -/
def dictOf (value : Json) : JsonDict := value.dict?.getD []

/-- `_first_label`. -/
def firstLabel (labels : JsonDict) (names : List String) : String :=
  match names.find? fun name => (labels.get name).truthy with
  | some name => pyStr py (labels.get name)
  | none => ""

/-- `_fingerprint`. -/
def notificationFingerprint (value : JsonDict) : String :=
  takeChars 16 (py.sha256 (py.stableJson (.dict value)))

/-- `_status_from_alertmanager`. -/
def statusFromAlertmanager (status : String) : ObservationStatus :=
  if py.lower status = "firing" then .firing else .resolved

/-- `_severity`. -/
def notificationSeverity (value : Json) : Severity :=
  let text := py.upper (textOf py value)
  if text ∈ ["CRITICAL", "HIGH", "DOWN"] then .high
  else if text ∈ ["WARNING", "WARN", "MEDIUM"] then .medium
  else if text ∈ ["OK", "UP", "INFO", "LOW"] then .low
  else .unknown

/-- `raw_alerts if isinstance(raw_alerts, list) else []`. -/
def alertsOf (payload : JsonDict) : List Json :=
  match payload.get "alerts" with
  | .list alerts => alerts
  | _ => []

/-- The labels of an alert over those of its payload. -/
def alertLabels (payload alert : JsonDict) : JsonDict :=
  dictMerge (dictOf (payload.get "commonLabels")) (dictOf (alert.get "labels"))

def alertAnnotations (payload alert : JsonDict) : JsonDict :=
  dictMerge (dictOf (payload.get "commonAnnotations")) (dictOf (alert.get "annotations"))

/-- The fingerprint that the alert, or one of its labels, carries. -/
def alertFingerprint (payload alert : JsonDict) : String :=
  textOf py ((alert.get "fingerprint").or ((alertLabels payload alert).get "fingerprint"))

/-- Without a fingerprint, the event id is the place of the alert in its group. -/
def alertEventId (payload alert : JsonDict) (index : Nat) : String :=
  let groupKey := textOf py (payload.get "groupKey")
  if alertFingerprint py payload alert ≠ "" then alertFingerprint py payload alert
  else if groupKey ≠ "" then groupKey ++ ":" ++ toString index
  else notificationFingerprint py
    [("labels", .dict (alertLabels payload alert)), ("index", .int index)]

def alertDetector (payload alert : JsonDict) : String :=
  pyStr py (((alertLabels payload alert).get "alertname").or
    ((payload.get "receiver").or (.str "alertmanager")))

def alertResource (payload alert : JsonDict) : String :=
  firstLabel py (alertLabels payload alert)
    ["host", "instance", "device", "router", "node", "target"]

def alertService (payload alert : JsonDict) : String :=
  firstLabel py (alertLabels payload alert) ["service", "job", "check", "alertname"]

/-- `alert_fp or _fingerprint({"detector": ..., "resource": ..., "service": ...})`. -/
def alertSourceFingerprint (payload alert : JsonDict) : String :=
  orText (alertFingerprint py payload alert) (notificationFingerprint py
    [("detector", .str (alertDetector py payload alert)),
      ("resource", .str (alertResource py payload alert)),
      ("service", .str (alertService py payload alert))])

def alertStartsAt (alert : JsonDict) : String :=
  textOf py ((alert.get "startsAt").or (alert.get "starts_at"))

def alertSnapshot (payload alert : JsonDict) : JsonDict :=
  [("labels", .dict (alertLabels payload alert)),
    ("annotations", .dict (alertAnnotations payload alert)),
    ("startsAt", .str (alertStartsAt py alert)),
    ("endsAt", ((alert.get "endsAt").or (alert.get "ends_at")).or (.str "")),
    ("generatorURL", (alert.get "generatorURL").or (.str "")),
    ("groupKey", .str (textOf py (payload.get "groupKey")))]

/-- The observation of one alert. -/
def observationFromAlert (payload : JsonDict) (observationId : String) (alert : JsonDict)
    (index : Nat) : ObservationRecord :=
  let labels := alertLabels payload alert
  let source := pyStr py ((payload.get "source").or (.str "alertmanager"))
  let sourceEventId := alertEventId py payload alert index
  let status := statusFromAlertmanager py
    (textOf py ((alert.get "status").or (payload.get "status")))
  { observationId := observationId
    source := source
    sourceEventId := sourceEventId
    sourceFingerprint := alertSourceFingerprint py payload alert
    dedupKey := source ++ ":" ++ sourceEventId ++ ":" ++ status.text
    detector := alertDetector py payload alert
    ruleId := alertDetector py payload alert
    entity := alertResource py payload alert
    resource := alertResource py payload alert
    service := alertService py payload alert
    site := firstLabel py labels ["site", "pop", "region"]
    customer := firstLabel py labels ["customer", "tenant"]
    severity := notificationSeverity py
      ((labels.get "severity").or ((labels.get "priority").or (.str "UNKNOWN")))
    status := status
    observedAt := alertStartsAt py alert
    labels := labels
    annotations := alertAnnotations payload alert
    signalSnapshot := alertSnapshot py payload alert
    signalSignature := stableSignalSignature py (alertSnapshot py payload alert)
    sourceHealth := .healthy
    payloadRef := textOf py ((alert.get "generatorURL").or (payload.get "externalURL")) }

/-- `observations_from_alertmanager`; `observationId` draws the id of each observation. -/
def observationsFromAlertmanager (observationId : Nat → String) (payload : JsonDict) :
    List ObservationRecord :=
  (alertsOf payload).mapIdx fun index alert =>
    observationFromAlert py payload (observationId index) (dictOf alert) index

/-- `_status_from_icinga`. -/
def statusFromIcinga (state payloadStatus : String) : ObservationStatus :=
  if py.lower payloadStatus = "resolved" ∨ py.upper state ∈ ["OK", "UP"] then .resolved else .firing

/-- `observation_from_icinga_alert_payload`; it is observed when it is made. -/
def observationFromIcingaAlertPayload (observationId now : String) (payload : JsonDict) :
    ObservationRecord :=
  let source := pyStr py ((payload.get "source").or (.str "icinga2"))
  let firstAlert := dictOf ((alertsOf payload).headD .null)
  let labels := alertLabels payload firstAlert
  let annotations := alertAnnotations payload firstAlert
  let detector := pyStr py ((labels.get "alertname").or ((labels.get "service").or
    ((labels.get "check_command").or (.str "icinga-check"))))
  let resource := textOf py ((labels.get "host").or (labels.get "instance"))
  let service := pyStr py ((labels.get "service").or ((labels.get "check_command").or
    (.str detector)))
  let state := textOf py ((labels.get "state").or ((firstAlert.get "status").or
    (payload.get "status")))
  let status := statusFromIcinga py state (textOf py (payload.get "status"))
  let sourceEventId := notificationFingerprint py
    [("source", .str source), ("detector", .str detector), ("resource", .str resource),
      ("service", .str service)]
  let snapshot : JsonDict := [("labels", .dict labels), ("annotations", .dict annotations),
    ("state", .str state), ("tags", .dict (dictOf (payload.get "tags")))]
  { observationId := observationId
    source := source
    sourceEventId := sourceEventId
    sourceFingerprint := sourceEventId
    dedupKey := source ++ ":" ++ sourceEventId ++ ":" ++ status.text ++ ":" ++ state
    detector := detector
    ruleId := detector
    entity := resource
    resource := resource
    service := service
    severity := notificationSeverity py (.str state)
    status := status
    observedAt := now
    labels := labels
    annotations := annotations
    signalSnapshot := snapshot
    signalSignature := stableSignalSignature py snapshot
    sourceHealth := .healthy }

/-- The observation comes from an Alertmanager payload. -/
def FromAlertmanager (observation : ObservationRecord) : Prop :=
  ∃ observationId payload, observation ∈ observationsFromAlertmanager py observationId payload

end Alerts

section Facts

variable {py : Python}

theorem mem_observationsFromAlertmanager {observationId : Nat → String} {payload : JsonDict}
    {observation : ObservationRecord} :
    observation ∈ observationsFromAlertmanager py observationId payload ↔
      ∃ (index : Nat) (alert : Json), (alertsOf payload)[index]? = some alert ∧
        observation = observationFromAlert py payload (observationId index) (dictOf alert) index := by
  unfold observationsFromAlertmanager
  rw [List.mem_iff_getElem?]
  constructor
  · rintro ⟨index, h⟩
    rw [List.getElem?_mapIdx, Option.map_eq_some_iff] at h
    obtain ⟨alert, halert, rfl⟩ := h
    exact ⟨index, alert, halert, rfl⟩
  · rintro ⟨index, alert, halert, rfl⟩
    refine ⟨index, ?_⟩
    rw [List.getElem?_mapIdx, halert]
    rfl

theorem takeChars_ne_empty {limit : Nat} {s : String} (hlimit : limit ≠ 0) (hs : s ≠ "") :
    takeChars limit s ≠ "" := by
  unfold takeChars
  intro h
  have hnil : s.toList.take limit = [] := by
    have hlist := congrArg String.toList h
    rwa [String.toList_ofList] at hlist
  rcases List.take_eq_nil_iff.1 hnil with hzero | hempty
  · exact hlimit hzero
  · exact hs (String.toList_eq_nil_iff.1 hempty)

/-- A digest is never empty, so neither is a source fingerprint. -/
theorem FromAlertmanager.fingerprint_ne (hsha : ∀ text, py.sha256 text ≠ "")
    {observation : ObservationRecord} (h : FromAlertmanager py observation) :
    observation.sourceFingerprint ≠ "" := by
  obtain ⟨observationId, payload, hmem⟩ := h
  obtain ⟨index, alert, -, rfl⟩ := mem_observationsFromAlertmanager.1 hmem
  change orText (alertFingerprint py payload (dictOf alert)) _ ≠ ""
  unfold orText
  split
  · exact takeChars_ne_empty (by decide) (hsha _)
  · assumption

end Facts

end NocAgent.Cases
