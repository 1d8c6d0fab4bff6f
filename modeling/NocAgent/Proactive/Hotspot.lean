import NocAgent.Python.Value

/-!
# Hotspots

A hotspot is what a scan rule reports.  Its text comes from telemetry labels, so the
constructor scrubs it, and its fingerprint is a hash of the rule and the scrubbed key.

Text is a sequence of Unicode characters: a lone surrogate is no text.
-/

set_option autoImplicit false

namespace NocAgent

inductive Severity where
  | high
  | medium
  | low
  deriving DecidableEq, Repr

inductive HotspotCategory where
  | bgp
  | wireguard
  | disk
  | tls
  | scrape
  | service
  deriving DecidableEq, Repr

inductive Specialist where
  | bgp
  | infrastructure
  deriving DecidableEq, Repr

/-- A measurement that a hotspot shows. -/
structure HotspotEvidence where
  label : String
  query : String := ""
  value : String
  threshold : String
  detail : String := ""

/-- A condition that a rule found. -/
structure Hotspot where
  ruleId : String
  key : String
  category : HotspotCategory
  severity : Severity
  score : Nat
  title : String
  resource : String
  summary : String
  evidence : List HotspotEvidence
  recommendedChecks : List String
  suggestedSpecialist : Specialist
  warrantsChange : Bool := false
  changeRationale : String := ""

/-- `sanitize_label`. -/
def sanitizeLabel (py : Python) (limit : Nat) (text : String) : String :=
  takeChars limit (String.ofList ((collapseSpace text).toList.filter py.isPrintable))

def HotspotEvidence.sanitize (py : Python) (ev : HotspotEvidence) : HotspotEvidence :=
  { ev with
    label := sanitizeLabel py 160 ev.label
    value := sanitizeLabel py 200 ev.value
    threshold := sanitizeLabel py 120 ev.threshold
    detail := sanitizeLabel py 200 ev.detail }

/-- `_sanitize_untrusted_text`, which runs when a hotspot is built. -/
def Hotspot.sanitize (py : Python) (h : Hotspot) : Hotspot :=
  { h with
    key := sanitizeLabel py 200 h.key
    resource := sanitizeLabel py 120 h.resource
    title := sanitizeLabel py 200 h.title
    summary := sanitizeLabel py 600 h.summary
    changeRationale := sanitizeLabel py 300 h.changeRationale
    recommendedChecks := h.recommendedChecks.map (sanitizeLabel py 200)
    evidence := h.evidence.map (HotspotEvidence.sanitize py) }

def Hotspot.fingerprint (py : Python) (h : Hotspot) : String :=
  takeChars 16 (py.sha256 (h.ruleId ++ "|" ++ h.key))

/-- `DEEP_RULE_IDS`. -/
def DEEP_RULE_IDS : List String := ["disk_fill", "tls_expiry"]

/-- The hotspot comes from a rule that runs on deep cycles only. -/
def Hotspot.deepRule (h : Hotspot) : Bool := DEEP_RULE_IDS.contains h.ruleId

end NocAgent
