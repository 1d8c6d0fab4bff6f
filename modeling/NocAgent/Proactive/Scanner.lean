import NocAgent.Lib.Traced
import NocAgent.Proactive.Hotspot

/-!
# The scan rules

* `promResponseOk`, `parsePromVector` — reading a `prometheus_query` answer.
* `prom` — one query: a failed one marks the scan as degraded and reads as no samples.
* `ruleBgpRisk` to `ruleTlsExpiry` — the six rules.
* `runRule`, `scan` — a rule that raises reads as a rule that found nothing.

A tool answers each query with a value or an exception; which one is an arbitrary function of
the query.  The log of a scan has the queries it issued and the marks it set.
-/

set_option autoImplicit false

namespace NocAgent

open Effects Traced

/-! ## Reading a vector -/

/-- A sample of a query. -/
structure Sample where
  labels : List (String × String)
  value : PyFloat

/-- `_to_float`: a value that cannot be read is `none`, an integer too large for a float raises. -/
def toFloat (py : Python) (value : Json) : Except PyExc (Option PyFloat) :=
  let value := match value with | .list [_, v] => v | v => v
  match pyFloat py value with
  | .ok x => .ok (some x)
  | .error .typeError => .ok none
  | .error .valueError => .ok none
  | .error e => .error e

/-- `resp.get("ok") is False`. -/
def saysNotOk (resp : JsonDict) : Bool :=
  match resp.get "ok" with
  | .bool false => true
  | _ => false

/-- `_prom_response_ok`. -/
def promResponseOk (resp : Json) : Bool :=
  match resp with
  | .dict d =>
    if saysNotOk d then false
    else if JsonDict.has d "result" then true
    else
      match JsonDict.get d "data" with
      | .dict data => JsonDict.has data "result"
      | _ => false
  | _ => false

/-- The rows a response carries. -/
def promRows (resp : JsonDict) : Json :=
  match resp.get "result" with
  | .null =>
    match resp.get "data" with
    | .dict data => JsonDict.get data "result"
    | _ => .null
  | rows => rows

def sampleLabels (py : Python) (row : JsonDict) : List (String × String) :=
  match row.get "metric" with
  | .dict metric => metric.map fun kv => (kv.1, pyStr py kv.2)
  | _ => []

def parseRows (py : Python) : List Json → Except PyExc (List Sample)
  | [] => .ok []
  | .dict row :: rest =>
    match toFloat py (JsonDict.get row "value") with
    | .error e => .error e
    | .ok none => parseRows py rest
    | .ok (some x) =>
      match parseRows py rest with
      | .error e => .error e
      | .ok samples => .ok (⟨sampleLabels py row, x⟩ :: samples)
  | _ :: rest => parseRows py rest

/-- `parse_prom_vector`. -/
def parsePromVector (py : Python) (resp : Json) : Except PyExc (List Sample) :=
  match resp with
  | .dict d =>
    if saysNotOk d then .ok []
    else
      match promRows d with
      | .list rows => parseRows py rows
      | _ => .ok []
  | _ => .ok []

/-! ## Queries -/

/-- What the rules of a scan read. -/
structure ScanContext where
  env : Environ
  /-- what `prometheus_query` answers to a query -/
  tool : String → ToolReply

inductive ScanEvent where
  | queried (query : String) (reply : ToolReply)
  /-- `ctx.degraded = True` -/
  | degraded

abbrev ScanM := Traced ScanEvent PyExc

/-- `ScanContext.prom`. -/
def prom (py : Python) (ctx : ScanContext) (query : String) : ScanM (List Sample) := do
  tell (.queried query (ctx.tool query))
  match ctx.tool query with
  | .raised _ _ => do
    tell .degraded
    pure []
  | .returned resp =>
    if promResponseOk resp then orRaise (parsePromVector py resp)
    else do
      tell .degraded
      pure []

/-! ## Labels -/

def Sample.label (s : Sample) (name default : String) : String :=
  (s.labels.lookup name).getD default

/-- `a or b`, for strings. -/
def orText (a b : String) : String := if a = "" then b else a

/-- `labels.get(a) or labels.get(b) or default`. -/
def Sample.labelOf (s : Sample) (a b default : String) : String :=
  orText (s.label a "") (orText (s.label b "") default)

/-- `instance_host`. -/
def instanceHost (inst : String) : String :=
  let chars := inst.toList
  if chars.head? = some '[' && chars.contains ']' then
    String.ofList (chars.drop 1 |>.takeWhile (· ≠ ']'))
  else if chars.count ':' = 1 then String.ofList (chars.takeWhile (· ≠ ':'))
  else inst

def Sample.host (s : Sample) (default : String) : String :=
  orText (instanceHost (s.label "instance" "")) default

/-! ## BGP -/

def bgpKey (s : Sample) : String := s.host "router" ++ ":" ++ s.labelOf "peer" "neighbor" "unknown"

def bgpRationale : String := "Recurrent BGP flap may need timer/policy or peer-side coordination."

/-- A peer that left Established. -/
def bgpDown (py : Python) (s : Sample) : Hotspot :=
  let peer := s.labelOf "peer" "neighbor" "unknown"
  let host := s.host "router"
  let state := s.label "state" "unknown"
  Hotspot.sanitize py {
    ruleId := "bgp_risk"
    key := bgpKey s
    category := .bgp
    severity := .medium
    score := 240
    title := s!"BGP peer {peer} not Established"
    resource := host
    summary := s!"Peer {peer} on {host} is in state {state} (pre-alert; BGPSessionDown fires after 2m)."
    evidence := [{
      label := s!"bgp peer state {host}/{peer}"
      value := state
      threshold := "Established" }]
    recommendedChecks := [s!"frr_vtysh_cmd on {host}: show bgp summary",
      s!"check peer {peer} session logs"]
    suggestedSpecialist := .bgp }

/-- The second loop of `rule_bgp_risk`. -/
def bgpFlap (py : Python) (hotspots : List (String × Hotspot)) (s : Sample) :
    Except PyExc (List (String × Hotspot)) :=
  match s.value.toInt with
  | .error e => .error e
  | .ok flaps =>
    let peer := s.labelOf "peer" "neighbor" "unknown"
    let host := s.host "router"
    let ev : HotspotEvidence := {
      label := s!"bgp state changes/1h {host}/{peer}"
      query := "changes(frr_bgp_peer_state[1h])"
      value := toString flaps
      threshold := ">=4"
      detail := "session flapping" }
    match hotspots.lookup (bgpKey s) with
    | some existing => .ok (dictPut hotspots (bgpKey s) { existing with
        severity := .high
        score := 320
        summary := existing.summary ++
          s!" Also flapping: {flaps} state changes in the last hour."
        evidence := existing.evidence ++ [ev]
        warrantsChange := true
        changeRationale := bgpRationale })
    | none => .ok (dictPut hotspots (bgpKey s) (Hotspot.sanitize py {
        ruleId := "bgp_risk"
        key := bgpKey s
        category := .bgp
        severity := if flaps ≥ 8 then .high else .medium
        score := if flaps ≥ 8 then 300 else 230
        title := s!"BGP peer {peer} flapping"
        resource := host
        summary := s!"Peer {peer} on {host} flapped {flaps} times in the last hour."
        evidence := [ev]
        recommendedChecks := [s!"frr_vtysh_cmd on {host}: show bgp neighbor {peer}"]
        suggestedSpecialist := .bgp
        warrantsChange := true
        changeRationale := bgpRationale }))

def bgpStateQuery : String := "frr_bgp_peer_state\x7bstate!=\"Established\"\x7d == 1"

def bgpFlapQuery : String := "changes(frr_bgp_peer_state[1h]) >= 4"

def ruleBgpRisk (py : Python) (ctx : ScanContext) : ScanM (List Hotspot) := do
  let down ← prom py ctx bgpStateQuery
  let hotspots := down.foldl (fun hs s => dictPut hs (bgpKey s) (bgpDown py s)) []
  let flapping ← prom py ctx bgpFlapQuery
  let hotspots ← orRaise (foldE (bgpFlap py) hotspots flapping)
  pure (hotspots.map Prod.snd)

/-! ## Disks -/

/-- The double `0.20`. -/
def DOUBLE_0_20 : ℚ := 3602879701896397 / 18014398509481984

/-- The double `0.10`. -/
def DOUBLE_0_10 : ℚ := 3602879701896397 / 36028797018963968

/-- `_fs_key`. -/
def fsKey (s : Sample) : String := s.label "instance" "" ++ "|" ++ s.label "mountpoint" ""

def FS_EXCLUDE : String :=
  "fstype!~\"tmpfs|ramfs|overlay|squashfs|devtmpfs|fuse.*|nsfs|autofs\""

def diskFreeQuery : String :=
  "node_filesystem_avail_bytes\x7b" ++ FS_EXCLUDE ++ "\x7d / node_filesystem_size_bytes\x7b" ++
    FS_EXCLUDE ++ "\x7d"

def diskFillQuery : String :=
  "predict_linear(node_filesystem_avail_bytes\x7b" ++ FS_EXCLUDE ++ "\x7d[6h], 86400) <= 0"

/-- One filesystem: nothing when there is room and no projection says otherwise. -/
def diskHotspot (py : Python) (soon : Bool) (s : Sample) : Option Hotspot :=
  let ratio := s.value
  if ratio.ge DOUBLE_0_20 && !soon then none
  else
    let host := s.host "host"
    let mount := s.label "mountpoint" "?"
    let pct := py.roundText ratio 100 1 (some 1)
    let severe := soon || ratio.lt DOUBLE_0_10
    let detail := if soon then "projected to fill within 24h" else "low free space"
    some (Hotspot.sanitize py {
      ruleId := "disk_fill"
      key := s!"{host}:{mount}"
      category := .disk
      severity := if severe then .high else .medium
      score := if severe then 360 else 250
      title := s!"Disk {mount} low on {host}"
      resource := host
      summary := s!"{host}:{mount} has {pct}% free ({detail})."
      evidence := [{
        label := s!"free ratio {host}:{mount}"
        query := "node_filesystem_avail_bytes / node_filesystem_size_bytes"
        value := s!"{pct}%"
        threshold := "<20% (HIGH <10% or fills <24h)"
        detail := detail }]
      recommendedChecks := [s!"os_journalctl / du on {host}:{mount}",
        "identify largest growing path; check log rotation / retention"]
      suggestedSpecialist := .infrastructure
      warrantsChange := severe
      changeRationale :=
        if severe then "Retention/rotation or volume sizing may need a config change." else "" })

def ruleDiskFill (py : Python) (ctx : ScanContext) : ScanM (List Hotspot) := do
  let free ← prom py ctx diskFreeQuery
  let fills ← prom py ctx diskFillQuery
  let bySystem := free.foldl (fun d s => dictPut d (fsKey s) s) []
  pure (bySystem.filterMap fun kv => diskHotspot py ((fills.map fsKey).contains kv.1) kv.2)

/-! ## Scrapes -/

/-- `re.fullmatch(r"blackbox(?:-(?:dns|icmp|http|tcp|bgpalerter)(?:-.*)?)?", job)`. -/
def isBlackboxJob (job : String) : Bool :=
  job == "blackbox" || ["dns", "icmp", "http", "tcp", "bgpalerter"].any fun kind =>
    job == "blackbox-" ++ kind ||
      (("blackbox-" ++ kind ++ "-").toList.isPrefixOf job.toList && !job.toList.contains '\n')

/-- The check of a blackbox target: the probe is named only by labels that survive scrubbing. -/
def probeCheck (py : Python) (job inst : String) : String :=
  let probeQuery := "probe_success\x7bjob=" ++ py.jsonQuote job ++ ",instance=" ++
    py.jsonQuote inst ++ "\x7d"
  let check := "compare " ++ probeQuery ++ " when matching up == 1; " ++
    "the instance label identifies the probe target, not necessarily the exporter"
  if hasText "://" inst || sanitizeLabel py 200 check ≠ check then
    "compare probe_success using exact job/instance labels from Prometheus Targets " ++
      "when matching up == 1; instance is the probe target, not necessarily the exporter"
  else check

def scrapeHotspot (py : Python) (s : Sample) : Except PyExc Hotspot :=
  let inst := s.label "instance" ""
  let named := orText (orText (instanceHost inst) inst) "target"
  let url := hasText "://" inst
  let digest := py.sha256 inst
  let identity := if url then "url-" ++ digest else named
  let host := if url then orText ((py.urlHostname inst).getD "") "URL target" else named
  let job := s.label "job" ""
  match s.value.toInt with
  | .error e => .error e
  | .ok flaps =>
    let blackbox := isBlackboxJob job
    let exporter := if blackbox then "blackbox exporter" else "exporter"
    let first := if blackbox then probeCheck py job inst
      else s!"check {host} exporter logs and host reboot/OOM history"
    let targetCheck := if url then
      ["match target ID by SHA-256 hashing exact instance labels from Prometheus Targets locally"]
      else []
    let targetRef := if url then
      s!"Target ID (SHA-256 of exact UTF-8 instance): {digest}. " else ""
    .ok (Hotspot.sanitize py {
      ruleId := "scrape_flap"
      key := s!"{identity}:{job}"
      category := .scrape
      severity := if flaps ≥ 8 then .high else .medium
      score := if flaps ≥ 8 then 300 else 220
      title := s!"Scrape target {host} flapping"
      resource := host
      summary := targetRef ++
        s!"Prometheus scrape availability for {host} (job {job}) changed {flaps} times in 2h. " ++
        "This measures collection health; it does not establish a DNS, BGP, or other service outage."
      evidence := [{
        label := s!"up changes/2h {host}"
        query := "changes(up[2h])"
        value := toString flaps
        threshold := ">=4" }]
      recommendedChecks := first :: targetCheck ++
        [s!"correlate Prometheus scrape errors with {exporter} availability and maintenance",
          s!"check shared scraper/{exporter} resource pressure and scraper-to-exporter reachability"]
      suggestedSpecialist := .infrastructure })

def scrapeQuery : String := "changes(up[2h]) >= 4"

def ruleScrapeFlap (py : Python) (ctx : ScanContext) : ScanM (List Hotspot) := do
  let flapping ← prom py ctx scrapeQuery
  orRaise (collectE (scrapeHotspot py) flapping)

/-! ## Services -/

/-- `_BENIGN_UNIT_PATTERNS`. -/
def BENIGN_UNIT_PATTERNS : List String :=
  ["cloud-init.*", "cloud-config.*", "cloud-final.*", ".*-resolvconf", "openipmi", "ipmi.*"]

/-- `_benign_unit_matcher`. -/
def benignUnitMatcher (py : Python) (env : Environ) : Except PyExc (String → Bool) :=
  let extra := strip ((env "NOC_PROACTIVE_IGNORE_UNITS").getD "")
  let patterns := BENIGN_UNIT_PATTERNS ++
    ((extra.toList.splitOn ',').map fun p => strip (String.ofList p)).filter (· ≠ "")
  match py.reCompile ("^(?:" ++ "|".intercalate patterns ++ ")(?:\\.service)?$") with
  | some matcher => .ok matcher
  | none => .error (.named "re.error" "")

/-- `_is_benign_unit`. -/
def isBenignUnit (unit : String) (matcher : String → Bool) : Bool :=
  let suffix := ".service".toList
  let name := if suffix.isSuffixOf unit.toList then
    String.ofList (unit.toList.take (unit.toList.length - suffix.length)) else unit
  matcher unit || matcher name

def unitOf (s : Sample) : String := s.labelOf "name" "unit" "unit"

def serviceKey (s : Sample) : String := s.host "host" ++ ":" ++ unitOf s

/-- The first loop of `rule_service_churn`. -/
def restartChurn (py : Python) (benign : String → Bool) (hotspots : List (String × Hotspot))
    (s : Sample) : Except PyExc (List (String × Hotspot)) :=
  if isBenignUnit (unitOf s) benign then .ok hotspots
  else
    match s.value.toInt with
    | .error e => .error e
    | .ok restarts =>
      let host := s.host "host"
      let unit := unitOf s
      .ok (dictPut hotspots (serviceKey s) (Hotspot.sanitize py {
        ruleId := "service_churn"
        key := serviceKey s
        category := .service
        severity := if restarts ≥ 6 then .high else .medium
        score := if restarts ≥ 6 then 300 else 230
        title := s!"{unit} restart churn on {host}"
        resource := host
        summary := s!"{unit} on {host} restarted ~{restarts} times in 2h."
        evidence := [{
          label := s!"restarts/2h {host}/{unit}"
          query := "increase(node_systemd_service_restart_total[2h])"
          value := toString restarts
          threshold := ">=3" }]
        recommendedChecks := [s!"os_service_logs {unit} on {host}",
          "check for crash loop / config error"]
        suggestedSpecialist := .infrastructure }))

/-- The second loop: units that entered the failed state and are not flagged yet. -/
def recentlyFailed (py : Python) (benign : String → Bool) (hotspots : List (String × Hotspot))
    (s : Sample) : List (String × Hotspot) :=
  if isBenignUnit (unitOf s) benign then hotspots
  else if (hotspots.lookup (serviceKey s)).isSome then hotspots
  else
    let host := s.host "host"
    let unit := unitOf s
    dictPut hotspots (serviceKey s) (Hotspot.sanitize py {
      ruleId := "service_churn"
      key := serviceKey s
      category := .service
      severity := .medium
      score := 250
      title := s!"{unit} recently failed on {host}"
      resource := host
      summary := s!"systemd unit {unit} on {host} entered the failed state within the last 2h."
      evidence := [{
        label := s!"unit state {host}/{unit}"
        query := "node_systemd_unit_state\x7bstate=\"failed\"\x7d and changes(...[2h]) > 0"
        value := "failed (recent transition)"
        threshold := "active" }]
      recommendedChecks := [s!"os_systemd_status {unit} on {host}", s!"os_service_logs {unit}"]
      suggestedSpecialist := .infrastructure })

def restartQuery : String := "increase(node_systemd_service_restart_total[2h]) >= 3"

def recentFailedQuery : String :=
  "node_systemd_unit_state\x7bstate=\"failed\"\x7d == 1 " ++
    "and changes(node_systemd_unit_state\x7bstate=\"failed\"\x7d[2h]) > 0"

def ruleServiceChurn (py : Python) (ctx : ScanContext) : ScanM (List Hotspot) := do
  let benign ← orRaise (benignUnitMatcher py ctx.env)
  let restarts ← prom py ctx restartQuery
  let hotspots ← orRaise (foldE (restartChurn py benign) [] restarts)
  let failed ← prom py ctx recentFailedQuery
  pure ((failed.foldl (recentlyFailed py benign) hotspots).map Prod.snd)

/-! ## Reachability -/

/-- The double `0.95`. -/
def DOUBLE_0_95 : ℚ := 4278419646001971 / 4503599627370496

def reachabilityHotspot (py : Python) (s : Sample) : Option Hotspot :=
  let ratio := s.value
  if !(ratio.ge 0 && ratio.lt DOUBLE_0_95) then none
  else
    let inst := s.label "instance" ""
    let host := orText (orText (instanceHost inst) inst) "target"
    let wg := hasText "ff" (py.lower inst) && hasText "::" inst
    let severe := ratio.lt (1 / 2)
    let percent := py.roundText ratio 100 1 none
    some (Hotspot.sanitize py {
      ruleId := "reachability_flap"
      key := orText inst host
      category := if wg then .wireguard else .service
      severity := if severe then .high else .medium
      score := if severe then 310 else 230
      title := s!"Intermittent ICMP to {host}"
      resource := host
      summary := s!"ICMP success to {inst} averaged {percent}% over 30m (1.0 = healthy)."
      evidence := [{
        label := s!"icmp success 30m {inst}"
        query := "avg_over_time(probe_success\x7bjob=\"blackbox-icmp\"\x7d[30m])"
        value := py.roundText ratio 1 1 (some 3)
        threshold := "1.0"
        detail := "packet loss / link degrading" }]
      recommendedChecks := [s!"wg_show on the endpoints for {host}",
        "check latency/handshake age; underlay path"]
      suggestedSpecialist := .infrastructure })

def reachabilityQuery : String := "avg_over_time(probe_success\x7bjob=\"blackbox-icmp\"\x7d[30m])"

def ruleReachabilityFlap (py : Python) (ctx : ScanContext) : ScanM (List Hotspot) := do
  let samples ← prom py ctx reachabilityQuery
  pure (samples.filterMap (reachabilityHotspot py))

/-! ## Certificates -/

def tlsHotspot (py : Python) (s : Sample) : Option Hotspot :=
  let seconds := s.value
  if seconds.gt (14 * 86400) || seconds.lt (-86400) then none
  else
    let inst := s.label "instance" "cert"
    let days := py.roundText seconds 1 86400 (some 1)
    let severe := seconds.lt (3 * 86400)
    some (Hotspot.sanitize py {
      ruleId := "tls_expiry"
      key := inst
      category := .tls
      severity := if severe then .high else .medium
      score := if severe then 330 else 240
      title := s!"TLS cert near expiry for {inst}"
      resource := inst
      summary := s!"Certificate for {inst} expires in {days} day(s)."
      evidence := [{
        label := s!"cert expiry {inst}"
        query := "probe_ssl_earliest_cert_expiry - time()"
        value := s!"{days}d"
        threshold := "<14d (HIGH <3d)" }]
      recommendedChecks := ["check Caddy/ACME renewal logs on proxy",
        "verify DNS-01/HTTP-01 path"]
      suggestedSpecialist := .infrastructure })

def tlsQuery : String := "probe_ssl_earliest_cert_expiry - time()"

def ruleTlsExpiry (py : Python) (ctx : ScanContext) : ScanM (List Hotspot) := do
  let samples ← prom py ctx tlsQuery
  pure (samples.filterMap (tlsHotspot py))

/-! ## The scan -/

inductive ScanRule where
  | bgpRisk
  | scrapeFlap
  | serviceChurn
  | reachabilityFlap
  | diskFill
  | tlsExpiry
  deriving DecidableEq, Repr

def ScanRule.body (py : Python) (ctx : ScanContext) : ScanRule → ScanM (List Hotspot)
  | .bgpRisk => ruleBgpRisk py ctx
  | .scrapeFlap => ruleScrapeFlap py ctx
  | .serviceChurn => ruleServiceChurn py ctx
  | .reachabilityFlap => ruleReachabilityFlap py ctx
  | .diskFill => ruleDiskFill py ctx
  | .tlsExpiry => ruleTlsExpiry py ctx

def CHEAP_RULES : List ScanRule := [.bgpRisk, .scrapeFlap, .serviceChurn, .reachabilityFlap]

def DEEP_RULES : List ScanRule := [.diskFill, .tlsExpiry]

def selectedRules (deep : Bool) : List ScanRule :=
  CHEAP_RULES ++ if deep then DEEP_RULES else []

/-- `_run_rule`: an exception is logged and reads as no hotspots. -/
def runRule (py : Python) (ctx : ScanContext) (rule : ScanRule) : ScanM (List Hotspot) where
  log := (rule.body py ctx).log
  result := match (rule.body py ctx).result with
    | .ok hotspots => .ok hotspots
    | .error _ => .ok []

/-- Highest score wins on a fingerprint collision. -/
def mergeHotspot (py : Python) (merged : List (String × Hotspot)) (h : Hotspot) :
    List (String × Hotspot) :=
  match merged.lookup (h.fingerprint py) with
  | none => dictPut merged (h.fingerprint py) h
  | some current =>
    if h.score > current.score then dictPut merged (h.fingerprint py) h else merged

def scan (py : Python) (ctx : ScanContext) (deep : Bool) : ScanM (List Hotspot) := do
  let results ← mapT (runRule py ctx) (selectedRules deep)
  let merged := results.flatten.foldl (mergeHotspot py) []
  pure ((merged.map Prod.snd).mergeSort fun a b => b.score ≤ a.score)

end NocAgent
