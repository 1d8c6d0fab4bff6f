import NocAgent.Lib.Lts
import NocAgent.Lib.Traced
import NocAgent.Proactive.Ledger

/-!
# Candidate issues

`GitHubHandoff` looks for an open issue with a marker, comments on it, or creates one.

* `ensureCandidateIssueFromBody` — one call, with the requests it sends; a request is answered with
  a status and a body, or raises.
* `issueStep` — calls with one marker, and issues that are closed in between.
* `SearchFails` — the search of a call is answered, but not with status 200.
* `creates_iff` — a call sends a create request exactly when its search is answered and gives no
  issue.
* `noDuplicate_run_iff` — over every run: no call creates an issue while one of an earlier call is
  open, exactly when no search fails while one is open.
* `marker_issueBody` — the body written for a hotspot contains its marker.
-/

set_option autoImplicit false

namespace NocAgent.Proactive

open Effects Lts

def CANDIDATE_LABELS : List String := ["loop:candidate", "agentic-isp"]

/-- A request to the issue tracker of the repository. -/
inductive IssueRequest where
  | search (query : String)
  | comment (number : Int) (text : String)
  | create (title body : String) (labels : List String)

/-- The status and the decoded body of each answer, or what the request raises. -/
abbrev Requester := IssueRequest → Except PyExc (Int × Json)

/-- `GitHubHandoff`: its repository, and whether it has a token. -/
structure GitHubHandoff where
  repo : String
  authed : Bool

/-- The arguments of `ensure_candidate_issue_from_body`; without labels it takes its own. -/
structure CandidateIssue where
  marker : String
  title : String
  body : String
  refreshComment : String
  labels : List String := []

section Client

variable (py : Python) (client : GitHubHandoff) (request : Requester)

/-- Send a request. -/
def send (r : IssueRequest) : Traced IssueRequest PyExc (Int × Json) := do
  Traced.tell r
  Traced.orRaise (request r)

/-- `except Exception: return None`. -/
def orNone (m : Traced IssueRequest PyExc Json) : Traced IssueRequest PyExc Json where
  log := m.log
  result := .ok (match m.result with
    | .ok url => url
    | .error _ => .null)

def searchQuery (marker : String) : String :=
  "repo:" ++ client.repo ++ " is:issue is:open label:loop:candidate \"" ++ marker ++ "\""

/-- The item is an issue with the marker in its body. -/
def markedIssue (marker : String) : Json → Option JsonDict
  | .dict item => if hasText marker (textOf py (JsonDict.get item "body")) then some item else none
  | _ => none

/-- `_find_open_issue`. -/
def findOpenIssue (marker : String) : Traced IssueRequest PyExc (Option JsonDict) := do
  let answer ← send request (.search (searchQuery client marker))
  if answer.1 ≠ 200 then pure none
  else
    match answer.2 with
    | .dict body => do
      let items ← Traced.orRaise (pyIter (JsonDict.getD body "items" (.list [])))
      pure (items.findSome? (markedIssue py marker))
    | _ => pure none

/-- The request that creates the issue. -/
def CandidateIssue.createRequest (issue : CandidateIssue) : IssueRequest :=
  .create (takeChars 240 issue.title) issue.body
    (if issue.labels = [] then CANDIDATE_LABELS else issue.labels)

/-- `_create_issue_from_body`. -/
def createIssueFromBody (issue : CandidateIssue) : Traced IssueRequest PyExc Json := do
  let answer ← send request issue.createRequest
  if answer.1 ≠ 200 ∧ answer.1 ≠ 201 then pure .null
  else
    match answer.2 with
    | .dict body => pure (JsonDict.get body "html_url")
    | _ => pure .null

/-- `int(existing["number"])`. -/
def issueNumber (existing : JsonDict) : Except PyExc Int :=
  match existing.lookup "number" with
  | none => .error .keyError
  | some number => pyInt py number

/-- The requests a call sends, and the url it returns; `null` is `None`. -/
def ensureCandidateIssueFromBody (issue : CandidateIssue) : Traced IssueRequest PyExc Json :=
  if client.authed = false ∨ client.repo = "" then pure .null
  else orNone do
    let existing ← findOpenIssue py client request issue.marker
    match existing with
    | some existing => do
      let number ← Traced.orRaise (issueNumber py existing)
      let _ ← send request (.comment number issue.refreshComment)
      pure (existing.get "html_url")
    | none => createIssueFromBody request issue

end Client

/-! ## The tracker -/

/-- An issue that a call created. -/
structure Issue where
  number : Int
  body : String
  deriving DecidableEq

/-- What happens to the issues with the marker. -/
inductive TrackerLabel where
  /-- a call; `opened` is what its create request made, answered or not -/
  | call (issue : CandidateIssue) (request : Requester) (opened : Option Issue)
  | close (number : Int)

/-- A create request is sent. -/
def Creates (m : Traced IssueRequest PyExc Json) : Prop :=
  ∃ title body labels, .create title body labels ∈ m.log

section Tracker

variable (py : Python) (client : GitHubHandoff) (marker : String)

/-- An answer with status 200 lists every open issue that contains the marker. -/
def ListsOpen (opened : List Issue) (answer : Except PyExc (Int × Json)) : Prop :=
  ∀ body, answer = .ok (200, body) → ∀ issue ∈ opened, hasText marker issue.body = true →
    ∃ fields items item, body = .dict fields ∧ fields.lookup "items" = some (.list items) ∧
      .dict item ∈ items ∧ JsonDict.get item "body" = .str issue.body

/-- The calls have one marker, the tracker answers its searches, and only a create request opens
an issue, whose body contains the marker. -/
def TrackerLabel.Allowed (opened : List Issue) : TrackerLabel → Prop
  | .call issue request new =>
    issue.marker = marker ∧
    ListsOpen marker opened (request (.search (searchQuery client marker))) ∧
    ∀ i ∈ new, Creates (ensureCandidateIssueFromBody py client request issue) ∧
      i.body = issue.body ∧ hasText marker i.body = true
  | .close _ => True

/-- The open issues afterwards. -/
def TrackerLabel.next (opened : List Issue) : TrackerLabel → List Issue
  | .call _ _ new => opened ++ new.toList
  | .close number => opened.filter fun issue => issue.number ≠ number

def issueStep (opened : List Issue) (l : TrackerLabel) (after : List Issue) : Prop :=
  l.Allowed py client marker opened ∧ after = l.next opened

/-- **No create request while an issue of an earlier call is open.** -/
def NoDuplicate (opened : List Issue) (l : TrackerLabel) (_ : List Issue) : Prop :=
  match l with
  | .call issue request _ =>
    Creates (ensureCandidateIssueFromBody py client request issue) → opened = []
  | .close _ => True

/-- The search of a call that is set up is answered with another status than 200. -/
def SearchFails (request : Requester) : Prop :=
  client.authed = true ∧ client.repo ≠ "" ∧
    ∃ status body, request (.search (searchQuery client marker)) = .ok (status, body) ∧ status ≠ 200

/-- While an issue of an earlier call is open, no search fails. -/
def Searched (opened : List Issue) : TrackerLabel → Prop
  | .call _ request _ => opened ≠ [] → ¬ SearchFails client marker request
  | .close _ => True

end Tracker

/-! ## One call -/

section Calls

variable {py : Python} {client : GitHubHandoff} {request : Requester} {marker : String}

theorem send_ok {r : IssueRequest} {answer : Int × Json} (h : request r = .ok answer) :
    send request r = ⟨[r], .ok answer⟩ := by
  unfold send
  rw [Traced.bind_ok (Traced.result_tell r), h]
  rfl

theorem send_error {r : IssueRequest} {e : PyExc} (h : request r = .error e) :
    send request r = ⟨[r], .error e⟩ := by
  unfold send
  rw [Traced.bind_ok (Traced.result_tell r), h]
  rfl

variable (py client request marker) in
/-- Looking for an issue sends one request. -/
theorem findOpenIssue_log :
    (findOpenIssue py client request marker).log = [.search (searchQuery client marker)] := by
  unfold findOpenIssue
  cases h : request (.search (searchQuery client marker)) with
  | error e => rw [send_error h, Traced.bind_error rfl]
  | ok answer =>
    rw [send_ok h, Traced.bind_ok rfl]
    split
    · rfl
    · split
      · rename_i body hbody
        cases pyIter (JsonDict.getD body "items" (.list [])) with
        | error e => rfl
        | ok items => rfl
      · rfl

variable (request) in
theorem createIssueFromBody_creates (issue : CandidateIssue) :
    Creates (createIssueFromBody request issue) := by
  refine ⟨_, _, _, show issue.createRequest ∈ _ from ?_⟩
  unfold createIssueFromBody
  cases h : request issue.createRequest with
  | error e => rw [send_error h, Traced.bind_error rfl]; exact List.mem_singleton_self _
  | ok answer => rw [send_ok h, Traced.bind_ok rfl]; exact List.mem_cons_self

/-- **A call creates an issue exactly when its search is answered and gives none.** -/
theorem creates_iff (issue : CandidateIssue) :
    Creates (ensureCandidateIssueFromBody py client request issue) ↔
      client.authed = true ∧ client.repo ≠ "" ∧
        (findOpenIssue py client request issue.marker).result = .ok none := by
  unfold ensureCandidateIssueFromBody
  by_cases hset : client.authed = false ∨ client.repo = ""
  · rw [if_pos hset]
    refine iff_of_false ?_ fun h => ?_
    · rintro ⟨title, body, labels, hmem⟩
      cases hmem
    · rcases hset with hset | hset
      · rw [h.1] at hset
        cases hset
      · exact h.2.1 hset
  · rw [if_neg hset]
    rw [not_or, Bool.not_eq_false] at hset
    simp only [hset.1, ne_eq, hset.2, not_false_eq_true, true_and]
    have hlog := findOpenIssue_log py client request issue.marker
    unfold Creates orNone
    rcases hfind : (findOpenIssue py client request issue.marker).result with e | _ | existing
    · rw [Traced.bind_error hfind, hlog]
      simp
    · rw [Traced.bind_ok hfind]
      obtain ⟨title, body, labels, hmem⟩ := createIssueFromBody_creates request issue
      exact iff_of_true ⟨title, body, labels, List.mem_append_right _ hmem⟩ rfl
    · rw [Traced.bind_ok hfind, hlog]
      refine iff_of_false ?_ (by simp)
      rintro ⟨title, body, labels, hmem⟩
      cases hnumber : issueNumber py existing with
      | error e => simp [hnumber] at hmem
      | ok number =>
        simp only [hnumber, Traced.orRaise_bind_ok] at hmem
        cases hcomment : request (.comment number issue.refreshComment) with
        | error e => simp [send_error hcomment, Traced.bind_error] at hmem
        | ok answer => simp [send_ok hcomment, Traced.bind_ok] at hmem

/-- A search that fails finds nothing. -/
theorem findOpenIssue_fails {status : Int} {body : Json} (hstatus : status ≠ 200)
    (h : request (.search (searchQuery client marker)) = .ok (status, body)) :
    (findOpenIssue py client request marker).result = .ok none := by
  unfold findOpenIssue
  rw [send_ok h, Traced.bind_ok rfl, if_pos hstatus]
  rfl

/-- A search that lists an open issue with the marker finds one. -/
theorem findOpenIssue_lists {opened : List Issue} {issue : Issue} {body : Json}
    (hlists : ListsOpen marker opened (request (.search (searchQuery client marker))))
    (hmem : issue ∈ opened) (hmarker : hasText marker issue.body = true)
    (h : request (.search (searchQuery client marker)) = .ok (200, body)) :
    (findOpenIssue py client request marker).result ≠ .ok none := by
  obtain ⟨fields, items, item, rfl, hitems, hitem, hbody⟩ := hlists body h issue hmem hmarker
  have hmarked : markedIssue py marker (.dict item) = some item := by
    change (if hasText marker (textOf py (JsonDict.get item "body")) = true then some item
      else none) = _
    rw [hbody, textOf_str, if_pos hmarker]
  have hfound : items.findSome? (markedIssue py marker) ≠ none := by
    intro hnone
    have hmissed := List.findSome?_eq_none_iff.1 hnone _ hitem
    rw [hmarked] at hmissed
    cases hmissed
  have hiter : pyIter (JsonDict.getD fields "items" (.list [])) = .ok items := by
    unfold JsonDict.getD
    rw [hitems]
    rfl
  unfold findOpenIssue
  rw [send_ok h, Traced.bind_ok rfl]
  simp only [ne_eq, not_true_eq_false, if_false, hiter, Traced.orRaise_bind_ok, Traced.result_pure,
    Except.ok.injEq]
  exact hfound

end Calls

/-! ## Runs -/

section Runs

variable {py : Python} {client : GitHubHandoff} {marker : String}

/-- Every issue that the calls opened contains the marker. -/
def AllMarked (marker : String) (opened : List Issue) : Prop :=
  ∀ issue ∈ opened, hasText marker issue.body = true

theorem allMarked_step {opened after : List Issue} {l : TrackerLabel}
    (h : AllMarked marker opened) (hstep : issueStep py client marker opened l after) :
    AllMarked marker after := by
  obtain ⟨hallowed, rfl⟩ := hstep
  intro issue hmem
  cases l with
  | call args request new =>
    rcases List.mem_append.1 hmem with hold | hnew
    · exact h issue hold
    · exact (hallowed.2.2 issue (Option.mem_toList.1 hnew)).2.2
  | close number => exact h issue (List.mem_filter.1 hmem).1

/-- **A call creates no second issue exactly when its search does not fail.** -/
theorem noDuplicate_iff {opened after : List Issue} {l : TrackerLabel}
    (h : AllMarked marker opened) (hstep : issueStep py client marker opened l after) :
    NoDuplicate py client opened l after ↔ Searched client marker opened l := by
  cases l with
  | close number => exact Iff.rfl
  | call issue request new =>
    obtain ⟨⟨rfl, hlists, -⟩, -⟩ := hstep
    change (Creates _ → opened = []) ↔ (opened ≠ [] → ¬ SearchFails client issue.marker request)
    rw [creates_iff]
    constructor
    · rintro hkeeps hne ⟨hauthed, hrepo, status, body, hanswer, hstatus⟩
      exact hne (hkeeps ⟨hauthed, hrepo, findOpenIssue_fails hstatus hanswer⟩)
    · rintro hsearched ⟨hauthed, hrepo, hfind⟩
      by_contra hne
      obtain ⟨open', hopen⟩ := List.exists_mem_of_ne_nil opened hne
      cases hanswer : request (.search (searchQuery client issue.marker)) with
      | error e =>
        unfold findOpenIssue at hfind
        rw [send_error hanswer, Traced.bind_error rfl] at hfind
        cases hfind
      | ok answer =>
        obtain ⟨status, body⟩ := answer
        by_cases hstatus : status = 200
        · subst hstatus
          exact findOpenIssue_lists hlists hopen (h open' hopen) hanswer hfind
        · exact hsearched hne ⟨hauthed, hrepo, status, body, hanswer, hstatus⟩

/-- **Over every run from no open issue: no call sends a create request while an issue of an
earlier call is open, exactly when no search fails while one is open.** -/
theorem noDuplicate_run_iff {ls : List TrackerLabel} {opened : List Issue} :
    Run (Guarded (issueStep py client marker) (Searched client marker)) [] ls opened ↔
      Run (Doing (issueStep py client marker) (NoDuplicate py client)) [] ls opened := by
  refine Run.guarded_iff_doing_under (J := AllMarked marker) ?_ ?_ fun _ hmem => nomatch hmem
  · intro s l t h hstep
    exact allMarked_step h hstep
  · intro s l t h hstep
    exact noDuplicate_iff h hstep

end Runs

/-- The first call finds no issue and opens one; when the second searches, the tracker is down. -/
def outageCall (search : Int × Json) (number : Int) : TrackerLabel :=
  let marker := "proactive-fingerprint:6ab2553b1fc08271"
  let body := "## Finding\n<!-- " ++ marker ++ " -->"
  .call {
    marker := marker
    title := "[proactive] Disk / low on web1"
    body := body
    refreshComment := "Still firing" } (fun
      | .search _ => .ok search
      | _ => .ok (201, .dict [("number", .int number)])) (some ⟨number, body⟩)

/-- **A search that is answered with 503 leads to a second issue while the first is open.** -/
theorem not_noDuplicate_outage :
    let client : GitHubHandoff := ⟨"AS215932/network-operations", true⟩
    let marker := "proactive-fingerprint:6ab2553b1fc08271"
    let first := outageCall (200, .dict [("items", .list [])]) 101
    let second := outageCall (503, .dict []) 102
    issueStep asciiPython client marker [] first (first.next []) ∧
      issueStep asciiPython client marker (first.next []) second (second.next (first.next [])) ∧
      ¬ NoDuplicate asciiPython client (first.next []) second (second.next (first.next [])) := by
  intro client marker first second
  have hmarker : hasText marker ("## Finding\n<!-- " ++ marker ++ " -->") = true := by
    decide +kernel
  refine ⟨⟨⟨rfl, ?_, ?_⟩, rfl⟩, ⟨⟨rfl, ?_, ?_⟩, rfl⟩, fun h => ?_⟩
  · intro body _ i hi
    cases hi
  · rintro i ⟨rfl⟩
    exact ⟨(creates_iff _).2 ⟨rfl, by decide, rfl⟩, rfl, hmarker⟩
  · intro body hanswer
    cases hanswer
  · rintro i ⟨rfl⟩
    exact ⟨(creates_iff _).2 ⟨rfl, by decide, rfl⟩, rfl, hmarker⟩
  · have hnone := h ((creates_iff _).2 ⟨rfl, by decide, rfl⟩)
    cases hnone

/-! ## The issue of a hotspot -/

section Hotspots

variable (py : Python)

def severityText : Severity → String
  | .high => "HIGH"
  | .medium => "MEDIUM"
  | .low => "LOW"

def categoryText : HotspotCategory → String
  | .bgp => "bgp"
  | .wireguard => "wireguard"
  | .disk => "disk"
  | .tls => "tls"
  | .scrape => "scrape"
  | .service => "service"

/-- `_marker`. -/
def issueMarker (hotspot : Hotspot) : String := "proactive-fingerprint:" ++ hotspot.fingerprint py

def evidenceLine (ev : HotspotEvidence) : String :=
  "- " ++ " · ".intercalate
    ([ev.label, ev.value, ev.threshold, ev.query, ev.detail].filter fun bit => bit ≠ "")

/-- A part of the body that is left out when there is nothing to say. -/
def linesIf (c : Prop) [Decidable c] (lines : List String) : List String := if c then lines else []

def issueLines (hotspot : Hotspot) (incidentId manifestHash : String) : List String :=
  ["_Filed by the AS215932 proactive NOC loop (" ++ hotspot.ruleId ++ ")._", "",
    "## Finding\n" ++ hotspot.summary] ++
  linesIf (hotspot.changeRationale ≠ "")
    ["\n## Why a change may be needed\n" ++ hotspot.changeRationale] ++
  linesIf (hotspot.evidence ≠ []) ("\n## Evidence" :: hotspot.evidence.map evidenceLine) ++
  linesIf (hotspot.recommendedChecks ≠ [])
    ("\n## Recommended checks" :: hotspot.recommendedChecks.map fun check => "- " ++ check) ++
  ["\n## Context", "- resource: `" ++ hotspot.resource ++ "`  ·  category: `" ++
    categoryText hotspot.category ++ "`  ·  severity: `" ++ severityText hotspot.severity ++ "`"] ++
  linesIf (incidentId ≠ "") ["- investigated NOC case: `" ++ incidentId ++ "`"] ++
  linesIf (manifestHash ≠ "") ["- golden-state manifest: `" ++ manifestHash ++ "`"] ++
  ["\n> Read-only proactive finding. Promote to `loop:approved` to let the engineering-loop " ++
    "draft a PR; merge stays human-gated.",
    "\n<!-- " ++ issueMarker py hotspot ++ " -->"]

/-- `build_issue_body`; an id or a hash that is `None` is empty. -/
def issueBody (hotspot : Hotspot) (incidentId manifestHash : String) : String :=
  "\n".intercalate (issueLines py hotspot incidentId manifestHash)

/-- What `ensure_candidate_issue` asks for. -/
def hotspotIssue (hotspot : Hotspot) (incidentId manifestHash now : String) : CandidateIssue where
  marker := issueMarker py hotspot
  title := takeChars 240 ("[proactive] " ++ hotspot.title)
  body := issueBody py hotspot incidentId manifestHash
  refreshComment := "Still firing as of " ++ now ++ " (NOC case `" ++
    (if incidentId = "" then "n/a" else incidentId) ++ "`)."

/-- A line is found in the joined lines. -/
theorem infix_intercalate {α : Type} {sep line : List α} : ∀ {lines : List (List α)},
    line ∈ lines → line <:+: sep.intercalate lines
  | first :: rest, h => by
    rcases List.mem_cons.1 h with rfl | hrest
    · cases rest with
      | nil => simp
      | cons second rest =>
        rw [List.intercalate_cons_cons, List.append_assoc]
        exact (List.prefix_append _ _).isInfix
    · rw [List.intercalate_cons_of_ne_nil (List.ne_nil_of_mem hrest)]
      exact (infix_intercalate hrest).trans (List.suffix_append _ _).isInfix

/-- **The body written for a hotspot contains its marker.** -/
theorem marker_issueBody (hotspot : Hotspot) (incidentId manifestHash now : String) :
    let issue := hotspotIssue py hotspot incidentId manifestHash now
    hasText issue.marker issue.body = true := by
  have hline : ("\n<!-- " ++ issueMarker py hotspot ++ " -->") ∈
      issueLines py hotspot incidentId manifestHash := by
    unfold issueLines
    exact List.mem_append_right _ (List.mem_cons_of_mem _ (List.mem_singleton_self _))
  have hmarker : (issueMarker py hotspot).toList <:+:
      ("\n<!-- " ++ issueMarker py hotspot ++ " -->").toList := by
    rw [String.toList_append, String.toList_append]
    exact List.infix_append _ _ _
  refine decide_eq_true (hmarker.trans ?_)
  change _ <:+: (issueBody py hotspot incidentId manifestHash).toList
  unfold issueBody
  rw [String.toList_intercalate]
  exact infix_intercalate (List.mem_map_of_mem hline)

end Hotspots

end NocAgent.Proactive
