import NocAgent.Graph.Evidence
import NocAgent.Graph.Execution

/-!
# Actions read off a proposal

The agent proposes in words.  What is executed later is read off these words, and there are only two
kinds of it.

* `approvedRestartActions`, `approvedIcingaAckActions`, `structuredActions` — the actions of a text.
* `Minted` — a restart of the node exporter of a router, or an acknowledgement of the alert's own
  host; `structuredActions_minted`: there are no others.
* `ChangeProposal.dump` — a proposal as the state keeps it; `storedStructuredActions_dump`: its
  actions are read back as they were.
-/

set_option autoImplicit false

namespace NocAgent

/-! ## Texts -/

section Texts

variable (py : Python)

mutual

/-- `_flatten_text`. -/
def flattenText : Json → String
  | .dict kvs => " ".intercalate (flattenValues kvs)
  | .list xs => " ".intercalate (flattenItems xs)
  | value => pyStr py value

def flattenItems : List Json → List String
  | [] => []
  | x :: xs => flattenText x :: flattenItems xs

def flattenValues : List (String × Json) → List String
  | [] => []
  | (_, value) :: kvs => flattenText value :: flattenValues kvs

end

/-- The words that `_ACK_INTENT_RE` finds between word boundaries. -/
def ACK_INTENT_WORDS : List String :=
  ["ack", "acked", "acknowledge", "acknowledged", "acknowledges", "acknowledgement",
    "acknowledgment"]

/-- A letter as `re.IGNORECASE` compares it with a small one of ASCII: the Kelvin sign is a `k`, and
the long s an `s`. -/
def foldLetter (c : Char) : Char :=
  if c = Char.ofNat 0x212A then 'k' else if c = Char.ofNat 0x17F then 's' else c.toLower

/-- `_ACK_INTENT_RE.search(text)`: its words begin and end at word boundaries, so they are whole
runs of letters, digits and underscores. -/
def ackIntent (text : String) : Bool :=
  (text.toList.splitOnP fun c => !(py.isAlnum c || c == '_')).any fun w =>
    ACK_INTENT_WORDS.any fun word => w.map foldLetter == word.toList

end Texts

/-! ## Actions -/

section Actions

variable (py : Python)

def nameRouter (text : String) (hosts : List String) (entry : String × String) : List String :=
  if hasText entry.1 text = true ∧ entry.2 ∉ hosts then hosts ++ [entry.2] else hosts

/-- The routers that a text names, each once. -/
def namedRouters (text : String) : List String := ROUTER_ALIASES.foldl (nameRouter text) []

def exporterRestartAction (uuid host : String) : JsonDict :=
  [("action_id", .str ("act-" ++ uuid)), ("type", .str "restart_service"),
    ("inputs", .dict [("host", .str host), ("service", .str "node_exporter")])]

/-- What a diagnosis says, as far as actions are read off it. -/
structure ProposedText where
  incidentSummary : String
  affectedObjects : List String
  proposed : List String

/-- `_approved_restart_actions`; `uuid i` is the `i`-th `uuid4()`. -/
def approvedRestartActions (uuid : Nat → String) (alert : JsonDict) (t : ProposedText) :
    List JsonDict :=
  let text := py.lower (" ".intercalate [t.incidentSummary, " ".intercalate t.affectedObjects,
    flattenText py (.list (t.proposed.map Json.str)), flattenText py (.dict alert)])
  if !hasText "restart" text || !hasText "node_exporter" text then []
  else (namedRouters text).zipIdx.map fun host => exporterRestartAction (uuid host.2) host.1

/-- `labels.get("host") or labels.get("hostname")`. -/
def labelHost (labels : JsonDict) : Json := (labels.get "host").or (labels.get "hostname")

/-- `labels.get("service") or labels.get("check_command")`. -/
def labelService (labels : JsonDict) : Json :=
  (labels.get "service").or (labels.get "check_command")

def alertAckInputs (labels : JsonDict) : JsonDict :=
  [("host", labelHost labels), ("service", (labelService labels).or (.str "")),
    ("comment", .str "Approved NOC acknowledgement.")]

def alertAckAction (uuid : String) (labels : JsonDict) : JsonDict :=
  [("action_id", .str ("act-" ++ uuid)), ("type", .str "acknowledge_icinga"),
    ("inputs", .dict (alertAckInputs labels))]

/-- `(state.get("normalized_alert") or {}).get("commonLabels") or {}`. -/
def commonLabels (alert : JsonDict) : Json := (alert.get "commonLabels").or (.dict [])

/-- `_approved_icinga_ack_actions`. -/
def approvedIcingaAckActions (uuid : String) (alert : JsonDict) (proposed : List String) :
    Except PyExc (List JsonDict) :=
  if !ackIntent py (flattenText py (.list (proposed.map Json.str))) then .ok []
  else
    match requireDict (commonLabels alert) with
    | .error e => .error e
    | .ok labels =>
      if (labelHost labels).truthy then .ok [alertAckAction uuid labels] else .ok []

/-- `_structured_actions`. -/
def structuredActions (uuid : Nat → String) (alert : JsonDict) (t : ProposedText) :
    Except PyExc (List JsonDict) :=
  let restarts := approvedRestartActions py uuid alert t
  match approvedIcingaAckActions py (uuid restarts.length) alert t.proposed with
  | .error e => .error e
  | .ok acks => .ok (restarts ++ acks)

end Actions

/-! ## There are two kinds -/

section Minting

variable {py : Python} {uuid : Nat → String} {alert : JsonDict} {t : ProposedText}

/-- The hosts of `_ROUTER_ALIASES`. -/
def ROUTERS : List String := ["cr1-nl1", "cr1-de1"]

/-- An action that is read off a text about the alert. -/
inductive Minted (alert : JsonDict) : JsonDict → Prop where
  | restart (uuid host : String) (hhost : host ∈ ROUTERS) :
      Minted alert (exporterRestartAction uuid host)
  | acknowledge (uuid : String) (labels : JsonDict) (hlabels : commonLabels alert = .dict labels)
      (hhost : (labelHost labels).truthy = true) : Minted alert (alertAckAction uuid labels)

/-- Only routers are named. -/
theorem mem_namedRouters {text host : String} (h : host ∈ namedRouters text) : host ∈ ROUTERS := by
  have hfold : ∀ (entries : List (String × String)) (hosts : List String),
      (∀ entry ∈ entries, entry.2 ∈ ROUTERS) → (∀ host ∈ hosts, host ∈ ROUTERS) →
      ∀ host ∈ entries.foldl (nameRouter text) hosts, host ∈ ROUTERS := by
    intro entries
    induction entries with
    | nil => exact fun hosts _ hrouters => hrouters
    | cons entry rest ih =>
      intro hosts hentries hrouters
      rw [List.foldl_cons]
      refine ih _ (fun a ha => hentries a (List.mem_cons_of_mem entry ha)) ?_
      unfold nameRouter
      split
      · intro host hhost
        rcases List.mem_append.1 hhost with hhost | hhost
        · exact hrouters host hhost
        · rw [List.mem_singleton.1 hhost]
          exact hentries entry List.mem_cons_self
      · exact hrouters
  exact hfold ROUTER_ALIASES [] (by decide) (by simp) host h

theorem approvedRestartActions_minted :
    ∀ action ∈ approvedRestartActions py uuid alert t, Minted alert action := by
  intro action haction
  unfold approvedRestartActions at haction
  simp only at haction
  split at haction
  · cases haction
  · obtain ⟨⟨host, i⟩, hhost, rfl⟩ := List.mem_map.1 haction
    have hnamed := List.fst_mem_of_mem_zipIdx hhost
    exact .restart (uuid i) host (mem_namedRouters hnamed)

theorem approvedIcingaAckActions_minted {id : String} {proposed : List String}
    {actions : List JsonDict}
    (h : approvedIcingaAckActions py id alert proposed = .ok actions) :
    ∀ action ∈ actions, Minted alert action := by
  unfold approvedIcingaAckActions at h
  split at h
  · cases h
    simp
  · cases hlabels : commonLabels alert with
    | dict labels =>
      rw [hlabels] at h
      simp only [requireDict] at h
      by_cases hhost : (labelHost labels).truthy = true
      · rw [if_pos hhost] at h
        cases h
        intro action haction
        rw [List.mem_singleton.1 haction]
        exact .acknowledge id labels hlabels hhost
      · rw [if_neg hhost] at h
        cases h
        simp
    | _ =>
      rw [hlabels] at h
      cases h

/-- **Whatever the agent proposes, an action restarts the node exporter of a router or
acknowledges the alert's own host.** -/
theorem structuredActions_minted {actions : List JsonDict}
    (h : structuredActions py uuid alert t = .ok actions) :
    ∀ action ∈ actions, Minted alert action := by
  unfold structuredActions at h
  simp only at h
  split at h
  · cases h
  · rename_i acks hacks
    cases h
    intro action haction
    rcases List.mem_append.1 haction with haction | haction
    · exact approvedRestartActions_minted action haction
    · exact approvedIcingaAckActions_minted hacks action haction

end Minting

/-! ## A proposal in the state -/

section Stored

def ValidationStatus.text : ValidationStatus → String
  | .notRun => "not_run"
  | .validated => "validated"
  | .needsMoreEvidence => "needs_more_evidence"

/-- `json_safe_model_dump(proposal)`. -/
def ChangeProposal.dump (proposalId : String) (p : ChangeProposal) : JsonDict :=
  [("proposal_id", .str proposalId), ("incident_id", .str p.incidentId),
    ("resource_id", .str p.resourceId), ("assessment", .str p.assessment),
    ("root_cause_hypothesis", .str p.rootCauseHypothesis), ("confidence", .float (.fin p.confidence)),
    ("evidence_refs", .list (p.evidenceRefs.map Json.str)),
    ("drift_findings", .list (p.driftFindings.map Json.str)),
    ("proposed_remediation", .list (p.proposedRemediation.map Json.str)),
    ("structured_actions", .list (p.structuredActions.map Json.dict)),
    ("validation_status", .str p.validationStatus.text),
    ("human_review_rationale", .str p.humanReviewRationale)]

theorem dictItems_map_dict : ∀ actions : List JsonDict,
    dictItems (actions.map Json.dict) = actions
  | [] => rfl
  | action :: rest => by
    rw [List.map_cons]
    show action :: dictItems (rest.map Json.dict) = action :: rest
    rw [dictItems_map_dict rest]

/-- **The actions of a stored proposal are those it was built with.** -/
theorem storedStructuredActions_dump (proposalId : String) (p : ChangeProposal)
    (state : WorkflowState) (h : state.proposals = [.dict (p.dump proposalId)]) :
    storedStructuredActions state = .ok p.structuredActions := by
  have hget : (JsonDict.get (p.dump proposalId) "structured_actions").or (.list []) =
      .list (p.structuredActions.map Json.dict) := by
    show (Json.list (p.structuredActions.map Json.dict)).or (.list []) = _
    unfold Json.or Json.truthy
    cases p.structuredActions with
    | nil => rfl
    | cons action rest => rfl
  unfold storedStructuredActions
  rw [h]
  unfold storedStructuredActionsOf
  rw [hget]
  simp only [pyIter, storedStructuredActionsOf, List.append_nil, dictItems_map_dict]

end Stored

end NocAgent
