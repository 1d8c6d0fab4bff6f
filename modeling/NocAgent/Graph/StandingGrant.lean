import NocAgent.Graph.Execution

/-!
# What a standing grant executes

Under a standing grant nobody approves the incident, so execution itself has to stay inside
the envelope: acknowledge one Icinga WARNING, with an expiry, without a notification.

* `GrantEnvelope` — the node returns and every call it makes stays inside the envelope.
* `GrantActionOk` — what one stored action, with the answers it meets, has to be.
* `grantEnvelope_iff` — the first holds exactly when every stored action is the second.
-/

set_option autoImplicit false

namespace NocAgent

open Effects Traced

variable {py : Python} {env : Environ}

/-! ## Listed problems -/

/-- The problems of a list response. -/
def listedProblems (listing : ToolReply) : List Json :=
  match listing with
  | .returned (.dict d) =>
    match JsonDict.get d "problems" with
    | .list ps => ps
    | _ => []
  | _ => []

/-- The host and the service a listed problem is for. -/
def problemObject (p : Json) : Option (String × String) :=
  match p with
  | .dict d =>
    match JsonDict.get d "host", JsonDict.get d "name" with
    | .str h, .str n => some (h, afterBang n)
    | _, _ => none
  | _ => none

/-- The problem's state is the number 1. -/
def IsWarning (py : Python) (p : Json) : Prop :=
  ∃ d, p = .dict d ∧ pyFloat py (JsonDict.get d "state") = .ok (.fin 1)

theorem problemObject_eq_some {p : Json} {h s : String} (hp : problemObject p = some (h, s)) :
    ∃ d n, p = .dict d ∧ JsonDict.get d "host" = .str h ∧ JsonDict.get d "name" = .str n ∧
      afterBang n = s := by
  unfold problemObject at hp
  split at hp
  · rename_i d
    split at hp
    · rename_i h' n hh hn
      cases hp
      exact ⟨d, n, rfl, hh, hn, rfl⟩
    · cases hp
  · cases hp

theorem dictItems_cons_dict (d : JsonDict) (ps : List Json) :
    dictItems (.dict d :: ps) = d :: dictItems ps := rfl

/-- **The scan says yes** exactly when it meets one matching problem and its state reads 1. -/
theorem scanProblems_true_iff {host wanted : String} : ∀ (ps : List Json) (found : Nat),
    scanProblems py host wanted found ps = .ok true ↔
      found + ((dictItems ps).filter (matchesTarget py host wanted)).length = 1 ∧
        ∀ d ∈ (dictItems ps).filter (matchesTarget py host wanted), stateValue py d = .ok 1
  | [], found => by simp [scanProblems, dictItems]
  | .dict d :: ps, found => by
    unfold scanProblems
    rw [dictItems_cons_dict]
    by_cases hm : matchesTarget py host wanted d = true
    · rw [if_pos hm, List.filter_cons_of_pos hm, List.length_cons, List.forall_mem_cons]
      cases hv : stateValue py d with
      | error e => cases e <;> simp
      | ok v =>
        by_cases h1 : v = 1
        · simp only [h1, ne_eq, not_true_eq_false, if_false, true_and]
          rw [scanProblems_true_iff ps]
          simp only [Nat.add_assoc, Nat.add_comm 1]
        · simp [h1]
    · rw [if_neg hm, List.filter_cons_of_neg hm]
      exact scanProblems_true_iff ps found
  | .null :: ps, found => scanProblems_true_iff ps found
  | .bool _ :: ps, found => scanProblems_true_iff ps found
  | .int _ :: ps, found => scanProblems_true_iff ps found
  | .float _ :: ps, found => scanProblems_true_iff ps found
  | .str _ :: ps, found => scanProblems_true_iff ps found
  | .list _ :: ps, found => scanProblems_true_iff ps found

/-- Iterating anything but a list meets no dict. -/
theorem dictItems_pyIter {x : Json} {ps : List Json} (h : pyIter x = .ok ps)
    (hx : ∀ xs, x ≠ .list xs) : dictItems ps = [] := by
  cases x with
  | list xs => exact absurd rfl (hx xs)
  | dict kvs =>
    cases h
    simp [dictItems, Json.dict?]
  | str s =>
    cases h
    simp [dictItems, Json.dict?]
  | _ => cases h

theorem uniqueWarning_true {listing : ToolReply} {host : String} {service : Json}
    (h : uniqueWarning py listing host service = .ok true) :
    ∃ d, (dictItems (listedProblems listing)).filter
        (matchesTarget py host (py.lower (strip (textOf py service)))) = [d] ∧
      stateValue py d = .ok 1 := by
  unfold uniqueWarning at h
  split at h
  · rename_i res
    cases hi : pyIter ((JsonDict.get res "problems").or (.list [])) with
    | error e => rw [hi] at h; cases h
    | ok ps =>
      rw [hi] at h
      obtain ⟨hlen, hall⟩ := (scanProblems_true_iff ps 0).1 h
      rw [Nat.zero_add, List.length_eq_one_iff] at hlen
      obtain ⟨d, hd⟩ := hlen
      rw [hd] at hall
      -- a match was met, so what was iterated is the list of problems
      have hps : listedProblems (.returned (.dict res)) = ps := by
        by_cases hx : ∃ xs, (JsonDict.get res "problems").or (.list []) = .list xs
        · obtain ⟨xs, hxs⟩ := hx
          rw [hxs] at hi
          cases hi
          unfold Json.or at hxs
          split at hxs
          · simp [listedProblems, hxs]
          · cases hxs
            simp [dictItems] at hd
        · rw [dictItems_pyIter hi fun xs hxs => hx ⟨xs, hxs⟩] at hd
          simp at hd
      rw [hps]
      exact ⟨d, hd, hall d List.mem_cons_self⟩
  · cases h

/-- A problem of exactly this host and service is one the scan looks for. -/
theorem matchesTarget_of_object {p : Json} {h s : String} {d : JsonDict}
    (hp : problemObject p = some (h, s)) (hd : p.dict? = some d) (hh : strip h = h) :
    matchesTarget py h (py.lower (strip s)) d = true := by
  obtain ⟨d', n, rfl, hhost, hname, hn⟩ := problemObject_eq_some hp
  cases hd
  unfold matchesTarget
  simp only [hhost, hname, textOf_str, hn, hh]
  simp

/-- Among the problems of a scan that said yes, at most one is of the scanned host and service. -/
theorem filter_object_length_le (py : Python) (ps : List Json) {h : String} (s : String)
    (hh : strip h = h) :
    (ps.filter fun q => problemObject q == some (h, s)).length ≤
      ((dictItems ps).filter (matchesTarget py h (py.lower (strip s)))).length := by
  unfold dictItems
  rw [← List.countP_eq_length_filter, ← List.countP_eq_length_filter, List.countP_filterMap]
  refine List.countP_mono_left fun q _ hq => ?_
  have hq : problemObject q = some (h, s) := by simpa using hq
  obtain ⟨d, n, rfl, -⟩ := problemObject_eq_some hq
  simpa [Json.dict?] using matchesTarget_of_object hq rfl hh

/-! ## The envelope of one action -/

/-- The pair names exactly one listed problem, and that problem is a WARNING.  Without a
service name it names the host object, which is no listed service problem. -/
def NamesUniqueWarning (py : Python) (listing : ToolReply) (host service : Json) : Prop :=
  ∃ h s p, host = .str h ∧ service = .str s ∧ s ≠ "" ∧
    (listedProblems listing).filter (fun q => problemObject q == some (h, s)) = [p] ∧
    IsWarning py p

/-- What a standing grant may do after the event `prev`. -/
def GrantStep (py : Python) (prev : Option GraphEvent) : GraphEvent → Prop
  | .announce _ _ => True
  | .call c time _ =>
    c.tool = "icinga_list_problems" ∨
      c.tool = "icinga_acknowledge_alert" ∧
      (∃ expiry, c.arguments.get "expiry" = .int expiry ∧ time < expiry * 1000000) ∧
      c.arguments.get "notify" = .bool false ∧
      ∃ lc lt listing, prev = some (.call lc lt listing) ∧ lc.tool = "icinga_list_problems" ∧
        NamesUniqueWarning py listing (c.arguments.get "host_name")
          (c.arguments.get "service_name")

/-- What the code asks of the listed problems, and what it leaves unasked: that the stored host
and service are spelled as the matched problem has them, and that its state is 1 and not only
truncated to 1. -/
def ListingOk (py : Python) (env : Environ) (listing : ToolReply) (host service : Json) : Prop :=
  textOf py host = "" ∨
    match uniqueWarning py listing (textOf py host) service with
    | .error _ => False
    | .ok false => True
    | .ok true =>
      (∃ ttl, grantAckTtl py env = .ok ttl) ∧
        ∃ h s p, host = .str h ∧ service = .str s ∧ s ≠ "" ∧ p ∈ listedProblems listing ∧
          problemObject p = some (h, s) ∧ IsWarning py p

/-- What one stored action has to be for the grant to stay in its envelope. -/
structure GrantActionOk (py : Python) (env : Environ) (m : ActMoment) (action : JsonDict) :
    Prop where
  hashable : (action.get "type").hashable = true
  ack : action.get "type" = .str "acknowledge_icinga" →
    ∃ inputs, pyDict ((action.get "inputs").or (.dict [])) = .ok inputs ∧
      (∃ ttl, actionAuthTtl py env = .ok ttl) ∧
      ListingOk py env m.problems ((inputs.get "host").or (inputs.get "host_name"))
        ((inputs.get "service").or (inputs.get "service_name"))

theorem namesUniqueWarning_iff {listing : ToolReply} {host service : Json}
    (hu : uniqueWarning py listing (textOf py host) service = .ok true) :
    NamesUniqueWarning py listing host service ↔
      ∃ h s p, host = .str h ∧ service = .str s ∧ s ≠ "" ∧ p ∈ listedProblems listing ∧
        problemObject p = some (h, s) ∧ IsWarning py p := by
  constructor
  · rintro ⟨h, s, p, hh, hs, hne, hf, hw⟩
    have hp : p ∈ (listedProblems listing).filter (fun q => problemObject q == some (h, s)) := by
      rw [hf]; exact List.mem_cons_self
    rw [List.mem_filter] at hp
    exact ⟨h, s, p, hh, hs, hne, hp.1, by simpa using hp.2, hw⟩
  · rintro ⟨h, s, p, rfl, rfl, hne, hp, hobj, hw⟩
    obtain ⟨d, hfilter, -⟩ := uniqueWarning_true hu
    rw [textOf_str, textOf_str] at hfilter
    -- the scan matched a problem of this host, so the stored host has no space around it
    have hd : d ∈ (dictItems (listedProblems listing)).filter
        (matchesTarget py h (py.lower (strip s))) := by
      rw [hfilter]; exact List.mem_cons_self
    have hhost : strip h = h := by
      have hm := (List.mem_filter.1 hd).2
      simp only [matchesTarget, Bool.and_eq_true, beq_iff_eq] at hm
      rw [← hm.1, strip_strip]
    have hmem : p ∈ (listedProblems listing).filter
        (fun q => problemObject q == some (h, s)) := List.mem_filter.2 ⟨hp, by simpa using hobj⟩
    have hle := filter_object_length_le py (listedProblems listing) s hhost
    rw [hfilter, List.length_singleton] at hle
    obtain ⟨q, hq⟩ := List.length_eq_one_iff.1 (Nat.le_antisymm hle (List.length_pos_of_mem hmem))
    rw [hq, List.mem_singleton] at hmem
    subst hmem
    exact ⟨h, s, p, rfl, rfl, hne, hq, hw⟩

/-! ## One action under the grant -/

/-- The expiry is at least a minute ahead. -/
theorem expiry_later (time ttl : Int) : time < (epochSeconds time + max 60 ttl) * 1000000 := by
  have h60 : 60 ≤ max 60 ttl := le_max_left 60 ttl
  unfold epochSeconds
  have := Int.mul_tdiv_add_tmod time 1000000
  have := Int.tmod_lt_of_pos time (b := 1000000) (by decide)
  omega

/-- The acknowledgement that follows a listing the scan said yes to. -/
theorem grantStep_ack_iff (py : Python) (time lt ttl : Int) (listing reply : ToolReply) (inputs : PyDict)
    (decision : JsonDict) {arguments : PyDict}
    (hc : arguments = JsonDict.toPy (ackArguments inputs decision ++
      [("expiry", .int (epochSeconds time + max 60 ttl)), ("notify", .bool false)])) :
    GrantStep py (some (.call listProblemsCall lt listing))
        (.call ⟨"icinga_acknowledge_alert", arguments⟩ time reply) ↔
      NamesUniqueWarning py listing ((ackArguments inputs decision).get "host_name")
        ((ackArguments inputs decision).get "service_name") := by
  have hhost : arguments.get "host_name" = (ackArguments inputs decision).get "host_name" := by
    rw [hc]; rfl
  have hservice : arguments.get "service_name" =
      (ackArguments inputs decision).get "service_name" := by
    rw [hc]; rfl
  have hexpiry : arguments.get "expiry" = .int (epochSeconds time + max 60 ttl) := by
    rw [hc]; rfl
  have hnotify : arguments.get "notify" = .bool false := by
    rw [hc]; rfl
  unfold GrantStep
  simp only [hhost, hservice, hexpiry, hnotify]
  constructor
  · rintro (h | ⟨-, -, -, lc, lt', listing', heq, -, hn⟩)
    · simp at h
    · cases heq
      exact hn
  · intro hn
    refine Or.inr ⟨trivial, ⟨_, rfl, expiry_later time ttl⟩, trivial, _, _, _, rfl, rfl, hn⟩

/-- **The standing-grant branch.**  It returns and stays inside the envelope exactly when the
listing allows it. -/
theorem acknowledgeUnderGrant_iff (py : Python) (env : Environ) (m : ActMoment)
    (action : JsonDict) {decision : JsonDict} {inputs : PyDict} {host service : Json}
    (hhost : (ackArguments inputs decision).get "host_name" = host)
    (hservice : (ackArguments inputs decision).get "service_name" = service) :
    (acknowledgeUnderGrant py env m action decision (ackArguments inputs decision)).Returns ∧
        Justified (GrantStep py) none
          (acknowledgeUnderGrant py env m action decision (ackArguments inputs decision)).log ↔
      ListingOk py env m.problems host service := by
  have hlist : GrantStep py none (.call listProblemsCall m.authTime m.problems) := Or.inl rfl
  unfold acknowledgeUnderGrant icingaIsUniqueWarning ListingOk
  rw [hhost, hservice]
  by_cases h0 : textOf py host = ""
  · simp [h0, Returns, Justified]
  rw [if_neg h0]
  cases hu : uniqueWarning py m.problems (textOf py host) service with
  | error e => simp [h0, Returns]
  | ok b =>
    cases b with
    | false => simp [h0, Returns, Justified, hlist, Except.map]
    | true =>
      cases ht : grantAckTtl py env with
      | error e => simp [h0, Returns]
      | ok ttl =>
        have hstep := grantStep_ack_iff py m.callTime m.authTime ttl m.problems m.reply inputs
          decision rfl
        rw [hhost, hservice, namesUniqueWarning_iff hu] at hstep
        simp [h0, Returns, Justified, hlist, callRealTool, hstep, Except.map]

/-- The log of the standing-grant branch starts with its own listing, if with anything. -/
theorem acknowledgeUnderGrant_selfStanding {m : ActMoment} {action decision ack : JsonDict} :
    SelfStanding (GrantStep py) (acknowledgeUnderGrant py env m action decision ack).log := by
  intro p
  unfold acknowledgeUnderGrant icingaIsUniqueWarning
  split
  · simp [Justified]
  · have hlist : ∀ q, GrantStep py q (.call listProblemsCall m.authTime m.problems) :=
      fun _ => Or.inl rfl
    simp [Justified, hlist]

theorem grantSupported_iff {actionClass : Json} :
    grantSupported actionClass = true ↔ actionClass = .str "acknowledge_icinga" := by
  simp [grantSupported, STANDING_GRANT_SUPPORTED]

section Action

variable {m : ActMoment} {state : WorkflowState} {action decision : JsonDict}

/-- What an acknowledgement does under the grant, once its type is accepted. -/
theorem executeRealAction_ack (hgrant : textOf py (decision.get "operator") = "standing-grant")
    (ht : action.get "type" = .str "acknowledge_icinga") :
    executeRealAction py env m state action decision =
      (orRaise (pyDict ((action.get "inputs").or (.dict []))) >>= fun inputs =>
        orRaise (actionAuthorization py env m.authTime state (.dict action) "") >>= fun auth =>
          acknowledgeUnderGrant py env m action decision
            (ackArguments (inputs.set "action_authorization" (.dict auth)) decision)) := by
  unfold executeRealAction
  simp [hgrant, ht, grantSupported, STANDING_GRANT_SUPPORTED, Json.hashable, Json.isStr]

theorem executeRealAction_unhashable
    (hgrant : textOf py (decision.get "operator") = "standing-grant")
    (ht : (action.get "type").hashable = false) :
    executeRealAction py env m state action decision = orRaise (.error .typeError) := by
  unfold executeRealAction
  simp [hgrant, ht]

theorem executeRealAction_refused
    (hgrant : textOf py (decision.get "operator") = "standing-grant")
    (hh : (action.get "type").hashable = true)
    (ht : action.get "type" ≠ .str "acknowledge_icinga") :
    executeRealAction py env m state action decision =
      pure (policyBlocked action "Action class is not covered by a standing grant") := by
  unfold executeRealAction
  have hs : grantSupported (action.get "type") = false := by
    rw [Bool.eq_false_iff, ne_eq, grantSupported_iff]
    exact ht
  simp [hgrant, hh, hs]

/-- **One action under the grant.** -/
theorem executeRealAction_iff (state : WorkflowState)
    (hgrant : textOf py (decision.get "operator") = "standing-grant") :
    (executeRealAction py env m state action decision).Returns ∧
        Justified (GrantStep py) none (executeRealAction py env m state action decision).log ↔
      GrantActionOk py env m action := by
  cases hh : (action.get "type").hashable with
  | false =>
    rw [executeRealAction_unhashable hgrant hh]
    constructor
    · rintro ⟨⟨_, h⟩, -⟩
      cases h
    · intro h
      rw [h.hashable] at hh
      cases hh
  | true =>
    by_cases ht : action.get "type" = .str "acknowledge_icinga"
    · rw [executeRealAction_ack hgrant ht]
      have hok : GrantActionOk py env m action ↔ _ := ⟨fun h => h.ack ht, fun h => ⟨hh, fun _ => h⟩⟩
      rw [hok]
      cases hi : pyDict ((action.get "inputs").or (.dict [])) with
      | error e => simp [Returns]
      | ok inputs =>
        have hauth := actionAuthorization_dict py env m.authTime state action ""
        have hspec := fun auth => acknowledgeUnderGrant_iff py env m action
          (ackArguments_host inputs (.dict auth) decision)
          (ackArguments_service inputs (.dict auth) decision)
        cases ht : actionAuthTtl py env with
        | error e =>
          rw [ht] at hauth
          simp [Returns, hauth]
        | ok ttl =>
          rw [ht] at hauth
          obtain ⟨auth, ha⟩ := hauth
          simp only [orRaise_bind_ok, ha, hspec]
          simp
    · rw [executeRealAction_refused hgrant hh ht]
      simp only [log_pure, Justified, and_true]
      exact ⟨fun _ => ⟨hh, fun h => absurd h ht⟩, fun _ => ⟨_, rfl⟩⟩

theorem executeRealAction_selfStanding
    (hgrant : textOf py (decision.get "operator") = "standing-grant") :
    SelfStanding (GrantStep py) (executeRealAction py env m state action decision).log := by
  cases hh : (action.get "type").hashable with
  | false => rw [executeRealAction_unhashable hgrant hh]; exact fun _ => Iff.rfl
  | true =>
    by_cases ht : action.get "type" = .str "acknowledge_icinga"
    · rw [executeRealAction_ack hgrant ht]
      cases pyDict ((action.get "inputs").or (.dict [])) with
      | error e => exact fun _ => Iff.rfl
      | ok inputs =>
        cases actionAuthorization py env m.authTime state (.dict action) "" with
        | error e => exact fun _ => Iff.rfl
        | ok auth => exact acknowledgeUnderGrant_selfStanding
    · rw [executeRealAction_refused hgrant hh ht]; exact fun _ => Iff.rfl

end Action

/-! ## The node -/

/-- The node returns, and each of its calls is allowed by the event just before it. -/
def GrantEnvelope (py : Python) (env : Environ) (acts : Nat → ActMoment) (state : WorkflowState) :
    Prop :=
  (executeApprovedRemediation py env acts state).Returns ∧
    Justified (GrantStep py) none (executeApprovedRemediation py env acts state).log

/-- The loop over the stored actions under the grant. -/
theorem grantLoop_iff (acts : Nat → ActMoment) {state : WorkflowState}
    (actions : List (JsonDict × Nat))
    (hgrant : textOf py (state.decision.get "operator") = "standing-grant")
    (hnoop : flag env "NOC_ENABLE_NOOP_ROLLBACK_GUARDS" = false) :
    (mapT (fun a => executeAction py env state state.decision (acts a.2) a.1) actions).Returns ∧
        Justified (GrantStep py) none
          (mapT (fun a => executeAction py env state state.decision (acts a.2) a.1) actions).log ↔
      ∀ a ∈ actions, GrantActionOk py env (acts a.2) a.1 := by
  have hreal : (fun a : JsonDict × Nat =>
      executeAction py env state state.decision (acts a.2) a.1) =
      fun a => executeRealAction py env (acts a.2) state a.1 state.decision := by
    funext a
    simp [executeAction, hnoop]
  have hself : ∀ a ∈ actions, SelfStanding (GrantStep py)
      (executeRealAction py env (acts a.2) state a.1 state.decision).log :=
    fun _ _ => executeRealAction_selfStanding hgrant
  rw [hreal, mapT_returns]
  constructor
  · rintro ⟨hret, hj⟩ a ha
    rw [mapT_log _ hret, justified_flatMap hself] at hj
    exact (executeRealAction_iff state hgrant).1 ⟨hret a ha, hj a ha⟩
  · intro h
    have hall := fun a ha => (executeRealAction_iff state hgrant).2 (h a ha)
    have hret := fun a ha => (hall a ha).1
    refine ⟨hret, ?_⟩
    rw [mapT_log _ hret, justified_flatMap hself]
    exact fun a ha => (hall a ha).2

/-- The audit post ends the node and is always allowed. -/
theorem recordResults_justified {state : WorkflowState} {results : List JsonDict}
    (p : Option GraphEvent) :
    Justified (GrantStep py) p (recordResults py env state results).log := by
  unfold recordResults
  split <;> simp [Justified, GrantStep]

/-- **The envelope holds exactly when** nothing is executed, or the stored actions can be read and
every one of them is harmless with the answers it meets. -/
theorem grantEnvelope_iff {acts : Nat → ActMoment} {state : WorkflowState}
    (hop : state.decision.get "operator" = .str "standing-grant")
    (hnoop : flag env "NOC_ENABLE_NOOP_ROLLBACK_GUARDS" = false) :
    GrantEnvelope py env acts state ↔
      (state.decision.get "decision" = .str "approved" →
        flag env "NOC_ENABLE_APPROVED_EXECUTION" = true →
        ∃ actions, storedStructuredActions state = .ok actions ∧
          ∀ a ∈ actions.zipIdx, GrantActionOk py env (acts a.2) a.1) := by
  have hgrant : textOf py (state.decision.get "operator") = "standing-grant" := by
    rw [hop, textOf_str]
  unfold GrantEnvelope
  by_cases hd : state.decision.get "decision" = .str "approved"
  · cases hf : flag env "NOC_ENABLE_APPROVED_EXECUTION" with
    | false =>
      rw [executeApprovedRemediation_disabled hd hf]
      simp [Returns, Justified]
    | true =>
      rw [executeApprovedRemediation_approved hd hf]
      cases hs : storedStructuredActions state with
      | error e => simp [hd, Returns]
      | ok actions =>
        have hloop := grantLoop_iff acts actions.zipIdx hgrant hnoop
        have hcond : (state.decision.get "decision" = .str "approved" → true = true →
            ∃ actions', Except.ok actions = (Except.ok actions' : Except PyExc _) ∧
              ∀ a ∈ actions'.zipIdx, GrantActionOk py env (acts a.2) a.1) ↔
            ∀ a ∈ actions.zipIdx, GrantActionOk py env (acts a.2) a.1 := by
          constructor
          · intro h
            obtain ⟨actions', heq, hall⟩ := h hd rfl
            cases heq
            exact hall
          · exact fun h _ _ => ⟨actions, rfl, h⟩
        rw [hcond, ← hloop, orRaise_bind_ok]
        cases hm : (mapT (fun a => executeAction py env state state.decision (acts a.2) a.1)
            actions.zipIdx).result with
        | error e =>
          rw [bind_error hm]
          simp [Returns, hm]
        | ok results =>
          rw [bind_ok hm]
          simp [Returns, hm, result_recordResults, justified_append, recordResults_justified]
  · rw [executeApprovedRemediation_not_approved hd]
    simp [hd, Returns, Justified]

/-- Approved execution on, everything else at its default. -/
def grantEnviron : Environ := fun name =>
  if name = "NOC_ENABLE_APPROVED_EXECUTION" then some "1" else none

/-- One WARNING on host `web1`, and a tool that accepts the acknowledgement. -/
def diskWarning : ActMoment where
  authTime := 1000000
  callTime := 1000000
  utcNow := "2026-01-01T00:00:01+00:00"
  problems := .returned (.dict [("ok", .bool true), ("problems", .list [.dict
    [("host", .str "web1"), ("name", .str "web1!disk"), ("state", .int 1)]])])
  reply := .returned (.dict [("ok", .bool true)])

/-- An acknowledgement of `web1` and this service. -/
def ackAction (service : String) : JsonDict :=
  [("type", .str "acknowledge_icinga"),
    ("inputs", .dict [("host", .str "web1"), ("service", .str service)])]

/-- The same, granted. -/
def ackState (service : String) : WorkflowState where
  incidentId := "case-1"
  proposals := [.dict [("structured_actions", .list [.dict (ackAction service)])]]
  operatorDecision := some [("decision", .str "approved"), ("operator", .str "standing-grant")]
  approvalState := some (.str "approved")
  executedActions := []
  verificationResults := []

theorem grantEnvelope_diskAck :
    GrantEnvelope asciiPython grantEnviron (fun _ => diskWarning) (ackState "disk") := by
  refine (grantEnvelope_iff rfl (by decide)).2 fun _ _ => ⟨[ackAction "disk"], rfl, ?_⟩
  intro a ha
  obtain rfl : a = (ackAction "disk", 0) := by simpa using ha
  refine ⟨rfl, fun _ => ⟨_, rfl, ⟨300, by decide⟩, Or.inr ?_⟩⟩
  change match uniqueWarning asciiPython diskWarning.problems "web1" (.str "disk") with
    | .error _ => False
    | .ok false => True
    | .ok true => _
  have hu : uniqueWarning asciiPython diskWarning.problems "web1" (.str "disk") = .ok true := by
    decide
  rw [hu]
  exact ⟨⟨86400, by decide⟩, "web1", "disk", _, rfl, rfl, by decide, List.mem_cons_self, rfl,
    _, rfl, rfl⟩

/-- An acknowledgement without a service name passes the check of the one service problem and is
then sent for the host object. -/
theorem grantEnvelope_hostAck :
    (ackState "").decision.get "operator" = .str "standing-grant" ∧
      flag grantEnviron "NOC_ENABLE_NOOP_ROLLBACK_GUARDS" = false ∧
      ¬ GrantEnvelope asciiPython grantEnviron (fun _ => diskWarning) (ackState "") := by
  refine ⟨rfl, by decide, ?_⟩
  rintro ⟨-, h⟩
  obtain ⟨first, arguments, rest, hlog, hservice⟩ : ∃ first arguments rest,
      (executeApprovedRemediation asciiPython grantEnviron (fun _ => diskWarning)
        (ackState "")).log = first :: .call ⟨"icinga_acknowledge_alert", arguments⟩ 1000000
          diskWarning.reply :: rest ∧ PyDict.get arguments "service_name" = .null := by
    refine ⟨_, _, _, rfl, ?_⟩
    rfl
  rw [hlog] at h
  rcases h.2.1 with h | ⟨-, -, -, -, -, -, -, -, -, s, -, -, hs, -⟩
  · simp at h
  · rw [hservice] at hs
    cases hs

end NocAgent
