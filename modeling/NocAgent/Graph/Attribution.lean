import NocAgent.Graph.StandingGrant

/-!
# Who a resumed run acts for

An interrupted thread waits in the node that asks for approval.  A resume runs this node again
from its start, and it starts with the check of the standing grant.

* `approvalInterrupt` — the node: the standing grant, or what the operator answers.
* `recordOperatorDecision` — an approved decision, resumed: approval, execution, verification.
* `Attributed` — the state, the executed results and the authorizations name the operator.
* `attributed_iff` — a resumed run is attributed exactly when the standing grant does not cover
  the actions at the time of the resume, and the operator has a name of its own.
-/

set_option autoImplicit false

namespace NocAgent

open Effects Traced

/-! ## Approval -/

/-- `_standing_grant_classes() & _STANDING_GRANT_SUPPORTED`. -/
def grantClasses (env : Environ) : List String :=
  let tokens := (((env "NOC_STANDING_GRANT_ACTION_CLASSES").getD "").toList.splitOn ',').map
    fun token => strip (String.ofList token)
  STANDING_GRANT_SUPPORTED.filter fun c => c ∈ tokens

/-- `_standing_grant_decision`. -/
def standingGrantDecision (py : Python) (env : Environ) (utcNow : String)
    (state : WorkflowState) : Except PyExc (Option JsonDict) :=
  let classes := grantClasses env
  if classes = [] ∨ flag env "NOC_ENABLE_APPROVED_EXECUTION" = false then .ok none
  else
    match storedStructuredActions state with
    | .error e => .error e
    | .ok [] => .ok none
    | .ok actions =>
      if ∃ action ∈ actions, pyStr py (action.get "type") ∉ classes then .ok none
      else .ok (some [("decision", .str "approved"), ("operator", .str "standing-grant"),
        ("comment", .str ("standing grant covers: " ++ ", ".intercalate classes)),
        ("decided_at", .str utcNow)])

/-- The loop of `_grant_envelope_holds`; `asks i` is what the `i`-th action meets. -/
def envelopeHolds (py : Python) (asks : Nat → ActMoment) : List (JsonDict × Nat) → GraphM Bool
  | [] => pure true
  | (action, i) :: rest => do
    let inputs := match action.get "inputs" with | .dict d => d | _ => []
    let host := textOf py ((JsonDict.get inputs "host").or (JsonDict.get inputs "host_name"))
    let unique ← icingaIsUniqueWarning py (asks i) host
      ((JsonDict.get inputs "service").or (JsonDict.get inputs "service_name"))
    if unique then envelopeHolds py asks rest else pure false

/-- `_grant_envelope_holds`. -/
def grantEnvelopeHolds (py : Python) (asks : Nat → ActMoment) (state : WorkflowState) :
    GraphM Bool := do
  let actions ← orRaise (storedStructuredActions state)
  envelopeHolds py asks actions.zipIdx

/-- The decision of the standing grant, if it covers the actions right now. -/
def granted (py : Python) (env : Environ) (utcNow : String) (asks : Nat → ActMoment)
    (state : WorkflowState) : GraphM (Option JsonDict) := do
  let decision ← orRaise (standingGrantDecision py env utcNow state)
  match decision with
  | none => pure none
  | some decision => do
    let holds ← grantEnvelopeHolds py asks state
    pure (if holds then some decision else none)

/-- The node `approval_interrupt`.  Without an answer it interrupts, which is `none`. -/
def approvalInterrupt (py : Python) (env : Environ) (utcNow : String) (asks : Nat → ActMoment)
    (state : WorkflowState) (answer : Option JsonDict) : GraphM (Option WorkflowState) := do
  let decision ← granted py env utcNow asks state
  match decision with
  | some decision =>
    pure (some { state with
      operatorDecision := some decision
      approvalState := some (.str "approved") })
  | none =>
    pure (answer.map fun decision => { state with
      operatorDecision := some decision
      approvalState := some (decision.getD "decision" (.str "acknowledged")) })

/-! ## The resumed run -/

/-- What a resumed run meets. -/
structure Resume where
  env : Environ
  utcNow : String
  asks : Nat → ActMoment
  acts : Nat → ActMoment
  checks : Nat → CheckMoment

/-- The thread after a resume: the state its last finished node left, and all that was done. -/
structure ThreadRun where
  state : Option WorkflowState
  log : List GraphEvent

/-- `_route_after_approval`. -/
def routesToExecution (state : WorkflowState) : Bool :=
  match state.approvalState with
  | some approval => approval.isStr "approved"
  | none => false

/-- The nodes after approval.  A node that raises leaves the state as it was. -/
def remediateThread (py : Python) (r : Resume) (state : WorkflowState) : ThreadRun :=
  if routesToExecution state then
    let executed := executeApprovedRemediation py r.env r.acts state
    match executed.result with
    | .error _ => ⟨some state, executed.log⟩
    | .ok done =>
      let verified := verifyRemediation py r.env r.checks done
      match verified.result with
      | .error _ => ⟨some done, executed.log ++ verified.log⟩
      | .ok final => ⟨some final, executed.log ++ verified.log⟩
  else ⟨some state, []⟩

/-- `graph.ainvoke(Command(resume=decision))`: the interrupted node runs again, then the rest. -/
def resumeInvestigation (py : Python) (r : Resume) (state : WorkflowState) (decision : JsonDict) :
    ThreadRun :=
  let asked := approvalInterrupt py r.env r.utcNow r.asks state (some decision)
  match asked.result with
  | .error _ => ⟨none, asked.log⟩
  | .ok none => ⟨none, asked.log⟩
  | .ok (some approved) =>
    let rest := remediateThread py r approved
    ⟨rest.state, asked.log ++ rest.log⟩

/-- `decision = {**decision, "incident_id": incident_id}`. -/
def recordedDecision (incidentId : String) (decision : JsonDict) : JsonDict :=
  dictPut decision "incident_id" (.str incidentId)

/-- `record_operator_decision` of an approved decision on a thread that waits for it. -/
def recordOperatorDecision (py : Python) (r : Resume) (state : WorkflowState)
    (incidentId : String) (decision : JsonDict) : ThreadRun :=
  resumeInvestigation py r state (recordedDecision incidentId decision)

/-! ## Attribution -/

/-- A call that carries an authorization carries one of the operator. -/
def AuthorizedBy (operator : String) : GraphEvent → Prop
  | .call call _ _ => ∀ auth : JsonDict, call.arguments.get "action_authorization" = .dict auth →
      auth.get "operator" = .str operator
  | .announce _ _ => True

/-- **The decision stays the operator's**: in the state, in what was executed and in every
authorization. -/
structure Attributed (decision : JsonDict) (operator : String) (run : ThreadRun) : Prop where
  decided : ∀ final ∈ run.state, final.operatorDecision = some decision
  approved : ∀ final ∈ run.state, ∀ item ∈ final.executedActions,
    item.has "approved_by" = true → item.get "approved_by" = .str operator
  authorized : ∀ e ∈ run.log, AuthorizedBy operator e
  named : operator ≠ "standing-grant"

/-- The action can be read: its authorization has a lifetime and its inputs are a dict. -/
def Readable (py : Python) (env : Environ) (action : JsonDict) : Prop :=
  (∃ ttl, actionAuthTtl py env = .ok ttl) ∧
    ∃ inputs, pyDict ((action.get "inputs").or (.dict [])) = .ok inputs

/-- The action has a tool. -/
def HasTool (env : Environ) (action : JsonDict) : Prop :=
  flag env "NOC_ENABLE_NOOP_ROLLBACK_GUARDS" = true ∨
    action.get "type" = .str "restart_service" ∨ action.get "type" = .str "acknowledge_icinga"

/-- Some action has a tool, and it and all before it can be read. -/
def Reaches (py : Python) (env : Environ) : List JsonDict → Prop
  | [] => False
  | action :: rest => Readable py env action ∧ (HasTool env action ∨ Reaches py env rest)

/-- An approved execution sends an authorization. -/
def SendsAuthorization (py : Python) (env : Environ) (state : WorkflowState) : Prop :=
  flag env "NOC_ENABLE_APPROVED_EXECUTION" = true ∧
    ∃ actions, storedStructuredActions state = .ok actions ∧ Reaches py env actions

/-! ## The check of the grant -/

section Grant

variable {py : Python} {env : Environ} {operator : String} {asks : Nat → ActMoment}
  {state : WorkflowState}

theorem authorizedBy_listing (m : ActMoment) :
    AuthorizedBy operator (.call listProblemsCall m.authTime m.problems) := by
  intro auth h
  cases h

theorem icingaIsUniqueWarning_logs (m : ActMoment) (host : String) (service : Json) :
    Logs (AuthorizedBy operator) (icingaIsUniqueWarning py m host service) := by
  unfold icingaIsUniqueWarning
  split
  · exact Logs.pure _
  · exact (Logs.tell (authorizedBy_listing m)).bind fun _ => Logs.orRaise _

theorem envelopeHolds_logs : ∀ actions : List (JsonDict × Nat),
    Logs (AuthorizedBy operator) (envelopeHolds py asks actions)
  | [] => Logs.pure _
  | (action, i) :: rest => by
    unfold envelopeHolds
    refine (icingaIsUniqueWarning_logs (asks i) _ _).bind fun unique => ?_
    cases unique with
    | false => exact Logs.pure _
    | true => exact envelopeHolds_logs rest

/-- The check only lists problems. -/
theorem granted_logs (utcNow : String) :
    Logs (AuthorizedBy operator) (granted py env utcNow asks state) := by
  unfold granted
  refine (Logs.orRaise _).bind fun decision => ?_
  cases decision with
  | none => exact Logs.pure _
  | some decision =>
    refine Logs.bind ?_ fun _ => Logs.pure _
    exact (Logs.orRaise _).bind fun actions => envelopeHolds_logs actions.zipIdx

/-- A grant signs with its own name. -/
theorem granted_operator {utcNow : String} {decision : JsonDict}
    (h : (granted py env utcNow asks state).result = .ok (some decision)) :
    decision.get "operator" = .str "standing-grant" := by
  obtain ⟨checked, hchecked, h⟩ := result_bind_eq_ok.1 h
  cases checked with
  | none => cases h
  | some found =>
    obtain ⟨holds, -, h⟩ := result_bind_eq_ok.1 h
    have hfound : found = decision := by
      cases holds with
      | false => cases h
      | true =>
        cases h
        rfl
    rw [← hfound]
    unfold standingGrantDecision at hchecked
    simp only [result_orRaise] at hchecked
    split at hchecked
    · cases hchecked
    · split at hchecked
      · cases hchecked
      · cases hchecked
      · split at hchecked
        · cases hchecked
        · cases hchecked
          rfl

end Grant

/-! ## One action -/

section Action

variable {py : Python} {env : Environ} {m : ActMoment} {state : WorkflowState}
  {action decision : JsonDict}

/-- An authorization names the operator, or the agent where there is none. -/
theorem actionAuthorization_operator {time : Int} {value : Json} {actionClass : String}
    {auth : JsonDict} (h : actionAuthorization py env time state value actionClass = .ok auth) :
    auth.get "operator" =
      .str (pyStr py ((state.decision.get "operator").or (.str "noc-agent"))) := by
  unfold actionAuthorization at h
  split at h
  · cases h
  · cases h
  · simp only [Except.ok.injEq] at h
    rw [← h]
    split <;> rfl

/-- The call carries an authorization that the code signed for the action. -/
def Carries (py : Python) (state : WorkflowState) (e : GraphEvent) : Prop :=
  ∃ (call : ToolCall) (time : Int) (reply : ToolReply) (auth : JsonDict),
    e = .call call time reply ∧
    call.arguments.get "action_authorization" = .dict auth ∧
    auth.get "operator" = .str (pyStr py ((state.decision.get "operator").or (.str "noc-agent")))

/-- How one action ends that no grant covers: it cannot be read, it has no tool, or it is sent. -/
inductive ActionEnd (py : Python) (env : Environ) (state : WorkflowState)
    (action decision : JsonDict) : GraphM JsonDict → Prop where
  | unreadable (e : PyExc) (h : ¬ Readable py env action) :
    ActionEnd py env state action decision ⟨[], .error e⟩
  | blocked (reason : String) (h : Readable py env action) (ht : ¬ HasTool env action) :
    ActionEnd py env state action decision ⟨[], .ok (policyBlocked action reason)⟩
  | sent (e : GraphEvent) (item : JsonDict) (h : Readable py env action)
      (ht : HasTool env action) (hc : Carries py state e)
      (happroved : item.get "approved_by" = decision.getD "operator" (.str "")) :
    ActionEnd py env state action decision ⟨[e], .ok item⟩

theorem callRealTool_eq (call : ToolCall) : callRealTool m action decision call =
    ⟨[.call call m.callTime m.reply], .ok [("action", .dict action),
      ("execution_mode", .str "real_action"),
      ("approved_by", decision.getD "operator" (.str "")),
      ("approval_comment", decision.getD "comment" (.str "")),
      ("approved_at", (decision.get "decided_at").or (.str m.utcNow)),
      ("result", m.reply.value), ("ok", .bool (replyOk m.reply.value))]⟩ := rfl

/-- An authorization is signed exactly when its lifetime can be read. -/
theorem actionAuthorization_cases (py : Python) (env : Environ) (time : Int)
    (state : WorkflowState) (action : JsonDict) (actionClass : String) :
    (∃ e, actionAuthorization py env time state (.dict action) actionClass = .error e) ∧
        ¬ (∃ ttl, actionAuthTtl py env = .ok ttl) ∨
      (∃ auth, actionAuthorization py env time state (.dict action) actionClass = .ok auth) ∧
        ∃ ttl, actionAuthTtl py env = .ok ttl := by
  have h := actionAuthorization_dict py env time state action actionClass
  cases httl : actionAuthTtl py env with
  | error e =>
    rw [httl] at h
    exact Or.inl ⟨⟨e, h⟩, by simp⟩
  | ok ttl =>
    rw [httl] at h
    exact Or.inr ⟨h, ttl, rfl⟩

theorem executeRealAction_end
    (hgrant : textOf py (decision.get "operator") ≠ "standing-grant")
    (hnoop : flag env "NOC_ENABLE_NOOP_ROLLBACK_GUARDS" = false) :
    ActionEnd py env state action decision (executeRealAction py env m state action decision) := by
  have hfalse : (textOf py (decision.get "operator") == "standing-grant") = false := by
    simpa using hgrant
  unfold executeRealAction
  simp only [hfalse, Bool.false_and, Bool.false_eq_true, if_false]
  cases hinputs : pyDict ((action.get "inputs").or (.dict [])) with
  | error e =>
    rw [orRaise_bind_error]
    refine .unreadable e fun h => ?_
    obtain ⟨inputs, hok⟩ := h.2
    rw [hinputs] at hok
    cases hok
  | ok inputs =>
    rw [orRaise_bind_ok]
    rcases actionAuthorization_cases py env m.authTime state action "" with
      ⟨⟨e, hauth⟩, httl⟩ | ⟨⟨auth, hauth⟩, httl⟩
    · rw [hauth, orRaise_bind_error]
      exact .unreadable e fun h => httl h.1
    · rw [hauth, orRaise_bind_ok]
      have hreadable : Readable py env action := ⟨httl, inputs, hinputs⟩
      have hset : (inputs.set "action_authorization" (.dict auth)).get "action_authorization" =
          .dict auth := by simp [PyDict.get_set]
      have hoperator := actionAuthorization_operator hauth
      by_cases hrestart : action.get "type" = .str "restart_service"
      · rw [if_pos (Json.isStr_iff.2 hrestart), callRealTool_eq]
        exact .sent _ _ hreadable (Or.inr (Or.inl hrestart)) ⟨_, _, _, auth, rfl, hset, hoperator⟩ rfl
      · rw [if_neg (mt Json.isStr_iff.1 hrestart)]
        by_cases hack : action.get "type" = .str "acknowledge_icinga"
        · rw [if_pos (Json.isStr_iff.2 hack), callRealTool_eq]
          exact .sent _ _ hreadable (Or.inr (Or.inr hack)) ⟨_, _, _, auth, rfl, hset, hoperator⟩ rfl
        · rw [if_neg (mt Json.isStr_iff.1 hack)]
          refine .blocked _ hreadable ?_
          rintro (h | h | h)
          · rw [hnoop] at h
            cases h
          · exact hrestart h
          · exact hack h

theorem prepareNoopGuard_end (hnoop : flag env "NOC_ENABLE_NOOP_ROLLBACK_GUARDS" = true) :
    ActionEnd py env state action decision (prepareNoopGuard py env m state action decision) := by
  unfold prepareNoopGuard
  rcases actionAuthorization_cases py env m.authTime state action "noop_rollback_guard" with
    ⟨⟨e, hauth⟩, httl⟩ | ⟨⟨auth, hauth⟩, httl⟩
  · rw [hauth, orRaise_bind_error]
    exact .unreadable e fun h => httl h.1
  · rw [hauth, orRaise_bind_ok]
    cases hinputs : pyDict ((action.get "inputs").or (.dict [])) with
    | error e =>
      rw [orRaise_bind_error]
      refine .unreadable e fun h => ?_
      obtain ⟨inputs, hok⟩ := h.2
      rw [hinputs] at hok
      cases hok
    | ok inputs =>
      exact .sent _ _ ⟨httl, inputs, hinputs⟩ (Or.inl hnoop)
        ⟨_, _, _, auth, rfl, rfl, actionAuthorization_operator hauth⟩ rfl

theorem executeAction_end (hgrant : textOf py (decision.get "operator") ≠ "standing-grant") :
    ActionEnd py env state action decision (executeAction py env state decision m action) := by
  unfold executeAction
  split
  · rename_i hnoop
    exact prepareNoopGuard_end hnoop
  · rename_i hnoop
    exact executeRealAction_end hgrant (by simpa using hnoop)

end Action

/-! ## The loop over the actions -/

section Loop

variable {py : Python} {env : Environ} {acts : Nat → ActMoment} {state : WorkflowState}
  {decision : JsonDict}

/-- Every call of the loop carries an authorization of the state's operator. -/
theorem executeActions_carries
    (hgrant : textOf py (decision.get "operator") ≠ "standing-grant")
    (actions : List (JsonDict × Nat)) :
    Logs (Carries py state)
      (mapT (fun a => executeAction py env state decision (acts a.2) a.1) actions) := by
  refine Logs.mapT fun a _ => ?_
  have hend : ActionEnd py env state a.1 decision _ := executeAction_end (m := acts a.2) hgrant
  generalize executeAction py env state decision (acts a.2) a.1 = run at hend ⊢
  cases hend with
  | unreadable | blocked => exact nofun
  | sent e item _ _ hc =>
    intro e' he
    rw [List.mem_singleton] at he
    rwa [he]

/-- What the loop records names the operator of the decision. -/
theorem executeActions_approved
    (hgrant : textOf py (decision.get "operator") ≠ "standing-grant")
    {actions : List (JsonDict × Nat)} {items : List JsonDict}
    (h : (mapT (fun a => executeAction py env state decision (acts a.2) a.1) actions).result =
      .ok items) :
    ∀ item ∈ items, item.has "approved_by" = true →
      item.get "approved_by" = decision.getD "operator" (.str "") := by
  have hall := mapT_result_all
    (fun a : JsonDict × Nat => executeAction py env state decision (acts a.2) a.1)
    (fun item => item.has "approved_by" = true →
      item.get "approved_by" = decision.getD "operator" (.str "")) actions
  obtain ⟨items', hitems, hP⟩ := hall.2 fun a ha => by
    obtain ⟨y, hy⟩ := (mapT_returns _).1 ⟨items, h⟩ a ha
    refine ⟨y, hy, ?_⟩
    have hend : ActionEnd py env state a.1 decision _ := executeAction_end (m := acts a.2) hgrant
    generalize executeAction py env state decision (acts a.2) a.1 = run at hend hy
    cases hend with
    | unreadable => cases hy
    | blocked =>
      cases hy
      exact fun h => nomatch h
    | sent e item _ _ _ happroved =>
      cases hy
      exact fun _ => happroved
  rw [h] at hitems
  cases hitems
  exact hP

/-- **The loop sends nothing when no action is reached**, and then nothing succeeds. -/
theorem executeActions_quiet
    (hgrant : textOf py (decision.get "operator") ≠ "standing-grant") :
    ∀ actions : List (JsonDict × Nat), ¬ Reaches py env (actions.map Prod.fst) →
      (mapT (fun a => executeAction py env state decision (acts a.2) a.1) actions).log = [] ∧
        ∀ items, (mapT (fun a => executeAction py env state decision (acts a.2) a.1)
          actions).result = .ok items → ∀ item ∈ items, itemOk item = false
  | [], _ => by
    refine ⟨rfl, fun items h item hitem => ?_⟩
    cases h
    cases hitem
  | a :: rest, hnot => by
    have hend : ActionEnd py env state a.1 decision _ := executeAction_end (m := acts a.2) hgrant
    unfold mapT
    generalize executeAction py env state decision (acts a.2) a.1 = run at hend
    cases hend with
    | unreadable e =>
      refine ⟨rfl, fun items h => ?_⟩
      cases h
    | blocked reason hreadable =>
      have hrest := executeActions_quiet hgrant rest fun h => hnot ⟨hreadable, Or.inr h⟩
      rw [bind_ok rfl]
      refine ⟨?_, fun items h => ?_⟩
      · rw [List.nil_append]
        cases htail : (mapT (fun a => executeAction py env state decision (acts a.2) a.1)
            rest).result with
        | error e => rw [bind_error htail, hrest.1]
        | ok ys => rw [bind_ok htail, hrest.1]; rfl
      · obtain ⟨ys, hys, h⟩ := result_bind_eq_ok.1 h
        cases h
        rw [List.forall_mem_cons]
        exact ⟨rfl, hrest.2 ys hys⟩
    | sent e item hreadable ht => exact absurd ⟨hreadable, Or.inl ht⟩ hnot

/-- The loop sends something when an action is reached. -/
theorem executeActions_sends
    (hgrant : textOf py (decision.get "operator") ≠ "standing-grant") :
    ∀ actions : List (JsonDict × Nat), Reaches py env (actions.map Prod.fst) →
      (mapT (fun a => executeAction py env state decision (acts a.2) a.1) actions).log ≠ []
  | a :: rest, ⟨hreadable, hreach⟩ => by
    have hend : ActionEnd py env state a.1 decision _ := executeAction_end (m := acts a.2) hgrant
    unfold mapT
    generalize executeAction py env state decision (acts a.2) a.1 = run at hend
    cases hend with
    | unreadable e h => exact absurd hreadable h
    | blocked reason _ ht =>
      have hrest := executeActions_sends hgrant rest (hreach.resolve_left ht)
      rw [bind_ok rfl, List.nil_append]
      cases htail : (mapT (fun a => executeAction py env state decision (acts a.2) a.1)
          rest).result with
      | error e => rwa [bind_error htail]
      | ok ys =>
        rw [bind_ok htail]
        simpa using hrest
    | sent e item =>
      rw [bind_ok rfl]
      simp

end Loop

/-! ## Execution and verification -/

/-- A text that is there is read whatever the default. -/
theorem getD_of_get {d : JsonDict} {k s : String} (default : Json) (h : d.get k = .str s) :
    d.getD k default = .str s := by
  unfold JsonDict.get at h
  unfold JsonDict.getD
  cases hfound : d.lookup k with
  | none => rw [hfound] at h; cases h
  | some value => rw [hfound] at h; exact h

section Thread

variable {py : Python} {env : Environ} {acts : Nat → ActMoment} {checks : Nat → CheckMoment}
  {state : WorkflowState} {operator : String}

/-- What carries an authorization of a named operator is authorized by it. -/
theorem Carries.authorizedBy {e : GraphEvent} (h : Carries py state e)
    (hoperator : state.decision.get "operator" = .str operator) (hne : operator ≠ "") :
    AuthorizedBy operator e := by
  obtain ⟨call, time, reply, auth, rfl, hcarried, hnamed⟩ := h
  have hor : (Json.str operator).or (.str "noc-agent") = .str operator := by
    simp [Json.or, Json.truthy, hne]
  intro auth' hauth'
  rw [hcarried] at hauth'
  cases hauth'
  rw [hnamed, hoperator, hor, pyStr_str]

/-- Without an operator the authorization is the agent's. -/
theorem Carries.not_authorizedBy {e : GraphEvent} (h : Carries py state e)
    (hoperator : state.decision.get "operator" = .str "") : ¬ AuthorizedBy "" e := by
  obtain ⟨call, time, reply, auth, rfl, hcarried, hnamed⟩ := h
  intro hauthorized
  have hempty := hauthorized auth hcarried
  rw [hnamed, hoperator] at hempty
  exact absurd hempty (by simp [Json.or, Json.truthy])

/-- An execution of a decision that is no grant. -/
structure Executed (py : Python) (env : Environ) (state done : WorkflowState)
    (items : List JsonDict) : Prop where
  decision : done.operatorDecision = state.operatorDecision
  actions : done.executedActions = state.executedActions ++ items
  approved : ∀ item ∈ items, item.has "approved_by" = true →
    item.get "approved_by" = state.decision.getD "operator" (.str "")
  quiet : ¬ SendsAuthorization py env state → ∀ item ∈ items, itemOk item = false

/-- Only a grant is announced. -/
theorem recordResults_log (results : List JsonDict)
    (hgrant : textOf py (state.decision.get "operator") ≠ "standing-grant") :
    (recordResults py env state results).log = [] := by
  unfold recordResults
  rw [if_neg hgrant]
  rfl

variable (py env acts) in
/-- **What an execution sends and records**, when its decision is no grant. -/
theorem executed_spec (hd : state.decision.get "decision" = .str "approved")
    (hgrant : textOf py (state.decision.get "operator") ≠ "standing-grant") :
    Logs (Carries py state) (executeApprovedRemediation py env acts state) ∧
      ((executeApprovedRemediation py env acts state).log = [] ↔
        ¬ SendsAuthorization py env state) ∧
      ∀ done, (executeApprovedRemediation py env acts state).result = .ok done →
        ∃ items, Executed py env state done items := by
  cases hf : flag env "NOC_ENABLE_APPROVED_EXECUTION" with
  | false =>
    have hnot : ¬ SendsAuthorization py env state := by
      rintro ⟨hon, -⟩
      rw [hf] at hon
      cases hon
    rw [executeApprovedRemediation_disabled hd hf]
    refine ⟨Logs.pure _, iff_of_true rfl hnot, fun done hdone => ⟨[], ?_⟩⟩
    cases hdone
    exact ⟨rfl, (List.append_nil _).symm, nofun, nofun⟩
  | true =>
    rw [executeApprovedRemediation_approved hd hf]
    cases hstored : storedStructuredActions state with
    | error e =>
      have hnot : ¬ SendsAuthorization py env state := by
        rintro ⟨-, actions, hactions, -⟩
        rw [hstored] at hactions
        cases hactions
      rw [orRaise_bind_error]
      exact ⟨Logs.orRaise _, iff_of_true rfl hnot, nofun⟩
    | ok actions =>
      have hsends : SendsAuthorization py env state ↔ Reaches py env (actions.zipIdx.map Prod.fst) := by
        rw [List.zipIdx_map_fst 0 actions]
        constructor
        · rintro ⟨-, actions', hactions, hreach⟩
          rw [hstored] at hactions
          cases hactions
          exact hreach
        · exact fun h => ⟨hf, actions, hstored, h⟩
      have hcarries : Logs (Carries py state) (mapT (fun a =>
          executeAction py env state state.decision (acts a.2) a.1) actions.zipIdx) :=
        executeActions_carries hgrant actions.zipIdx
      have hrecord : ∀ items, (recordResults py env state items).log = [] :=
        fun items => recordResults_log items hgrant
      rw [orRaise_bind_ok]
      refine ⟨hcarries.bind fun items e he => ?_, ?_, fun done hdone => ?_⟩
      · rw [hrecord] at he
        cases he
      · rw [hsends]
        have hlog : (mapT (fun a => executeAction py env state state.decision (acts a.2) a.1)
            actions.zipIdx >>= recordResults py env state).log =
            (mapT (fun a => executeAction py env state state.decision (acts a.2) a.1)
              actions.zipIdx).log := by
          cases hloop : (mapT (fun a => executeAction py env state state.decision (acts a.2) a.1)
              actions.zipIdx).result with
          | error e => rw [bind_error hloop]
          | ok items => rw [bind_ok hloop, hrecord, List.append_nil]
        rw [hlog]
        exact ⟨fun h hreach => executeActions_sends hgrant actions.zipIdx hreach h,
          fun h => (executeActions_quiet hgrant actions.zipIdx h).1⟩
      · obtain ⟨items, hitems, hdone⟩ := result_bind_eq_ok.1 hdone
        rw [result_recordResults] at hdone
        cases hdone
        exact ⟨items, rfl, rfl, executeActions_approved hgrant hitems,
          fun h => (executeActions_quiet hgrant actions.zipIdx (mt hsends.2 h)).2 items hitems⟩

/-! ### Verification -/

theorem probeLoop_logs (m : CheckMoment) (query : String) : ∀ attempts : List Nat,
    Logs (AuthorizedBy operator) (probeLoop py m query attempts)
  | [] => Logs.pure _
  | attempt :: rest => by
    unfold probeLoop
    refine (Logs.tell ?_).bind fun _ => (Logs.orRaise _).bind fun ok => ?_
    · intro auth h
      cases h
    · cases ok with
      | true => exact Logs.pure _
      | false => exact (probeLoop_logs m query rest).bind fun _ => Logs.pure _

theorem finalizeNoopGuard_logs (hoperator : state.decision.get "operator" = .str operator)
    (hne : operator ≠ "") (m : CheckMoment) (item : JsonDict) :
    Logs (AuthorizedBy operator) (finalizeNoopGuard py env m state item) := by
  unfold finalizeNoopGuard
  dsimp only
  by_cases hguard : (!(item.get "guard_id").truthy) = true
  · rw [if_pos hguard]
    exact Logs.pure _
  · rw [if_neg hguard]
    cases hauth : actionAuthorization py env m.time state ((item.get "action").or (.dict []))
        "noop_rollback_guard" with
    | error e =>
      rw [orRaise_bind_error]
      exact Logs.orRaise _
    | ok auth =>
      rw [orRaise_bind_ok]
      have hsigned : ∀ (tool : String) (reply : ToolReply), AuthorizedBy operator
          (.call ⟨tool, JsonDict.toPy [("guard_id", item.get "guard_id"),
            ("action_authorization", .dict auth)]⟩ m.time reply) := fun tool reply =>
        Carries.authorizedBy ⟨_, _, _, auth, rfl, rfl, actionAuthorization_operator hauth⟩
          hoperator hne
      refine (Logs.tell (hsigned _ _)).bind fun _ => ?_
      split
      · exact Logs.pure _
      · exact (Logs.tell (hsigned _ _)).bind fun _ => Logs.pure _

theorem verifyItem_logs (hoperator : state.decision.get "operator" = .str operator)
    (hne : operator ≠ "") (m : CheckMoment) (item : JsonDict) :
    Logs (AuthorizedBy operator) (verifyItem py env state m item) := by
  unfold verifyItem
  split
  · exact finalizeNoopGuard_logs hoperator hne m item
  · refine (Logs.orRaise _).bind fun action => ?_
    dsimp only
    split
    · exact Logs.pure _
    · split
      · exact Logs.pure _
      · exact (probeLoop_logs m _ _).bind fun _ => Logs.pure _

theorem verifyRemediation_logs (hoperator : state.decision.get "operator" = .str operator)
    (hne : operator ≠ "") :
    Logs (AuthorizedBy operator) (verifyRemediation py env checks state) :=
  (Logs.mapT fun item _ => verifyItem_logs hoperator hne (checks item.2) item.1).bind
    fun _ => Logs.pure _

/-- Nothing that succeeded, nothing to verify. -/
theorem verifyRemediation_quiet (h : ∀ item ∈ state.executedActions, itemOk item = false) :
    (verifyRemediation py env checks state).log = [] := by
  have hnone : state.executedActions.zipIdx.filter (fun item => itemOk item.1) = [] := by
    rw [List.filter_eq_nil_iff]
    intro item hitem hok
    rw [h item.1 (List.fst_mem_of_mem_zipIdx hitem)] at hok
    cases hok
  unfold verifyRemediation
  rw [hnone]
  rfl

/-- Verification changes neither the decision nor what was executed. -/
theorem verifyRemediation_state {final : WorkflowState}
    (h : (verifyRemediation py env checks state).result = .ok final) :
    final.operatorDecision = state.operatorDecision ∧
      final.executedActions = state.executedActions := by
  obtain ⟨results, -, h⟩ := result_bind_eq_ok.1 h
  cases h
  exact ⟨rfl, rfl⟩

/-! ### Both nodes -/

/-- No node after approval changes the decision. -/
theorem executeApprovedRemediation_decision {done : WorkflowState}
    (h : (executeApprovedRemediation py env acts state).result = .ok done) :
    done.operatorDecision = state.operatorDecision := by
  by_cases hd : state.decision.get "decision" = .str "approved"
  · cases hf : flag env "NOC_ENABLE_APPROVED_EXECUTION" with
    | false =>
      rw [executeApprovedRemediation_disabled hd hf] at h
      cases h
      rfl
    | true =>
      rw [executeApprovedRemediation_approved hd hf] at h
      obtain ⟨actions, -, h⟩ := result_bind_eq_ok.1 h
      obtain ⟨items, -, h⟩ := result_bind_eq_ok.1 h
      rw [result_recordResults] at h
      cases h
      rfl
  · rw [executeApprovedRemediation_not_approved hd] at h
    cases h
    rfl

theorem remediateThread_decision (py : Python) (r : Resume) (state : WorkflowState) :
    ∃ final, (remediateThread py r state).state = some final ∧
      final.operatorDecision = state.operatorDecision := by
  unfold remediateThread
  split
  · dsimp only
    split
    · exact ⟨state, rfl, rfl⟩
    · rename_i done hdone
      have hdecision := executeApprovedRemediation_decision hdone
      split
      · exact ⟨done, rfl, hdecision⟩
      · rename_i final hfinal
        exact ⟨final, rfl, (verifyRemediation_state hfinal).1.trans hdecision⟩
  · exact ⟨state, rfl, rfl⟩

variable (py) in
/-- What the nodes log, and whose results their state holds. -/
theorem remediateThread_parts (r : Resume) (hroutes : routesToExecution state = true) :
    ∃ verified, (remediateThread py r state).log =
        (executeApprovedRemediation py r.env r.acts state).log ++ verified ∧
      (verified = [] ∨ ∃ done, (executeApprovedRemediation py r.env r.acts state).result = .ok done ∧
        verified = (verifyRemediation py r.env r.checks done).log) ∧
      ∀ final ∈ (remediateThread py r state).state,
        final.executedActions = state.executedActions ∨
          ∃ done, (executeApprovedRemediation py r.env r.acts state).result = .ok done ∧
            final.executedActions = done.executedActions := by
  unfold remediateThread
  rw [if_pos hroutes]
  dsimp only
  split
  · exact ⟨[], (List.append_nil _).symm, Or.inl rfl, fun final h => Or.inl (by cases h; rfl)⟩
  · rename_i done hdone
    split
    · exact ⟨_, rfl, Or.inr ⟨done, hdone, rfl⟩,
        fun final h => Or.inr ⟨done, hdone, by cases h; rfl⟩⟩
    · rename_i verified hverified
      exact ⟨_, rfl, Or.inr ⟨done, hdone, rfl⟩,
        fun final h => Or.inr ⟨done, hdone, by
          cases h
          exact (verifyRemediation_state hverified).2⟩⟩

/-- The run after an approval by hand: what its state holds, and what it sends. -/
theorem remediateThread_spec {r : Resume} {decision : JsonDict}
    (hdecision : state.operatorDecision = some decision)
    (hroutes : routesToExecution state = true)
    (hfresh : state.executedActions = [])
    (hd : decision.get "decision" = .str "approved")
    (hoperator : decision.get "operator" = .str operator) (hnamed : operator ≠ "standing-grant") :
    Attributed decision operator (remediateThread py r state) ↔
      (operator = "" → ¬ SendsAuthorization py r.env state) := by
  have hstate : state.decision = decision := by
    unfold WorkflowState.decision
    rw [hdecision]
    rfl
  rw [← hstate] at hd hoperator
  have hgrant : textOf py (state.decision.get "operator") ≠ "standing-grant" := by
    rwa [hoperator, textOf_str]
  have happroved := getD_of_get (.str "") hoperator
  obtain ⟨hcarries, hquiet, hdone⟩ := executed_spec py r.env r.acts hd hgrant
  obtain ⟨verified, hlog, hverified, hitems⟩ := remediateThread_parts py r hroutes
  constructor
  · rintro h rfl hsends
    obtain ⟨e, he⟩ := List.exists_mem_of_ne_nil _ (mt hquiet.1 (not_not.2 hsends))
    refine (hcarries e he).not_authorizedBy hoperator (h.authorized e ?_)
    rw [hlog]
    exact List.mem_append_left _ he
  · intro hsends
    refine ⟨fun final hfinal => ?_, fun final hfinal item hitem hhas => ?_, fun e he => ?_, hnamed⟩
    · obtain ⟨final', hfinal', hsame⟩ := remediateThread_decision py r state
      rw [hfinal'] at hfinal
      cases hfinal
      exact hsame.trans hdecision
    · rcases hitems final hfinal with hsame | ⟨done, hresult, hsame⟩
      · rw [hsame, hfresh] at hitem
        cases hitem
      · obtain ⟨items, hexecuted⟩ := hdone done hresult
        rw [hsame, hexecuted.actions, hfresh, List.nil_append] at hitem
        rw [hexecuted.approved item hitem hhas, happroved]
    · rw [hlog] at he
      by_cases hempty : operator = ""
      · -- nothing is sent, so nothing succeeds and nothing is verified
        have hnone := hsends hempty
        rw [hquiet.2 hnone, List.nil_append] at he
        rcases hverified with rfl | ⟨done, hresult, rfl⟩
        · cases he
        · obtain ⟨items, hexecuted⟩ := hdone done hresult
          have hfailed := hexecuted.quiet hnone
          rw [verifyRemediation_quiet (by
            rw [hexecuted.actions, hfresh, List.nil_append]; exact hfailed)] at he
          cases he
      · rcases List.mem_append.1 he with he | he
        · exact (hcarries e he).authorizedBy hoperator hempty
        · rcases hverified with rfl | ⟨done, hresult, rfl⟩
          · cases he
          · have hsame : done.decision = state.decision :=
              congrArg (Option.getD · []) (executeApprovedRemediation_decision hresult)
            exact verifyRemediation_logs (by rw [hsame]; exact hoperator) hempty e he

end Thread

/-! ## The resumed run -/

/-- A thread that waits for the operator: its first run ended in the interrupt, and before it
nothing is executed. -/
structure Waiting (py : Python) (first : Resume) (state : WorkflowState) : Prop where
  interrupted : (approvalInterrupt py first.env first.utcNow first.asks state none).result =
    .ok none
  fresh : state.executedActions = []

/-- **A resumed approval is attributed to the operator exactly when the check of the standing
grant, made again, does not cover the actions, and the operator has a name that is neither the
grant's nor empty; an empty one does no harm if nothing is sent.** -/
theorem attributed_iff (py : Python) (first r : Resume) (state : WorkflowState)
    (incidentId operator : String) (decision : JsonDict) (hwaiting : Waiting py first state)
    (happroved : decision.get "decision" = .str "approved")
    (hoperator : decision.get "operator" = .str operator) :
    Attributed (recordedDecision incidentId decision) operator
        (recordOperatorDecision py r state incidentId decision) ↔
      operator ≠ "standing-grant" ∧
        ∀ grant, (granted py r.env r.utcNow r.asks state).result = .ok grant →
          grant = none ∧ (operator = "" → ¬ SendsAuthorization py r.env state) := by
  have hd : (recordedDecision incidentId decision).get "decision" = .str "approved" := by
    unfold recordedDecision
    rw [get_dictPut, if_neg (by decide), happroved]
  have hop : (recordedDecision incidentId decision).get "operator" = .str operator := by
    unfold recordedDecision
    rw [get_dictPut, if_neg (by decide), hoperator]
  unfold recordOperatorDecision
  generalize recordedDecision incidentId decision = recorded at hd hop ⊢
  have hlisted : Logs (AuthorizedBy operator) (granted py r.env r.utcNow r.asks state) :=
    granted_logs r.utcNow
  unfold resumeInvestigation approvalInterrupt
  cases hcheck : (granted py r.env r.utcNow r.asks state).result with
  | error e =>
    rw [bind_error hcheck]
    exact ⟨fun h => ⟨h.named, nofun⟩, fun h => ⟨nofun, nofun, hlisted, h.1⟩⟩
  | ok grant =>
    rw [bind_ok hcheck]
    cases grant with
    | some grant =>
      refine iff_of_false (fun h => ?_) fun h => nomatch (h.2 _ rfl).1
      obtain ⟨final, hfinal, hsame⟩ := remediateThread_decision py r { state with
        operatorDecision := some grant
        approvalState := some (.str "approved") }
      have hrecorded : some grant = some recorded := hsame.symm.trans (h.decided final hfinal)
      have hgranted := granted_operator hcheck
      rw [Option.some.inj hrecorded, hop] at hgranted
      exact h.named (by simpa using hgranted)
    | none =>
      generalize happrovedState : { state with
        operatorDecision := some recorded
        approvalState := some (recorded.getD "decision" (.str "acknowledged")) } = approved
      have hroutes : routesToExecution approved = true := by
        rw [← happrovedState]
        unfold routesToExecution
        rw [getD_of_get _ hd]
        rfl
      have hsends : SendsAuthorization py r.env approved ↔ SendsAuthorization py r.env state := by
        rw [← happrovedState]
        rfl
      have hrest : Attributed recorded operator
          ⟨(remediateThread py r approved).state, (granted py r.env r.utcNow r.asks state).log ++
            (remediateThread py r approved).log⟩ ↔
          Attributed recorded operator (remediateThread py r approved) := by
        constructor
        · exact fun h => ⟨h.decided, h.approved,
            fun e he => h.authorized e (List.mem_append_right _ he), h.named⟩
        · exact fun h => ⟨h.decided, h.approved,
            fun e he => (List.mem_append.1 he).elim (hlisted e) (h.authorized e), h.named⟩
      have hspec : operator ≠ "standing-grant" →
          (Attributed recorded operator (remediateThread py r approved) ↔
            (operator = "" → ¬ SendsAuthorization py r.env approved)) :=
        remediateThread_spec (by rw [← happrovedState]) hroutes
          (by rw [← happrovedState]; exact hwaiting.fresh) hd hop
      simp only [Option.map_some, happrovedState, log_pure, result_pure, List.append_nil]
      rw [hrest]
      constructor
      · intro h
        refine ⟨h.named, fun grant hgrant => ?_⟩
        cases hgrant
        exact ⟨rfl, fun hempty => mt hsends.2 ((hspec h.named).1 h hempty)⟩
      · rintro ⟨hnamed, h⟩
        exact (hspec hnamed).2 fun hempty => mt hsends.1 ((h none rfl).2 hempty)

/-! ## A grant that comes in between -/

/-- The acknowledgement of one disk problem, waiting for an operator. -/
def waitingAck : WorkflowState :=
  { ackState "disk" with
    operatorDecision := none
    approvalState := some (.str "waiting_approval") }

/-- What Alice answers. -/
def aliceApproves : JsonDict :=
  [("decision", .str "approved"), ("operator", .str "alice"), ("comment", .str "go ahead")]

/-- A run that meets the one WARNING. -/
def diskResume (env : Environ) : Resume where
  env := env
  utcNow := "2026-01-01T00:00:01+00:00"
  asks := fun _ => diskWarning
  acts := fun _ => diskWarning
  checks := fun _ => ⟨1000000, .returned .null, .returned .null, fun _ => .returned .null⟩

/-- The standing grant for acknowledgements. -/
def grantingEnviron : Environ := fun name =>
  if name = "NOC_STANDING_GRANT_ACTION_CLASSES" then some "acknowledge_icinga"
  else grantEnviron name

theorem waiting_ack : Waiting asciiPython (diskResume grantEnviron) waitingAck := ⟨rfl, rfl⟩

/-- Without a grant the acknowledgement is Alice's. -/
theorem attributed_alice : Attributed (recordedDecision "case-1" aliceApproves) "alice"
    (recordOperatorDecision asciiPython (diskResume grantEnviron) waitingAck "case-1"
      aliceApproves) := by
  refine (attributed_iff asciiPython (diskResume grantEnviron) (diskResume grantEnviron) waitingAck
    "case-1" "alice" aliceApproves waiting_ack rfl rfl).2 ⟨by decide, fun grant hgrant => ?_⟩
  have hnone : (granted asciiPython (diskResume grantEnviron).env (diskResume grantEnviron).utcNow
      (diskResume grantEnviron).asks waitingAck).result = .ok none := rfl
  rw [hnone] at hgrant
  cases hgrant
  exact ⟨rfl, fun hempty => absurd hempty (by decide)⟩

/-- The grant is configured while the thread waits for Alice: her approval becomes the grant's. -/
theorem not_attributed_granted :
    Waiting asciiPython (diskResume grantEnviron) waitingAck ∧
    ¬ Attributed (recordedDecision "case-1" aliceApproves) "alice"
      (recordOperatorDecision asciiPython (diskResume grantingEnviron) waitingAck "case-1"
        aliceApproves) := by
  refine ⟨waiting_ack, fun h => ?_⟩
  obtain ⟨final, hfinal, hoperator⟩ : ∃ final ∈ (recordOperatorDecision asciiPython
      (diskResume grantingEnviron) waitingAck "case-1" aliceApproves).state,
      final.decision.get "operator" = .str "standing-grant" := ⟨_, rfl, rfl⟩
  have hdecided := h.decided final hfinal
  unfold WorkflowState.decision at hoperator
  rw [hdecided] at hoperator
  change Json.str "alice" = .str "standing-grant" at hoperator
  simp at hoperator

end NocAgent
