import NocAgent.Graph.Threads
import NocAgent.Lib.Past

/-!
# What an investigation may do to the network

* `Privileged` — a call of a tool that no agent is offered.
* `executeAction_calls`, `verifyItem_calls` — what the two last nodes call, action by action.
* `PreparedRun`, `ApprovedRun`, `ExecutedRun` — the nodes a state came from: its proposal was shown,
  then approved, then executed.
* `Placed` — what is known of a thread before each of its nodes.
* `threadsSafe_run` — in every run a privileged call is for an action of a proposal that was shown
  and approved, while execution was switched on.
-/

set_option autoImplicit false

namespace NocAgent

open Effects Traced History Lts

/-! ## Privileged calls -/

def READ_ONLY_TOOLS : List String :=
  TRIAGE_TOOLS ++ BGP_TOOLS ++ FIREWALL_TOOLS ++ INFRASTRUCTURE_TOOLS

def Privileged (call : ToolCall) : Prop := call.tool ∉ READ_ONLY_TOOLS

/-- The event is no privileged call. -/
def Harmless : GraphEvent → Prop
  | .call call _ _ => ¬ Privileged call
  | .announce _ _ => True

theorem harmless_listing (m : ActMoment) :
    Harmless (.call listProblemsCall m.authTime m.problems) := by
  show ¬ listProblemsCall.tool ∉ READ_ONLY_TOOLS
  decide

section Agents

/-- **An agent is offered no privileged tool.** -/
theorem readOnly_of_allowed {specialist : Option String} {name : String}
    (h : name ∈ allowedToolNames specialist) : name ∈ READ_ONLY_TOOLS := by
  unfold allowedToolNames at h
  unfold READ_ONLY_TOOLS
  simp only [List.mem_append]
  split at h
  · exact Or.inl (Or.inl (Or.inr h))
  · split at h
    · exact Or.inl (Or.inr h)
    · split at h
      · exact Or.inr h
      · exact Or.inl (Or.inl (Or.inl h))

theorem readOnly_of_toolsFor {tools : MCPTools} {specialist : Option String} {name : String}
    (h : name ∈ MCPRuntime.toolsFor tools specialist) : name ∈ READ_ONLY_TOOLS := by
  unfold MCPRuntime.toolsFor at h
  exact readOnly_of_allowed (of_decide_eq_true (List.mem_filter.1 h).2)

theorem readOnly_of_offered {m : NodeMoment} {specialist : FindingSpecialist} {name : String}
    (h : name ∈ NodeRunner.offered m specialist) : name ∈ READ_ONLY_TOOLS := by
  unfold NodeRunner.offered at h
  split at h
  · exact readOnly_of_toolsFor h
  · unfold HeavyProbeFilteredRuntime.toolsFor at h
    simp only at h
    split at h
    · exact readOnly_of_toolsFor h
    · exact readOnly_of_toolsFor (List.mem_filter.1 h).1

theorem agentCalls_harmless (m : NodeMoment) (specialist : FindingSpecialist) :
    ∀ e ∈ NodeRunner.agentCalls m specialist, Harmless e := by
  intro e he
  obtain ⟨ask, hask, rfl⟩ := List.mem_map.1 he
  have htool := readOnly_of_offered (of_decide_eq_true (List.mem_filter.1 hask).2)
  show ¬ ask.1.tool ∉ READ_ONLY_TOOLS
  exact not_not_intro htool

theorem runSpecialist_harmless (py : Python) (m : NodeMoment) (specialist : FindingSpecialist)
    (state : ThreadState) : Logs Harmless (NodeRunner.runSpecialist py m specialist state) := by
  unfold NodeRunner.runSpecialist
  refine Logs.bind (Logs.mapT fun e he => Logs.tell (agentCalls_harmless m specialist e he))
    fun _ => ?_
  exact (Logs.orRaise _).bind fun _ => (Logs.orRaise _).bind fun _ => Logs.pure _

end Agents

section Grant

variable {py : Python} {env : Environ} {asks : Nat → ActMoment} {state : WorkflowState}

theorem icingaIsUniqueWarning_harmless (m : ActMoment) (host : String) (service : Json) :
    Logs Harmless (icingaIsUniqueWarning py m host service) := by
  unfold icingaIsUniqueWarning
  split
  · exact Logs.pure _
  · exact (Logs.tell (harmless_listing m)).bind fun _ => Logs.orRaise _

theorem envelopeHolds_harmless : ∀ actions : List (JsonDict × Nat),
    Logs Harmless (envelopeHolds py asks actions)
  | [] => Logs.pure _
  | (action, i) :: rest => by
    unfold envelopeHolds
    refine (icingaIsUniqueWarning_harmless (asks i) _ _).bind fun unique => ?_
    cases unique with
    | false => exact Logs.pure _
    | true => exact envelopeHolds_harmless rest

/-- To ask for approval is harmless. -/
theorem approvalInterrupt_harmless (utcNow : String) (answer : Option JsonDict) :
    Logs Harmless (approvalInterrupt py env utcNow asks state answer) := by
  unfold approvalInterrupt granted
  refine Logs.bind ?_ fun decision => ?_
  · refine (Logs.orRaise _).bind fun decision => ?_
    cases decision with
    | none => exact Logs.pure _
    | some decision =>
      exact ((Logs.orRaise _).bind fun actions => envelopeHolds_harmless _).bind
        fun _ => Logs.pure _
  · cases decision with
    | none => exact Logs.pure _
    | some decision => exact Logs.pure _

end Grant

/-! ## Calls for an action -/

/-- The call does what the action says, or prepares for it without doing it. -/
inductive CallFor (py : Python) : JsonDict → ToolCall → Prop where
  | restart (uuid host : String) (call : ToolCall) (htool : call.tool = "os_service_restart")
      (hhost : call.arguments.get "host" = .str host)
      (hservice : call.arguments.get "service" = .str "node_exporter") :
      CallFor py (exporterRestartAction uuid host) call
  | acknowledge (uuid : String) (labels : JsonDict) (call : ToolCall)
      (htool : call.tool = "icinga_acknowledge_alert")
      (hhost : call.arguments.get "host_name" = labelHost labels) :
      CallFor py (alertAckAction uuid labels) call
  | guard (action : JsonDict) (call : ToolCall) (htool : call.tool = "prepare_commit_confirm")
      (hhost : call.arguments.get "host" = .str (targetHost py action)) : CallFor py action call

/-- What an action may log. -/
def EventFor (py : Python) (action : JsonDict) : GraphEvent → Prop
  | .call call _ _ => Privileged call → CallFor py action call
  | .announce _ _ => True

theorem EventFor.of_harmless {py : Python} {action : JsonDict} {e : GraphEvent} (h : Harmless e) :
    EventFor py action e := by
  cases e with
  | call call time reply => exact fun hprivileged => absurd hprivileged h
  | announce executed approvalState => trivial

section Executing

variable {py : Python} {env : Environ} {m : ActMoment} {state : WorkflowState}
  {alert action decision : JsonDict}

theorem callRealTool_calls {call : ToolCall} (h : CallFor py action call) :
    Logs (EventFor py action) (callRealTool m action decision call) :=
  (Logs.tell fun _ => h).bind fun _ => Logs.pure _

theorem restart_calls (uuid host : String) : Logs (EventFor py (exporterRestartAction uuid host))
    (executeRealAction py env m state (exporterRestartAction uuid host) decision) := by
  unfold executeRealAction
  simp only
  split
  · exact Logs.orRaise _
  · split
    · exact Logs.pure _
    · have hinputs : pyDict (((exporterRestartAction uuid host).get "inputs").or (.dict [])) =
          .ok (JsonDict.toPy [("host", .str host), ("service", .str "node_exporter")]) := rfl
      rw [hinputs, orRaise_bind_ok]
      refine (Logs.orRaise _).bind fun auth => ?_
      have htype : ((exporterRestartAction uuid host).get "type").isStr "restart_service" = true :=
        rfl
      rw [if_pos htype]
      refine callRealTool_calls (.restart uuid host _ rfl ?_ ?_)
      · simp only [PyDict.get_set]
        rfl
      · simp only [PyDict.get_set]
        rfl

theorem acknowledge_calls (uuid : String) {labels : JsonDict}
    (hhost : (labelHost labels).truthy = true) :
    Logs (EventFor py (alertAckAction uuid labels))
      (executeRealAction py env m state (alertAckAction uuid labels) decision) := by
  unfold executeRealAction
  simp only
  split
  · exact Logs.orRaise _
  · split
    · exact Logs.pure _
    · have hinputs : pyDict (((alertAckAction uuid labels).get "inputs").or (.dict [])) =
          .ok (JsonDict.toPy (alertAckInputs labels)) := rfl
      rw [hinputs, orRaise_bind_ok]
      refine (Logs.orRaise _).bind fun auth => ?_
      have hrestart : ((alertAckAction uuid labels).get "type").isStr "restart_service" = false :=
        rfl
      have hack : ((alertAckAction uuid labels).get "type").isStr "acknowledge_icinga" = true := rfl
      rw [if_neg (by rw [hrestart]; simp), if_pos hack]
      have htarget : (ackArguments ((JsonDict.toPy (alertAckInputs labels)).set
          "action_authorization" (.dict auth)) decision).get "host_name" = labelHost labels := by
        rw [ackArguments_host]
        show (labelHost labels).or .null = labelHost labels
        unfold Json.or
        rw [if_pos hhost]
      split
      · unfold acknowledgeUnderGrant
        refine Logs.bind ?_ fun unique => ?_
        · intro e he
          exact EventFor.of_harmless (icingaIsUniqueWarning_harmless m _ _ e he)
        · cases unique with
          | false => exact Logs.pure _
          | true =>
            refine (Logs.orRaise _).bind fun ttl => ?_
            exact callRealTool_calls (.acknowledge uuid labels _ rfl htarget)
      · exact callRealTool_calls (.acknowledge uuid labels _ rfl htarget)

theorem prepareNoopGuard_calls {inputs : JsonDict} (hinputs : action.get "inputs" = .dict inputs)
    (hhost : (PyDict.get (JsonDict.toPy inputs) "host").or
      (PyDict.get (JsonDict.toPy inputs) "host_name") =
        (inputs.get "host").or (inputs.get "host_name")) :
    Logs (EventFor py action) (prepareNoopGuard py env m state action decision) := by
  unfold prepareNoopGuard
  refine (Logs.orRaise _).bind fun auth => ?_
  have hdict : pyDict ((action.get "inputs").or (.dict [])) = .ok (JsonDict.toPy inputs) := by
    rw [hinputs, Json.dict_or_empty]
    rfl
  rw [hdict, orRaise_bind_ok]
  refine (Logs.tell fun _ => .guard action _ rfl ?_).bind fun _ => Logs.pure _
  show Json.str (textOf py _) = _
  rw [hhost]
  unfold targetHost
  rw [hinputs]

/-- **An action makes no privileged call but its own.** -/
theorem executeAction_calls (h : Minted alert action) :
    Logs (EventFor py action) (executeAction py env state decision m action) := by
  unfold executeAction
  cases h with
  | restart uuid host hhost =>
    split
    · exact prepareNoopGuard_calls rfl rfl
    · exact restart_calls uuid host
  | acknowledge uuid labels hlabels hhost =>
    split
    · exact prepareNoopGuard_calls rfl rfl
    · exact acknowledge_calls uuid hhost

/-- What is recorded of an action names it. -/
theorem executeAction_item (py : Python) (env : Environ) (state : WorkflowState)
    (decision : JsonDict) (m : ActMoment) (action : JsonDict) :
    Yields (fun item => item.get "action" = .dict action)
      (executeAction py env state decision m action) := by
  have hcall : ∀ call, Yields (fun item => item.get "action" = .dict action)
      (callRealTool m action decision call) :=
    fun call => Yields.bind fun _ _ => Yields.pure rfl
  unfold executeAction
  split
  · unfold prepareNoopGuard
    exact Yields.bind fun _ _ => Yields.bind fun _ _ => Yields.bind fun _ _ => Yields.pure rfl
  · unfold executeRealAction
    simp only
    split
    · exact Yields.raise _
    · split
      · exact Yields.pure rfl
      · refine Yields.bind fun inputs _ => Yields.bind fun auth _ => ?_
        split
        · exact hcall _
        · split
          · split
            · unfold acknowledgeUnderGrant
              refine Yields.bind fun unique _ => ?_
              split
              · exact Yields.bind fun ttl _ => hcall _
              · exact Yields.pure rfl
            · exact hcall _
          · exact Yields.pure rfl

end Executing

/-! ## The two last nodes -/

/-- A privileged call that execution may make for the stored actions. -/
structure Executes (py : Python) (env : Environ) (state : WorkflowState)
    (actions : List JsonDict) (call : ToolCall) : Prop where
  enabled : flag env "NOC_ENABLE_APPROVED_EXECUTION" = true
  decided : state.decision.get "decision" = .str "approved"
  acts : ∃ action ∈ actions, CallFor py action call

/-- What execution writes. -/
structure ExecutedFrom (env : Environ) (state : WorkflowState) (actions : List JsonDict)
    (after : WorkflowState) : Prop where
  proposals : after.proposals = state.proposals
  decision : after.operatorDecision = state.operatorDecision
  items : after.executedActions = state.executedActions ∨
    flag env "NOC_ENABLE_APPROVED_EXECUTION" = true ∧
      state.decision.get "decision" = .str "approved" ∧
      ∃ items, after.executedActions = state.executedActions ++ items ∧
        ∀ item ∈ items, ∃ action ∈ actions, item.get "action" = .dict action

/-- What an event has to do with a call. -/
def OfCall (P : ToolCall → Prop) : GraphEvent → Prop
  | .call call _ _ => Privileged call → P call
  | .announce _ _ => True

section Execution

variable {py : Python} {env : Environ} {acts : Nat → ActMoment} {state : WorkflowState}
  {alert : JsonDict} {actions : List JsonDict}

theorem recordResults_logs (P : ToolCall → Prop) (items : List JsonDict) :
    Logs (OfCall P) (recordResults py env state items) := by
  unfold recordResults
  simp only
  split
  · refine (Logs.tell ?_).bind fun _ => Logs.pure _
    show True
    trivial
  · exact Logs.pure _

theorem recordResults_yields (items : List JsonDict) :
    Yields (fun after => after.proposals = state.proposals ∧
      after.operatorDecision = state.operatorDecision ∧
      after.executedActions = state.executedActions ++ items)
      (recordResults py env state items) := by
  intro after hafter
  rw [result_recordResults] at hafter
  cases hafter
  exact ⟨rfl, rfl, rfl⟩

/-- **Execution makes no privileged call but for a stored action that was approved.** -/
theorem executeApprovedRemediation_calls (hstored : storedStructuredActions state = .ok actions)
    (hminted : ∀ action ∈ actions, Minted alert action) :
    Logs (OfCall (Executes py env state actions))
      (executeApprovedRemediation py env acts state) := by
  by_cases hdecided : state.decision.get "decision" = .str "approved"
  · cases henabled : flag env "NOC_ENABLE_APPROVED_EXECUTION" with
    | false =>
      rw [executeApprovedRemediation_disabled hdecided henabled]
      exact Logs.pure _
    | true =>
      rw [executeApprovedRemediation_approved hdecided henabled, hstored, orRaise_bind_ok]
      refine (Logs.mapT fun numbered hnumbered => ?_).bind fun items => recordResults_logs _ items
      have haction : numbered.1 ∈ actions := List.fst_mem_of_mem_zipIdx hnumbered
      intro e he
      have hfor := executeAction_calls (hminted _ haction) e he
      cases e with
      | call call time reply =>
        exact fun hprivileged => ⟨henabled, hdecided, numbered.1, haction, hfor hprivileged⟩
      | announce executed approvalState => trivial
  · rw [executeApprovedRemediation_not_approved hdecided]
    exact Logs.pure _

theorem executeApprovedRemediation_yields (hstored : storedStructuredActions state = .ok actions) :
    Yields (ExecutedFrom env state actions) (executeApprovedRemediation py env acts state) := by
  by_cases hdecided : state.decision.get "decision" = .str "approved"
  · cases henabled : flag env "NOC_ENABLE_APPROVED_EXECUTION" with
    | false =>
      rw [executeApprovedRemediation_disabled hdecided henabled]
      exact Yields.pure ⟨rfl, rfl, Or.inl rfl⟩
    | true =>
      rw [executeApprovedRemediation_approved hdecided henabled, hstored, orRaise_bind_ok]
      refine Yields.bind fun items hitems => ?_
      intro after hafter
      obtain ⟨hproposals, hdecision, hexecuted⟩ := recordResults_yields items after hafter
      refine ⟨hproposals, hdecision, Or.inr ⟨henabled, hdecided, items, hexecuted, ?_⟩⟩
      intro item hitem
      obtain ⟨numbered, hnumbered, hresult⟩ :=
        forall₂_exists_right (List.Forall₂.flip ((mapT_result _).1 hitems)) hitem
      exact ⟨numbered.1, List.fst_mem_of_mem_zipIdx hnumbered,
        executeAction_item py env state state.decision _ _ item hresult⟩
  · rw [executeApprovedRemediation_not_approved hdecided]
    exact Yields.pure ⟨rfl, rfl, Or.inl rfl⟩

end Execution

/-- The call ends the guard that was recorded for an action. -/
structure EndsGuard (state : WorkflowState) (actions : List JsonDict) (call : ToolCall) : Prop where
  tool : call.tool = "confirm_change" ∨ call.tool = "rollback_change"
  prepared : ∃ item ∈ state.executedActions, item.get "execution_mode" = .str "noop_guard" ∧
    call.arguments.get "guard_id" = item.get "guard_id" ∧
    ∃ action ∈ actions, item.get "action" = .dict action

section Verifying

variable {py : Python} {env : Environ} {checks : Nat → CheckMoment} {state : WorkflowState}
  {actions : List JsonDict}

theorem probeLoop_harmless (m : CheckMoment) (query : String) : ∀ attempts : List Nat,
    Logs Harmless (probeLoop py m query attempts)
  | [] => Logs.pure _
  | attempt :: rest => by
    unfold probeLoop
    have hquery : Harmless (.call
        ⟨"prometheus_query", JsonDict.toPy [("query", .str query)]⟩ m.time (m.probe attempt)) := by
      show ¬ "prometheus_query" ∉ READ_ONLY_TOOLS
      decide
    refine (Logs.tell hquery).bind fun _ => (Logs.orRaise _).bind fun ok => ?_
    cases ok with
    | true => exact Logs.pure _
    | false => exact (probeLoop_harmless m query rest).bind fun _ => Logs.pure _

/-- **Verification makes no privileged call but to end a guard that execution prepared.** -/
theorem verifyRemediation_calls (hitems : ∀ item ∈ state.executedActions,
      ∃ action ∈ actions, item.get "action" = .dict action) :
    Logs (OfCall (EndsGuard state actions)) (verifyRemediation py env checks state) := by
  unfold verifyRemediation
  refine (Logs.mapT fun numbered hnumbered => ?_).bind fun _ => Logs.pure _
  have hitem : numbered.1 ∈ state.executedActions :=
    List.fst_mem_of_mem_zipIdx (List.mem_filter.1 hnumbered).1
  unfold verifyItem
  split
  · rename_i hmode
    unfold finalizeNoopGuard
    simp only
    split
    · exact Logs.pure _
    · refine (Logs.orRaise _).bind fun auth => ?_
      have hends : ∀ tool, tool = "confirm_change" ∨ tool = "rollback_change" →
          EndsGuard state actions ⟨tool, JsonDict.toPy [("guard_id", numbered.1.get "guard_id"),
            ("action_authorization", .dict auth)]⟩ := fun tool htool =>
        ⟨htool, numbered.1, hitem, Json.isStr_iff.1 hmode, rfl, hitems _ hitem⟩
      have htell : ∀ tool time reply, tool = "confirm_change" ∨ tool = "rollback_change" →
          OfCall (EndsGuard state actions) (.call ⟨tool, JsonDict.toPy
            [("guard_id", numbered.1.get "guard_id"), ("action_authorization", .dict auth)]⟩
            time reply) := fun tool time reply htool _ => hends tool htool
      refine (Logs.tell (htell _ _ _ (Or.inl rfl))).bind fun _ => ?_
      split
      · exact Logs.pure _
      · exact (Logs.tell (htell _ _ _ (Or.inr rfl))).bind fun _ => Logs.pure _
  · refine (Logs.orRaise _).bind fun action => ?_
    simp only
    split
    · exact Logs.pure _
    · split
      · exact Logs.pure _
      · refine Logs.bind (fun e he => ?_) fun _ => Logs.pure _
        have hharmless := probeLoop_harmless _ _ _ e he
        cases e with
        | call call time reply => exact fun hprivileged => absurd hprivileged hharmless
        | announce executed approvalState => trivial

end Verifying

/-! ## Approval -/

/-- The standing grant covers a state: execution is on, and all its actions acknowledge. -/
structure Grants (py : Python) (env : Environ) (state : WorkflowState) (decision : JsonDict) :
    Prop where
  operator : decision.get "operator" = .str "standing-grant"
  enabled : flag env "NOC_ENABLE_APPROVED_EXECUTION" = true
  acknowledges : ∃ actions, storedStructuredActions state = .ok actions ∧ actions ≠ [] ∧
    ∀ action ∈ actions, pyStr py (action.get "type") = "acknowledge_icinga"

/-- Who decided: an operator, or the standing grant. -/
inductive DecidedBy (py : Python) (answers : List JsonDict) (env : Environ)
    (state : WorkflowState) (decision : JsonDict) : Prop where
  | operator (h : decision ∈ answers)
  | grant (h : Grants py env state decision)

/-- What approval writes. -/
structure ApprovedFrom (py : Python) (answers : List JsonDict) (env : Environ)
    (state after : WorkflowState) : Prop where
  proposals : after.proposals = state.proposals
  executed : after.executedActions = state.executedActions
  decided : routesToExecution after = true → ∃ decision, after.operatorDecision = some decision ∧
    decision.get "decision" = .str "approved" ∧ DecidedBy py answers env state decision

section Approval

variable {py : Python} {env : Environ} {utcNow : String} {asks : Nat → ActMoment}
  {state : WorkflowState} {decision : JsonDict}

theorem grants_of_standingGrantDecision
    (h : standingGrantDecision py env utcNow state = .ok (some decision)) :
    Grants py env state decision ∧ decision.get "decision" = .str "approved" := by
  unfold standingGrantDecision at h
  simp only at h
  split at h
  · cases h
  · rename_i hon
    obtain ⟨-, henabled⟩ := not_or.1 hon
    split at h
    · cases h
    · cases h
    · rename_i actions hactions hstored
      split at h
      · cases h
      · rename_i hall
        cases h
        refine ⟨⟨rfl, by simpa using henabled, actions, hstored, hactions, ?_⟩, rfl⟩
        intro action haction
        have hclass : pyStr py (action.get "type") ∈ grantClasses env := by
          by_contra hno
          exact hall ⟨action, haction, hno⟩
        unfold grantClasses STANDING_GRANT_SUPPORTED at hclass
        exact List.mem_singleton.1 (List.mem_filter.1 hclass).1

theorem grants_of_granted (h : (granted py env utcNow asks state).result = .ok (some decision)) :
    Grants py env state decision ∧ decision.get "decision" = .str "approved" := by
  obtain ⟨checked, hchecked, h⟩ := result_bind_eq_ok.1 h
  cases checked with
  | none => cases h
  | some found =>
    obtain ⟨holds, -, h⟩ := result_bind_eq_ok.1 h
    have hfound : found = decision := by
      cases holds with
      | false => cases h
      | true =>
        cases h
        rfl
    rw [← hfound]
    exact grants_of_standingGrantDecision hchecked

/-- An answer that routes to execution says `approved`. -/
theorem approved_of_routes {state : WorkflowState}
    (hstate : state.approvalState = some (decision.getD "decision" (.str "acknowledged")))
    (h : routesToExecution state = true) : decision.get "decision" = .str "approved" := by
  unfold routesToExecution at h
  rw [hstate] at h
  have happroved := Json.isStr_iff.1 h
  unfold JsonDict.getD at happroved
  unfold JsonDict.get
  cases hfound : List.lookup "decision" decision with
  | none =>
    rw [hfound] at happroved
    simp at happroved
  | some value =>
    rw [hfound] at happroved
    exact happroved

/-- **What goes on to execution was approved by an operator or by the standing grant.** -/
theorem approvalInterrupt_yields {answers : List JsonDict} {answer : Option JsonDict}
    (hanswer : ∀ d ∈ answer, d ∈ answers) :
    Yields (fun after => ∀ reached ∈ after, ApprovedFrom py answers env state reached)
      (approvalInterrupt py env utcNow asks state answer) := by
  unfold approvalInterrupt
  refine Yields.bind fun decision hdecision => ?_
  cases decision with
  | some decision =>
    obtain ⟨hgrants, happroved⟩ := grants_of_granted hdecision
    refine Yields.pure fun reached hreached => ?_
    cases hreached
    exact ⟨rfl, rfl, fun _ => ⟨decision, rfl, happroved, .grant hgrants⟩⟩
  | none =>
    refine Yields.pure fun reached hreached => ?_
    obtain ⟨decision, hgiven, rfl⟩ := Option.map_eq_some_iff.1 hreached
    refine ⟨rfl, rfl, fun hroutes => ⟨decision, rfl, ?_, .operator (hanswer _ hgiven)⟩⟩
    exact approved_of_routes rfl hroutes

end Approval

/-! ## Where a state came from -/

section Origins

variable (py : Python) (answers : List JsonDict)

/-- The actions of the state are read off a text about its alert. -/
def MintedState (state : ThreadState) : Prop :=
  ∃ actions, storedStructuredActions state.toWorkflowState = .ok actions ∧
    ∀ action ∈ actions, Minted state.normalizedAlert action

/-- The node that stored the summary with the proposals of the state. -/
structure PreparedRun (state : ThreadState) (_ : List NodeRun) (r : NodeRun) : Prop where
  node : r.node = .prepareApproval
  reached : r.after = state
  shown : state.finalSummary.get "proposals" = .list state.proposals

/-- The node that approved the proposals, after they were shown. -/
structure ApprovedRun (state : ThreadState) (before : List NodeRun) (r : NodeRun) : Prop where
  node : r.node = .approvalInterrupt
  reached : r.after = state
  same : state.proposals = r.before.proposals
  decided : ∃ decision, state.operatorDecision = some decision ∧
    decision.get "decision" = .str "approved" ∧
    DecidedBy py answers r.env r.before.toWorkflowState decision
  shown : Past (PreparedRun r.before) before

/-- The node that executed the actions, after they were approved. -/
structure ExecutedRun (state : ThreadState) (before : List NodeRun) (r : NodeRun) : Prop where
  node : r.node = .executeApprovedRemediation
  reached : r.after = state
  fresh : r.before.executedActions = []
  wrote : ∃ actions, storedStructuredActions r.before.toWorkflowState = .ok actions ∧
    ExecutedFrom r.env r.before.toWorkflowState actions state.toWorkflowState
  approved : Past (ApprovedRun py answers r.before) before

/-- What is known of a thread before its next node. -/
def Placed (trace : List NodeRun) (c : Checkpoint) : Prop :=
  match c.next with
  | none => True
  | some .verifyRemediation =>
    MintedState c.state ∧ Past (ExecutedRun py answers c.state) trace
  | some .executeApprovedRemediation =>
    MintedState c.state ∧ c.state.executedActions = [] ∧ Past (ApprovedRun py answers c.state) trace
  | some .approvalInterrupt =>
    MintedState c.state ∧ c.state.executedActions = [] ∧ Past (PreparedRun c.state) trace
  | some .prepareApproval => MintedState c.state ∧ c.state.executedActions = []
  | some _ => c.state.executedActions = []

/-- **A privileged call is for an action of the state, which was shown and approved, and execution
was on.** -/
inductive Sanctioned (trace : List NodeRun) (e : NodeEvent) (call : ToolCall) : Prop where
  | executing (node : e.node = .executeApprovedRemediation) (actions : List JsonDict)
      (stored : storedStructuredActions e.state.toWorkflowState = .ok actions)
      (minted : ∀ action ∈ actions, Minted e.state.normalizedAlert action)
      (executes : Executes py e.env e.state.toWorkflowState actions call)
      (approved : Past (ApprovedRun py answers e.state) trace)
  | verifying (node : e.node = .verifyRemediation) (actions : List JsonDict)
      (stored : storedStructuredActions e.state.toWorkflowState = .ok actions)
      (minted : ∀ action ∈ actions, Minted e.state.normalizedAlert action)
      (ends : EndsGuard e.state.toWorkflowState actions call)
      (executed : Past (fun before r => ExecutedRun py answers e.state before r ∧
        flag r.env "NOC_ENABLE_APPROVED_EXECUTION" = true) trace)

end Origins

section Monotone

variable {py : Python} {answers more : List JsonDict} {trace later : List NodeRun}
  {state : ThreadState}

theorem ApprovedRun.mono {before : List NodeRun} {r : NodeRun}
    (h : ApprovedRun py answers state before r) :
    ApprovedRun py (answers ++ more) state before r := by
  obtain ⟨decision, hdecision, happroved, hby⟩ := h.decided
  refine ⟨h.node, h.reached, h.same, ⟨decision, hdecision, happroved, ?_⟩, h.shown⟩
  cases hby with
  | operator hin => exact .operator (List.mem_append_left _ hin)
  | grant hgrants => exact .grant hgrants

theorem ExecutedRun.mono {before : List NodeRun} {r : NodeRun}
    (h : ExecutedRun py answers state before r) :
    ExecutedRun py (answers ++ more) state before r :=
  ⟨h.node, h.reached, h.fresh, h.wrote, h.approved.imp fun _ _ => ApprovedRun.mono⟩

theorem Placed.mono {c : Checkpoint} (h : Placed py answers trace c) :
    Placed py (answers ++ more) (trace ++ later) c := by
  obtain ⟨state, next⟩ := c
  cases next with
  | none => trivial
  | some node =>
    cases node with
    | verifyRemediation => exact ⟨h.1, (h.2.imp fun _ _ => ExecutedRun.mono).append later⟩
    | executeApprovedRemediation =>
      exact ⟨h.1, h.2.1, (h.2.2.imp fun _ _ => ApprovedRun.mono).append later⟩
    | approvalInterrupt => exact ⟨h.1, h.2.1, h.2.2.append later⟩
    | _ => exact h

theorem Sanctioned.mono {e : NodeEvent} {call : ToolCall} (h : Sanctioned py answers trace e call) :
    Sanctioned py (answers ++ more) (trace ++ later) e call := by
  cases h with
  | executing node actions stored minted executes approved =>
    exact .executing node actions stored minted executes
      ((approved.imp fun _ _ => ApprovedRun.mono).append later)
  | verifying node actions stored minted ends executed =>
    exact .verifying node actions stored minted ends
      ((executed.imp fun _ _ h => ⟨h.1.mono, h.2⟩).append later)

end Monotone

/-! ## One node -/

section Node

variable {py : Python} {answers : List JsonDict} {trace : List NodeRun} {m : NodeMoment}
  {state : ThreadState} {answer : Option JsonDict}

/-- What a node logs is harmless or sanctioned. -/
def Clears (py : Python) (answers : List JsonDict) (trace : List NodeRun) (node : GraphNode)
    (env : Environ) (state : ThreadState) : GraphEvent → Prop :=
  OfCall fun call => ∀ event, Sanctioned py answers trace ⟨node, env, state, event⟩ call

theorem clears_of_harmless {node : GraphNode} {env : Environ} {e : GraphEvent} (h : Harmless e) :
    Clears py answers trace node env state e := by
  cases e with
  | call call time reply => exact fun hprivileged => absurd hprivileged h
  | announce executed approvalState => trivial

theorem logs_map {P : GraphEvent → Prop} {α β : Type} {f : α → β} {x : GraphM α} (h : Logs P x) :
    Logs P (f <$> x) := by
  intro e he
  rw [log_map] at he
  exact h e he

/-- An early node: it makes no privileged call, and what was executed stays. -/
structure Early (x : GraphM ThreadState) (state : ThreadState) : Prop where
  logs : Logs Harmless x
  keeps : Yields (fun after => after.executedActions = state.executedActions) x

theorem early_correlate : Early (NodeRunner.correlateAndDedupe m state) state :=
  ⟨(Logs.orRaise _).bind fun _ => Logs.pure _, Yields.bind fun _ _ => Yields.pure rfl⟩

theorem early_recall : Early (NodeRunner.recallHistory m state) state :=
  ⟨(Logs.orRaise _).bind fun _ => Logs.pure _, Yields.bind fun _ _ => Yields.pure rfl⟩

theorem early_route : Early (NodeRunner.supervisorRoute py state) state :=
  ⟨Logs.pure _, Yields.pure rfl⟩

theorem early_specialist (specialist : FindingSpecialist) :
    Early (NodeRunner.runSpecialist py m specialist state) state :=
  ⟨runSpecialist_harmless py m specialist state,
    Yields.bind fun _ _ => Yields.bind fun _ _ => Yields.bind fun _ _ => Yields.pure rfl⟩

theorem early_validation : Early (NodeRunner.evidenceValidation state) state :=
  ⟨(Logs.orRaise _).bind fun _ => (Logs.orRaise _).bind fun _ => Logs.pure _,
    Yields.bind fun _ _ => Yields.bind fun _ _ => Yields.pure rfl⟩

theorem early_drift : Early (NodeRunner.goldenStateDriftCheck m state) state :=
  ⟨Logs.pure _, Yields.pure rfl⟩

theorem early_proposal : Early (NodeRunner.proposalBuild py m state) state :=
  ⟨(Logs.orRaise _).bind fun _ => (Logs.orRaise _).bind fun _ => Logs.pure _,
    Yields.bind fun _ _ => Yields.bind fun _ _ => Yields.pure rfl⟩

theorem early_prepare : Early (NodeRunner.prepareApproval m state) state :=
  ⟨(Logs.orRaise _).bind fun _ => (Logs.orRaise _).bind fun _ => Logs.pure _,
    Yields.bind fun _ _ => Yields.bind fun _ _ => Yields.pure rfl⟩

/-- One proposal is built, with the actions of its texts. -/
theorem proposalBuild_proposals {actionsOf : List String → Except PyExc (List JsonDict)}
    {d built : DiagnosisState} (h : proposalBuild actionsOf d = .ok built) :
    ∃ texts proposal, actionsOf texts = .ok proposal.structuredActions ∧
      built.proposals = [proposal] := by
  unfold proposalBuild at h
  split at h
  · cases h
  · split at h
    · cases h
    · split at h
      · cases h
      · rename_i actions hactions
        cases h
        exact ⟨_, _, hactions, rfl⟩

/-- The proposal that is built has only actions about the alert. -/
theorem proposalBuild_minted : Yields MintedState (NodeRunner.proposalBuild py m state) := by
  unfold NodeRunner.proposalBuild
  refine Yields.bind fun d _ => Yields.bind fun built hbuilt => Yields.pure ?_
  rw [result_orRaise] at hbuilt
  obtain ⟨texts, proposal, hactions, hproposals⟩ := proposalBuild_proposals hbuilt
  refine ⟨proposal.structuredActions, ?_, structuredActions_minted hactions⟩
  refine storedStructuredActions_dump m.proposalId proposal _ ?_
  show built.proposals.map _ = _
  rw [hproposals]
  rfl

/-- The summary has the proposals of the state. -/
theorem prepareApproval_yields : Yields (fun after =>
      after.toWorkflowState.proposals = state.proposals ∧
      after.normalizedAlert = state.normalizedAlert ∧
      after.finalSummary.get "proposals" = .list after.proposals)
    (NodeRunner.prepareApproval m state) := by
  unfold NodeRunner.prepareApproval
  exact Yields.bind fun _ _ => Yields.bind fun _ _ => Yields.pure ⟨rfl, rfl, rfl⟩

/-- The same actions, read off the same texts. -/
theorem MintedState.congr {after : ThreadState} (h : MintedState state)
    (hproposals : after.proposals = state.proposals)
    (halert : after.normalizedAlert = state.normalizedAlert) : MintedState after := by
  obtain ⟨actions, hstored, hminted⟩ := h
  refine ⟨actions, ?_, ?_⟩
  · unfold storedStructuredActions at hstored ⊢
    rwa [hproposals]
  · rwa [halert]

/-- What a node does where it is placed. -/
structure NodeKeeps (py : Python) (answers : List JsonDict) (trace : List NodeRun) (m : NodeMoment)
    (answer : Option JsonDict) (state : ThreadState) (node : GraphNode) : Prop where
  logs : Logs (Clears py answers trace node m.env state)
    (NodeRunner.run py m answer state node)
  keeps : Yields (fun reached => ∀ after ∈ reached, Placed py answers
    (trace ++ [⟨node, m.env, state, after⟩]) ⟨after, nextNode after node⟩)
    (NodeRunner.run py m answer state node)

/-- An early node goes on to another early node. -/
theorem nodeKeeps_early {node : GraphNode} {x : GraphM ThreadState} (hx : Early x state)
    (hrun : NodeRunner.run py m answer state node = some <$> x)
    (hplaced : ∀ after, x.result = .ok after → after.executedActions = state.executedActions →
      Placed py answers (trace ++ [⟨node, m.env, state, after⟩]) ⟨after, nextNode after node⟩) :
    NodeKeeps py answers trace m answer state node := by
  constructor
  · rw [hrun]
    exact logs_map fun e he => clears_of_harmless (hx.logs e he)
  · rw [hrun]
    refine Yields.map fun after hafter => ?_
    rintro reached ⟨⟩
    exact hplaced after hafter (hx.keeps after hafter)

/-- What was executed is of the stored actions, and was executed while that was on. -/
theorem ExecutedRun.items {before : List NodeRun} {r : NodeRun}
    (h : ExecutedRun py answers state before r) {actions : List JsonDict}
    (hstored : storedStructuredActions state.toWorkflowState = .ok actions) :
    (∀ item ∈ state.executedActions, ∃ action ∈ actions, item.get "action" = .dict action) ∧
      (state.executedActions ≠ [] → flag r.env "NOC_ENABLE_APPROVED_EXECUTION" = true) := by
  obtain ⟨found, hfound, hwrote⟩ := h.wrote
  have hsame : found = actions := by
    have hbefore : storedStructuredActions r.before.toWorkflowState = .ok actions := by
      unfold storedStructuredActions at hstored ⊢
      rwa [← hwrote.proposals]
    exact Except.ok.inj (hfound.symm.trans hbefore)
  rcases hwrote.items with hnone | ⟨henabled, -, items, hitems, hactions⟩
  · have hempty : state.executedActions = [] := hnone.trans h.fresh
    rw [hempty]
    refine ⟨?_, fun hne => absurd rfl hne⟩
    intro item hitem
    cases hitem
  · refine ⟨fun item hitem => ?_, fun _ => henabled⟩
    rw [show state.executedActions = items by rw [hitems, h.fresh, List.nil_append]] at hitem
    rw [← hsame]
    exact hactions item hitem

/-- **Each node finds what the nodes before it left, and leaves what the next ones need.** -/
theorem nodeKeeps (node : GraphNode) (hplaced : Placed py answers trace ⟨state, some node⟩)
    (hanswer : ∀ d ∈ answer, d ∈ answers) :
    NodeKeeps py answers trace m answer state node := by
  cases node with
  | correlateAndDedupe =>
    refine nodeKeeps_early early_correlate rfl fun after _ hsame => ?_
    show after.executedActions = []
    exact hsame.trans hplaced
  | recallHistory =>
    refine nodeKeeps_early early_recall rfl fun after _ hsame => ?_
    show after.executedActions = []
    exact hsame.trans hplaced
  | supervisorRoute =>
    refine nodeKeeps_early early_route rfl fun after _ hsame => ?_
    show Placed py answers _ ⟨after, some (routeSpecialist after)⟩
    unfold routeSpecialist
    split <;> exact hsame.trans hplaced
  | bgpSpecialist =>
    refine nodeKeeps_early (early_specialist .bgp) rfl fun after _ hsame => ?_
    show after.executedActions = []
    exact hsame.trans hplaced
  | firewallSpecialist =>
    refine nodeKeeps_early (early_specialist .securityFirewall) rfl fun after _ hsame => ?_
    show after.executedActions = []
    exact hsame.trans hplaced
  | infrastructureSpecialist =>
    refine nodeKeeps_early (early_specialist .infrastructure) rfl fun after _ hsame => ?_
    show after.executedActions = []
    exact hsame.trans hplaced
  | evidenceValidation =>
    refine nodeKeeps_early early_validation rfl fun after _ hsame => ?_
    show after.executedActions = []
    exact hsame.trans hplaced
  | goldenStateDriftCheck =>
    refine nodeKeeps_early early_drift rfl fun after _ hsame => ?_
    show after.executedActions = []
    exact hsame.trans hplaced
  | proposalBuild =>
    refine nodeKeeps_early early_proposal rfl fun after hafter hsame => ?_
    exact ⟨proposalBuild_minted after hafter, hsame.trans hplaced⟩
  | prepareApproval =>
    obtain ⟨hminted, hfresh⟩ := hplaced
    refine nodeKeeps_early early_prepare rfl fun after hafter hsame => ?_
    obtain ⟨hproposals, halert, hshown⟩ := prepareApproval_yields after hafter
    exact ⟨hminted.congr hproposals halert, hsame.trans hfresh, past_of_last ⟨rfl, rfl, hshown⟩⟩
  | approvalInterrupt =>
    obtain ⟨hminted, hfresh, hshown⟩ := hplaced
    constructor
    · show Logs _ (NodeRunner.approvalInterrupt py m answer state)
      unfold NodeRunner.approvalInterrupt
      refine Logs.bind (fun e he => ?_) fun _ => Logs.pure _
      exact clears_of_harmless (approvalInterrupt_harmless _ _ e he)
    · show Yields _ (NodeRunner.approvalInterrupt py m answer state)
      unfold NodeRunner.approvalInterrupt
      refine Yields.bind fun given hgiven => Yields.pure ?_
      rintro after hafter
      obtain ⟨work, hwork, rfl⟩ := Option.map_eq_some_iff.1 hafter
      have happroved := approvalInterrupt_yields hanswer given hgiven work hwork
      show Placed py answers _ ⟨_, if routesToExecution work then some .executeApprovedRemediation
        else none⟩
      by_cases hroutes : routesToExecution work = true
      · rw [if_pos hroutes]
        refine ⟨hminted.congr happroved.proposals rfl, happroved.executed.trans hfresh,
          past_of_last ⟨rfl, rfl, happroved.proposals, happroved.decided hroutes, hshown⟩⟩
      · rw [if_neg hroutes]
        trivial
  | executeApprovedRemediation =>
    obtain ⟨⟨actions, hstored, hminted⟩, hfresh, happroved⟩ := hplaced
    constructor
    · refine logs_map (Logs.bind (fun e he => ?_) fun _ => Logs.pure _)
      have hcalls := executeApprovedRemediation_calls hstored hminted e he
      cases e with
      | call call time reply =>
        exact fun hprivileged event =>
          .executing rfl actions hstored hminted (hcalls hprivileged) happroved
      | announce executed approvalState => trivial
    · refine Yields.map (Yields.bind fun work hwork => Yields.pure ?_)
      rintro after ⟨⟩
      have hwrote := executeApprovedRemediation_yields hstored work hwork
      refine ⟨MintedState.congr ⟨actions, hstored, hminted⟩ hwrote.proposals rfl, ?_⟩
      exact past_of_last ⟨rfl, rfl, hfresh, ⟨actions, hstored, hwrote⟩, happroved⟩
  | verifyRemediation =>
    obtain ⟨⟨actions, hstored, hminted⟩, hexecuted⟩ := hplaced
    constructor
    · refine logs_map (Logs.bind (fun e he => ?_) fun _ => Logs.pure _)
      obtain ⟨before, r, later, htrace, hrun⟩ := hexecuted
      have hcalls := verifyRemediation_calls (hrun.items hstored).1 e he
      cases e with
      | call call time reply =>
        intro hprivileged event
        have hends := hcalls hprivileged
        have hne : state.executedActions ≠ [] := by
          obtain ⟨item, hitem, -⟩ := hends.prepared
          exact List.ne_nil_of_mem hitem
        exact .verifying rfl actions hstored hminted hends
          ⟨before, r, later, htrace, hrun, (hrun.items hstored).2 hne⟩
      | announce executed approvalState => trivial
    · refine Yields.map (Yields.bind fun work hwork => Yields.pure ?_)
      rintro after ⟨⟩
      trivial

end Node

/-! ## Runs -/

section Runs

variable {py : Python} {sys t : ThreadSystem}

/-- Every thread state is placed, and every privileged call was sanctioned. -/
structure ThreadsKept (py : Python) (sys : ThreadSystem) : Prop where
  saved : ∀ c ∈ sys.saved, Placed py sys.answers sys.trace c
  placed : ∀ i, ∀ v ∈ sys.invocations i, Placed py sys.answers sys.trace v.place
  answers : ∀ i, ∀ v ∈ sys.invocations i, ∀ d ∈ v.answer, d ∈ sys.answers
  log : ∀ e ∈ sys.log, OfCall (Sanctioned py sys.answers sys.trace e) e.event

theorem threadsKept_empty : ThreadsKept py .empty := by
  refine ⟨?_, ?_, ?_, ?_⟩
  · intro c hc; cases hc
  · intro i v hv; cases hv
  · intro i v hv; cases hv
  · intro e he; cases he

/-- One invocation moves on, and nothing else. -/
theorem ThreadsKept.invoke (h : ThreadsKept py sys) (i : Nat) (next : Option Invocation)
    (hplaced : ∀ v ∈ next, Placed py sys.answers sys.trace v.place)
    (hanswers : ∀ v ∈ next, ∀ d ∈ v.answer, d ∈ sys.answers) :
    ThreadsKept py (sys.invoke i next) := by
  refine ⟨h.saved, fun j v hv => ?_, fun j v hv => ?_, h.log⟩
  · have hv' : v ∈ Function.update sys.invocations i next j := hv
    by_cases hj : j = i
    · subst hj
      rw [Function.update_self] at hv'
      exact hplaced v hv'
    · rw [Function.update_of_ne hj] at hv'
      exact h.placed j v hv'
  · have hv' : v ∈ Function.update sys.invocations i next j := hv
    by_cases hj : j = i
    · subst hj
      rw [Function.update_self] at hv'
      exact hanswers v hv'
    · rw [Function.update_of_ne hj] at hv'
      exact h.answers j v hv'

theorem ThreadsKept.ended (h : ThreadsKept py sys) (i : Nat) :
    ThreadsKept py (sys.invoke i none) := by
  refine h.invoke i none ?_ ?_
  · intro v hv; cases hv
  · intro v hv; cases hv

/-- What was done and said so far does not stop being so. -/
theorem ThreadsKept.extend (h : ThreadsKept py sys) (more : List JsonDict) (later : List NodeRun) :
    ThreadsKept py { sys with
      answers := sys.answers ++ more
      trace := sys.trace ++ later } := by
  refine ⟨fun c hc => (h.saved c hc).mono, fun i v hv => (h.placed i v hv).mono,
    fun i v hv d hd => List.mem_append_left _ (h.answers i v hv d hd), fun e he => ?_⟩
  have hlog := h.log e he
  cases hevent : e.event with
  | call call time reply =>
    rw [hevent] at hlog
    exact fun hprivileged => (hlog hprivileged).mono
  | announce executed approvalState => trivial

/-- A node adds to the log what it clears. -/
theorem ThreadsKept.logged (h : ThreadsKept py sys) (node : GraphNode) (env : Environ)
    (state : ThreadState) {events : List GraphEvent}
    (hevents : ∀ e ∈ events, Clears py sys.answers sys.trace node env state e) :
    ThreadsKept py { sys with log := sys.log ++ events.map (NodeEvent.mk node env state) } := by
  refine ⟨h.saved, h.placed, h.answers, fun e he => ?_⟩
  rcases List.mem_append.1 he with he | he
  · exact h.log e he
  · obtain ⟨event, hevent, rfl⟩ := List.mem_map.1 he
    have hclears := hevents event hevent
    cases event with
    | call call time reply => exact fun hprivileged => hclears hprivileged _
    | announce executed approvalState => trivial

theorem ThreadsKept.ran (h : ThreadsKept py sys) {i : Nat} {v : Invocation} {node : GraphNode}
    (hv : v ∈ sys.invocations i) (hnext : v.place.next = some node) (m : NodeMoment) (kept : Bool) :
    ThreadsKept py (sys.ran py i v node m kept) := by
  have hplaced : Placed py sys.answers sys.trace ⟨v.place.state, some node⟩ := by
    have hfound := h.placed i v hv
    rwa [show v.place = ⟨v.place.state, some node⟩ by rw [← hnext]] at hfound
  have hnode := nodeKeeps (m := m) node hplaced (h.answers i v hv)
  have hlogged := h.logged node m.env v.place.state hnode.logs
  unfold ThreadSystem.ran
  cases hresult : (NodeRunner.run py m v.answer v.place.state node).result with
  | error e =>
    simp only [hresult]
    exact hlogged.ended i
  | ok reached =>
    cases reached with
    | none =>
      simp only [hresult]
      exact hlogged.ended i
    | some after =>
      simp only [hresult]
      have hreached := hnode.keeps (some after) hresult after rfl
      have hextended := hlogged.extend [] [⟨node, m.env, v.place.state, after⟩]
      rw [List.append_nil] at hextended
      have hinvoked := hextended.invoke i (some ⟨⟨after, nextNode after node⟩, none⟩)
        (fun w hw => by cases hw; exact hreached) (fun w hw d hd => by cases hw; cases hd)
      refine ⟨?_, hinvoked.placed, hinvoked.answers, hinvoked.log⟩
      cases kept with
      | true =>
        rintro c ⟨⟩
        exact hreached
      | false => exact hinvoked.saved

theorem ThreadsKept.step (h : ThreadsKept py sys) {l : ThreadLabel}
    (hstep : threadStep py sys l t) : ThreadsKept py t := by
  rw [show t = sys.after py l from hstep]
  cases l with
  | start i input =>
    refine h.invoke i _ (fun v hv => ?_) (fun v hv d hd => ?_)
    · cases hv
      show (startState py input _).executedActions = []
      rfl
    · cases hv
      cases hd
  | resume i decision =>
    have hextended := h.extend [decision] []
    rw [List.append_nil] at hextended
    refine hextended.invoke i _ (fun v hv => ?_) (fun v hv d hd => ?_)
    · obtain ⟨checkpoint, hsaved, rfl⟩ := Option.map_eq_some_iff.1 hv
      exact hextended.saved checkpoint hsaved
    · obtain ⟨checkpoint, -, rfl⟩ := Option.map_eq_some_iff.1 hv
      cases hd
      exact List.mem_append_right _ (List.mem_singleton_self decision)
  | node i m kept =>
    simp only [ThreadSystem.after]
    split
    · exact h
    · rename_i invocation hinvocation
      split
      · exact h.ended i
      · rename_i node hnext
        exact h.ran hinvocation hnext m kept
  | drop i => exact h.ended i

/-- **In every run, whatever is asked for, answered, cancelled or resumed at any time, what is
called beyond the read-only tools is for an action that was read off the alert's own proposal, shown
to the operator and approved after that, and execution was switched on.** -/
theorem threadsSafe_run {ls : List ThreadLabel} (h : Run (threadStep py) .empty ls t) :
    ∀ e ∈ t.log, OfCall (Sanctioned py t.answers t.trace e) e.event :=
  (h.invariant (fun _ _ _ hs hstep => ThreadsKept.step hs hstep) threadsKept_empty).log

end Runs

/-! ## An acknowledgement -/

def GraphEvent.called : GraphEvent → Option String
  | .call request _ _ => some request.tool
  | .announce _ _ => none

/-- What the agent reports of a full disk. -/
def diskReport : DiagnosticSynthesis where
  incidentSummary := "web1 has a full disk"
  recommendedNextChecks := ["acknowledge the alert"]

def diskMoment : NodeMoment where
  env := grantEnviron
  utcNow := "2026-01-01T00:00:00+00:00"
  correlated := .ok ⟨false, [], false⟩
  history := .ok []
  report := .ok { synthesis := diskReport }
  uuid _ := "1"
  proposalId := "prop_1"
  asks _ := diskWarning
  acts _ := diskWarning
  checks _ := ⟨1000000, diskWarning.reply, diskWarning.reply, fun _ => diskWarning.reply⟩

def diskAlert : InvestigationInput where
  incidentId := "case-1"
  threadId := "incident-1"
  alert := [("commonLabels", .dict [("host", .str "web1"), ("service", .str "disk")])]

/-- The first invocation asks; another is answered. -/
def diskApproval : List ThreadLabel :=
  .start 0 diskAlert :: List.replicate 9 (.node 0 diskMoment true) ++
    .resume 1 [("decision", .str "approved"), ("operator", .str "ada")] ::
      List.replicate 3 (.node 1 diskMoment true)

def diskThreads : ThreadSystem := diskApproval.foldl (ThreadSystem.after asciiPython) .empty


theorem run_threads (py : Python) : ∀ (ls : List ThreadLabel) (sys : ThreadSystem),
    Run (threadStep py) sys ls (ls.foldl (ThreadSystem.after py) sys)
  | [], sys => .nil sys
  | l :: ls, sys => Run.cons rfl (run_threads py ls (sys.after py l))

/-- The acknowledgement is the one call that is made. -/
theorem threadsSafe_diskAck :
    (∀ e ∈ diskThreads.log,
      OfCall (Sanctioned asciiPython diskThreads.answers diskThreads.trace e) e.event) ∧
    (diskThreads.log.filterMap fun e => e.event.called) = ["icinga_acknowledge_alert"] := by
  refine ⟨threadsSafe_run (run_threads asciiPython diskApproval .empty), ?_⟩
  decide +kernel

end NocAgent
