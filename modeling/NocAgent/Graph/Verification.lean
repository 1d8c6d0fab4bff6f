import NocAgent.Graph.Execution

/-!
# What `verified` says about the executed actions

* `executionVerdict`, `checkVerdict` — whether one action succeeds and whether it then passes its
  check, read off the tools' answers alone.
* `executeAction_verdict`, `verifyItem_verdict` — the nodes follow these verdicts.
* `verifiedMeansAll_iff` — `verified` means that everything succeeded, except after a partial
  success whose successful part passes every check.
-/

set_option autoImplicit false

namespace NocAgent

open Effects Traced

variable {py : Python} {env : Environ}

/-! ## Verdicts -/

/-- An acknowledgement under a standing grant. -/
def grantedAckVerdict (py : Python) (env : Environ) (m : ActMoment) (host service : Json) :
    Except PyExc Bool :=
  if textOf py host = "" then .ok false
  else
    match uniqueWarning py m.problems (textOf py host) service with
    | .error e => .error e
    | .ok false => .ok false
    | .ok true => (grantAckTtl py env).map fun _ => replyOk m.reply.value

/-- Whether one action succeeds as a privileged call. -/
def realVerdict (py : Python) (env : Environ) (m : ActMoment) (decision action : JsonDict) :
    Except PyExc Bool :=
  let actionClass := action.get "type"
  let grant := textOf py (decision.get "operator") == "standing-grant"
  if grant && !actionClass.hashable then .error .typeError
  else if grant && !grantSupported actionClass then .ok false
  else
    match pyDict ((action.get "inputs").or (.dict [])), actionAuthTtl py env with
    | .error e, _ => .error e
    | .ok _, .error e => .error e
    | .ok inputs, .ok _ =>
      if actionClass.isStr "restart_service" then .ok (replyOk m.reply.value)
      else if actionClass.isStr "acknowledge_icinga" then
        if grant then
          grantedAckVerdict py env m ((inputs.get "host").or (inputs.get "host_name"))
            ((inputs.get "service").or (inputs.get "service_name"))
        else .ok (replyOk m.reply.value)
      else .ok false

/-- Whether one action succeeds as a no-op guard. -/
def noopVerdict (py : Python) (env : Environ) (m : ActMoment) (action : JsonDict) :
    Except PyExc Bool :=
  match actionAuthTtl py env, pyDict ((action.get "inputs").or (.dict [])) with
  | .error e, _ => .error e
  | .ok _, .error e => .error e
  | .ok _, .ok _ => .ok (guardId m.reply.value).notNone

def executionVerdict (py : Python) (env : Environ) (m : ActMoment) (decision action : JsonDict) :
    Except PyExc Bool :=
  if flag env "NOC_ENABLE_NOOP_ROLLBACK_GUARDS" then noopVerdict py env m action
  else realVerdict py env m decision action

/-- The answer of the first probe that finds the host up, or that raises. -/
def probesVerdict (py : Python) (c : CheckMoment) : List Nat → Except PyExc Bool
  | [] => .ok false
  | attempt :: rest =>
    match prometheusUp py (c.probe attempt).value with
    | .error e => .error e
    | .ok true => .ok true
    | .ok false => probesVerdict py c rest

/-- Whether an action that succeeded passes its check. -/
def checkVerdict (py : Python) (env : Environ) (m : ActMoment) (c : CheckMoment)
    (action : JsonDict) : Except PyExc Bool :=
  if flag env "NOC_ENABLE_NOOP_ROLLBACK_GUARDS" then
    if (guardId m.reply.value).truthy then
      (actionAuthTtl py env).map fun _ => guardConfirmed c.confirm.value
    else .ok false
  else if (action.get "type").isStr "acknowledge_icinga" then .ok true
  else
    match prometheusInstanceFor (targetHost py action) with
    | none => .ok false
    | some _ => probesVerdict py c PROBE_ATTEMPTS

/-! ## Execution follows its verdict -/

section Action

variable {m : ActMoment} {c : CheckMoment} {state : WorkflowState} {action decision : JsonDict}

theorem result_callRealTool (call : ToolCall) :
    (callRealTool m action decision call).result = .ok
      [("action", .dict action), ("execution_mode", .str "real_action"),
        ("approved_by", decision.getD "operator" (.str "")),
        ("approval_comment", decision.getD "comment" (.str "")),
        ("approved_at", (decision.get "decided_at").or (.str m.utcNow)),
        ("result", m.reply.value), ("ok", .bool (replyOk m.reply.value))] := rfl

/-- What an executed item records about its action. -/
structure ItemFor (noop : Bool) (m : ActMoment) (action item : JsonDict) : Prop where
  action : item.get "action" = .dict action
  mode : item.get "execution_mode" = .str (if noop then "noop_guard" else "real_action")
  guard : noop = true → item.get "guard_id" = guardId m.reply.value

/-- How one executed action ends: with the exception or the item the verdict announces. -/
def Follows (noop : Bool) (m : ActMoment) (action : JsonDict) (verdict : Except PyExc Bool)
    (r : Except PyExc JsonDict) : Prop :=
  match verdict with
  | .error e => r = .error e
  | .ok b => ∃ item, r = .ok item ∧ itemOk item = b ∧ (b = true → ItemFor noop m action item)

theorem follows_blocked (noop : Bool) (reason : String) :
    Follows noop m action (.ok false) (.ok (policyBlocked action reason)) :=
  ⟨_, rfl, rfl, fun h => by cases h⟩

theorem follows_called (call : ToolCall) :
    Follows false m action (.ok (replyOk m.reply.value))
      (callRealTool m action decision call).result :=
  ⟨_, result_callRealTool call, rfl, fun _ => ⟨rfl, rfl, fun h => by cases h⟩⟩

theorem acknowledgeUnderGrant_verdict (ack : JsonDict) :
    Follows false m action
      (grantedAckVerdict py env m (ack.get "host_name") (ack.get "service_name"))
      (acknowledgeUnderGrant py env m action decision ack).result := by
  unfold grantedAckVerdict acknowledgeUnderGrant icingaIsUniqueWarning
  by_cases h0 : textOf py (ack.get "host_name") = ""
  · rw [if_pos h0, if_pos h0]
    exact follows_blocked false _
  rw [if_neg h0, if_neg h0, bind_assoc, result_tell_bind]
  cases uniqueWarning py m.problems (textOf py (ack.get "host_name")) (ack.get "service_name") with
  | error e => rfl
  | ok b =>
    cases b with
    | false => exact follows_blocked false _
    | true =>
      cases ht : grantAckTtl py env with
      | error e => rfl
      | ok ttl => exact follows_called _

theorem executeRealAction_verdict :
    Follows false m action (realVerdict py env m decision action)
      (executeRealAction py env m state action decision).result := by
  unfold executeRealAction realVerdict
  by_cases h1 : (textOf py (decision.get "operator") == "standing-grant" &&
      !(action.get "type").hashable) = true
  · simp only [h1, if_true]
    rfl
  simp only [h1]
  by_cases h2 : (textOf py (decision.get "operator") == "standing-grant" &&
      !grantSupported (action.get "type")) = true
  · simp only [h2, if_true]
    exact follows_blocked false _
  simp only [h2]
  cases pyDict ((action.get "inputs").or (.dict [])) with
  | error e => rfl
  | ok inputs =>
    have hauth := actionAuthorization_dict py env m.authTime state action ""
    cases ht : actionAuthTtl py env with
    | error e =>
      rw [ht] at hauth
      simp only [orRaise_bind_ok, hauth]
      rfl
    | ok ttl =>
      rw [ht] at hauth
      obtain ⟨auth, ha⟩ := hauth
      simp only [orRaise_bind_ok, ha]
      by_cases h3 : (action.get "type").isStr "restart_service" = true
      · simp only [h3, if_true]
        exact follows_called _
      simp only [h3]
      by_cases h4 : (action.get "type").isStr "acknowledge_icinga" = true
      · simp only [h4, if_true]
        by_cases h5 : (textOf py (decision.get "operator") == "standing-grant") = true
        · simp only [h5, if_true]
          rw [← ackArguments_host inputs (.dict auth) decision,
            ← ackArguments_service inputs (.dict auth) decision]
          exact acknowledgeUnderGrant_verdict _
        · simp only [h5]
          exact follows_called _
      · simp only [h4]
        exact follows_blocked false _

theorem prepareNoopGuard_verdict :
    Follows true m action (noopVerdict py env m action)
      (prepareNoopGuard py env m state action decision).result := by
  unfold prepareNoopGuard noopVerdict
  have hauth := actionAuthorization_dict py env m.authTime state action "noop_rollback_guard"
  cases ht : actionAuthTtl py env with
  | error e =>
    rw [ht] at hauth
    simp only [hauth]
    rfl
  | ok ttl =>
    rw [ht] at hauth
    obtain ⟨auth, ha⟩ := hauth
    simp only [orRaise_bind_ok, ha]
    cases pyDict ((action.get "inputs").or (.dict [])) with
    | error e => rfl
    | ok inputs => exact ⟨_, rfl, rfl, fun _ => ⟨rfl, rfl, fun _ => rfl⟩⟩

/-- **Execution follows its verdict.** -/
theorem executeAction_verdict (py : Python) (env : Environ) (m : ActMoment)
    (state : WorkflowState) (decision action : JsonDict) :
    Follows (flag env "NOC_ENABLE_NOOP_ROLLBACK_GUARDS") m action
      (executionVerdict py env m decision action)
      (executeAction py env state decision m action).result := by
  unfold executeAction executionVerdict
  cases flag env "NOC_ENABLE_NOOP_ROLLBACK_GUARDS" with
  | true => exact prepareNoopGuard_verdict
  | false => exact executeRealAction_verdict

/-! ## Verification follows its verdict -/

/-- How a check ends. -/
def Judged (verdict : Except PyExc Bool) (r : Except PyExc JsonDict) : Prop :=
  match verdict with
  | .error e => r = .error e
  | .ok b => ∃ result, r = .ok result ∧ itemOk result = b

theorem probeLoop_verdict (query : String) : ∀ attempts : List Nat,
    (probeLoop py c query attempts).result.map Prod.fst = probesVerdict py c attempts
  | [] => rfl
  | attempt :: rest => by
    unfold probeLoop probesVerdict
    rw [result_tell_bind]
    cases prometheusUp py (c.probe attempt).value with
    | error e => rfl
    | ok b =>
      cases b with
      | true => rfl
      | false =>
        rw [← probeLoop_verdict query rest]
        simp only [orRaise_bind_ok]
        cases h : (probeLoop py c query rest).result with
        | error e => simp [h, Except.map]
        | ok probes => simp [h, Except.map]

theorem finalizeNoopGuard_verdict {item : JsonDict} (h : ItemFor true m action item) :
    Judged (if (guardId m.reply.value).truthy then
        (actionAuthTtl py env).map fun _ => guardConfirmed c.confirm.value
      else .ok false)
      (finalizeNoopGuard py env c state item).result := by
  unfold finalizeNoopGuard
  rw [h.guard rfl, h.action, Json.dict_or_empty]
  by_cases hg : (guardId m.reply.value).truthy = true
  · have hauth := actionAuthorization_dict py env c.time state action "noop_rollback_guard"
    simp only [hg, Bool.not_true, if_true]
    cases ht : actionAuthTtl py env with
    | error e =>
      rw [ht] at hauth
      rw [hauth]
      rfl
    | ok ttl =>
      rw [ht] at hauth
      obtain ⟨auth, ha⟩ := hauth
      rw [ha]
      by_cases hc : guardConfirmed c.confirm.value = true
      · simp [hc, Judged, Except.map, itemOk]
      · simp [hc, Judged, Except.map, itemOk]
  · simp [hg, Judged, itemOk]

/-- **Verification follows its verdict.** -/
theorem verifyItem_verdict (py : Python) (c : CheckMoment) (state : WorkflowState)
    {item : JsonDict}
    (h : ItemFor (flag env "NOC_ENABLE_NOOP_ROLLBACK_GUARDS") m action item) :
    Judged (checkVerdict py env m c action) (verifyItem py env state c item).result := by
  unfold verifyItem checkVerdict
  rw [h.mode]
  cases hn : flag env "NOC_ENABLE_NOOP_ROLLBACK_GUARDS" with
  | true =>
    rw [hn] at h
    exact finalizeNoopGuard_verdict h
  | false =>
    have hmode : Json.isStr (.str "real_action") "noop_guard" = false := by decide
    rw [h.action, Json.dict_or_empty]
    simp only [requireDict, orRaise_bind_ok, hmode, Bool.false_eq_true, if_false]
    by_cases hack : (action.get "type").isStr "acknowledge_icinga" = true
    · rw [if_pos hack, if_pos hack]
      exact ⟨_, rfl, rfl⟩
    rw [if_neg hack, if_neg hack]
    cases prometheusInstanceFor (targetHost py action) with
    | none => exact ⟨_, rfl, rfl⟩
    | some inst =>
      simp only
      rw [← probeLoop_verdict (upQuery inst)]
      cases hr : (probeLoop py c (upQuery inst) PROBE_ATTEMPTS).result with
      | error e => rw [bind_error hr]; rfl
      | ok probes => rw [bind_ok hr]; exact ⟨_, rfl, rfl⟩

end Action

/-! ## Execution followed by verification -/

/-- The two nodes in the order of the graph. -/
def remediate (py : Python) (env : Environ) (acts : Nat → ActMoment) (checks : Nat → CheckMoment)
    (state : WorkflowState) : GraphM WorkflowState :=
  executeApprovedRemediation py env acts state >>= verifyRemediation py env checks

section Run

variable {acts : Nat → ActMoment} {checks : Nat → CheckMoment} {state final : WorkflowState}

/-- The executed items that verification looks at, with their positions. -/
def succeededItems (items : List JsonDict) : List (JsonDict × Nat) :=
  items.zipIdx.filter fun item => itemOk item.1

/-- What an approved run that returns has done. -/
structure Remediated (py : Python) (env : Environ) (acts : Nat → ActMoment)
    (checks : Nat → CheckMoment) (state : WorkflowState) (actions items results : List JsonDict)
    (final : WorkflowState) : Prop where
  executed : List.Forall₂ (fun a item =>
    (executeAction py env state state.decision (acts a.2) a.1).result = .ok item)
    actions.zipIdx items
  checked : List.Forall₂ (fun item result =>
    ∃ s : WorkflowState, (verifyItem py env s (checks item.2) item.1).result = .ok result)
    (succeededItems items) results
  executedActions : final.executedActions = items
  verificationResults : final.verificationResults = state.verificationResults ++ results
  approvalState : final.approvalState = some (verifiedState
    (some (.str (executedState (flag env "NOC_ENABLE_NOOP_ROLLBACK_GUARDS") items)))
    ((succeededItems items).map Prod.fst) results)

theorem remediate_inv (hd : state.decision.get "decision" = .str "approved")
    (hf : flag env "NOC_ENABLE_APPROVED_EXECUTION" = true) (hempty : state.executedActions = [])
    (hr : (remediate py env acts checks state).result = .ok final) :
    ∃ actions items results, storedStructuredActions state = .ok actions ∧
      Remediated py env acts checks state actions items results final := by
  unfold remediate at hr
  rw [executeApprovedRemediation_approved hd hf] at hr
  obtain ⟨mid, hmid, hr⟩ := result_bind_eq_ok.1 hr
  obtain ⟨actions, hactions, hmid⟩ := result_bind_eq_ok.1 hmid
  obtain ⟨items, hitems, hmid⟩ := result_bind_eq_ok.1 hmid
  rw [result_recordResults, hempty, List.nil_append] at hmid
  cases hmid
  obtain ⟨results, hresults, hr⟩ := result_bind_eq_ok.1 hr
  cases hr
  refine ⟨actions, items, results, hactions, (mapT_result _).1 hitems, ?_, rfl, rfl, rfl⟩
  exact ((mapT_result _).1 hresults).imp fun _ _ h => ⟨_, h⟩

theorem verifiedState_eq_verified {noop : Bool} {items results : List JsonDict}
    {executed : List JsonDict} :
    verifiedState (some (.str (executedState noop items))) executed results = .str "verified" ↔
      executed ≠ [] ∧ ∀ r ∈ results, itemOk r = true := by
  unfold verifiedState executedState
  cases executed with
  | nil => cases noop <;> simp <;> split <;> (try split) <;> simp
  | cons x xs => simp

theorem mem_succeededItems {items : List JsonDict} {item : JsonDict} {i : Nat} :
    (item, i) ∈ succeededItems items ↔ items[i]? = some item ∧ itemOk item = true := by
  unfold succeededItems
  rw [List.mem_filter, List.mem_zipIdx_iff_getElem?]

/-- Every stored action has its item, and the item says what the verdict says. -/
theorem executed_verdict {actions items : List JsonDict}
    (h : List.Forall₂ (fun a item =>
      (executeAction py env state state.decision (acts a.2) a.1).result = .ok item)
      actions.zipIdx items)
    {action : JsonDict} {i : Nat} (ha : (action, i) ∈ actions.zipIdx) :
    ∃ item, items[i]? = some item ∧
      executionVerdict py env (acts i) state.decision action = .ok (itemOk item) ∧
      (itemOk item = true →
        ItemFor (flag env "NOC_ENABLE_NOOP_ROLLBACK_GUARDS") (acts i) action item) := by
  rw [List.mem_zipIdx_iff_getElem?] at ha
  obtain ⟨hlen, hexec⟩ := forall₂_zipIdx.1 h
  obtain ⟨hi, -⟩ := List.getElem?_eq_some_iff.1 ha
  have hitem : items[i]? = some items[i] := List.getElem?_eq_getElem (hlen ▸ hi)
  have hv := executeAction_verdict py env (acts i) state state.decision action
  rw [hexec i _ _ ha hitem] at hv
  refine ⟨_, hitem, ?_⟩
  cases he : executionVerdict py env (acts i) state.decision action with
  | error e => rw [he] at hv; cases hv
  | ok b =>
    rw [he] at hv
    obtain ⟨item, heq, hok, hfor⟩ := hv
    cases heq
    rw [hok]
    exact ⟨rfl, hfor⟩

/-- Behind every executed item that succeeded is an action whose verdict says so. -/
theorem succeeded_action {actions items : List JsonDict}
    (h : List.Forall₂ (fun a item =>
      (executeAction py env state state.decision (acts a.2) a.1).result = .ok item)
      actions.zipIdx items)
    {item : JsonDict} {i : Nat} (hmem : (item, i) ∈ succeededItems items) :
    ∃ action, (action, i) ∈ actions.zipIdx ∧
      executionVerdict py env (acts i) state.decision action = .ok true ∧
      ItemFor (flag env "NOC_ENABLE_NOOP_ROLLBACK_GUARDS") (acts i) action item := by
  obtain ⟨hi, hok⟩ := mem_succeededItems.1 hmem
  obtain ⟨hlen, -⟩ := forall₂_zipIdx.1 h
  obtain ⟨hlt, -⟩ := List.getElem?_eq_some_iff.1 hi
  have hlt' : i < actions.length := by omega
  have ha : (actions[i], i) ∈ actions.zipIdx :=
    List.mem_zipIdx_iff_getElem?.2 (List.getElem?_eq_getElem hlt')
  obtain ⟨item', hi', hE, hfor⟩ := executed_verdict h ha
  cases hi.symm.trans hi'
  rw [hok] at hE
  exact ⟨_, ha, hE, hfor hok⟩

section Remediated

variable {actions items results : List JsonDict}
  (h : Remediated py env acts checks state actions items results final)

include h

/-- A succeeded action's check ends as its verdict says. -/
theorem Remediated.check {action item : JsonDict} {i : Nat}
    (hfor : ItemFor (flag env "NOC_ENABLE_NOOP_ROLLBACK_GUARDS") (acts i) action item)
    (hi : items[i]? = some item) (hok : itemOk item = true) :
    ∃ result ∈ results, checkVerdict py env (acts i) (checks i) action = .ok (itemOk result) := by
  obtain ⟨result, hmem, s, hr⟩ :=
    forall₂_exists_right h.checked (mem_succeededItems.2 ⟨hi, hok⟩)
  have hv := verifyItem_verdict py (checks i) s hfor
  rw [hr] at hv
  refine ⟨result, hmem, ?_⟩
  cases hc : checkVerdict py env (acts i) (checks i) action with
  | error e => rw [hc] at hv; cases hv
  | ok b =>
    rw [hc] at hv
    obtain ⟨result', heq, hb⟩ := hv
    cases heq
    rw [hb]

/-- When every action succeeds and every result is ok, actions, items and results stand side by
side. -/
theorem Remediated.side_by_side
    (hall : ∀ a ∈ actions.zipIdx,
      executionVerdict py env (acts a.2) state.decision a.1 = .ok true)
    (hpass : ∀ r ∈ results, itemOk r = true) {action : JsonDict} {i : Nat}
    (ha : actions[i]? = some action) :
    (∃ item, final.executedActions[i]? = some item ∧ item.get "action" = .dict action ∧
      itemOk item = true) ∧
    ∃ result, (final.verificationResults.drop state.verificationResults.length)[i]? =
      some result ∧ itemOk result = true := by
  have hitem : ∀ (j : Nat) (a : JsonDict), actions[j]? = some a →
      ∃ item, items[j]? = some item ∧ item.get "action" = .dict a ∧ itemOk item = true := by
    intro j a haj
    have hmem : (a, j) ∈ actions.zipIdx := List.mem_zipIdx_iff_getElem?.2 haj
    obtain ⟨item, hi, hE, hfor⟩ := executed_verdict h.executed hmem
    have hok : itemOk item = true := by
      rw [hall _ hmem] at hE
      injection hE with hE
      exact hE.symm
    exact ⟨item, hi, (hfor hok).action, hok⟩
  have hlen := (forall₂_zipIdx.1 h.executed).1
  -- nothing is filtered out, so there is one result an item
  have hfilter : succeededItems items = items.zipIdx := by
    unfold succeededItems
    rw [List.filter_eq_self]
    rintro ⟨item, j⟩ hmem
    have hj : items[j]? = some item := List.mem_zipIdx_iff_getElem?.1 hmem
    obtain ⟨hlt, -⟩ := List.getElem?_eq_some_iff.1 hj
    have hlt' : j < actions.length := by omega
    obtain ⟨item', hj', -, hok⟩ := hitem j _ (List.getElem?_eq_getElem hlt')
    cases hj.symm.trans hj'
    exact hok
  have hchecked := h.checked
  rw [hfilter] at hchecked
  have hresults := (forall₂_zipIdx.1 hchecked).1
  obtain ⟨hlt, -⟩ := List.getElem?_eq_some_iff.1 ha
  have hlt' : i < results.length := by omega
  rw [h.executedActions, h.verificationResults, List.drop_left]
  exact ⟨hitem i action ha, _, List.getElem?_eq_getElem hlt', hpass _ (List.getElem_mem hlt')⟩

end Remediated

/-- A run in which no action raises and every success passes its check. -/
theorem remediate_intro (checks : Nat → CheckMoment) {actions : List JsonDict}
    (hd : state.decision.get "decision" = .str "approved")
    (hf : flag env "NOC_ENABLE_APPROVED_EXECUTION" = true) (hempty : state.executedActions = [])
    (hs : storedStructuredActions state = .ok actions)
    (hexec : ∀ a ∈ actions.zipIdx, ∃ b,
      executionVerdict py env (acts a.2) state.decision a.1 = .ok b)
    (hcheck : ∀ a ∈ actions.zipIdx,
      executionVerdict py env (acts a.2) state.decision a.1 = .ok true →
        checkVerdict py env (acts a.2) (checks a.2) a.1 = .ok true) :
    ∃ final items results, (remediate py env acts checks state).result = .ok final ∧
      Remediated py env acts checks state actions items results final ∧
      ∀ r ∈ results, itemOk r = true := by
  obtain ⟨items, hitems⟩ : (mapT (fun a =>
      executeAction py env state state.decision (acts a.2) a.1) actions.zipIdx).Returns := by
    rw [mapT_returns]
    intro a ha
    have hv := executeAction_verdict py env (acts a.2) state state.decision a.1
    obtain ⟨b, hb⟩ := hexec a ha
    rw [hb] at hv
    obtain ⟨item, hitem, -⟩ := hv
    exact ⟨item, hitem⟩
  have hX := (mapT_result _).1 hitems
  let mid : WorkflowState := { state with
    approvalState := some (.str (executedState (flag env "NOC_ENABLE_NOOP_ROLLBACK_GUARDS") items))
    executedActions := state.executedActions ++ items }
  have hmid : (executeApprovedRemediation py env acts state).result = .ok mid := by
    rw [executeApprovedRemediation_approved hd hf, hs, orRaise_bind_ok, bind_ok hitems]
    exact result_recordResults items
  obtain ⟨results, hresults, hall⟩ := (mapT_result_all
    (fun item : JsonDict × Nat => verifyItem py env mid (checks item.2) item.1)
    (fun r => itemOk r = true) (succeededItems items)).2 (by
      rintro ⟨item, i⟩ hmem
      obtain ⟨action, ha, hE, hfor⟩ := succeeded_action hX hmem
      have hv := verifyItem_verdict py (checks i) mid hfor
      rw [hcheck _ ha hE] at hv
      exact hv)
  have hfiltered : mid.executedActions.zipIdx.filter (fun item => itemOk item.1) =
      succeededItems items := by
    change ((state.executedActions ++ items).zipIdx.filter _) = _
    rw [hempty]
    rfl
  refine ⟨{ mid with
    approvalState := some (verifiedState mid.approvalState
      ((succeededItems items).map Prod.fst) results)
    verificationResults := mid.verificationResults ++ results }, items, results, ?_,
    ⟨hX, ?_, ?_, rfl, rfl⟩, hall⟩
  · unfold remediate verifyRemediation
    rw [bind_ok hmid]
    change (mapT _ (mid.executedActions.zipIdx.filter _) >>= _).result = _
    rw [hfiltered, bind_ok hresults]
    rfl
  · exact ((mapT_result _).1 hresults).imp fun _ _ hr => ⟨mid, hr⟩
  · change state.executedActions ++ items = items
    rw [hempty, List.nil_append]

end Run

/-! ## The meaning of `verified` -/

/-- If the run ends in `verified`, there were actions, and each one has an executed result and a
verification result that say ok. -/
def VerifiedMeansAll (py : Python) (env : Environ) (acts : Nat → ActMoment)
    (checks : Nat → CheckMoment) (state : WorkflowState) : Prop :=
  ∀ final, (remediate py env acts checks state).result = .ok final →
    final.approvalState = some (.str "verified") →
    ∃ actions, storedStructuredActions state = .ok actions ∧ actions ≠ [] ∧
      ∀ (i : Nat) (action : JsonDict), actions[i]? = some action →
        (∃ item, final.executedActions[i]? = some item ∧ item.get "action" = .dict action ∧
          itemOk item = true) ∧
        ∃ result, (final.verificationResults.drop state.verificationResults.length)[i]? =
          some result ∧ itemOk result = true

/-- No partial success slips through: some action raises, none succeeds, all succeed, or one that
succeeds does not pass its check. -/
def NoPartialSuccess (py : Python) (env : Environ) (acts : Nat → ActMoment)
    (checks : Nat → CheckMoment) (decision : JsonDict) (actions : List JsonDict) : Prop :=
  (∃ a ∈ actions.zipIdx, ∃ e, executionVerdict py env (acts a.2) decision a.1 = .error e) ∨
    (∀ a ∈ actions.zipIdx, executionVerdict py env (acts a.2) decision a.1 ≠ .ok true) ∨
    (∀ a ∈ actions.zipIdx, executionVerdict py env (acts a.2) decision a.1 = .ok true) ∨
    ∃ a ∈ actions.zipIdx, executionVerdict py env (acts a.2) decision a.1 = .ok true ∧
      checkVerdict py env (acts a.2) (checks a.2) a.1 ≠ .ok true

/-- **`verified` means that everything succeeded exactly when** execution is off, the stored
actions cannot be read, or no partial success slips through. -/
theorem verifiedMeansAll_iff {acts : Nat → ActMoment} {checks : Nat → CheckMoment}
    {state : WorkflowState} (hd : state.decision.get "decision" = .str "approved")
    (hempty : state.executedActions = []) :
    VerifiedMeansAll py env acts checks state ↔
      (flag env "NOC_ENABLE_APPROVED_EXECUTION" = true →
        ∀ actions, storedStructuredActions state = .ok actions →
          NoPartialSuccess py env acts checks state.decision actions) := by
  constructor
  · intro h hf actions hs
    by_contra hno
    unfold NoPartialSuccess at hno
    push Not at hno
    obtain ⟨hraise, ⟨a, ha, hEa⟩, ⟨b, hb, hEb⟩, hcheck⟩ := hno
    have hexec : ∀ a ∈ actions.zipIdx, ∃ v,
        executionVerdict py env (acts a.2) state.decision a.1 = .ok v := by
      intro a ha
      cases hE : executionVerdict py env (acts a.2) state.decision a.1 with
      | error e => exact absurd hE (hraise a ha e)
      | ok v => exact ⟨v, rfl⟩
    obtain ⟨final, items, results, hr, hrem, hall⟩ :=
      remediate_intro checks hd hf hempty hs hexec hcheck
    -- the success is among the executed items, so the state is `verified`
    obtain ⟨item, hi, hE, -⟩ := executed_verdict hrem.executed ha
    have hok : itemOk item = true := by
      rw [hEa] at hE
      injection hE with hE
      exact hE.symm
    have hverified : final.approvalState = some (.str "verified") := by
      rw [hrem.approvalState, verifiedState_eq_verified.2 ⟨?_, hall⟩]
      intro hnil
      have hmem := mem_succeededItems.2 ⟨hi, hok⟩
      rw [List.map_eq_nil_iff.1 hnil] at hmem
      cases hmem
    -- the action that did not succeed contradicts it
    obtain ⟨actions', hs', -, heach⟩ := h final hr hverified
    cases hs.symm.trans hs'
    obtain ⟨⟨item', hi', -, hok'⟩, -⟩ :=
      heach b.2 b.1 (List.mem_zipIdx_iff_getElem?.1 hb)
    obtain ⟨item'', hi'', hE', -⟩ := executed_verdict hrem.executed hb
    rw [hrem.executedActions] at hi'
    cases hi'.symm.trans hi''
    rw [hok'] at hE'
    exact hEb hE'
  · intro h final hr hverified
    cases hf : flag env "NOC_ENABLE_APPROVED_EXECUTION" with
    | false =>
      unfold remediate at hr
      rw [executeApprovedRemediation_disabled hd hf, pure_bind] at hr
      unfold verifyRemediation at hr
      simp only [hempty] at hr
      cases hr
      simp [verifiedState] at hverified
    | true =>
      obtain ⟨actions, items, results, hs, hrem⟩ := remediate_inv hd hf hempty hr
      rw [hrem.approvalState, Option.some_inj, verifiedState_eq_verified] at hverified
      obtain ⟨hne, hpass⟩ := hverified
      obtain ⟨⟨first, k⟩, hfirst⟩ := List.exists_mem_of_ne_nil _
        (fun hnil => hne (List.map_eq_nil_iff.2 hnil))
      obtain ⟨action, haction, hEfirst, -⟩ := succeeded_action hrem.executed hfirst
      have hEok : ∀ a ∈ actions.zipIdx,
          executionVerdict py env (acts a.2) state.decision a.1 = .ok true := by
        rcases h hf actions hs with ⟨a, ha, e, hE⟩ | hnone | hall | ⟨a, ha, hE, hC⟩
        · obtain ⟨item, -, hE', -⟩ := executed_verdict hrem.executed ha
          rw [hE] at hE'
          cases hE'
        · exact absurd hEfirst (hnone _ haction)
        · exact hall
        · obtain ⟨item, hi, hE', hfor⟩ := executed_verdict hrem.executed ha
          have hok : itemOk item = true := by
            rw [hE] at hE'
            injection hE' with hE'
            exact hE'.symm
          obtain ⟨result, hmem, hC'⟩ := hrem.check (hfor hok) hi hok
          rw [hpass result hmem] at hC'
          exact absurd hC' hC
      refine ⟨actions, hs, ?_, fun i action ha => hrem.side_by_side hEok hpass ha⟩
      rintro rfl
      cases haction

/-- Approved execution on, everything else at its default. -/
def executionEnviron : Environ := fun name =>
  if name = "NOC_ENABLE_APPROVED_EXECUTION" then some "1" else none

/-- The tool accepts the first action only. -/
def firstAccepted (i : Nat) : ActMoment where
  authTime := 0
  callTime := 0
  utcNow := "2026-01-01T00:00:00+00:00"
  problems := .returned .null
  reply := .returned (.dict [("ok", .bool (i == 0))])

def noProbe (_ : Nat) : CheckMoment where
  time := 0
  confirm := .returned .null
  rollback := .returned .null
  probe _ := .returned .null

def acknowledgeAction (host : String) : JsonDict :=
  [("type", .str "acknowledge_icinga"), ("inputs", .dict [("host", .str host)])]

/-- An operator approved acknowledgements of these hosts. -/
def approvedAcks (hosts : List String) : WorkflowState where
  incidentId := "case-1"
  proposals := [.dict [("structured_actions",
    .list (hosts.map fun host => .dict (acknowledgeAction host)))]]
  operatorDecision := some [("decision", .str "approved"), ("operator", .str "operator")]
  approvalState := some (.str "approved")
  executedActions := []
  verificationResults := []

theorem verifiedMeansAll_one : VerifiedMeansAll asciiPython executionEnviron firstAccepted noProbe
    (approvedAcks ["web1"]) := by
  refine (verifiedMeansAll_iff rfl rfl).2 fun _ actions hs => ?_
  obtain rfl : [acknowledgeAction "web1"] = actions := by
    injection hs
  refine Or.inr (Or.inr (Or.inl fun a ha => ?_))
  obtain rfl : a = (acknowledgeAction "web1", 0) := by simpa using ha
  rfl

/-- Two actions, the second one refused: the refused one is filtered out before the verdict. -/
theorem verifiedMeansAll_partial :
    (approvedAcks ["web1", "web2"]).decision.get "decision" = .str "approved" ∧
      (approvedAcks ["web1", "web2"]).executedActions = [] ∧
      ¬ VerifiedMeansAll asciiPython executionEnviron firstAccepted noProbe
        (approvedAcks ["web1", "web2"]) := by
  refine ⟨rfl, rfl, fun h => ?_⟩
  obtain ⟨actions, hs, -, heach⟩ := h _ rfl rfl
  obtain rfl : [acknowledgeAction "web1", acknowledgeAction "web2"] = actions := by
    injection hs
  obtain ⟨⟨item, hi, -, hok⟩, -⟩ := heach 1 _ rfl
  injection hi with hi
  subst hi
  cases hok

end NocAgent
