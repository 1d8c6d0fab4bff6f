import NocAgent.Lib.Lts
import Mathlib.Logic.Function.Basic

/-!
# The MCP runtime

The runtime keeps, for each of its two sources, whether it is ready, how many tools it has, its
client, and the tools that were loaded from a client.  Connecting, health checks and disconnecting
each write some of these.

* `connectSource`, `refreshSourceHealth`, `liveHealthSource`, `disconnectSource` — what the calls
  do to one source.
* `Backed` — a source that is reported ready has a client and the tools that were loaded from it.
* `Untooled` — a health check counts the tools of a client whose tools are not there.
* `backed_run_iff` — over every run, every source is backed throughout exactly when no health check
  does that.
-/

set_option autoImplicit false

namespace NocAgent.Mcp

open Lts

/-! ## One source -/

/-- `MCPSourceState`. -/
structure SourceState where
  ready : Bool := false
  toolCount : Nat := 0
  error : Option String := none

/-- A tool, bound to the client that made it. -/
structure McpTool where
  client : Nat
  name : String

/-- A client, and the names that were listed when its tools were loaded. -/
structure McpClient where
  id : Nat
  loaded : List String

def McpClient.tools (c : McpClient) : List McpTool := c.loaded.map fun name => ⟨c.id, name⟩

/-- What the runtime has of a source, and what the server of the source lists. -/
structure SourceSlot where
  state : SourceState := {}
  client : Option McpClient := none
  toolsBySource : List McpTool := []
  server : List String := []
  /-- the list of the server has changed since the tools of the client were loaded -/
  changed : Bool := false
  nextClient : Nat := 0

/-- How a connect attempt ends. -/
inductive ConnectOutcome where
  | loaded
  | timedOut
  | failed (category : String)
  /-- the client cannot be built, which is not caught -/
  | raised (category : String)

/-- What a health check meets. -/
structure Refresh where
  /-- whether the configuration has a health URL, or the category of what it raises -/
  config : Except String Bool
  /-- the health URL answers with 200 -/
  urlUp : Bool := false
  /-- `check_health` counts the tools that the server lists, or raises -/
  probe : Except String Unit := .ok ()
  connect : ConnectOutcome := .loaded

inductive HealthOutcome where
  | timedOut
  | refreshed (r : Refresh)

namespace SourceSlot

variable (slot : SourceSlot)

/-- Not ready, and without tools; the client stays. -/
def cleared (category : String) : SourceSlot :=
  { slot with state := { error := some category }, toolsBySource := [] }

/-- `_connect_source_unlocked`. -/
def connectSource : ConnectOutcome → SourceSlot
  | .loaded => { slot with
      state := { ready := true, toolCount := slot.server.length }
      client := some ⟨slot.nextClient, slot.server⟩
      toolsBySource := McpClient.tools ⟨slot.nextClient, slot.server⟩
      changed := false
      nextClient := slot.nextClient + 1 }
  | .timedOut => { slot with
      state := { error := some "mcp_timeout" }
      nextClient := slot.nextClient + 1 }
  | .failed category => { slot with
      state := { error := some category }
      nextClient := slot.nextClient + 1 }
  | .raised _ => slot

/-- `_refresh_source_health`. -/
def refreshSourceHealth (r : Refresh) : Except String SourceSlot :=
  match r.config with
  | .error category => .ok (slot.cleared category)
  | .ok healthUrl =>
    if healthUrl = true ∧ 0 < slot.state.toolCount ∧ r.urlUp = true then
      .ok { slot with state := { slot.state with ready := true, error := none } }
    else
      match slot.client with
      | none =>
        if slot.state.ready then .ok slot
        else
          match r.connect with
          | .raised category => .error category
          | outcome => .ok (slot.connectSource outcome)
      | some _ =>
        match r.probe with
        | .error category => .ok (slot.cleared category)
        | .ok _ => .ok { slot with state := {
            ready := decide (0 < slot.server.length)
            toolCount := slot.server.length } }

/-- `_reset_timed_out_source`. -/
def resetTimedOut : SourceSlot :=
  { slot with state := { error := some "mcp_timeout" }, client := none, toolsBySource := [] }

/-- The part of `live_health` that is about the source. -/
def liveHealthSource : HealthOutcome → SourceSlot
  | .timedOut => slot.resetTimedOut
  | .refreshed r =>
    match slot.refreshSourceHealth r with
    | .ok slot => slot
    | .error category => slot.cleared category

/-- The part of `disconnect` that is about the source. -/
def disconnectSource : SourceSlot :=
  { slot with state := {}, client := none, toolsBySource := [] }

/-- The server lists other tools. -/
def serve (names : List String) : SourceSlot := { slot with server := names, changed := true }

/-- What `health` reports. -/
def reportedReady : Bool := slot.state.ready && decide (0 < slot.state.toolCount)

/-- **A source that is reported ready has a client, and the tools that were loaded from it.** -/
def Backed : Prop :=
  slot.reportedReady = true → ∃ c, slot.client = some c ∧ slot.toolsBySource = c.tools ∧
    slot.toolsBySource ≠ [] ∧
    (slot.changed = false → slot.toolsBySource.length = slot.state.toolCount)

end SourceSlot

/-! ## The runtime -/

inductive McpSource where
  | hyrule
  | xo
  deriving DecidableEq

abbrev Runtime := McpSource → SourceSlot

inductive RuntimeLabel where
  | connect (source : McpSource) (outcome : ConnectOutcome)
  | health (source : McpSource) (outcome : HealthOutcome)
  | disconnect (source : McpSource)
  | serve (source : McpSource) (names : List String)

def RuntimeLabel.source : RuntimeLabel → McpSource
  | .connect source _ | .health source _ | .disconnect source | .serve source _ => source

/-- What the label does to its source. -/
def RuntimeLabel.apply (slot : SourceSlot) : RuntimeLabel → SourceSlot
  | .connect _ outcome => slot.connectSource outcome
  | .health _ outcome => slot.liveHealthSource outcome
  | .disconnect _ => slot.disconnectSource
  | .serve _ names => slot.serve names

def runtimeStep (s : Runtime) (l : RuntimeLabel) (t : Runtime) : Prop :=
  t = Function.update s l.source (l.apply (s l.source))

/-- Before anything is connected; the servers list what they list. -/
def Runtime.start (servers : McpSource → List String) : Runtime :=
  fun source => { server := servers source }

/-- **Every source that is reported ready is backed.** -/
def AllBacked (s : Runtime) : Prop := ∀ source, (s source).Backed

/-- The check counts tools of a stored client, and the list of its tools is empty. -/
def Untooled (slot : SourceSlot) (r : Refresh) : Prop :=
  (∃ healthUrl, r.config = .ok healthUrl) ∧ slot.client ≠ none ∧ r.probe = .ok () ∧
    slot.server ≠ [] ∧ slot.toolsBySource = []

def NeverUntooled (s : Runtime) : RuntimeLabel → Prop
  | .health source (.refreshed r) => ¬ Untooled (s source) r
  | _ => True

/-! ## Invariants -/

section Invariants

variable {slot : SourceSlot} {s t : Runtime} {l : RuntimeLabel}

/-- What every call keeps of a source. -/
structure Coherent (slot : SourceSlot) : Prop where
  absent : slot.client = none → slot.toolsBySource = [] ∧ slot.state.ready = false
  tools : ∀ c, slot.client = some c → slot.toolsBySource = c.tools ∨ slot.toolsBySource = []
  counted : 0 < slot.state.toolCount → slot.state.ready = true
  listed : ∀ c, slot.client = some c → slot.changed = false → c.loaded = slot.server

theorem Coherent.cleared (h : Coherent slot) (category : String) :
    Coherent (slot.cleared category) where
  absent _ := ⟨rfl, rfl⟩
  tools _ _ := Or.inr rfl
  counted hpos := absurd hpos (Nat.lt_irrefl 0)
  listed := h.listed

theorem Coherent.dropped (hclient : slot.client = none) (htools : slot.toolsBySource = [])
    (hready : slot.state.ready = false) (hcount : slot.state.toolCount = 0) : Coherent slot where
  absent _ := ⟨htools, hready⟩
  tools c hc := by
    rw [hclient] at hc
    cases hc
  counted hpos := by
    rw [hcount] at hpos
    exact absurd hpos (Nat.lt_irrefl 0)
  listed c hc := by
    rw [hclient] at hc
    cases hc

theorem Coherent.connectSource (h : Coherent slot) (outcome : ConnectOutcome) :
    Coherent (slot.connectSource outcome) := by
  cases outcome with
  | raised category => exact h
  | loaded =>
    refine ⟨fun hnone => ?_, fun c hc => ?_, fun _ => rfl, fun c hc _ => ?_⟩
    · cases hnone
    · cases hc
      exact Or.inl rfl
    · cases hc
      rfl
  | timedOut =>
    refine ⟨fun hnone => ⟨(h.absent hnone).1, rfl⟩, h.tools, fun hpos => ?_, h.listed⟩
    exact absurd hpos (Nat.lt_irrefl 0)
  | failed category =>
    refine ⟨fun hnone => ⟨(h.absent hnone).1, rfl⟩, h.tools, fun hpos => ?_, h.listed⟩
    exact absurd hpos (Nat.lt_irrefl 0)

/-- The ways a health check ends that does not time out. -/
inductive Checked (slot : SourceSlot) (r : Refresh) : SourceSlot → Prop where
  | cleared (category : String) : Checked slot r (slot.cleared category)
  | answered (hpos : 0 < slot.state.toolCount) : Checked slot r
      { slot with state := { slot.state with ready := true, error := none } }
  | unchecked (hnone : slot.client = none) (hready : slot.state.ready = true) : Checked slot r slot
  | connected (outcome : ConnectOutcome) : Checked slot r (slot.connectSource outcome)
  | counted (hclient : slot.client ≠ none) (hconfig : ∃ healthUrl, r.config = .ok healthUrl)
      (hprobe : r.probe = .ok ()) : Checked slot r
      { slot with state := {
          ready := decide (0 < slot.server.length)
          toolCount := slot.server.length } }

theorem checked (slot : SourceSlot) (r : Refresh) :
    Checked slot r (slot.liveHealthSource (.refreshed r)) := by
  change Checked slot r (match slot.refreshSourceHealth r with
    | .ok slot => slot
    | .error category => slot.cleared category)
  unfold SourceSlot.refreshSourceHealth
  cases hconfig : r.config with
  | error category => exact .cleared category
  | ok healthUrl =>
    by_cases hurl : healthUrl = true ∧ 0 < slot.state.toolCount ∧ r.urlUp = true
    · simp only [if_pos hurl]
      exact .answered hurl.2.1
    · simp only [if_neg hurl]
      cases hclient : slot.client with
      | none =>
        by_cases hready : slot.state.ready = true
        · simp only [if_pos hready]
          exact .unchecked hclient hready
        · simp only [if_neg hready]
          cases r.connect with
          | raised category => exact .cleared category
          | loaded => exact .connected .loaded
          | timedOut => exact .connected .timedOut
          | failed category => exact .connected (.failed category)
      | some c =>
        have hstored : slot.client ≠ none := by
          rw [hclient]
          exact Option.some_ne_none c
        cases hprobe : r.probe with
        | error category => exact .cleared category
        | ok _ =>
          have hcounted := Checked.counted hstored ⟨healthUrl, hconfig⟩ hprobe
          rw [hclient] at hcounted
          exact hcounted

theorem Coherent.checked (h : Coherent slot) {r : Refresh} {after : SourceSlot}
    (hchecked : Checked slot r after) : Coherent after := by
  cases hchecked with
  | cleared category => exact h.cleared category
  | answered hpos =>
    refine ⟨fun hnone => ?_, h.tools, fun _ => rfl, h.listed⟩
    have hready := h.counted hpos
    rw [(h.absent hnone).2] at hready
    cases hready
  | unchecked hnone hready => exact h
  | connected outcome => exact h.connectSource outcome
  | counted hclient hconfig hprobe =>
    exact ⟨fun hnone => absurd hnone hclient, h.tools, fun hpos => decide_eq_true hpos, h.listed⟩

theorem Coherent.apply (h : Coherent slot) (l : RuntimeLabel) : Coherent (l.apply slot) := by
  cases l with
  | connect source outcome => exact h.connectSource outcome
  | health source outcome =>
    cases outcome with
    | timedOut => exact Coherent.dropped rfl rfl rfl rfl
    | refreshed r => exact h.checked (Mcp.checked slot r)
  | disconnect source => exact Coherent.dropped rfl rfl rfl rfl
  | serve source names =>
    refine ⟨h.absent, h.tools, h.counted, fun c hc hchanged => ?_⟩
    cases hchanged

/-! ## Backed sources -/

/-- A source without tools counted is not reported ready. -/
theorem backed_of_not_ready (h : slot.state.ready = false ∨ slot.state.toolCount = 0) :
    slot.Backed := by
  intro hready
  unfold SourceSlot.reportedReady at hready
  rcases h with h | h
  · rw [h] at hready
    cases hready
  · rw [h] at hready
    simp at hready

theorem backed_connectSource (h : slot.Backed) (outcome : ConnectOutcome) :
    (slot.connectSource outcome).Backed := by
  cases outcome with
  | raised category => exact h
  | timedOut => exact backed_of_not_ready (Or.inl rfl)
  | failed category => exact backed_of_not_ready (Or.inl rfl)
  | loaded =>
    intro hready
    have hpos : 0 < slot.server.length := of_decide_eq_true (Bool.and_eq_true_iff.1 hready).2
    refine ⟨_, rfl, rfl, fun hnil => ?_, fun _ => List.length_map _⟩
    have hlength := congrArg List.length hnil
    change (slot.server.map _).length = 0 at hlength
    rw [List.length_map] at hlength
    omega

/-- **A check that counts the tools of a client backs the source exactly when the tools are
there.** -/
theorem backed_counted_iff (hc : Coherent slot) (hclient : slot.client ≠ none) :
    SourceSlot.Backed { slot with state := {
      ready := decide (0 < slot.server.length)
      toolCount := slot.server.length } } ↔ (slot.server ≠ [] → slot.toolsBySource ≠ []) := by
  constructor
  · intro h hserver
    have hready : SourceSlot.reportedReady { slot with state := {
        ready := decide (0 < slot.server.length)
        toolCount := slot.server.length } } = true := by
      simp [SourceSlot.reportedReady, List.length_pos_iff, hserver]
    obtain ⟨c, -, -, hne, -⟩ := h hready
    exact hne
  · intro h hready
    have hserver : slot.server ≠ [] := by
      rintro hnil
      simp [SourceSlot.reportedReady, hnil] at hready
    obtain ⟨c, hstored⟩ := Option.ne_none_iff_exists'.1 hclient
    have htools := (hc.tools c hstored).resolve_right (h hserver)
    refine ⟨c, hstored, htools, h hserver, fun hchanged => ?_⟩
    have hlisted := hc.listed c hstored hchanged
    change slot.toolsBySource.length = slot.server.length
    rw [htools, ← hlisted]
    exact List.length_map _

/-- Such a check does count them: nothing that is not there was counted before. -/
theorem liveHealth_of_untooled {r : Refresh} (hc : Coherent slot) (hb : slot.Backed)
    (h : Untooled slot r) : slot.liveHealthSource (.refreshed r) =
      { slot with state := {
        ready := decide (0 < slot.server.length)
        toolCount := slot.server.length } } := by
  obtain ⟨⟨healthUrl, hconfig⟩, hclient, hprobe, -, htools⟩ := h
  have hcount : ¬ 0 < slot.state.toolCount := by
    intro hpos
    have hready : slot.reportedReady = true := by
      unfold SourceSlot.reportedReady
      rw [hc.counted hpos, decide_eq_true hpos]
      rfl
    obtain ⟨c, -, -, hne, -⟩ := hb hready
    exact hne htools
  obtain ⟨c, hstored⟩ := Option.ne_none_iff_exists'.1 hclient
  simp [SourceSlot.liveHealthSource, SourceSlot.refreshSourceHealth, hconfig, hcount, hstored, hprobe]

/-- **A step keeps its source backed exactly when it does not count tools that are not there.** -/
theorem backed_apply_iff (hc : Coherent slot) (hb : slot.Backed) (l : RuntimeLabel) :
    (l.apply slot).Backed ↔
      match l with
      | .health _ (.refreshed r) => ¬ Untooled slot r
      | _ => True := by
  cases l with
  | connect source outcome => exact iff_of_true (backed_connectSource hb outcome) trivial
  | disconnect source => exact iff_of_true (backed_of_not_ready (Or.inl rfl)) trivial
  | serve source names =>
    refine iff_of_true (fun hready => ?_) trivial
    obtain ⟨c, hstored, htools, hne, -⟩ := hb hready
    exact ⟨c, hstored, htools, hne, fun hchanged => nomatch hchanged⟩
  | health source outcome =>
    cases outcome with
    | timedOut => exact iff_of_true (backed_of_not_ready (Or.inl rfl)) trivial
    | refreshed r =>
      change (slot.liveHealthSource (.refreshed r)).Backed ↔ ¬ Untooled slot r
      constructor
      · intro hbacked huntooled
        rw [liveHealth_of_untooled hc hb huntooled] at hbacked
        obtain ⟨-, hclient, -, hserver, htools⟩ := huntooled
        exact (backed_counted_iff hc hclient).1 hbacked hserver htools
      · intro htooled
        generalize hafter : slot.liveHealthSource (.refreshed r) = after
        have hchecked := Mcp.checked slot r
        rw [hafter] at hchecked
        cases hchecked with
        | cleared category => exact backed_of_not_ready (Or.inl rfl)
        | unchecked hnone hready => exact hb
        | connected outcome => exact backed_connectSource hb outcome
        | answered hpos =>
          intro _
          refine hb ?_
          unfold SourceSlot.reportedReady
          rw [hc.counted hpos, decide_eq_true hpos]
          rfl
        | counted hclient hconfig hprobe =>
          refine (backed_counted_iff hc hclient).2 fun hserver htools => ?_
          exact htooled ⟨hconfig, hclient, hprobe, hserver, htools⟩

end Invariants

/-! ## Runs -/

section Runs

variable {s t : Runtime} {l : RuntimeLabel}

theorem coherent_step (h : ∀ source, Coherent (s source)) (hstep : runtimeStep s l t) :
    ∀ source, Coherent (t source) := by
  intro source
  rw [hstep]
  by_cases heq : source = l.source
  · subst heq
    rw [Function.update_self]
    exact (h _).apply l
  · rw [Function.update_of_ne heq]
    exact h source

theorem allBacked_step_iff (hc : ∀ source, Coherent (s source)) (hb : AllBacked s)
    (hstep : runtimeStep s l t) : AllBacked t ↔ NeverUntooled s l := by
  have hself : AllBacked t ↔ (l.apply (s l.source)).Backed := by
    rw [hstep]
    constructor
    · intro h
      have hsource := h l.source
      rw [Function.update_self] at hsource
      exact hsource
    · intro h source
      by_cases heq : source = l.source
      · subst heq
        rw [Function.update_self]
        exact h
      · rw [Function.update_of_ne heq]
        exact hb source
  rw [hself, backed_apply_iff (hc _) (hb _)]
  cases l with
  | connect source outcome => exact Iff.rfl
  | disconnect source => exact Iff.rfl
  | serve source names => exact Iff.rfl
  | health source outcome => cases outcome <;> exact Iff.rfl

/-- **Over every run of the runtime: every source that is reported ready is backed throughout,
exactly when no health check counts the tools of a client whose tools are not there.** -/
theorem backed_run_iff {servers : McpSource → List String} {ls : List RuntimeLabel} :
    Run (Guarded runtimeStep NeverUntooled) (.start servers) ls s ↔
      Run (Upheld runtimeStep AllBacked) (.start servers) ls s := by
  refine Run.guarded_iff_upheld (J := fun s => ∀ source, Coherent (s source)) ?_ ?_ ?_ ?_
  · intro s l t hc hstep
    exact coherent_step hc hstep
  · intro s l t hc hb hstep
    exact allBacked_step_iff hc hb hstep
  · intro source
    exact Coherent.dropped rfl rfl rfl rfl
  · intro source
    exact backed_of_not_ready (Or.inl rfl)

end Runs

/-- The source is connected, one health check of its client fails, and the next succeeds. -/
def recoveringProbe : List RuntimeLabel :=
  [.connect .hyrule .loaded,
    .health .hyrule (.refreshed { config := .ok false, probe := .error "unknown_infrastructure" }),
    .health .hyrule (.refreshed { config := .ok false })]

/-- The failed check drops the tools and keeps the client: the source is ready again without
tools. -/
theorem not_allBacked_recovering :
    let servers := fun _ : McpSource => ["frr_vtysh_cmd"]
    ∃ s, Run runtimeStep (.start servers) recoveringProbe s ∧ ¬ AllBacked s := by
  intro servers
  refine ⟨_, Run.cons rfl (Run.cons rfl (Run.cons rfl (Run.nil _))), fun h => ?_⟩
  obtain ⟨c, -, -, hne, -⟩ := h .hyrule rfl
  exact hne rfl

end NocAgent.Mcp
