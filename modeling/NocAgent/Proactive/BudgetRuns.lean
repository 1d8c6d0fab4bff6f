import NocAgent.Lib.Lts
import NocAgent.Lib.Stepwise
import NocAgent.Proactive.Ledger

/-!
# The budget over a day

* `ProactiveCycle.next` — `run_once` and `_investigate`, cut at every write of the ledger and at
  every await of the investigator.
* `cycleStep` — cycles one after the other, each of which may end anywhere.
* `Accounts` — what every run keeps of the counters; `attempts_run` — the attempts stay within the
  daily limit, and cover what was investigated.
* `Recorded` — what a run keeps of the cost while no cycle forgets any; `spent_run` — between
  cycles, what was spent is in the ledger.
* `not_spentRecorded_cancelled` — a cycle that is cancelled forgets what its report holds.
-/

set_option autoImplicit false

namespace NocAgent.Proactive

open Effects Effects.Action Lts

/-! ## One cycle -/

inductive InvestigationStatus where
  | succeeded
  | failed
  | skipped
  deriving DecidableEq

/-- What the loop reads of an outcome. -/
structure InvestigationOutcome where
  costUsd : ℚ := 0
  handoffUrl : Option String := none
  status : InvestigationStatus := .succeeded

/-- What becomes of a call of the investigator. -/
inductive InvestigatorResult where
  | returned (outcome : Option InvestigationOutcome)
  | raised
  | cancelled

/-- The part of the report of a cycle that goes into the ledger. -/
structure CycleReport where
  costUsd : ℚ := 0
  handoffs : List String := []

def CycleReport.charge (report : CycleReport) (outcome : InvestigationOutcome) : CycleReport :=
  { report with costUsd := roundMicros (report.costUsd + outcome.costUsd) }

/-- Where a cycle stands, with its local variables. -/
inductive ProactiveCycle where
  | idle
  /-- after `load_ledger`, before the gate -/
  | scanning (ledger : JsonDict)
  /-- before the reservation of an attempt on the first hotspot, or before the last update -/
  | reserving (fresh : List Hotspot) (report : CycleReport)
  /-- before the call of the investigator -/
  | calling (hotspot : Hotspot) (rest : List Hotspot) (report : CycleReport)
  | awaiting (hotspot : Hotspot) (rest : List Hotspot) (report : CycleReport)
  /-- before the ledger is updated with the result -/
  | settling (result : InvestigatorResult) (rest : List Hotspot) (report : CycleReport)
  /-- after the last update -/
  | reporting

/-- What a turn draws: the hotspots of the scan, those that are due an investigation, and the
result of the investigator. -/
structure CycleDraws where
  hotspots : List Hotspot := []
  due : Hotspot → Bool := fun _ => true
  result : InvestigatorResult := .returned none

section Cycles

variable (py : Python) (day : String) (settings : BudgetSettings)

def writeLedger (delta : LedgerDelta) : Action LedgerFile PyExc Unit := fun file =>
  match updateLedger py day file delta with
  | .error e => (.error e, file)
  | .ok ledger => (.ok (), .json (.dict ledger))

/-- `run_once` holds the lock and reads the ledger. -/
def ProactiveCycle.start : Action LedgerFile PyExc ProactiveCycle := fun file =>
  match loadLedger py day file with
  | .error e => (.error e, file)
  | .ok ledger => (.ok (.scanning ledger), file)

/-- One turn. -/
def ProactiveCycle.next (d : CycleDraws) : ProactiveCycle → Action LedgerFile PyExc ProactiveCycle
  | .idle => pure .idle
  | .scanning ledger =>
    match evaluateGate py settings ledger d.hotspots with
    | .error e => raise e
    | .ok gate =>
      if gate.maxInvestigations ≤ 0 then pure (.reserving [] {})
      else pure (.reserving ((gate.eligible.filter d.due).take gate.maxInvestigations.toNat) {})
  | .reserving (hotspot :: rest) report => do
    writeLedger py day { attempts := 1 }
    pure (.calling hotspot rest report)
  | .reserving [] report => do
    writeLedger py day {
      cycles := 1
      costUsd := report.costUsd
      handoffs := report.handoffs.length }
    pure .reporting
  | .calling hotspot rest report => pure (.awaiting hotspot rest report)
  | .awaiting _ rest report => pure (.settling d.result rest report)
  | .settling .cancelled _ _ => do
    writeLedger py day { failed := 1 }
    pure .idle
  | .settling .raised rest report => do
    writeLedger py day { failed := 1 }
    pure (.reserving rest report)
  | .settling (.returned none) rest report => do
    writeLedger py day { failed := 1 }
    pure (.reserving rest report)
  | .settling (.returned (some outcome)) rest report =>
    match outcome.status with
    | .skipped => do
      writeLedger py day { attempts := -1, skipped := 1 }
      pure (.reserving rest report)
    | .failed => do
      writeLedger py day { failed := 1 }
      pure (.reserving rest (report.charge outcome))
    | .succeeded => do
      writeLedger py day { investigations := 1, succeeded := 1 }
      let report := report.charge outcome
      match outcome.handoffUrl.filter (· ≠ "") with
      | none => pure (.reserving rest report)
      | some url => pure (.reserving rest { report with handoffs := report.handoffs ++ [url] })
  | .reporting => pure .idle

/-! ## One cycle after the other -/

/-- The ledger, a cycle, and what was spent. -/
structure BudgetSystem where
  file : LedgerFile := .missing
  cycle : ProactiveCycle := .idle
  /-- the calls of the investigator -/
  started : Nat := 0
  /-- those that returned with the status `skipped` -/
  skips : Nat := 0
  /-- the cost of what they returned -/
  spent : ℚ := 0

inductive CycleLabel where
  | start
  | turn (d : CycleDraws)
  /-- the process ends, or something raises or is cancelled outside the investigator -/
  | abort

/-- The investigator is called. -/
def ProactiveCycle.calls : ProactiveCycle → Nat
  | .calling .. => 1
  | _ => 0

/-- The outcome that the investigator returns in a turn. -/
def ProactiveCycle.outcome? (d : CycleDraws) : ProactiveCycle → Option InvestigationOutcome
  | .awaiting .. =>
    match d.result with
    | .returned outcome => outcome
    | .raised | .cancelled => none
  | _ => none

/-- The cost of what the investigator returns in a turn. -/
def ProactiveCycle.cost (d : CycleDraws) (cycle : ProactiveCycle) : ℚ :=
  ((cycle.outcome? d).map InvestigationOutcome.costUsd).getD 0

def skipsOf : Option InvestigationOutcome → Nat
  | some outcome => if outcome.status = .skipped then 1 else 0
  | none => 0

def BudgetSystem.after (sys : BudgetSystem) : CycleLabel → BudgetSystem
  | .start =>
    let r := ProactiveCycle.start py day sys.file
    { sys with
      file := r.2
      cycle := goto .idle r.1 }
  | .turn d =>
    let r := sys.cycle.next py day settings d sys.file
    let outcome := sys.cycle.outcome? d
    { file := r.2
      cycle := goto .idle r.1
      started := sys.started + sys.cycle.calls
      skips := sys.skips + skipsOf outcome
      spent := sys.spent + sys.cycle.cost d }
  | .abort => { sys with cycle := .idle }

/-- The run lock: a cycle starts when none is running. -/
def CycleLabel.Allowed (sys : BudgetSystem) : CycleLabel → Prop
  | .start => sys.cycle = .idle
  | .turn _ | .abort => True

def cycleStep (sys : BudgetSystem) (l : CycleLabel) (t : BudgetSystem) : Prop :=
  l.Allowed sys ∧ t = sys.after py day settings l

instance (cycle : ProactiveCycle) : Decidable (cycle = .idle) :=
  match cycle with
  | .idle => isTrue rfl
  | .scanning _ | .reserving .. | .calling .. | .awaiting .. | .settling .. | .reporting =>
    isFalse (by simp)

instance (sys : BudgetSystem) (l : CycleLabel) : Decidable (l.Allowed sys) := by
  unfold CycleLabel.Allowed
  cases l <;> infer_instance

/-- The attempts are within the limit, at least the successes and failures, and at least the calls
that were not skipped. -/
def WithinBudget (limit : Int) (sys : BudgetSystem) : Prop :=
  ∃ l, sys.file.Stores l ∧ l.attempts ≤ limit ∧ l.succeeded + l.failed ≤ l.attempts ∧
    (sys.started : Int) - sys.skips ≤ l.attempts

end Cycles

/-! ## Counters -/

namespace ProactiveCycle

/-- The attempts that the cycle may still reserve. -/
def remaining : ProactiveCycle → Nat
  | .reserving fresh _ => fresh.length
  | .calling _ rest _ | .awaiting _ rest _ | .settling _ rest _ => rest.length
  | .idle | .scanning _ | .reporting => 0

/-- The attempt that is reserved and has no result in the ledger. -/
def outstanding : ProactiveCycle → Nat
  | .calling .. | .awaiting .. | .settling .. => 1
  | .idle | .scanning _ | .reserving .. | .reporting => 0

/-- The attempt that is reserved and no call that counts: it was not made, or it was skipped. -/
def spare : ProactiveCycle → Nat
  | .calling .. => 1
  | .settling (.returned (some outcome)) _ _ => if outcome.status = .skipped then 1 else 0
  | _ => 0

/-- The cost that the cycle holds for its last update. -/
def held : ProactiveCycle → ℚ
  | .reserving _ report | .calling _ _ report | .awaiting _ _ report => report.costUsd
  | .settling (.returned (some outcome)) _ report =>
    if outcome.status = .skipped then report.costUsd else report.costUsd + outcome.costUsd
  | .settling (.returned none) _ report | .settling .raised _ report => report.costUsd
  | .settling .cancelled _ _ | .idle | .scanning _ | .reporting => 0

/-- The turn ends in a cost that no later turn writes: the call of the investigator is cancelled
while the cycle holds a cost, or what it returns was skipped and has a cost. -/
def Forgets (d : CycleDraws) : ProactiveCycle → Prop
  | .awaiting _ _ report =>
    match d.result with
    | .cancelled => 0 < report.costUsd
    | .returned (some outcome) => outcome.status = .skipped ∧ 0 < outcome.costUsd
    | .returned none | .raised => False
  | _ => False

end ProactiveCycle

/-- The numbers of the ledger while a cycle is running. -/
structure Accounts (limit : Int) (file : LedgerFile) (cycle : ProactiveCycle) (started skips : Nat)
    (l : Ledger) : Prop where
  stores : file.Stores l
  counts : l.Counts
  snapshot : ∀ ledger, cycle = .scanning ledger → ledger = l.dict
  attempts : l.attempts + cycle.remaining ≤ max 0 limit
  results : l.succeeded + l.failed + cycle.outstanding ≤ l.attempts
  calls : started + cycle.spare ≤ l.attempts + skips

/-- What was spent is in the ledger or held by the cycle; the amounts are exact. -/
structure Charged (l : Ledger) (held spent : ℚ) : Prop where
  recorded : IsMicros l.costUsd
  reported : IsMicros held
  covered : spent ≤ l.costUsd + held

/-- A turn ends in such numbers, and in a cost that is held or written. -/
def Turned (limit : Int) (r : Except PyExc ProactiveCycle × LedgerFile) (started skips : Nat)
    (l : Ledger) (held : ℚ) : Prop :=
  ∃ l', Accounts limit r.2 (goto .idle r.1) started skips l' ∧
    ∀ spent, Charged l held spent → Charged l' (goto .idle r.1).held spent

theorem Ledger.add_costUsd {l : Ledger} {delta : LedgerDelta} (hl : IsMicros l.costUsd)
    (hdelta : IsMicros delta.costUsd) : (l.add delta).costUsd = l.costUsd + delta.costUsd :=
  (hl.add hdelta).round

theorem Charged.keep {l : Ledger} {delta : LedgerDelta} {held spent : ℚ} (h : Charged l held spent)
    (hcost : delta.costUsd = 0) : Charged (l.add delta) held spent := by
  have hadd : (l.add delta).costUsd = l.costUsd := by
    rw [Ledger.add_costUsd h.recorded (hcost ▸ IsMicros.zero), hcost, add_zero]
  have hcovered := h.covered
  rw [← hadd] at hcovered
  exact ⟨hadd ▸ h.recorded, h.reported, hcovered⟩

theorem Charged.write {l : Ledger} {delta : LedgerDelta} {held spent : ℚ} (h : Charged l held spent)
    (hcost : delta.costUsd = held) : Charged (l.add delta) 0 spent := by
  have hadd : (l.add delta).costUsd = l.costUsd + held := by
    rw [Ledger.add_costUsd h.recorded (hcost ▸ h.reported), hcost]
  have hcovered := h.covered
  rw [← hadd, ← add_zero (l.add delta).costUsd] at hcovered
  exact ⟨hadd ▸ h.recorded.add h.reported, IsMicros.zero, hcovered⟩

section Counters

variable {py : Python} {day : String} {settings : BudgetSettings} {limit : Int}
  {file : LedgerFile} {cycle : ProactiveCycle} {started skips : Nat} {l : Ledger}

theorem writeLedger_run (h : file.Stores l) {delta : LedgerDelta} (hcounts : (l.add delta).Counts) :
    writeLedger py day delta file = (.ok (), .json (.dict (l.add delta).dict)) := by
  unfold writeLedger
  rw [h.update hcounts]

/-- The cycle goes on, and the ledger stays. -/
theorem Accounts.go (h : Accounts limit file cycle started skips l) {cycle' : ProactiveCycle}
    {started' skips' : Nat} (hcycle : ∀ ledger, cycle' ≠ .scanning ledger)
    (hremaining : cycle'.remaining ≤ cycle.remaining)
    (houtstanding : cycle'.outstanding ≤ cycle.outstanding)
    (hspare : started' + cycle'.spare + skips ≤ started + cycle.spare + skips') :
    Accounts limit file cycle' started' skips' l := by
  have hattempts := h.attempts
  have hresults := h.results
  have hcalls := h.calls
  refine ⟨h.stores, h.counts, fun _ hscan => absurd hscan (hcycle _), ?_, ?_, ?_⟩ <;> omega

/-- The ledger is updated, and the cycle goes on. -/
theorem Accounts.write (h : Accounts limit file cycle started skips l) {delta : LedgerDelta}
    (cycle' : ProactiveCycle) (hcounts : (l.add delta).Counts)
    (hcycle : ∀ ledger, cycle' ≠ .scanning ledger)
    (hattempts : delta.attempts + cycle'.remaining ≤ cycle.remaining)
    (hresults : delta.succeeded + delta.failed + cycle'.outstanding ≤
      delta.attempts + cycle.outstanding)
    (hcalls : cycle'.spare ≤ delta.attempts + cycle.spare) :
    Accounts limit (.json (.dict (l.add delta).dict)) cycle' started skips (l.add delta) := by
  have h₁ := h.attempts
  have h₂ := h.results
  have h₃ := h.calls
  refine ⟨stores_json _, hcounts, fun _ hscan => absurd hscan (hcycle _), ?_, ?_, ?_⟩
  · change l.attempts + delta.attempts + cycle'.remaining ≤ _
    omega
  · change l.succeeded + delta.succeeded + (l.failed + delta.failed) + cycle'.outstanding ≤
      l.attempts + delta.attempts
    omega
  · change (started : Int) + cycle'.spare ≤ l.attempts + delta.attempts + skips
    omega

theorem Accounts.attempts_nonneg (h : Accounts limit file cycle started skips l) :
    (cycle.outstanding : Int) ≤ l.attempts := by
  have hsucceeded := h.counts.succeeded
  have hfailed := h.counts.failed
  have hresults := h.results
  omega

/-- An update of the ledger that a turn makes before it goes on to `cycle'`; an attempt that it
takes back was outstanding. -/
theorem Accounts.updates (h : Accounts limit file cycle started skips l) (delta : LedgerDelta)
    (cycle' : ProactiveCycle)
    (hdelta : 0 ≤ delta.cycles ∧ 0 ≤ delta.investigations ∧ 0 ≤ delta.succeeded ∧
      0 ≤ delta.failed ∧ 0 ≤ delta.skipped)
    (hcycle : ∀ ledger, cycle' ≠ .scanning ledger)
    (hattempts : delta.attempts + cycle'.remaining ≤ cycle.remaining)
    (hresults : delta.succeeded + delta.failed + cycle'.outstanding ≤
      delta.attempts + cycle.outstanding)
    (hcalls : cycle'.spare ≤ delta.attempts + cycle.spare)
    (hcharged : ∀ spent, Charged l cycle.held spent → Charged (l.add delta) cycle'.held spent) :
    Turned limit ((writeLedger py day delta >>= fun _ => pure cycle') file) started skips l
      cycle.held := by
  obtain ⟨hcycles, hinvestigations, hsucceeded, hfailed, hskipped⟩ := hdelta
  have houtstanding := h.attempts_nonneg
  have hnonneg : 0 ≤ l.attempts + delta.attempts := by omega
  have hcounts : (l.add delta).Counts :=
    ⟨add_nonneg h.counts.cycles hcycles, add_nonneg h.counts.investigations hinvestigations,
      hnonneg, add_nonneg h.counts.succeeded hsucceeded, add_nonneg h.counts.failed hfailed,
      add_nonneg h.counts.skipped hskipped⟩
  rw [bind_ok (writeLedger_run h.stores hcounts)]
  exact ⟨_, h.write cycle' hcounts hcycle hattempts hresults hcalls, hcharged⟩

theorem Accounts.scanned {ledger : JsonDict}
    (h : Accounts settings.maxInvestigationsPerDay file (.scanning ledger) started skips l)
    (d : CycleDraws) :
    Turned settings.maxInvestigationsPerDay
      ((ProactiveCycle.scanning ledger).next py day settings d file) started skips l 0 := by
  have hledger := h.snapshot ledger rfl
  subst hledger
  simp only [ProactiveCycle.next]
  cases hgate : evaluateGate py settings l.dict d.hotspots with
  | error e => exact ⟨l, h.go (fun _ h => by cases h) le_rfl le_rfl le_rfl, fun _ h => h⟩
  | ok gate =>
    simp only []
    split
    · exact ⟨l, h.go (fun _ h => by cases h) le_rfl le_rfl le_rfl, fun _ h => h⟩
    · rename_i hallowed
      have hleft := evaluateGate_dict hgate (by omega)
      have hlength := List.length_take_le gate.maxInvestigations.toNat (gate.eligible.filter d.due)
      refine ⟨l, ⟨h.stores, h.counts, fun _ hscan => (by cases hscan), ?_, h.results, h.calls⟩,
        fun _ h => h⟩
      change l.attempts + (List.length _ : Nat) ≤ _
      omega

/-- The result of a call goes into the ledger, and the cycle goes on. -/
theorem Accounts.settles {result : InvestigatorResult} {rest : List Hotspot} {report : CycleReport}
    (h : Accounts limit file (.settling result rest report) started skips l) (delta : LedgerDelta)
    (report' : CycleReport)
    (hdelta : 0 ≤ delta.cycles ∧ 0 ≤ delta.investigations ∧ 0 ≤ delta.succeeded ∧
      0 ≤ delta.failed ∧ 0 ≤ delta.skipped)
    (hattempts : delta.attempts ≤ 0)
    (hresults : delta.succeeded + delta.failed ≤ delta.attempts + 1)
    (hcalls : 0 ≤ delta.attempts + (ProactiveCycle.settling result rest report).spare)
    (hcost : delta.costUsd = 0)
    (hheld : IsMicros (ProactiveCycle.settling result rest report).held →
      (ProactiveCycle.settling result rest report).held = report'.costUsd) :
    Turned limit ((writeLedger py day delta >>= fun _ => pure (.reserving rest report')) file)
      started skips l (ProactiveCycle.settling result rest report).held := by
  refine h.updates delta (.reserving rest report') hdelta (fun _ h => by cases h) ?_ ?_ hcalls
    (fun spent hcharged => ?_)
  · change delta.attempts + (rest.length : Nat) ≤ (rest.length : Nat)
    omega
  · change delta.succeeded + delta.failed + (0 : Nat) ≤ delta.attempts + (1 : Nat)
    omega
  · have hkept := hcharged.keep hcost
    rw [hheld hcharged.reported] at hkept
    exact hkept

theorem Accounts.settled {result : InvestigatorResult} {rest : List Hotspot} {report : CycleReport}
    (h : Accounts limit file (.settling result rest report) started skips l) (d : CycleDraws) :
    Turned limit ((ProactiveCycle.settling result rest report).next py day settings d file) started
      skips l (ProactiveCycle.settling result rest report).held := by
  cases result with
  | cancelled =>
    refine h.updates _ .idle (by simp) (fun _ h => by cases h) ?_ le_rfl le_rfl
      (fun _ hcharged => hcharged.keep rfl)
    simp [ProactiveCycle.remaining]
  | raised => exact h.settles _ report (by simp) le_rfl (by simp) (by simp) rfl (fun _ => rfl)
  | returned outcome =>
    cases outcome with
    | none => exact h.settles _ report (by simp) le_rfl (by simp) (by simp) rfl (fun _ => rfl)
    | some outcome =>
      have hcharge : outcome.status ≠ .skipped →
          IsMicros (ProactiveCycle.settling (.returned (some outcome)) rest report).held →
          (ProactiveCycle.settling (.returned (some outcome)) rest report).held =
            (report.charge outcome).costUsd := by
        intro hstatus hmicros
        rw [show (ProactiveCycle.settling (.returned (some outcome)) rest report).held =
          report.costUsd + outcome.costUsd from if_neg hstatus] at hmicros ⊢
        exact hmicros.round.symm
      simp only [ProactiveCycle.next]
      cases hstatus : outcome.status with
      | failed =>
        exact h.settles _ _ (by simp) le_rfl (by simp) (by simp) rfl (hcharge (by simp [hstatus]))
      | skipped =>
        refine h.settles _ report (by simp) (by simp) (by simp) ?_ rfl (fun _ => if_pos hstatus)
        simp [ProactiveCycle.spare, hstatus]
      | succeeded =>
        have hheld := hcharge (by simp [hstatus])
        simp only []
        cases outcome.handoffUrl.filter (· ≠ "") with
        | none => exact h.settles _ _ (by simp) le_rfl (by simp) (by simp) rfl hheld
        | some url => exact h.settles _ _ (by simp) le_rfl (by simp) (by simp) rfl hheld

/-- A call of the investigator ends. -/
theorem Accounts.awaited {hotspot : Hotspot} {rest : List Hotspot} {report : CycleReport}
    (h : Accounts limit file (.awaiting hotspot rest report) started skips l) (d : CycleDraws) :
    Accounts limit file (.settling d.result rest report) started
      (skips + skipsOf ((ProactiveCycle.awaiting hotspot rest report).outcome? d)) l := by
  refine h.go (fun _ h => by cases h) le_rfl le_rfl ?_
  have hspare : (ProactiveCycle.settling d.result rest report).spare =
      skipsOf ((ProactiveCycle.awaiting hotspot rest report).outcome? d) := by
    unfold ProactiveCycle.outcome? ProactiveCycle.spare skipsOf
    cases d.result with
    | returned outcome => cases outcome <;> rfl
    | raised | cancelled => rfl
  change started + (ProactiveCycle.settling d.result rest report).spare + skips ≤
    started + 0 + (skips + _)
  omega

theorem Charged.awaited {hotspot : Hotspot} {rest : List Hotspot} {report : CycleReport} {spent : ℚ}
    (h : Charged l report.costUsd spent) {d : CycleDraws}
    (hmicros : IsMicros ((ProactiveCycle.awaiting hotspot rest report).cost d))
    (hkeeps : ¬ (ProactiveCycle.awaiting hotspot rest report).Forgets d) :
    Charged l (ProactiveCycle.settling d.result rest report).held
      (spent + (ProactiveCycle.awaiting hotspot rest report).cost d) := by
  have hcovered := h.covered
  unfold ProactiveCycle.Forgets at hkeeps
  unfold ProactiveCycle.cost ProactiveCycle.outcome? at hmicros ⊢
  unfold ProactiveCycle.held
  cases hresult : d.result with
  | cancelled =>
    rw [hresult] at hkeeps
    refine ⟨h.recorded, IsMicros.zero, ?_⟩
    have hnothing : report.costUsd ≤ 0 := not_lt.1 hkeeps
    change spent + 0 ≤ l.costUsd + 0
    linarith
  | raised => exact ⟨h.recorded, h.reported, (add_zero spent).trans_le hcovered⟩
  | returned outcome =>
    cases outcome with
    | none => exact ⟨h.recorded, h.reported, (add_zero spent).trans_le hcovered⟩
    | some outcome =>
      rw [hresult] at hkeeps hmicros
      have hmicros : IsMicros outcome.costUsd := hmicros
      simp only [Option.map_some, Option.getD_some]
      split
      · rename_i hstatus
        have hnothing : outcome.costUsd ≤ 0 := not_lt.1 fun hpos => hkeeps ⟨hstatus, hpos⟩
        exact ⟨h.recorded, h.reported, by linarith⟩
      · exact ⟨h.recorded, h.reported.add hmicros, by linarith⟩

theorem Accounts.turn
    (h : Accounts settings.maxInvestigationsPerDay file cycle started skips l) (d : CycleDraws) :
    let r := cycle.next py day settings d file
    ∃ l', Accounts settings.maxInvestigationsPerDay r.2 (goto .idle r.1) (started + cycle.calls)
        (skips + skipsOf (cycle.outcome? d)) l' ∧
      ∀ spent, Charged l cycle.held spent → IsMicros (cycle.cost d) → ¬ cycle.Forgets d →
        Charged l' (goto .idle r.1).held (spent + cycle.cost d) := by
  -- a turn in which no call ends
  have hquiet : ∀ {r}, cycle.cost d = 0 → Turned settings.maxInvestigationsPerDay r started skips l
      cycle.held →
      ∃ l', Accounts settings.maxInvestigationsPerDay r.2 (goto .idle r.1) started skips l' ∧
        ∀ spent, Charged l cycle.held spent → IsMicros (cycle.cost d) → ¬ cycle.Forgets d →
          Charged l' (goto .idle r.1).held (spent + cycle.cost d) := by
    rintro r hcost ⟨l', haccounts, hcharged⟩
    refine ⟨l', haccounts, fun spent h _ _ => ?_⟩
    rw [hcost, add_zero]
    exact hcharged spent h
  cases cycle with
  | idle => exact hquiet rfl ⟨l, h, fun _ h => h⟩
  | scanning ledger => exact hquiet rfl (h.scanned d)
  | reserving fresh report =>
    refine hquiet rfl ?_
    cases fresh with
    | nil =>
      exact h.updates _ .reporting (by simp) (fun _ h => by cases h) le_rfl le_rfl le_rfl
        (fun _ hcharged => hcharged.write rfl)
    | cons hotspot rest =>
      refine h.updates _ (.calling hotspot rest report) (by simp) (fun _ h => by cases h) ?_ ?_ ?_
        (fun _ hcharged => hcharged.keep rfl)
      · simp only [ProactiveCycle.remaining, List.length_cons]
        omega
      · simp [ProactiveCycle.outstanding]
      · simp [ProactiveCycle.spare]
  | calling hotspot rest report =>
    refine ⟨l, h.go (fun _ h => by cases h) le_rfl le_rfl le_rfl, fun spent hcharged _ _ => ?_⟩
    exact (add_zero spent).symm ▸ hcharged
  | awaiting hotspot rest report => exact ⟨l, h.awaited d, fun _ hcharged => hcharged.awaited⟩
  | settling result rest report => exact hquiet rfl (h.settled d)
  | reporting => exact hquiet rfl ⟨l, h.go (fun _ h => by cases h) le_rfl le_rfl le_rfl, fun _ h => h⟩

theorem Accounts.start (h : Accounts limit file .idle started skips l) :
    let r := ProactiveCycle.start py day file
    Accounts limit r.2 (goto .idle r.1) started skips l ∧ goto .idle r.1 = .scanning l.dict := by
  simp only [ProactiveCycle.start, h.stores.load]
  refine ⟨⟨h.stores, h.counts, fun _ hscan => ?_, h.attempts, h.results, h.calls⟩, rfl⟩
  cases hscan
  rfl

theorem Accounts.abort (h : Accounts limit file cycle started skips l) :
    Accounts limit file .idle started skips l :=
  h.go (fun _ h => by cases h) (Nat.zero_le _) (Nat.zero_le _)
    (Nat.add_le_add_right (Nat.add_le_add_left (Nat.zero_le _) _) _)

theorem Accounts.step {sys t : BudgetSystem}
    (h : ∃ l, Accounts settings.maxInvestigationsPerDay sys.file sys.cycle sys.started sys.skips l)
    {label : CycleLabel} (hstep : cycleStep py day settings sys label t) :
    ∃ l, Accounts settings.maxInvestigationsPerDay t.file t.cycle t.started t.skips l := by
  obtain ⟨hallowed, rfl⟩ := hstep
  obtain ⟨l, h⟩ := h
  cases label with
  | start =>
    have hidle : sys.cycle = .idle := hallowed
    rw [hidle] at h
    exact ⟨l, h.start.1⟩
  | turn d =>
    obtain ⟨l', haccounts, -⟩ := h.turn d
    exact ⟨l', haccounts⟩
  | abort => exact ⟨l, h.abort⟩

theorem accounts_start (limit : Int) : Accounts limit .missing .idle 0 0 {} := by
  refine ⟨Or.inl ⟨rfl, rfl⟩, ⟨le_rfl, le_rfl, le_rfl, le_rfl, le_rfl, le_rfl⟩, ?_, ?_, le_rfl, le_rfl⟩
  · exact fun _ hscan => by cases hscan
  · exact le_max_left 0 _

/-- **Whatever the investigator does and wherever cycles end: the attempts of the day stay within
the limit, cover the successes and failures, and cover every call that was not skipped.** -/
theorem attempts_run {ls : List CycleLabel} {sys : BudgetSystem}
    (hrun : Run (cycleStep py day settings) {} ls sys) :
    WithinBudget (max 0 settings.maxInvestigationsPerDay) sys := by
  obtain ⟨l, h⟩ := hrun.invariant (fun _ _ _ h hstep => Accounts.step h hstep)
    ⟨_, accounts_start settings.maxInvestigationsPerDay⟩
  have hattempts := h.attempts
  have hresults := h.results
  have hcalls := h.calls
  exact ⟨l, h.stores, by omega, by omega, by omega⟩

end Counters

def sampleHotspot : Hotspot where
  ruleId := "disk_full"
  key := "web1:/var"
  category := .disk
  severity := .high
  score := 90
  title := "disk full"
  resource := "web1"
  summary := "disk full"
  evidence := []
  recommendedChecks := []
  suggestedSpecialist := .infrastructure

def oneADay : BudgetSettings := { shadow := false, maxInvestigationsPerDay := 1 }

/-- A cycle that investigates one hotspot. -/
def investigatingCycle (outcome : InvestigationOutcome) : List CycleLabel :=
  [.start, .turn { hotspots := [sampleHotspot] }, .turn {}, .turn {},
    .turn { result := .returned (some outcome) }, .turn {}, .turn {}, .turn {}]

def investigatedSystem : BudgetSystem :=
  (investigatingCycle { costUsd := 1 / 20 }).foldl
    (BudgetSystem.after asciiPython "2026-01-01" oneADay) {}

theorem attempts_run_investigated :
    WithinBudget (max 0 oneADay.maxInvestigationsPerDay) investigatedSystem ∧
      investigatedSystem.started = 1 :=
  ⟨attempts_run (Run.of_valid (p := CycleLabel.Allowed) (by decide +kernel)), by decide +kernel⟩

/-! ## A limit below zero -/

/-- The attempts and the cost that the gate reads. -/
def gateReads (py : Python) (day : String) (file : LedgerFile) : Option (Int × PyFloat) :=
  match loadLedger py day file with
  | .error _ => none
  | .ok ledger =>
    match pyInt py (ledger.get "attempts"), pyFloat py (ledger.get "cost_usd") with
    | .ok attempts, .ok cost => some (attempts, cost)
    | _, _ => none

theorem LedgerFile.Stores.gateReads {py : Python} {day : String} {file : LedgerFile} {l : Ledger}
    (h : file.Stores l) : gateReads py day file = some (l.attempts, .fin l.costUsd) := by
  unfold NocAgent.Proactive.gateReads
  rw [h.load]
  rfl

/-- A cycle that investigates nothing. -/
def emptyCycle : List CycleLabel := [.start, .turn {}, .turn {}]

def negativeBudget : BudgetSettings := { maxInvestigationsPerDay := -1 }

def negativeSystem : BudgetSystem :=
  emptyCycle.foldl (BudgetSystem.after asciiPython "2026-01-01" negativeBudget) {}

/-- No attempt is recorded, and that is more than the limit. -/
theorem not_withinBudget_negative :
    Run (cycleStep asciiPython "2026-01-01" negativeBudget) {} emptyCycle negativeSystem ∧
      ¬ WithinBudget negativeBudget.maxInvestigationsPerDay negativeSystem := by
  refine ⟨Run.of_valid (p := CycleLabel.Allowed) (by decide +kernel), ?_⟩
  rintro ⟨l, hstores, hattempts, -, -⟩
  have hreads : gateReads asciiPython "2026-01-01" negativeSystem.file = some (0, .fin 0) := by
    decide +kernel
  rw [hstores.gateReads] at hreads
  have hzero : l.attempts = 0 := congrArg Prod.fst (Option.some.inj hreads)
  have hlimit : l.attempts ≤ -1 := hattempts
  omega

/-! ## What was spent -/

/-- The label is in the domain of the amounts: what the investigator returns costs a whole number
of millionths. -/
def CycleLabel.Exact (sys : BudgetSystem) : CycleLabel → Prop
  | .turn d => IsMicros (sys.cycle.cost d)
  | .start | .abort => True

/-- The step ends in a cost that no later step writes: the cycle ends while it holds one, or what
the investigator returns was skipped and has one. -/
def CycleLabel.Forgets (sys : BudgetSystem) : CycleLabel → Prop
  | .start => False
  | .turn d => sys.cycle.Forgets d
  | .abort => 0 < sys.cycle.held

/-- Between cycles, the ledger has what was spent; the ledger that a cycle reads for its gate has it
too. -/
def SpentRecorded (sys : BudgetSystem) : Prop :=
  match sys.cycle with
  | .idle => ∃ l, sys.file.Stores l ∧ sys.spent ≤ l.costUsd
  | .scanning ledger => ∃ l : Ledger, ledger = l.dict ∧ sys.spent ≤ l.costUsd
  | _ => True

/-- What a run keeps while no cycle forgets a cost. -/
def Recorded (limit : Int) (sys : BudgetSystem) : Prop :=
  ∃ l, Accounts limit sys.file sys.cycle sys.started sys.skips l ∧ Charged l sys.cycle.held sys.spent

section Spending

variable {py : Python} {day : String} {settings : BudgetSettings} {sys t : BudgetSystem}

theorem Recorded.step (h : Recorded settings.maxInvestigationsPerDay sys) {label : CycleLabel}
    (hexact : label.Exact sys) (hkeeps : ¬ label.Forgets sys)
    (hstep : cycleStep py day settings sys label t) :
    Recorded settings.maxInvestigationsPerDay t := by
  obtain ⟨hallowed, rfl⟩ := hstep
  obtain ⟨l, haccounts, hcharged⟩ := h
  cases label with
  | start =>
    have hidle : sys.cycle = .idle := hallowed
    rw [hidle] at haccounts hcharged
    obtain ⟨haccounts, hscan⟩ := haccounts.start
    refine ⟨l, haccounts, ?_⟩
    change Charged l (goto .idle (ProactiveCycle.start py day sys.file).1).held sys.spent
    rw [hscan]
    exact hcharged
  | turn d =>
    obtain ⟨l', haccounts, hturn⟩ := haccounts.turn d
    exact ⟨l', haccounts, hturn _ hcharged hexact hkeeps⟩
  | abort =>
    have hnothing : sys.cycle.held ≤ 0 := not_lt.1 hkeeps
    have hcovered := hcharged.covered
    refine ⟨l, haccounts.abort, hcharged.recorded, IsMicros.zero, ?_⟩
    change sys.spent ≤ l.costUsd + 0
    linarith

theorem Recorded.spent {limit : Int} (h : Recorded limit sys) : SpentRecorded sys := by
  obtain ⟨l, haccounts, hcharged⟩ := h
  have hcovered := hcharged.covered
  unfold SpentRecorded
  split
  · rename_i hcycle
    rw [hcycle] at hcovered
    exact ⟨l, haccounts.stores, hcovered.trans_eq (add_zero _)⟩
  · rename_i ledger hcycle
    rw [hcycle] at hcovered
    exact ⟨l, haccounts.snapshot ledger hcycle, hcovered.trans_eq (add_zero _)⟩
  · trivial

/-- **As long as no cycle ends while it holds a cost, and nothing skipped has a cost: between cycles
the ledger has all that was spent, and so has the ledger that the gate reads.** -/
theorem spent_run {ls : List CycleLabel}
    (hrun : Run (Guarded (cycleStep py day settings)
      fun sys label => label.Exact sys ∧ ¬ label.Forgets sys) {} ls sys) :
    SpentRecorded sys := by
  have hstart : Recorded settings.maxInvestigationsPerDay {} :=
    ⟨_, accounts_start _, IsMicros.zero, IsMicros.zero, (add_zero (0 : ℚ)).ge⟩
  have hrecorded := hrun.invariant (I := Recorded settings.maxInvestigationsPerDay)
    (fun _ _ _ h hstep => h.step hstep.1.1 hstep.1.2 hstep.2) hstart
  exact hrecorded.spent

end Spending

/-! ## A cycle that is cancelled -/

theorem isMicros_iff {q : ℚ} : IsMicros q ↔ 0 ≤ q ∧ (q * 1000000).den = 1 := by
  constructor
  · intro h
    obtain ⟨n, rfl⟩ := h
    have hwhole : (n / 1000000 : ℚ) * 1000000 = n := by field_simp
    rw [hwhole]
    exact ⟨by positivity, Rat.den_natCast n⟩
  · rintro ⟨hnonneg, hden⟩
    obtain ⟨n, hn⟩ := Int.eq_ofNat_of_zero_le
      (Rat.num_nonneg.2 (by positivity : 0 ≤ q * 1000000))
    have hwhole : q * 1000000 = n := by
      rw [← Rat.num_div_den (q * 1000000), hn, hden]
      simp
    exact ⟨n, by rw [← hwhole]; field_simp⟩

instance (q : ℚ) : Decidable (IsMicros q) := decidable_of_iff _ isMicros_iff.symm

instance (sys : BudgetSystem) (l : CycleLabel) : Decidable (l.Exact sys) := by
  unfold CycleLabel.Exact
  cases l <;> infer_instance

instance (d : CycleDraws) (cycle : ProactiveCycle) : Decidable (cycle.Forgets d) := by
  unfold ProactiveCycle.Forgets
  cases cycle with
  | awaiting _ _ report =>
    cases d.result with
    | returned outcome => cases outcome <;> infer_instance
    | raised | cancelled => infer_instance
  | _ => infer_instance

instance (sys : BudgetSystem) (l : CycleLabel) : Decidable (l.Forgets sys) := by
  unfold CycleLabel.Forgets
  cases l <;> infer_instance

/-- A run that is computed, with a guard that is. -/
theorem guarded_valid {day : String} {settings : BudgetSettings}
    {guard : BudgetSystem → CycleLabel → Prop} {ls : List CycleLabel}
    (h : Valid (fun sys label => guard sys label ∧ label.Allowed sys)
      (BudgetSystem.after asciiPython day settings) {} ls) :
    Run (Guarded (cycleStep asciiPython day settings) guard) {} ls
      (ls.foldl (BudgetSystem.after asciiPython day settings) {}) :=
  (Run.of_valid h).carry (I := fun _ => True)
    (fun _ _ _ _ hstep => ⟨trivial, hstep.1.1, hstep.1.2, hstep.2⟩) trivial

theorem spent_run_investigated :
    SpentRecorded investigatedSystem ∧ investigatedSystem.spent = 1 / 20 :=
  ⟨spent_run (guarded_valid (by decide +kernel)), by decide +kernel⟩

def twoADay : BudgetSettings where
  shadow := false
  maxInvestigationsPerCycle := 2
  maxInvestigationsPerDay := 2

/-- The first investigation returns, the second is cancelled. -/
def cancelledCycle : List CycleLabel :=
  [.start, .turn { hotspots := [sampleHotspot, { sampleHotspot with key := "web1:/home" }] }, .turn {}, .turn {},
    .turn { result := .returned (some { costUsd := 1 / 20 }) }, .turn {}, .turn {}, .turn {},
    .turn { result := .cancelled }, .turn {}]

def cancelledSystem : BudgetSystem :=
  cancelledCycle.foldl (BudgetSystem.after asciiPython "2026-01-01" twoADay) {}

/-- The attempts are recorded, and the cost of the first is not. -/
theorem not_spentRecorded_cancelled :
    Run (Guarded (cycleStep asciiPython "2026-01-01" twoADay) fun sys label => label.Exact sys) {}
        cancelledCycle cancelledSystem ∧
      ¬ SpentRecorded cancelledSystem := by
  refine ⟨guarded_valid (by decide +kernel), fun h => ?_⟩
  have hidle : cancelledSystem.cycle = .idle := by decide +kernel
  unfold SpentRecorded at h
  rw [hidle] at h
  obtain ⟨l, hstores, hspent⟩ := h
  have hreads : gateReads asciiPython "2026-01-01" cancelledSystem.file = some (2, .fin 0) := by
    decide +kernel
  have hcost : cancelledSystem.spent = 1 / 20 := by decide +kernel
  rw [hstores.gateReads] at hreads
  have hzero : l.costUsd = 0 := PyFloat.fin.inj (congrArg Prod.snd (Option.some.inj hreads))
  rw [hzero, hcost] at hspent
  norm_num at hspent

end NocAgent.Proactive
