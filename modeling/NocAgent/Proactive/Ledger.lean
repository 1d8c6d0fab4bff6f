import NocAgent.Lib.Action
import NocAgent.Proactive.Hotspot
import Mathlib.Data.List.Sort
import Mathlib.Data.Rat.Floor
import Mathlib.Tactic.FieldSimp
import Mathlib.Tactic.Ring

/-!
# The daily budget ledger

* `loadLedger`, `updateLedger` — the ledger file of a day, read and rewritten as a whole.
* `evaluateGate` — how many hotspots a cycle may investigate.
* `Ledger` — the numbers of a ledger that `update_ledger` has written; `Stores.load` and
  `Stores.update` say what reading and updating make of them.
* `IsMicros` — the amounts that rounding to six digits leaves as they are.
-/

set_option autoImplicit false

namespace NocAgent.Proactive

/-- `int(x)`. -/
def pyInt (py : Python) : Json → Except PyExc Int
  | .bool b => .ok (if b then 1 else 0)
  | .int n => .ok n
  | .float x => x.toInt
  | .str s =>
    match py.parseInt s with
    | some n => .ok n
    | none => .error .valueError
  | _ => .error .typeError

/-- `round(q, 6)`: to the even neighbour from the middle. -/
def roundMicros (q : ℚ) : ℚ :=
  let n := ⌊q * 1000000⌋
  let rest := q * 1000000 - n
  let rounded := if rest < 1 / 2 then n else if 1 / 2 < rest then n + 1 else if 2 ∣ n then n else n + 1
  rounded / 1000000

/-- `round(x + cost, 6)`. -/
def addCost (cost : ℚ) : PyFloat → PyFloat
  | .fin q => .fin (roundMicros (q + cost))
  | x => x

/-! ## The file -/

inductive LedgerFile where
  | missing
  /-- it cannot be read, or is no JSON -/
  | unreadable
  | json (x : Json)

def emptyLedger : JsonDict :=
  [("cycles", .int 0), ("investigations", .int 0), ("attempts", .int 0), ("succeeded", .int 0),
    ("failed", .int 0), ("skipped", .int 0), ("cost_usd", .float (.fin 0)), ("handoffs", .int 0)]

/-- What is added to the ledger of a day. -/
structure LedgerDelta where
  cycles : Int := 0
  investigations : Int := 0
  attempts : Int := 0
  succeeded : Int := 0
  failed : Int := 0
  skipped : Int := 0
  costUsd : ℚ := 0
  handoffs : Int := 0

section Ledgers

variable (py : Python) (day : String)

def corruptLedger (text : String) : PyExc :=
  .named "CorruptLedgerError" (text ++ " proactive budget ledger ledger-" ++ day ++ ".json")

/-- A ledger from before attempts were counted counts its investigations. -/
def migrateLedger (loaded : JsonDict) (key : String) (merged : JsonDict) : Except PyExc JsonDict :=
  if loaded.has key then .ok merged
  else
    match pyInt py (merged.get "investigations") with
    | .error e => .error e
    | .ok n => .ok (dictPut merged key (.int n))

def loadLedger : LedgerFile → Except PyExc JsonDict
  | .missing => .ok emptyLedger
  | .unreadable => .error (corruptLedger day "cannot read")
  | .json x =>
    match x.dict? with
    | none => .error (corruptLedger day "invalid")
    | some loaded =>
      let merged := emptyLedger.map fun kv => (kv.1, loaded.getD kv.1 kv.2)
      match migrateLedger py loaded "attempts" merged with
      | .error e => .error e
      | .ok merged => migrateLedger py loaded "succeeded" merged

/-- `ledger[key] = int(ledger.get(key, 0)) + n`. -/
def bump (key : String) (n : Int) (ledger : JsonDict) : Except PyExc JsonDict :=
  match pyInt py (ledger.getD key (.int 0)) with
  | .error e => .error e
  | .ok m => .ok (dictPut ledger key (.int (m + n)))

/-- `int(ledger[key]) < 0`. -/
def isNegative (ledger : JsonDict) (key : String) : Bool :=
  match pyInt py (ledger.get key) with
  | .error _ => false
  | .ok n => n < 0

def LEDGER_COUNTERS : List String :=
  ["cycles", "investigations", "attempts", "succeeded", "failed", "skipped"]

/-- The ledger that `update_ledger` writes and returns. -/
def updateLedger (file : LedgerFile) (delta : LedgerDelta) : Except PyExc JsonDict := do
  let ledger ← loadLedger py day file
  let ledger ← bump py "cycles" delta.cycles ledger
  let ledger ← bump py "investigations" delta.investigations ledger
  let ledger ← bump py "attempts" delta.attempts ledger
  let ledger ← bump py "succeeded" delta.succeeded ledger
  let ledger ← bump py "failed" delta.failed ledger
  let ledger ← bump py "skipped" delta.skipped ledger
  if LEDGER_COUNTERS.any (isNegative py ledger) then .error .valueError
  else
    let cost ← pyFloat py (ledger.getD "cost_usd" (.float (.fin 0)))
    bump py "handoffs" delta.handoffs
      (dictPut ledger "cost_usd" (.float (addCost delta.costUsd cost)))

end Ledgers

/-! ## The gate -/

/-- The part of `ProactiveLoopSettings` that budgets investigations. -/
structure BudgetSettings where
  shadow : Bool := true
  severityFloor : String := "MEDIUM"
  maxInvestigationsPerCycle : Int := 1
  maxInvestigationsPerDay : Int := 12
  maxCostUsdPerDay : PyFloat := .fin 10

/-- What the gate allows a cycle. -/
structure GateDecision where
  maxInvestigations : Int
  overBudget : Bool := false
  eligible : List Hotspot := []

/-- `x >= y`, for floats. -/
def PyFloat.geFloat (x : PyFloat) : PyFloat → Bool
  | .nan => false
  | .fin q => x.ge q
  | .inf true => x ≠ .nan
  | .inf false => x = .inf false

def Severity.text : Severity → String
  | .high => "HIGH"
  | .medium => "MEDIUM"
  | .low => "LOW"

section Gate

variable (py : Python) (settings : BudgetSettings)

def severityRank (severity : String) : Nat :=
  match py.upper severity with
  | "LOW" => 1
  | "MEDIUM" => 2
  | "HIGH" => 3
  | _ => 0

def eligibleHotspots (hotspots : List Hotspot) : List Hotspot :=
  let floor := severityRank py settings.severityFloor
  (hotspots.filter fun h => floor ≤ severityRank py (Severity.text h.severity)).insertionSort
    fun a b => b.score ≤ a.score

def evaluateGate (ledger : JsonDict) (hotspots : List Hotspot) : Except PyExc GateDecision :=
  let eligible := eligibleHotspots py settings hotspots
  if settings.shadow then .ok { maxInvestigations := 0, eligible := eligible }
  else if eligible = [] then .ok { maxInvestigations := 0, eligible := eligible }
  else
    match pyFloat py (ledger.getD "cost_usd" (.float (.fin 0))) with
    | .error e => .error e
    | .ok spentCost =>
      if PyFloat.geFloat spentCost settings.maxCostUsdPerDay then
        .ok { maxInvestigations := 0, overBudget := true, eligible := eligible }
      else
        match pyInt py (ledger.getD "attempts" (ledger.getD "investigations" (.int 0))) with
        | .error e => .error e
        | .ok attemptsToday =>
          let remainingDay := settings.maxInvestigationsPerDay - attemptsToday
          if remainingDay ≤ 0 then
            .ok { maxInvestigations := 0, overBudget := true, eligible := eligible }
          else
            .ok {
              maxInvestigations := min (min settings.maxInvestigationsPerCycle remainingDay)
                eligible.length
              eligible := eligible }

end Gate

/-! ## Ledgers as numbers -/

/-- What a day has spent. -/
structure Ledger where
  cycles : Int := 0
  investigations : Int := 0
  attempts : Int := 0
  succeeded : Int := 0
  failed : Int := 0
  skipped : Int := 0
  costUsd : ℚ := 0
  handoffs : Int := 0

def Ledger.dict (l : Ledger) : JsonDict :=
  [("cycles", .int l.cycles), ("investigations", .int l.investigations),
    ("attempts", .int l.attempts), ("succeeded", .int l.succeeded), ("failed", .int l.failed),
    ("skipped", .int l.skipped), ("cost_usd", .float (.fin l.costUsd)), ("handoffs", .int l.handoffs)]

def Ledger.add (l : Ledger) (delta : LedgerDelta) : Ledger where
  cycles := l.cycles + delta.cycles
  investigations := l.investigations + delta.investigations
  attempts := l.attempts + delta.attempts
  succeeded := l.succeeded + delta.succeeded
  failed := l.failed + delta.failed
  skipped := l.skipped + delta.skipped
  costUsd := roundMicros (l.costUsd + delta.costUsd)
  handoffs := l.handoffs + delta.handoffs

/-- No counter is negative. -/
structure Ledger.Counts (l : Ledger) : Prop where
  cycles : 0 ≤ l.cycles
  investigations : 0 ≤ l.investigations
  attempts : 0 ≤ l.attempts
  succeeded : 0 ≤ l.succeeded
  failed : 0 ≤ l.failed
  skipped : 0 ≤ l.skipped

/-- The file has the numbers; a missing file has none. -/
def LedgerFile.Stores (file : LedgerFile) (l : Ledger) : Prop :=
  file = .missing ∧ l = {} ∨ file = .json (.dict l.dict)

section Numbers

variable {py : Python} {day : String} {file : LedgerFile} {l : Ledger}

theorem LedgerFile.Stores.load (h : file.Stores l) : loadLedger py day file = .ok l.dict := by
  rcases h with ⟨rfl, rfl⟩ | rfl <;> rfl

theorem stores_json (l : Ledger) : (LedgerFile.json (.dict l.dict)).Stores l := Or.inr rfl

theorem not_isNegative_dict (h : l.Counts) : LEDGER_COUNTERS.any (isNegative py l.dict) = false := by
  have hcounts : ∀ key ∈ LEDGER_COUNTERS, ∃ n, 0 ≤ n ∧ pyInt py (l.dict.get key) = .ok n := by
    intro key hkey
    simp only [LEDGER_COUNTERS, List.mem_cons, List.not_mem_nil, or_false] at hkey
    rcases hkey with rfl | rfl | rfl | rfl | rfl | rfl
    · exact ⟨_, h.cycles, rfl⟩
    · exact ⟨_, h.investigations, rfl⟩
    · exact ⟨_, h.attempts, rfl⟩
    · exact ⟨_, h.succeeded, rfl⟩
    · exact ⟨_, h.failed, rfl⟩
    · exact ⟨_, h.skipped, rfl⟩
  rw [List.any_eq_false]
  intro key hkey
  obtain ⟨n, hn, hint⟩ := hcounts key hkey
  unfold isNegative
  rw [hint]
  simpa using hn

/-- **An update adds to the numbers.** -/
theorem LedgerFile.Stores.update (h : file.Stores l) {delta : LedgerDelta}
    (hcounts : (l.add delta).Counts) : updateLedger py day file delta = .ok (l.add delta).dict := by
  unfold updateLedger
  rw [h.load]
  -- the counters are checked before the cost and the handoffs are added
  let counted : Ledger := { l.add delta with
    costUsd := l.costUsd
    handoffs := l.handoffs }
  have hnegative : LEDGER_COUNTERS.any (isNegative py counted.dict) = false := by
    refine not_isNegative_dict ⟨?_, ?_, ?_, ?_, ?_, ?_⟩
    · exact hcounts.cycles
    · exact hcounts.investigations
    · exact hcounts.attempts
    · exact hcounts.succeeded
    · exact hcounts.failed
    · exact hcounts.skipped
  change (if LEDGER_COUNTERS.any (isNegative py counted.dict) then Except.error PyExc.valueError
    else _) = _
  rw [hnegative]
  rfl

/-- The gate leaves no more investigations than the day has attempts left. -/
theorem evaluateGate_dict {settings : BudgetSettings} {hotspots : List Hotspot} {gate : GateDecision}
    (h : evaluateGate py settings l.dict hotspots = .ok gate) (hallowed : 0 < gate.maxInvestigations) :
    gate.maxInvestigations ≤ settings.maxInvestigationsPerDay - l.attempts := by
  unfold evaluateGate at h
  dsimp only at h
  have hnone : ∀ gate : GateDecision, gate.maxInvestigations = 0 → ¬ 0 < gate.maxInvestigations :=
    fun _ hzero hpos => by omega
  split at h
  · cases h
    exact absurd hallowed (hnone _ rfl)
  split at h
  · cases h
    exact absurd hallowed (hnone _ rfl)
  split at h
  · cases h
  split at h
  · cases h
    exact absurd hallowed (hnone _ rfl)
  split at h
  · cases h
  rename_i attemptsToday hattempts
  have hattempts : l.attempts = attemptsToday := Except.ok.inj hattempts
  split at h
  · cases h
    exact absurd hallowed (hnone _ rfl)
  · cases h
    rw [hattempts]
    exact (min_le_left _ _).trans (min_le_right _ _)

/-! ## Amounts -/

/-- A whole number of millionths. -/
def IsMicros (q : ℚ) : Prop := ∃ n : Nat, q = n / 1000000

theorem IsMicros.zero : IsMicros 0 := ⟨0, by norm_num⟩

theorem IsMicros.add {a b : ℚ} (ha : IsMicros a) (hb : IsMicros b) : IsMicros (a + b) := by
  obtain ⟨m, rfl⟩ := ha
  obtain ⟨n, rfl⟩ := hb
  exact ⟨m + n, by push_cast; ring⟩

/-- **Such an amount is its own rounding.** -/
theorem IsMicros.round {a : ℚ} (ha : IsMicros a) : roundMicros a = a := by
  obtain ⟨n, rfl⟩ := ha
  have hwhole : (n / 1000000 : ℚ) * 1000000 = n := by field_simp
  have hfloor : ⌊(n : ℚ)⌋ = n := Int.floor_natCast n
  unfold roundMicros
  simp only [hwhole, hfloor, Int.cast_natCast, sub_self]
  norm_num

end Numbers

end NocAgent.Proactive
