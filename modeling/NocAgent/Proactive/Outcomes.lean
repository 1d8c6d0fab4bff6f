import NocAgent.Lib.Table
import NocAgent.Python.Value
import Mathlib.Data.List.Sort

/-!
# Evaluating predictions

Every deep cycle compares the recorded predictions with the alerts that followed, and proposes a
lesson for each rule that has enough confirmed ones.

* `classifyObservation` — `classify_observation`.
* `evaluateOutcomes` — `ProactiveMemory.evaluate_outcomes` on the directory of the memory.
* `Settled` — no observation changes its outcome; `Reached` — the rule has enough confirmed ones.
* `evaluateOutcomes_again_iff` — for every directory and all alerts, an evaluation in which no
  observation changes leaves the observations and every stored lesson as they were exactly when no
  rule that has reached the threshold has a stored lesson yet.
-/

set_option autoImplicit false

namespace NocAgent.Proactive

open Keyed

/-! ## Observations -/

/-- The fields of a row of `observations.jsonl` that are read. -/
structure ObservationRow where
  createdAt : String
  ruleId : String := ""
  fingerprint : String := ""
  resource : String := ""
  incidentId : Option String := none
  /-- empty while there is none -/
  outcome : String := ""
  deriving DecidableEq

inductive ObservationLine where
  | row (row : ObservationRow)
  /-- blank, or no JSON -/
  | unreadable
  deriving DecidableEq

/-- An alert that did fire. -/
structure RealAlert where
  resource : String
  /-- in seconds -/
  ts : ℚ
  source : String
  alertname : String := ""

inductive PredictionOutcome where
  | pending
  | confirmed
  | unconfirmed
  deriving DecidableEq, Repr

def PredictionOutcome.text : PredictionOutcome → String
  | .pending => "pending"
  | .confirmed => "confirmed"
  | .unconfirmed => "unconfirmed"

/-- The arguments of `evaluate_outcomes`, with their defaults. -/
structure EvaluationSettings where
  windowH : ℚ := 6
  minAgeH : ℚ := 2
  confirmThreshold : Int := 2

section Classify

variable (py : Python)

/-- `_parse_ts` of a text, in seconds. -/
def parseTs (value : String) : Option ℚ :=
  if value = "" then none else (py.parseIso value).map fun t => t / 1000000

def classifyObservation (settings : EvaluationSettings) (realAlerts : List RealAlert) (now : ℚ)
    (obs : ObservationRow) : PredictionOutcome :=
  match parseTs py obs.createdAt with
  | none => .pending
  | some detected =>
    if (now - detected) / 3600 < settings.minAgeH then .pending
    else
      let windowEnd := detected + settings.windowH * 3600
      if realAlerts.any fun alert => alert.source ≠ "proactive" && alert.resource = obs.resource &&
        detected ≤ alert.ts && alert.ts ≤ windowEnd then .confirmed
      else if windowEnd ≤ now then .unconfirmed
      else .pending

end Classify

/-! ## Lessons -/

inductive LessonType where
  | scanTuning
  | runbook
  | threshold
  deriving DecidableEq, Repr

def LessonType.text : LessonType → String
  | .scanTuning => "scan_tuning"
  | .runbook => "runbook"
  | .threshold => "threshold"

inductive LessonStatus where
  | candidate
  | validatedAdvisory
  | approvedPolicy
  | deprecated
  | reverted
  deriving DecidableEq, Repr

inductive LessonSource where
  | outcomeEval
  | operator
  deriving DecidableEq, Repr

/-- A lesson that is proposed. -/
structure CandidateLesson where
  lessonId : String
  createdAt : String
  lessonType : LessonType := .runbook
  scope : JsonDict := []
  claim : String := ""
  evidence : List String := []
  confidence : ℚ := 0
  occurrences : Int := 1
  source : LessonSource := .outcomeEval
  status : LessonStatus := .candidate

/-- A file under `proposals/`. -/
inductive ProposalFile where
  | absent
  /-- it does not parse as a lesson -/
  | corrupt
  | lesson (lesson : CandidateLesson)

/-- `observations.jsonl`, if there is one, and the files under `proposals/` by their names. -/
structure MemoryDir where
  observations : Option (List ObservationLine)
  proposals : String → ProposalFile

def _MAX_OBSERVATIONS : Nat := 2000

/-- `rows[-_MAX_OBSERVATIONS:]`. -/
def lastRows (rows : List ObservationRow) : List ObservationRow :=
  rows.drop (rows.length - _MAX_OBSERVATIONS)

namespace MemoryDir

/-- `load_observations`. -/
def loadObservations (dir : MemoryDir) : List ObservationRow :=
  lastRows ((dir.observations.getD []).filterMap fun
    | .row row => some row
    | .unreadable => none)

/-- `_rewrite_observations`. -/
def rewriteObservations (dir : MemoryDir) (rows : List ObservationRow) : MemoryDir :=
  { dir with observations := some ((lastRows rows).map .row) }

end MemoryDir

section Evaluate

variable (py : Python)

/-- `_scope_key`. -/
def scopeKey (lessonType : LessonType) (scope : JsonDict) : String :=
  lessonType.text ++ "-" ++ takeChars 16 (py.sha256 (py.dumps (.dict scope)))

/-- What `propose_lesson` writes: a stored lesson of the scope is met once more. -/
def mergedLesson (file : ProposalFile) (candidate : CandidateLesson) : CandidateLesson :=
  match file with
  | .lesson existing => { existing with
      occurrences := existing.occurrences + 1
      evidence := (existing.evidence ++ candidate.evidence).eraseDups
      confidence := max existing.confidence candidate.confidence }
  | _ => candidate

/-- `propose_lesson`. -/
def proposeLesson (candidate : CandidateLesson) (dir : MemoryDir) : CandidateLesson × MemoryDir :=
  let path := scopeKey py candidate.lessonType candidate.scope
  let stored := mergedLesson (dir.proposals path) candidate
  (stored, { dir with proposals := Function.update dir.proposals path (.lesson stored) })

/-- The rules under which observations were confirmed, in the order of the dict. -/
abbrev Confirmations := Table (Prod.fst : String × List ObservationRow → String)

def Confirmations.of (confirmed : Confirmations) (ruleId : String) : List ObservationRow :=
  ((confirmed.get? ruleId).map Prod.snd).getD []

/-- `confirmed_by_rule.setdefault(rule_id, []).append(row)`. -/
def Confirmations.add (confirmed : Confirmations) (row : ObservationRow) : Confirmations :=
  confirmed.put (row.ruleId, confirmed.of row.ruleId ++ [row])

/-- Where the loop over the rows is. -/
structure Tally where
  confirmed : Confirmations := Table.empty
  rows : List ObservationRow := []
  changed : Bool := false

def tallyRow (classify : ObservationRow → PredictionOutcome) (tally : Tally)
    (row : ObservationRow) : Tally :=
  if row.outcome ≠ "" then { tally with
    confirmed := if row.outcome = "confirmed" then tally.confirmed.add row else tally.confirmed
    rows := tally.rows ++ [row] }
  else
    match classify row with
    | .pending => { tally with rows := tally.rows ++ [row] }
    | .unconfirmed => { tally with
        rows := tally.rows ++ [{ row with outcome := "unconfirmed" }]
        changed := true }
    | .confirmed => {
        confirmed := tally.confirmed.add { row with outcome := "confirmed" }
        rows := tally.rows ++ [{ row with outcome := "confirmed" }]
        changed := true }

/-- `c.get("incident_id") or c.get("fingerprint", "")`. -/
def ObservationRow.evidence (row : ObservationRow) : String :=
  let incidentId := row.incidentId.getD ""
  if incidentId = "" then row.fingerprint else incidentId

/-- The lesson of a rule; `draw` is its id and when it is created. -/
def outcomeLesson (draw : String × String) (ruleId : String)
    (confirmations : List ObservationRow) : CandidateLesson where
  lessonId := draw.1
  createdAt := draw.2
  lessonType := .scanTuning
  scope := [("rule_id", .str ruleId)]
  claim := "Proactive rule '" ++ ruleId ++ "' has confirmed " ++ toString confirmations.length ++
    " predictions (hotspot preceded a real alert). " ++
    "Consider promoting it to an earlier/automatic action."
  evidence := ((confirmations.map ObservationRow.evidence).dedup.insertionSort (· ≤ ·)).filter
    fun e => e ≠ ""
  confidence := min (1 / 2 + confirmations.length / 10) (19 / 20)
  occurrences := confirmations.length
  source := .outcomeEval
  status := .candidate

/-- The proposals for the rules that have enough confirmations. -/
def proposeAll (settings : EvaluationSettings) (draws : String → String × String) :
    List (String × List ObservationRow) → MemoryDir → List CandidateLesson × MemoryDir
  | [], dir => ([], dir)
  | (ruleId, confirmations) :: rest, dir =>
    if (confirmations.length : Int) < settings.confirmThreshold then
      proposeAll settings draws rest dir
    else
      let proposed := proposeLesson py (outcomeLesson (draws ruleId) ruleId confirmations) dir
      let others := proposeAll settings draws rest proposed.2
      (proposed.1 :: others.1, others.2)

/-- `evaluate_outcomes`, with what `_collect_real_alerts` returns or raises. -/
def evaluateOutcomes (settings : EvaluationSettings) (now : ℚ)
    (realAlerts : Except PyExc (List RealAlert)) (draws : String → String × String)
    (dir : MemoryDir) : List CandidateLesson × MemoryDir :=
  let rows := dir.loadObservations
  if rows = [] then ([], dir)
  else
    match realAlerts with
    | .error _ => ([], dir)
    | .ok realAlerts =>
      let tally := rows.foldl (tallyRow (classifyObservation py settings realAlerts now)) {}
      let dir := if tally.changed then dir.rewriteObservations tally.rows else dir
      proposeAll py settings draws tally.confirmed.rows dir

end Evaluate

/-! ## The property -/

/-- The observations and every stored lesson are as before. -/
structure Leaves (before after : MemoryDir) : Prop where
  observations : after.observations = before.observations
  lessons : ∀ path lesson, before.proposals path = .lesson lesson →
    after.proposals path = .lesson lesson

/-- No observation changes its outcome. -/
def Settled (py : Python) (settings : EvaluationSettings) (now : ℚ) (realAlerts : List RealAlert)
    (dir : MemoryDir) : Prop :=
  ∀ row ∈ dir.loadObservations, row.outcome = "" →
    classifyObservation py settings realAlerts now row = .pending

/-- The rows of the rule that were confirmed. -/
def confirmedOf (rows : List ObservationRow) (ruleId : String) : List ObservationRow :=
  rows.filter fun row => row.outcome = "confirmed" ∧ row.ruleId = ruleId

/-- The rule has as many confirmed observations as a lesson takes. -/
def Reached (settings : EvaluationSettings) (dir : MemoryDir) (ruleId : String) : Prop :=
  confirmedOf dir.loadObservations ruleId ≠ [] ∧
    settings.confirmThreshold ≤ (confirmedOf dir.loadObservations ruleId).length

/-- Where the lesson of a rule is stored. -/
def lessonPath (py : Python) (ruleId : String) : String :=
  scopeKey py .scanTuning [("rule_id", .str ruleId)]

/-! ## The loop over the rows -/

section Rows

theorem get?_foldl_add (ruleId : String) : ∀ (rows : List ObservationRow)
    (confirmed : Confirmations), (rows.foldl Confirmations.add confirmed).get? ruleId =
      if rows.filter (fun row => row.ruleId = ruleId) = [] then confirmed.get? ruleId
      else some (ruleId, confirmed.of ruleId ++ rows.filter fun row => row.ruleId = ruleId)
  | [], _ => rfl
  | row :: rows, confirmed => by
    have hput : (confirmed.add row).get? ruleId = if row.ruleId = ruleId then
        some (row.ruleId, confirmed.of row.ruleId ++ [row]) else confirmed.get? ruleId :=
      Table.get?_put _ _ _
    rw [List.foldl_cons, get?_foldl_add ruleId rows]
    by_cases hrule : row.ruleId = ruleId
    · subst hrule
      rw [if_pos rfl] at hput
      have hof : (confirmed.add row).of row.ruleId = confirmed.of row.ruleId ++ [row] := by
        unfold Confirmations.of at hput ⊢
        rw [hput]
        rfl
      rw [hput, hof]
      by_cases hnil : rows.filter (fun other => other.ruleId = row.ruleId) = []
      · simp [hnil]
      · simp [hnil]
    · rw [if_neg hrule] at hput
      have hof : (confirmed.add row).of ruleId = confirmed.of ruleId := by
        unfold Confirmations.of
        rw [hput]
      rw [hput, hof, List.filter_cons_of_neg (by simpa using hrule)]

/-- **The dict has the rules of the rows, each with its rows.** -/
theorem mem_foldl_add {rows confirmations : List ObservationRow} {ruleId : String} :
    (ruleId, confirmations) ∈ (rows.foldl Confirmations.add Table.empty).rows ↔
      confirmations = rows.filter (fun row => row.ruleId = ruleId) ∧ confirmations ≠ [] := by
  rw [Table.mem_rows_iff, get?_foldl_add]
  split
  · rename_i hnil
    rw [hnil]
    refine iff_of_false (by simp) ?_
    rintro ⟨rfl, hne⟩
    exact hne rfl
  · rename_i hne
    rw [Option.some.injEq, Prod.mk.injEq]
    change (ruleId = ruleId ∧
      [] ++ rows.filter (fun row => row.ruleId = ruleId) = confirmations) ↔ _
    rw [List.nil_append]
    constructor
    · rintro ⟨-, rfl⟩
      exact ⟨rfl, hne⟩
    · rintro ⟨rfl, -⟩
      exact ⟨rfl, rfl⟩

/-- When no row changes, the loop collects the rows that were confirmed before. -/
theorem foldl_tallyRow {classify : ObservationRow → PredictionOutcome} :
    ∀ (rows : List ObservationRow) (tally : Tally),
      (∀ row ∈ rows, row.outcome = "" → classify row = .pending) →
      rows.foldl (tallyRow classify) tally = {
        confirmed := (rows.filter fun row => row.outcome = "confirmed").foldl Confirmations.add
          tally.confirmed
        rows := tally.rows ++ rows
        changed := tally.changed }
  | [], tally, _ => by simp
  | row :: rows, tally, h => by
    have hrest := fun other hmem => h other (List.mem_cons_of_mem row hmem)
    rw [List.foldl_cons, foldl_tallyRow rows _ hrest]
    unfold tallyRow
    by_cases houtcome : row.outcome = ""
    · rw [if_neg (not_not.2 houtcome), h row List.mem_cons_self houtcome,
        List.filter_cons_of_neg (by rw [houtcome]; decide)]
      simp
    · rw [if_pos houtcome]
      by_cases hconfirmed : row.outcome = "confirmed"
      · simp [hconfirmed]
      · simp [hconfirmed]

end Rows

/-! ## The proposals -/

section Proposals

variable {py : Python} {settings : EvaluationSettings} {draws : String → String × String}

/-- The file holds a lesson now, met more often than the one it held. -/
def Raised (before after : ProposalFile) : Prop :=
  ∃ lesson, after = .lesson lesson ∧
    ∀ old, before = .lesson old → old.occurrences < lesson.occurrences

theorem raised_mergedLesson (file : ProposalFile) (candidate : CandidateLesson) :
    Raised file (.lesson (mergedLesson file candidate)) := by
  refine ⟨_, rfl, fun old hold => ?_⟩
  rw [hold]
  exact Int.lt_succ _

theorem Raised.trans {first second third : ProposalFile} (h : Raised first second)
    (h' : Raised second third) : Raised first third := by
  obtain ⟨lesson, rfl, hless⟩ := h
  obtain ⟨last, rfl, hlast⟩ := h'
  exact ⟨last, rfl, fun old hold => lt_trans (hless old hold) (hlast lesson rfl)⟩

/-- The entry of the dict leads to a proposal at the path. -/
def ProposedAt (py : Python) (settings : EvaluationSettings) (path : String)
    (entry : String × List ObservationRow) : Prop :=
  settings.confirmThreshold ≤ entry.2.length ∧ lessonPath py entry.1 = path

variable (py settings draws) in
/-- **The proposals raise the files they are written to, and leave the others.** -/
theorem proposeAll_spec (path : String) : ∀ (entries : List (String × List ObservationRow))
    (dir : MemoryDir),
    (proposeAll py settings draws entries dir).2.observations = dir.observations ∧
    ((∃ entry ∈ entries, ProposedAt py settings path entry) →
      Raised (dir.proposals path) ((proposeAll py settings draws entries dir).2.proposals path)) ∧
    ((¬ ∃ entry ∈ entries, ProposedAt py settings path entry) →
      (proposeAll py settings draws entries dir).2.proposals path = dir.proposals path)
  | [], dir => ⟨rfl, by simp, fun _ => rfl⟩
  | (ruleId, confirmations) :: rest, dir => by
    simp only [List.exists_mem_cons_iff]
    unfold proposeAll
    by_cases hfew : (confirmations.length : Int) < settings.confirmThreshold
    · have hnot : ¬ ProposedAt py settings path (ruleId, confirmations) :=
        fun h => absurd h.1 (not_le.2 hfew)
      rw [if_pos hfew]
      simpa only [hnot, false_or] using proposeAll_spec path rest dir
    · rw [if_neg hfew]
      dsimp only
      set proposed := proposeLesson py (outcomeLesson (draws ruleId) ruleId confirmations) dir
        with hproposed
      obtain ⟨hobservations, hraised, hsame⟩ := proposeAll_spec path rest proposed.2
      have hfile : proposed.2.proposals path = if path = lessonPath py ruleId then
          .lesson (mergedLesson (dir.proposals (lessonPath py ruleId))
            (outcomeLesson (draws ruleId) ruleId confirmations))
        else dir.proposals path := Function.update_apply _ _ _ _
      by_cases hpath : path = lessonPath py ruleId
      · have hhere : ProposedAt py settings path (ruleId, confirmations) :=
          ⟨not_lt.1 hfew, hpath.symm⟩
        refine ⟨hobservations, fun _ => ?_, fun h => absurd (Or.inl hhere) h⟩
        have hfirst : Raised (dir.proposals path) (proposed.2.proposals path) := by
          rw [hfile, if_pos hpath, ← hpath]
          exact raised_mergedLesson _ _
        by_cases hagain : ∃ entry ∈ rest, ProposedAt py settings path entry
        · exact hfirst.trans (hraised hagain)
        · rw [hsame hagain]
          exact hfirst
      · have helse : ¬ ProposedAt py settings path (ruleId, confirmations) :=
          fun h => hpath h.2.symm
        rw [if_neg hpath] at hfile
        rw [hfile] at hraised hsame
        simpa only [helse, false_or] using ⟨hobservations, hraised, hsame⟩

end Proposals

/-! ## A second evaluation -/

section Again

variable {py : Python} {settings : EvaluationSettings} {now : ℚ} {realAlerts : List RealAlert}
  {draws : String → String × String} {dir : MemoryDir}

/-- The rules with confirmed rows, when no observation changes. -/
def settledEntries (dir : MemoryDir) : List (String × List ObservationRow) :=
  ((dir.loadObservations.filter fun row => row.outcome = "confirmed").foldl Confirmations.add
    Table.empty).rows

theorem mem_settledEntries {ruleId : String} {confirmations : List ObservationRow} :
    (ruleId, confirmations) ∈ settledEntries dir ↔
      confirmations = confirmedOf dir.loadObservations ruleId ∧ confirmations ≠ [] := by
  unfold settledEntries confirmedOf
  rw [mem_foldl_add, List.filter_filter]
  simp only [Bool.decide_and, and_comm]

/-- The paths that the settled entries lead to. -/
theorem proposedAt_settled (path : String) :
    (∃ entry ∈ settledEntries dir, ProposedAt py settings path entry) ↔
      ∃ ruleId, Reached settings dir ruleId ∧ lessonPath py ruleId = path := by
  constructor
  · rintro ⟨⟨ruleId, confirmations⟩, hentry, henough, hpath⟩
    obtain ⟨heq, hne⟩ := mem_settledEntries.1 hentry
    dsimp only at henough
    rw [heq] at henough hne
    exact ⟨ruleId, ⟨hne, henough⟩, hpath⟩
  · rintro ⟨ruleId, ⟨hne, henough⟩, hpath⟩
    refine ⟨(ruleId, confirmedOf dir.loadObservations ruleId), ?_, ?_, hpath⟩
    · rw [mem_settledEntries]
      exact ⟨rfl, hne⟩
    · dsimp only
      exact henough

/-- When no observation changes, the evaluation makes the proposals and nothing else. -/
theorem evaluateOutcomes_settled (hsettled : Settled py settings now realAlerts dir) :
    evaluateOutcomes py settings now (.ok realAlerts) draws dir =
      proposeAll py settings draws (settledEntries dir) dir := by
  unfold evaluateOutcomes
  dsimp only
  by_cases hrows : dir.loadObservations = []
  · unfold settledEntries
    rw [if_pos hrows, hrows]
    rfl
  · rw [if_neg hrows, foldl_tallyRow _ _ hsettled]
    rfl

/-- **An evaluation in which no observation changes leaves the observations and every stored lesson
exactly when no rule that has reached the threshold has a stored lesson.** -/
theorem evaluateOutcomes_again_iff (hsettled : Settled py settings now realAlerts dir) :
    Leaves dir (evaluateOutcomes py settings now (.ok realAlerts) draws dir).2 ↔
      ∀ ruleId, Reached settings dir ruleId →
        ∀ lesson, dir.proposals (lessonPath py ruleId) ≠ .lesson lesson := by
  rw [evaluateOutcomes_settled hsettled]
  have hspec := fun path => proposeAll_spec py settings draws path (settledEntries dir) dir
  generalize (proposeAll py settings draws (settledEntries dir) dir).2 = after at hspec ⊢
  constructor
  · intro hleaves ruleId hreached lesson hstored
    obtain ⟨raised, hafter, hless⟩ := (hspec _).2.1
      ((proposedAt_settled _).2 ⟨ruleId, hreached, rfl⟩)
    rw [hleaves.lessons _ lesson hstored] at hafter
    obtain rfl := ProposalFile.lesson.inj hafter
    exact lt_irrefl _ (hless lesson hstored)
  · intro hnone
    refine ⟨(hspec "").1, fun path lesson hstored => ?_⟩
    refine ((hspec path).2.2 fun hex => ?_).trans hstored
    obtain ⟨ruleId, hreached, rfl⟩ := (proposedAt_settled path).1 hex
    exact hnone ruleId hreached lesson hstored

end Again

/-- Two predictions of one rule, and an alert after each of them. -/
def bgpMemory : MemoryDir where
  observations := some [
    .row {
      createdAt := "2026-01-01T00:00:00+00:00"
      ruleId := "bgp_risk"
      fingerprint := "1f2e"
      resource := "rtr" },
    .row {
      createdAt := "2026-01-01T00:00:00+00:00"
      ruleId := "bgp_risk"
      fingerprint := "3d4c"
      resource := "cr1" }]
  proposals := fun _ => .absent

def bgpAlerts : List RealAlert := [⟨"rtr", 3600, "alertmanager", ""⟩, ⟨"cr1", 7200, "icinga2", ""⟩]

/-- The evaluation at one time of day, three hours after the predictions. -/
def bgpEvaluated (dir : MemoryDir) : MemoryDir :=
  (evaluateOutcomes (tablePython [("2026-01-01T00:00:00+00:00", 0)]) {} 10800 (.ok bgpAlerts)
    (fun _ => ("les_1", "2026-01-01T03:00:00+00:00")) dir).2

/-- How often the lesson under the path was met. -/
def MemoryDir.occurrences (dir : MemoryDir) (path : String) : Option Int :=
  match dir.proposals path with
  | .lesson lesson => some lesson.occurrences
  | _ => none

/-- One prediction, confirmed before, under lessons that were all met once. -/
def confirmedMemory : MemoryDir where
  observations := some [.row {
    createdAt := "2026-01-01T00:00:00+00:00"
    ruleId := "bgp_risk"
    outcome := "confirmed" }]
  proposals := fun _ => .lesson {
    lessonId := "les_1"
    createdAt := "2026-01-01T00:00:00+00:00" }

theorem leaves_again_confirmed : Leaves confirmedMemory (bgpEvaluated confirmedMemory) := by
  have hload : confirmedMemory.loadObservations = [{
      createdAt := "2026-01-01T00:00:00+00:00"
      ruleId := "bgp_risk"
      outcome := "confirmed" }] := rfl
  refine (evaluateOutcomes_again_iff fun row hrow houtcome => ?_).2 fun ruleId hreached => ?_
  · rw [hload] at hrow
    rw [List.mem_singleton.1 hrow] at houtcome
    exact absurd houtcome (by decide)
  · have henough := hreached.2
    rw [hload] at henough
    exact absurd (henough.trans (Int.ofNat_le.2 (List.length_filter_le _ _))) (by decide)

/-- The second evaluation counts the same two predictions once more. -/
theorem not_leaves_again : ¬ ∀ dir : MemoryDir,
    Settled (tablePython [("2026-01-01T00:00:00+00:00", 0)]) {} 10800 bgpAlerts dir →
      Leaves dir (bgpEvaluated dir) := by
  intro h
  have hrows : ((bgpEvaluated bgpMemory).loadObservations.all fun row => row.outcome ≠ "") =
      true := by decide +kernel
  have hfirst : (bgpEvaluated bgpMemory).occurrences "scan_tuning-" = some 2 := by decide +kernel
  have hsecond : (bgpEvaluated (bgpEvaluated bgpMemory)).occurrences "scan_tuning-" = some 3 := by
    decide +kernel
  have hleaves := h (bgpEvaluated bgpMemory) fun row hrow houtcome =>
    absurd houtcome (by simpa using List.all_eq_true.1 hrows row hrow)
  unfold MemoryDir.occurrences at hfirst hsecond
  split at hfirst
  · rename_i lesson hstored
    rw [hleaves.lessons _ lesson hstored] at hsecond
    dsimp only at hsecond
    rw [hfirst] at hsecond
    cases hsecond
  · cases hfirst

end NocAgent.Proactive
