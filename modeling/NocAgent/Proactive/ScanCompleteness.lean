import NocAgent.Proactive.Scanner

/-!
# When a scan that is not degraded is complete

Seen from outside, a rule is a list of stages: a query, and what each of its samples has to be
for the rule to go on.

* `ScanRule.stages` — the stages of each rule; `ScanRule.body_sameOutcome` connects them to the
  rule's own code.
* `ScanComplete` — a scan that is not degraded ran every selected rule to its end on lists.
* `scanComplete_iff` — it holds exactly when some rule meets a failing query, or no stage of any
  selected rule fails in a way that is not a failing query.
-/

set_option autoImplicit false

namespace NocAgent

open Effects Traced

variable {py : Python} {ctx : ScanContext}

/-! ## Stages -/

/-- One query of a rule. -/
structure Stage where
  query : String
  /-- the rule can go on after this sample -/
  reads : Sample → Bool

/-- `int(sample.value)` succeeds. -/
def Sample.whole (s : Sample) : Bool :=
  match s.value.toInt with
  | .ok _ => true
  | .error _ => false

theorem Sample.whole_iff {s : Sample} : s.whole = true ↔ ∃ n, s.value.toInt = .ok n := by
  unfold Sample.whole
  cases s.value.toInt <;> simp

def ScanRule.stages (py : Python) (env : Environ) : ScanRule → Except PyExc (List Stage)
  | .bgpRisk => .ok [⟨bgpStateQuery, fun _ => true⟩, ⟨bgpFlapQuery, Sample.whole⟩]
  | .scrapeFlap => .ok [⟨scrapeQuery, Sample.whole⟩]
  | .serviceChurn =>
    match benignUnitMatcher py env with
    | .error e => .error e
    | .ok benign => .ok [⟨restartQuery, fun s => isBenignUnit (unitOf s) benign || s.whole⟩,
        ⟨recentFailedQuery, fun _ => true⟩]
  | .reachabilityFlap => .ok [⟨reachabilityQuery, fun _ => true⟩]
  | .diskFill => .ok [⟨diskFreeQuery, fun _ => true⟩, ⟨diskFillQuery, fun _ => true⟩]
  | .tlsExpiry => .ok [⟨tlsQuery, fun _ => true⟩]

/-- The stages one after the other, until one cannot go on. -/
def runStages (py : Python) (ctx : ScanContext) : List Stage → ScanM PUnit
  | [] => pure ⟨⟩
  | st :: rest =>
    prom py ctx st.query >>= fun samples =>
      if samples.all st.reads then runStages py ctx rest else orRaise (.error .valueError)

/-- A loop that reads each sample by itself. -/
theorem sameOutcome_orRaise {α β : Type} {r : Except PyExc α} {f : α → ScanM β}
    {n : ScanM PUnit} {b : Bool} (hr : (∃ a, r = .ok a) ↔ b = true)
    (hf : ∀ a, SameOutcome (f a) n) :
    SameOutcome (orRaise r >>= f) (if b then n else orRaise (.error .valueError)) := by
  cases r with
  | error e =>
    have hb : b = false := by simpa using hr
    rw [hb, orRaise_bind_error]
    simp [SameOutcome, Returns]
  | ok a =>
    have hb : b = true := hr.1 ⟨a, rfl⟩
    rw [hb, orRaise_bind_ok]
    exact hf a

theorem sameOutcome_pure {α : Type} (a : α) :
    SameOutcome (pure a : ScanM α) (runStages py ctx []) := by
  simp [SameOutcome, Returns, runStages]

/-- A stage that reads any sample. -/
theorem sameOutcome_stage {α : Type} {query : String} {rest : List Stage}
    {f : List Sample → ScanM α}
    (h : ∀ samples, SameOutcome (f samples) (runStages py ctx rest)) :
    SameOutcome (prom py ctx query >>= f) (runStages py ctx (⟨query, fun _ => true⟩ :: rest)) := by
  refine SameOutcome.bind _ fun samples => ?_
  have hall : (samples.all fun _ => true) = true := by simp
  rw [if_pos hall]
  exact h samples

theorem bgpFlap_ok_iff (hs : List (String × Hotspot)) (s : Sample) :
    (∃ t, bgpFlap py hs s = .ok t) ↔ s.whole = true := by
  rw [Sample.whole_iff]
  unfold bgpFlap
  cases s.value.toInt with
  | error e => simp
  | ok n => cases hs.lookup (bgpKey s) <;> simp

theorem scrapeHotspot_ok_iff (s : Sample) :
    (∃ h, scrapeHotspot py s = .ok h) ↔ s.whole = true := by
  rw [Sample.whole_iff]
  unfold scrapeHotspot
  cases s.value.toInt <;> simp

theorem restartChurn_ok_iff (benign : String → Bool) (hs : List (String × Hotspot)) (s : Sample) :
    (∃ t, restartChurn py benign hs s = .ok t) ↔
      (isBenignUnit (unitOf s) benign || s.whole) = true := by
  rw [Bool.or_eq_true, Sample.whole_iff]
  unfold restartChurn
  cases isBenignUnit (unitOf s) benign with
  | true => simp
  | false => cases s.value.toInt <;> simp

/-- **Each rule does what its stages do.** -/
theorem ScanRule.body_sameOutcome (py : Python) (ctx : ScanContext) (rule : ScanRule) :
    match rule.stages py ctx.env with
    | .error e => rule.body py ctx = orRaise (.error e)
    | .ok stages => SameOutcome (rule.body py ctx) (runStages py ctx stages) := by
  cases rule with
  | bgpRisk =>
    refine sameOutcome_stage fun down => SameOutcome.bind _ fun flapping => ?_
    refine sameOutcome_orRaise ?_ fun _ => sameOutcome_pure _
    rw [foldE_ok_iff bgpFlap_ok_iff, List.all_eq_true]
  | scrapeFlap =>
    refine SameOutcome.bind _ fun flapping => ?_
    rw [← bind_pure (orRaise (collectE (scrapeHotspot py) flapping))]
    refine sameOutcome_orRaise ?_ fun _ => sameOutcome_pure _
    rw [collectE_ok_iff scrapeHotspot_ok_iff, List.all_eq_true]
  | serviceChurn =>
    unfold ScanRule.stages ScanRule.body ruleServiceChurn
    cases benignUnitMatcher py ctx.env with
    | error e => rfl
    | ok benign =>
      rw [orRaise_bind_ok]
      refine SameOutcome.bind _ fun restarts => sameOutcome_orRaise ?_ fun hs => ?_
      · rw [foldE_ok_iff (restartChurn_ok_iff benign), List.all_eq_true]
      · exact sameOutcome_stage fun _ => sameOutcome_pure _
  | reachabilityFlap => exact sameOutcome_stage fun _ => sameOutcome_pure _
  | diskFill => exact sameOutcome_stage fun _ => sameOutcome_stage fun _ => sameOutcome_pure _
  | tlsExpiry => exact sameOutcome_stage fun _ => sameOutcome_pure _

/-! ## What a list of stages does -/

/-- The query fails: an exception, or an answer that is no successful result. -/
def QueryFails (ctx : ScanContext) (query : String) : Prop :=
  ∀ resp, ctx.tool query = .returned resp → promResponseOk resp = false

/-- The result is a list. -/
def AnswersList (reply : ToolReply) : Prop :=
  ∃ d rows, reply = .returned (.dict d) ∧ promRows d = .list rows

/-- The query succeeds, its samples can be parsed, and the rule can read each of them. -/
def Passes (py : Python) (ctx : ScanContext) (st : Stage) : Prop :=
  ∃ resp samples, ctx.tool st.query = .returned resp ∧ promResponseOk resp = true ∧
    parsePromVector py resp = .ok samples ∧ samples.all st.reads = true

/-- A failing query is met, all stages before it having passed. -/
def ReachesFailure (py : Python) (ctx : ScanContext) : List Stage → Prop
  | [] => False
  | st :: rest => QueryFails ctx st.query ∨ Passes py ctx st ∧ ReachesFailure py ctx rest

theorem queryFails_or_returned (ctx : ScanContext) (query : String) :
    QueryFails ctx query ∨ ∃ resp, ctx.tool query = .returned resp ∧ promResponseOk resp = true := by
  by_cases h : QueryFails ctx query
  · exact Or.inl h
  · unfold QueryFails at h
    push Not at h
    obtain ⟨resp, hr, hok⟩ := h
    exact Or.inr ⟨resp, hr, by simpa using hok⟩

theorem prom_of_fails {query : String} (h : QueryFails ctx query) :
    prom py ctx query = ⟨[.queried query (ctx.tool query), .degraded], .ok []⟩ := by
  unfold prom
  cases hr : ctx.tool query with
  | raised name text => rfl
  | returned resp =>
    simp only [h resp hr]
    rfl

theorem prom_of_returned {query : String} {resp : Json} (hr : ctx.tool query = .returned resp)
    (hok : promResponseOk resp = true) :
    prom py ctx query = ⟨[.queried query (.returned resp)], parsePromVector py resp⟩ := by
  unfold prom
  rw [hr]
  simp only [hok, if_true]
  rfl

theorem not_queryFails {query : String} {resp : Json} (hr : ctx.tool query = .returned resp)
    (hok : promResponseOk resp = true) : ¬ QueryFails ctx query := by
  intro h
  rw [h resp hr] at hok
  cases hok

/-- One stage whose query succeeds. -/
theorem runStages_of_returned (py : Python) {st : Stage} (rest : List Stage) {resp : Json}
    (hr : ctx.tool st.query = .returned resp) (hok : promResponseOk resp = true) :
    Passes py ctx st ∧ runStages py ctx (st :: rest) =
        ⟨.queried st.query (.returned resp) :: (runStages py ctx rest).log,
          (runStages py ctx rest).result⟩ ∨
      ¬ Passes py ctx st ∧ ∃ e, runStages py ctx (st :: rest) =
        ⟨[.queried st.query (.returned resp)], .error e⟩ := by
  rw [runStages, prom_of_returned hr hok]
  cases hp : parsePromVector py resp with
  | error e =>
    refine Or.inr ⟨?_, e, bind_error rfl⟩
    rintro ⟨resp', samples, hr', -, hp', -⟩
    cases hr.symm.trans hr'
    rw [hp] at hp'
    cases hp'
  | ok samples =>
    cases hall : samples.all st.reads with
    | true =>
      refine Or.inl ⟨⟨resp, samples, hr, hok, hp, hall⟩, ?_⟩
      rw [bind_ok rfl, hall]
      rfl
    | false =>
      refine Or.inr ⟨?_, .valueError, ?_⟩
      · rintro ⟨resp', samples', hr', -, hp', hall'⟩
        cases hr.symm.trans hr'
        rw [hp] at hp'
        cases hp'
        rw [hall] at hall'
        cases hall'
      · rw [bind_ok rfl, hall]
        rfl

/-- The scan is marked exactly when a failing query is met. -/
theorem degraded_mem_runStages : ∀ stages : List Stage,
    .degraded ∈ (runStages py ctx stages).log ↔ ReachesFailure py ctx stages
  | [] => by simp [runStages, ReachesFailure]
  | st :: rest => by
    unfold ReachesFailure
    rcases queryFails_or_returned ctx st.query with h | ⟨resp, hr, hok⟩
    · rw [runStages, prom_of_fails h, bind_ok rfl]
      simp [h]
    · have hnot := not_queryFails hr hok
      rcases runStages_of_returned py rest hr hok with ⟨hp, heq⟩ | ⟨hp, e, heq⟩
      · rw [heq]
        simp [hnot, hp, degraded_mem_runStages rest]
      · rw [heq]
        simp [hnot, hp]

/-- Without a failing query, the stages end well on lists exactly when each one does. -/
theorem runStages_complete_iff : ∀ {stages : List Stage}, ¬ ReachesFailure py ctx stages →
    ((runStages py ctx stages).Returns ∧
        (∀ query reply, .queried query reply ∈ (runStages py ctx stages).log →
          AnswersList reply) ↔
      ∀ st ∈ stages, Passes py ctx st ∧ AnswersList (ctx.tool st.query))
  | [], _ => by simp [runStages, Returns]
  | st :: rest, h => by
    rw [List.forall_mem_cons]
    unfold ReachesFailure at h
    rcases queryFails_or_returned ctx st.query with hf | ⟨resp, hr, hok⟩
    · exact absurd (Or.inl hf) h
    · rcases runStages_of_returned py rest hr hok with ⟨hp, heq⟩ | ⟨hp, e, heq⟩
      · have hrest : ¬ ReachesFailure py ctx rest := fun hf => h (Or.inr ⟨hp, hf⟩)
        rw [← runStages_complete_iff hrest, heq, hr]
        simp only [Returns, List.mem_cons, ScanEvent.queried.injEq]
        constructor
        · rintro ⟨hret, hall⟩
          exact ⟨⟨hp, hall _ _ (Or.inl ⟨rfl, rfl⟩)⟩, hret, fun q r hq => hall q r (Or.inr hq)⟩
        · rintro ⟨⟨-, hlist⟩, hret, hall⟩
          refine ⟨hret, ?_⟩
          rintro q r (⟨rfl, rfl⟩ | hq)
          · exact hlist
          · exact hall q r hq
      · rw [heq]
        simp [Returns, hp]

/-! ## The scan -/

/-- If the scan returns without being marked as degraded, every selected rule ran to its end and
every query it issued answered with a list. -/
def ScanComplete (py : Python) (ctx : ScanContext) (deep : Bool) : Prop :=
  (scan py ctx deep).Returns → .degraded ∉ (scan py ctx deep).log →
    ∀ rule ∈ selectedRules deep, (rule.body py ctx).Returns ∧
      ∀ query reply, .queried query reply ∈ (rule.body py ctx).log → AnswersList reply

theorem runRule_returns (rule : ScanRule) : (runRule py ctx rule).Returns := by
  unfold Returns runRule
  cases (rule.body py ctx).result with
  | error e => exact ⟨[], rfl⟩
  | ok hotspots => exact ⟨hotspots, rfl⟩

theorem scan_returns (deep : Bool) : (scan py ctx deep).Returns := by
  obtain ⟨results, hres⟩ := (mapT_returns (runRule py ctx)).2
    (fun rule (_ : rule ∈ selectedRules deep) => runRule_returns rule)
  exact returns_bind.2 ⟨results, hres, ⟨_, rfl⟩⟩

theorem scan_log (deep : Bool) :
    (scan py ctx deep).log = (selectedRules deep).flatMap fun rule => (rule.body py ctx).log := by
  have hret : ∀ rule ∈ selectedRules deep, (runRule py ctx rule).Returns :=
    fun rule _ => runRule_returns rule
  obtain ⟨results, hres⟩ := (mapT_returns (runRule py ctx)).2 hret
  unfold scan
  rw [bind_ok hres, log_pure, List.append_nil]
  exact mapT_log _ hret

/-- The rule meets a failing query. -/
def RuleDegrades (py : Python) (ctx : ScanContext) (rule : ScanRule) : Prop :=
  ∃ stages, rule.stages py ctx.env = .ok stages ∧ ReachesFailure py ctx stages

/-- The rule can be set up, and every query of it succeeds with a list of samples it can read. -/
def RuleSound (py : Python) (ctx : ScanContext) (rule : ScanRule) : Prop :=
  ∃ stages, rule.stages py ctx.env = .ok stages ∧
    ∀ st ∈ stages, Passes py ctx st ∧ AnswersList (ctx.tool st.query)

theorem degraded_mem_body (rule : ScanRule) :
    .degraded ∈ (rule.body py ctx).log ↔ RuleDegrades py ctx rule := by
  have hbody := rule.body_sameOutcome py ctx
  unfold RuleDegrades
  cases hs : rule.stages py ctx.env with
  | error e =>
    rw [hs] at hbody
    rw [hbody, log_orRaise]
    simp
  | ok stages =>
    rw [hs] at hbody
    rw [hbody.1, degraded_mem_runStages]
    simp

theorem body_complete_iff {rule : ScanRule} (h : ¬ RuleDegrades py ctx rule) :
    ((rule.body py ctx).Returns ∧
        ∀ query reply, .queried query reply ∈ (rule.body py ctx).log → AnswersList reply) ↔
      RuleSound py ctx rule := by
  have hbody := rule.body_sameOutcome py ctx
  unfold RuleSound
  unfold RuleDegrades at h
  cases hs : rule.stages py ctx.env with
  | error e =>
    rw [hs] at hbody
    rw [hbody]
    simp [Returns]
  | ok stages =>
    rw [hs] at hbody h
    have hno : ¬ ReachesFailure py ctx stages := fun hf => h ⟨stages, rfl, hf⟩
    rw [hbody.2, hbody.1, runStages_complete_iff hno]
    simp

/-- **A scan that is not degraded is complete exactly when** some selected rule meets a failing
query, or every selected rule is sound. -/
theorem scanComplete_iff {deep : Bool} :
    ScanComplete py ctx deep ↔
      (∃ rule ∈ selectedRules deep, RuleDegrades py ctx rule) ∨
        ∀ rule ∈ selectedRules deep, RuleSound py ctx rule := by
  have hmark : .degraded ∈ (scan py ctx deep).log ↔
      ∃ rule ∈ selectedRules deep, RuleDegrades py ctx rule := by
    rw [scan_log, List.mem_flatMap]
    simp only [degraded_mem_body]
  unfold ScanComplete
  rw [hmark]
  by_cases hd : ∃ rule ∈ selectedRules deep, RuleDegrades py ctx rule
  · exact ⟨fun _ => Or.inl hd, fun _ _ h => absurd hd h⟩
  · have hno : ∀ rule ∈ selectedRules deep, ¬ RuleDegrades py ctx rule :=
      fun rule hr hdeg => hd ⟨rule, hr, hdeg⟩
    constructor
    · intro h
      exact Or.inr fun rule hr => (body_complete_iff (hno rule hr)).1
        (h (scan_returns deep) hd rule hr)
    · rintro (h | h)
      · exact absurd h hd
      · exact fun _ _ rule hr => (body_complete_iff (hno rule hr)).2 (h rule hr)

/-- A flap count that is no number. -/
def nanFlaps : ScanContext where
  env _ := none
  tool query := .returned (.dict [("ok", .bool true), ("result", .list
    (if query = bgpFlapQuery then [.dict [("metric", .dict []), ("value", .str "NaN")]] else []))])

/-- The interpreter reads the text `NaN`. -/
def nanPython : Python := { asciiPython with
  parseFloat := fun s => if s = "NaN" then some .nan else asciiPython.parseFloat s }

/-- `int(nan)` raises in the flap loop, the rule reads as empty, and the scan is not degraded. -/
theorem scanComplete_nan : ¬ ScanComplete nanPython nanFlaps false := by
  intro h
  have hlog : (scan nanPython nanFlaps false).log =
      [bgpStateQuery, bgpFlapQuery, scrapeQuery, restartQuery, recentFailedQuery,
        reachabilityQuery].map fun query => .queried query (nanFlaps.tool query) := by
    rfl
  have hclean : ScanEvent.degraded ∉ (scan nanPython nanFlaps false).log := by
    rw [hlog]
    simp
  obtain ⟨⟨hotspots, hres⟩, -⟩ := h (scan_returns false) hclean .bgpRisk (by decide)
  cases hres

end NocAgent
