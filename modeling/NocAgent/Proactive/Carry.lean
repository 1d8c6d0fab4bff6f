import NocAgent.Lib.Lts
import NocAgent.Proactive.Hotspot

/-!
# Carrying hotspots over cycles that did not look

* `mergeWithCarried` — `ProactiveLoop._merge_with_carried`.
* `DeepHistory` — what the cycles so far reported by deep rules: the last clean deep result, and
  what degraded deep cycles reported after it.
* `KeepsUnevaluated` — a reported fingerprint disappears only if its rule was evaluated cleanly.
* `keepsUnevaluated_of_covered` — it holds throughout a run in which no clean cheap cycle comes
  while a degraded deep report is still open.
-/

set_option autoImplicit false

namespace NocAgent

open Lts

variable {py : Python}

/-- One proactive cycle: what the scan found, whether deep rules ran, whether a query failed. -/
structure Cycle where
  raw : List Hotspot
  doDeep : Bool
  degraded : Bool

/-- Without a deep scan there is no hotspot of a deep rule. -/
def Cycle.WellFormed (c : Cycle) : Prop := c.doDeep = false → ∀ h ∈ c.raw, h.deepRule = false

/-- The sets `ProactiveLoop` carries from cycle to cycle. -/
structure CarriedSets where
  lastDeepHotspots : List Hotspot
  lastEffective : List Hotspot

def mergeWithCarried (py : Python) (s : CarriedSets) (raw : List Hotspot)
    (doDeep degraded : Bool) : List Hotspot × CarriedSets :=
  if degraded then
    let seen := raw.map (Hotspot.fingerprint py)
    let merged := raw ++ s.lastEffective.filter fun h => !seen.contains (h.fingerprint py)
    (merged, { s with lastEffective := merged })
  else if doDeep then
    (raw, { lastDeepHotspots := raw.filter Hotspot.deepRule, lastEffective := raw })
  else
    let effective := (raw.filter fun h => !h.deepRule) ++ s.lastDeepHotspots
    (effective, { s with lastEffective := effective })

/-- Deep findings as the sequence of cycles shows them. -/
structure DeepHistory where
  /-- found by the last clean deep cycle -/
  clean : List Hotspot
  /-- reported by degraded deep cycles since the last clean cycle -/
  outstanding : List Hotspot

def DeepHistory.after (d : DeepHistory) (c : Cycle) : DeepHistory :=
  if c.degraded then { d with outstanding := d.outstanding ++ c.raw.filter Hotspot.deepRule }
  else if c.doDeep then { clean := c.raw.filter Hotspot.deepRule, outstanding := [] }
  else { d with outstanding := [] }

/-- The loop between two cycles. -/
structure CarryState where
  sets : CarriedSets
  /-- the effective set of the last cycle -/
  effective : List Hotspot
  history : DeepHistory

def CarryState.fresh : CarryState := ⟨⟨[], []⟩, [], ⟨[], []⟩⟩

def CarryState.next (py : Python) (s : CarryState) (c : Cycle) : CarryState where
  sets := (mergeWithCarried py s.sets c.raw c.doDeep c.degraded).2
  effective := (mergeWithCarried py s.sets c.raw c.doDeep c.degraded).1
  history := s.history.after c

def cycleStep (py : Python) (s : CarryState) (c : Cycle) (t : CarryState) : Prop :=
  c.WellFormed ∧ t = s.next py c

/-- The fingerprint is among those of the list. -/
def Reports (py : Python) (hs : List Hotspot) (h : Hotspot) : Prop :=
  ∃ h' ∈ hs, h'.fingerprint py = h.fingerprint py

/-- A fingerprint that the last cycle reported and this one does not belongs to a rule that this
cycle evaluated cleanly. -/
def KeepsUnevaluated (py : Python) (s : CarryState) (c : Cycle) (t : CarryState) : Prop :=
  ∀ h ∈ s.effective, ¬ Reports py t.effective h →
    c.degraded = false ∧ (h.deepRule = false ∨ c.doDeep = true)

/-- A clean cheap cycle comes only when the last clean deep result, or the cycle itself, has every
fingerprint that degraded deep cycles reported in between. -/
def Covered (py : Python) (s : CarryState) (c : Cycle) : Prop :=
  c.degraded = false → c.doDeep = false →
    ∀ h ∈ s.history.outstanding, Reports py s.history.clean h ∨ Reports py c.raw h

/-- What the carried sets have to do with the history. -/
structure CarriedInv (py : Python) (s : CarryState) : Prop where
  effective : s.sets.lastEffective = s.effective
  clean : s.sets.lastDeepHotspots = s.history.clean
  clean_deep : ∀ h ∈ s.history.clean, h.deepRule = true
  known : ∀ h ∈ s.effective, h.deepRule = true →
    Reports py s.history.clean h ∨ Reports py s.history.outstanding h

theorem Reports.of_mem {hs : List Hotspot} {h : Hotspot} (hm : h ∈ hs) : Reports py hs h :=
  ⟨h, hm, rfl⟩

theorem Reports.mono {hs hs' : List Hotspot} {h : Hotspot} (hr : Reports py hs h)
    (hsub : ∀ x ∈ hs, x ∈ hs') : Reports py hs' h := by
  obtain ⟨x, hx, hfp⟩ := hr
  exact ⟨x, hsub x hx, hfp⟩

/-- A degraded cycle drops no fingerprint. -/
theorem reports_degraded {s : CarriedSets} {raw : List Hotspot} {h : Hotspot}
    (hm : h ∈ s.lastEffective) :
    Reports py (raw ++ s.lastEffective.filter fun x =>
      !(raw.map (Hotspot.fingerprint py)).contains (x.fingerprint py)) h := by
  by_cases hseen : h.fingerprint py ∈ raw.map (Hotspot.fingerprint py)
  · obtain ⟨x, hx, hfp⟩ := List.mem_map.1 hseen
    exact ⟨x, List.mem_append_left _ hx, hfp⟩
  · refine Reports.of_mem (List.mem_append_right _ (List.mem_filter.2 ⟨hm, ?_⟩))
    simpa using hseen

theorem carriedInv_fresh : CarriedInv py CarryState.fresh where
  effective := rfl
  clean := rfl
  clean_deep := by intro h hm; cases hm
  known := by intro h hm; cases hm

theorem carriedInv_step {s t : CarryState} {c : Cycle} (hi : CarriedInv py s)
    (h : cycleStep py s c t) : CarriedInv py t := by
  obtain ⟨hwf, rfl⟩ := h
  obtain ⟨raw, doDeep, degraded⟩ := c
  cases degraded with
  | true =>
    refine ⟨rfl, hi.clean, hi.clean_deep, fun h hm hdeep => ?_⟩
    rcases List.mem_append.1 hm with hraw | hold
    · refine Or.inr (Reports.of_mem ?_)
      exact List.mem_append_right _ (List.mem_filter.2 ⟨hraw, hdeep⟩)
    · have hold : h ∈ s.sets.lastEffective := (List.mem_filter.1 hold).1
      rw [hi.effective] at hold
      rcases hi.known h hold hdeep with hc | ho
      · exact Or.inl hc
      · exact Or.inr (ho.mono fun x hx => List.mem_append_left _ hx)
  | false =>
    cases doDeep with
    | true =>
      refine ⟨rfl, rfl, fun h hm => (List.mem_filter.1 hm).2, fun h hm hdeep => ?_⟩
      exact Or.inl (Reports.of_mem (List.mem_filter.2 ⟨hm, hdeep⟩))
    | false =>
      refine ⟨rfl, hi.clean, hi.clean_deep, fun h hm hdeep => ?_⟩
      rcases List.mem_append.1 hm with hraw | hlast
      · have := (List.mem_filter.1 hraw).2
        rw [hdeep] at this
        cases this
      · have hlast : h ∈ s.sets.lastDeepHotspots := hlast
        rw [hi.clean] at hlast
        exact Or.inl (Reports.of_mem hlast)

theorem carriedInv_run {cs : List Cycle} {s : CarryState}
    (h : Run (cycleStep py) CarryState.fresh cs s) : CarriedInv py s :=
  h.invariant (fun _ _ _ hi hs => carriedInv_step hi hs) carriedInv_fresh

/-- One covered step keeps what it did not evaluate. -/
theorem keepsUnevaluated_step {s t : CarryState} {c : Cycle} (hi : CarriedInv py s)
    (hcov : Covered py s c) (h : cycleStep py s c t) : KeepsUnevaluated py s c t := by
  obtain ⟨hwf, rfl⟩ := h
  intro h hm hgone
  obtain ⟨raw, doDeep, degraded⟩ := c
  cases degraded with
  | true =>
    rw [← hi.effective] at hm
    exact absurd (reports_degraded hm) hgone
  | false =>
    refine ⟨rfl, ?_⟩
    cases doDeep with
    | true => exact Or.inr rfl
    | false =>
      -- a deep finding is still known, and what is known is carried
      left
      by_contra hdeep
      rw [Bool.not_eq_false] at hdeep
      have hcarried : ∀ x ∈ s.history.clean, x ∈ (s.next py ⟨raw, false, false⟩).effective := by
        intro x hx
        rw [← hi.clean] at hx
        exact List.mem_append_right _ hx
      have hclean : ∀ x, Reports py s.history.clean x →
          Reports py (s.next py ⟨raw, false, false⟩).effective x :=
        fun x hx => hx.mono hcarried
      rcases hi.known h hm hdeep with hc | ⟨x, hx, hfp⟩
      · exact hgone (hclean h hc)
      · rcases hcov rfl rfl x hx with ⟨y, hy, hyx⟩ | ⟨y, hy, hyx⟩
        · exact hgone ⟨y, hcarried y hy, hyx.trans hfp⟩
        · refine hgone ⟨y, List.mem_append_left _ (List.mem_filter.2 ⟨hy, ?_⟩), hyx.trans hfp⟩
          simpa using hwf rfl y hy

/-- **Covered runs never read "not evaluated" as "resolved".** -/
theorem keepsUnevaluated_of_covered {cs : List Cycle} {c : Cycle} {s t : CarryState}
    (h : Run (Guarded (cycleStep py) (Covered py)) CarryState.fresh cs s)
    (hstep : Guarded (cycleStep py) (Covered py) s c t) : KeepsUnevaluated py s c t :=
  keepsUnevaluated_step (carriedInv_run h.of_guarded) hstep.1 hstep.2

/-- A full disk on `web1`. -/
def diskFull : Hotspot where
  ruleId := "disk_fill"
  key := "web1:/"
  category := .disk
  severity := .high
  score := 360
  title := "Disk / low on web1"
  resource := "web1"
  summary := "web1:/ has 5.0% free (low free space)."
  evidence := []
  recommendedChecks := []
  suggestedSpecialist := .infrastructure

/-- The hash of the one fingerprint these runs read. -/
def carryPython : Python := { asciiPython with
  sha256 := fun s => if s = "disk_fill|web1:/" then
    "6ab2553b1fc082713a9240c1e76cd3e0320abc6fa67f08970f3952e05f4a394a" else "" }

/-- The state after one deep cycle that found the disk. -/
def diskReported (degraded : Bool) : CarryState :=
  CarryState.fresh.next carryPython ⟨[diskFull], true, degraded⟩

/-- A clean cheap cycle that finds nothing. -/
def quietCycle : Cycle := ⟨[], false, false⟩

theorem keepsUnevaluated_clean : KeepsUnevaluated carryPython (diskReported false) quietCycle
    ((diskReported false).next carryPython quietCycle) := by
  have hfirst : Guarded (cycleStep carryPython) (Covered carryPython) CarryState.fresh
      ⟨[diskFull], true, false⟩ (diskReported false) := by
    refine ⟨fun _ h => ?_, fun h => ?_, rfl⟩
    · cases h
    · cases h
  have hnext : Guarded (cycleStep carryPython) (Covered carryPython) (diskReported false)
      quietCycle ((diskReported false).next carryPython quietCycle) := by
    refine ⟨fun _ _ h hm => ?_, fun _ h hm => ?_, rfl⟩
    · cases hm
    · cases hm
  exact keepsUnevaluated_of_covered (Run.single hfirst) hnext

/-- The disk is first seen by a degraded deep cycle: the next clean cheap cycle drops it. -/
theorem keepsUnevaluated_lost :
    Run (cycleStep carryPython) CarryState.fresh [⟨[diskFull], true, true⟩] (diskReported true) ∧
      cycleStep carryPython (diskReported true) quietCycle
        ((diskReported true).next carryPython quietCycle) ∧
      ¬ KeepsUnevaluated carryPython (diskReported true) quietCycle
        ((diskReported true).next carryPython quietCycle) := by
  refine ⟨Run.single ⟨fun h => ?_, rfl⟩, ⟨fun _ h hm => ?_, rfl⟩, fun h => ?_⟩
  · cases h
  · cases hm
  · have hd : diskFull ∈ (diskReported true).effective := List.mem_cons_self
    obtain ⟨-, hdeep | hdeep⟩ := h diskFull hd (by rintro ⟨x, hx, -⟩; cases hx)
    · exact absurd hdeep (by decide)
    · cases hdeep

end NocAgent
