import NocAgent.Cases.RunSteps

/-!
# Verdicts that outlive the clean interval

* `Standing` — a verdict that the alert is clear is on record, or on its way there, for a handoff
  that can still be verified.
* `Undisturbed` — no observation takes the alert out of the clear under a standing verdict.
* `resolvesClear_run` — in the runs of undisturbed steps, handoffs are verified and cases
  resolved only while the alert is clear.
-/

set_option autoImplicit false

namespace NocAgent.Cases

open Effects Effects.Action Keyed Lts

/-! ## Verdicts -/

/-- A required objective that asks for the alert to be clear. -/
def AlertClear (o : VerificationObjective) : Prop :=
  o.required = true ∧ o.objectiveType = "monitoring_alert_clear"

/-- The objective is satisfied, or a run is about to record that it is. -/
def Settled (sys : System) (o : VerificationObjective) : Prop :=
  objectiveSatisfied o ∨ ∃ i, ∃ updated ∈ (sys.runs i).recorded?,
    updated.objectiveId = o.objectiveId ∧ objectiveSatisfied updated

/-- The handoff is open, or a run has read it as open. -/
def Awaits (sys : System) (g : String) : Prop :=
  (∃ h, sys.store.handoffs.get? g = some h ∧ h.status ∉ FINAL_HANDOFF_STATUSES) ∨
    ∃ i, ∃ h ∈ (sys.runs i).loaded?, h.handoffId = g

/-- A run is about to mark the handoff verified, or to resolve its case. -/
def ClosingFor (sys : System) (g caseId : String) : Prop :=
  (∃ i, ∃ h ∈ (sys.runs i).closing?, h.handoffId = g ∧ h.caseId = caseId ∧
    ∃ stored, sys.store.handoffs.get? g = some stored ∧
      stored.status ∉ TERMINAL_HANDOFF_STATUSES) ∨
  ∃ i, ∃ h ∈ (sys.runs i).resolving?, h.handoffId = g ∧ h.caseId = caseId

/-- **A verdict on the case is on record, or on its way there, and can still close a handoff.** -/
def Standing (sys : System) (caseId : String) : Prop :=
  ∃ o ∈ sys.store.verificationObjectives.rows, AlertClear o ∧ o.caseId = caseId ∧
    (Settled sys o ∧ Awaits sys o.handoffId ∨ ClosingFor sys o.handoffId caseId)

/-- **No observation ends the clean interval of a case with a standing verdict.** -/
def Undisturbed (py : Python) (sys : System) : SystemLabel → Prop
  | .observe j _ => ∀ caseId times, (sys.observers j).writes sys.store = some (caseId, times) →
      Standing sys caseId → observedCleanAfterUnhealthy py times.1 times.2 = .ok true
  | _ => True

/-- A run is about to mark the handoff verified, and may, or to resolve its case. -/
def Closes (sys : System) (h : CaseHandoff) : Prop :=
  (∃ i ids done, sys.runs i = .marking h ids done ∧
    ∃ stored, sys.store.handoffs.get? h.handoffId = some stored ∧
      allowedHandoffTransition stored.status .verified .noc = true) ∨
  ∃ i ids done, sys.runs i = .resolving h ids done

/-- **Handoffs that ask for the alert to be clear are closed only while it is.** -/
def ResolvesClear (py : Python) (sys : System) : Prop :=
  ∀ h, Closes sys h → (∃ o ∈ sys.store.verificationObjectives.rows, Scoped h o ∧
    o.objectiveType = "monitoring_alert_clear") → ClearAt py sys.store h.caseId

/-! ## The invariant -/

/-- The two objectives ask for the same thing. -/
def SameTarget (o copy : VerificationObjective) : Prop :=
  o.caseId = copy.caseId ∧ o.handoffId = copy.handoffId ∧ o.required = copy.required ∧
    o.objectiveType = copy.objectiveType

theorem SameTarget.alertClear {o copy : VerificationObjective} (h : SameTarget o copy) :
    AlertClear o ↔ AlertClear copy := by
  unfold AlertClear
  rw [h.2.2.1, h.2.2.2]

theorem SameTarget.symm {o copy : VerificationObjective} (h : SameTarget o copy) :
    SameTarget copy o := ⟨h.1.symm, h.2.1.symm, h.2.2.1.symm, h.2.2.2.symm⟩

theorem SameTarget.trans {o copy other : VerificationObjective} (h : SameTarget o copy)
    (h' : SameTarget copy other) : SameTarget o other :=
  ⟨h.1.trans h'.1, h.2.1.trans h'.2.1, h.2.2.1.trans h'.2.2.1, h.2.2.2.trans h'.2.2.2⟩

/-- The objectives of a case that stands are clear, and every copy is of a stored objective. -/
structure Sound (py : Python) (sys : System) : Prop where
  clear : ∀ caseId, Standing sys caseId → ClearAt py sys.store caseId
  copies : ∀ i, ∀ copy ∈ (sys.runs i).copies, ∃ o,
    sys.store.verificationObjectives.get? copy.objectiveId = some o ∧ SameTarget o copy
  held : ∀ i h, (sys.runs i).Holds h → ∃ stored,
    sys.store.handoffs.get? h.handoffId = some stored ∧ stored.caseId = h.caseId

theorem Sound.resolvesClear {py : Python} {sys : System} (hs : Sound py sys) :
    ResolvesClear py sys := by
  rintro h hcloses ⟨o, ho, hscoped, htype⟩
  refine hs.clear _ ⟨o, ho, ⟨hscoped.2.2, htype⟩, hscoped.1, Or.inr ?_⟩
  rw [hscoped.2.1]
  rcases hcloses with ⟨i, ids, done, hrun, stored, hget, hallowed⟩ | ⟨i, ids, done, hrun⟩
  · refine Or.inl ⟨i, h, by rw [hrun]; rfl, rfl, rfl, stored, hget, ?_⟩
    rcases (allowed_verified _).1 hallowed with hst | hst <;> rw [hst] <;> decide
  · exact Or.inr ⟨i, h, by rw [hrun]; rfl, rfl, rfl⟩

/-- What one run of the system holds after a step is what the run that moved holds, or what was
held before. -/
theorem exists_atRun {P : VerifierRun → Prop} {sys : System} {i : Nat} {c : VerifierRun} {t : Store}
    (h : ∃ k, P ((sys.atRun i c t).runs k)) : P c ∨ ∃ k, P (sys.runs k) := by
  obtain ⟨k, hk⟩ := h
  simp only [System.atRun, Function.update_apply] at hk
  split at hk
  · exact Or.inl hk
  · exact Or.inr ⟨k, hk⟩

/-! ## A step of a run -/

/-- What the place a run goes to can add to the standing verdicts. -/
inductive Brings (sys : System) (c : VerifierRun) (caseId : String) : Prop where
  | recorded (o updated : VerificationObjective)
      (stored : o ∈ sys.store.verificationObjectives.rows) (alert : AlertClear o)
      (about : o.caseId = caseId) (holds : updated ∈ c.recorded?)
      (same : updated.objectiveId = o.objectiveId) (satisfied : objectiveSatisfied updated)
  | loaded (o : VerificationObjective) (h : CaseHandoff)
      (stored : o ∈ sys.store.verificationObjectives.rows) (alert : AlertClear o)
      (about : o.caseId = caseId) (settled : Settled sys o) (holds : h ∈ c.loaded?)
      (same : h.handoffId = o.handoffId)
  | closing (o : VerificationObjective) (h : CaseHandoff)
      (stored : o ∈ sys.store.verificationObjectives.rows) (alert : AlertClear o)
      (about : o.caseId = caseId) (holds : h ∈ c.closing?) (same : h.handoffId = o.handoffId)
      (target : h.caseId = caseId) (isOpen : ∃ stored, sys.store.handoffs.get? o.handoffId = some stored ∧
        stored.status ∉ TERMINAL_HANDOFF_STATUSES)
  | resolving (o : VerificationObjective) (h : CaseHandoff)
      (stored : o ∈ sys.store.verificationObjectives.rows) (alert : AlertClear o)
      (about : o.caseId = caseId) (holds : h ∈ c.resolving?) (same : h.handoffId = o.handoffId)
      (target : h.caseId = caseId)

theorem not_brings {sys : System} {c : VerifierRun} (hc : c.Calm) (caseId : String) :
    ¬ Brings sys c caseId := by
  intro h
  cases h with
  | recorded o updated _ _ _ holds => rw [hc.recorded] at holds; cases holds
  | loaded o h _ _ _ _ holds => rw [hc.loaded] at holds; cases holds
  | closing o h _ _ _ holds => rw [hc.closing] at holds; cases holds
  | resolving o h _ _ _ holds => rw [hc.resolving] at holds; cases holds

theorem awaits_atRun {sys : System} {i : Nat} {c : VerifierRun} {t : Store}
    (hm : Moved sys.store t) {g : String} (h : Awaits (sys.atRun i c t) g) :
    Awaits sys g ∨ ∃ h ∈ c.loaded?, h.handoffId = g := by
  rcases h with ⟨h', hget, hopen⟩ | h
  · obtain ⟨h, hget, -, hfinal, -⟩ := hm.back g h' hget
    exact Or.inl (Or.inl ⟨h, hget, hfinal hopen⟩)
  · rcases exists_atRun (P := fun c => ∃ h ∈ c.loaded?, h.handoffId = g) h with h | h
    · exact Or.inr h
    · exact Or.inl (Or.inr h)

theorem standing_atRun {sys : System} {i : Nat} {c : VerifierRun} {t : Store}
    (hm : Moved sys.store t) {caseId : String} (h : Standing (sys.atRun i c t) caseId) :
    Standing sys caseId ∨ Brings sys c caseId := by
  obtain ⟨o, ho, halert, hcase, h⟩ := h
  have ho : o ∈ sys.store.verificationObjectives.rows := by
    rw [← hm.objectives]
    exact ho
  rcases h with ⟨hsettled, hawaits⟩ | hclosing
  · have hsettled : Settled sys o ∨ ∃ updated ∈ c.recorded?,
        updated.objectiveId = o.objectiveId ∧ objectiveSatisfied updated := by
      rcases hsettled with h | h
      · exact Or.inl (Or.inl h)
      · rcases exists_atRun (P := fun c => ∃ updated ∈ c.recorded?,
            updated.objectiveId = o.objectiveId ∧ objectiveSatisfied updated) h with h | h
        · exact Or.inr h
        · exact Or.inl (Or.inr h)
    rcases hsettled with hsettled | ⟨updated, hu, hid, hsat⟩
    · rcases awaits_atRun hm hawaits with hawaits | ⟨h, hl, hid⟩
      · exact Or.inl ⟨o, ho, halert, hcase, Or.inl ⟨hsettled, hawaits⟩⟩
      · exact Or.inr (.loaded o h ho halert hcase hsettled hl hid)
    · exact Or.inr (.recorded o updated ho halert hcase hu hid hsat)
  · rcases hclosing with ⟨k, h, hh, hid, hc, stored, hget, hopen⟩ | h
    · obtain ⟨stored', hget', -, -, hterminal⟩ := hm.back _ stored hget
      have hstored : ∃ stored, sys.store.handoffs.get? o.handoffId = some stored ∧
          stored.status ∉ TERMINAL_HANDOFF_STATUSES := ⟨stored', hget', hterminal hopen⟩
      rcases exists_atRun (P := fun c => ∃ h ∈ c.closing?, h.handoffId = o.handoffId ∧
          h.caseId = caseId) ⟨k, h, hh, hid, hc⟩ with ⟨h, hh, hid, hc⟩ | ⟨k, h, hh, hid, hc⟩
      · exact Or.inr (.closing o h ho halert hcase hh hid hc hstored)
      · exact Or.inl ⟨o, ho, halert, hcase, Or.inr (Or.inl ⟨k, h, hh, hid, hc, hstored⟩)⟩
    · rcases exists_atRun (P := fun c => ∃ h ∈ c.resolving?, h.handoffId = o.handoffId ∧
          h.caseId = caseId) h with ⟨h, hh, hid, hc⟩ | h
      · exact Or.inr (.resolving o h ho halert hcase hh hid hc)
      · exact Or.inl ⟨o, ho, halert, hcase, Or.inr (Or.inr h)⟩

theorem clearAt_congr {py : Python} {s t : Store} (h : t.caseTimes = s.caseTimes) (caseId : String) :
    ClearAt py t caseId ↔ ClearAt py s caseId := by
  unfold ClearAt
  rw [h]

/-- **A step of a run keeps the invariant when what it brings is about clear cases.** -/
theorem Sound.atRun {py : Python} {sys : System} (hs : Sound py sys) {i : Nat} {c : VerifierRun}
    {t : Store} (hm : Moved sys.store t)
    (hbrings : ∀ caseId, Brings sys c caseId → ClearAt py sys.store caseId)
    (hcopies : ∀ copy ∈ c.copies, ∃ o,
      sys.store.verificationObjectives.get? copy.objectiveId = some o ∧ SameTarget o copy)
    (hheld : ∀ h, c.Holds h → ∃ stored,
      sys.store.handoffs.get? h.handoffId = some stored ∧ stored.caseId = h.caseId) :
    Sound py (sys.atRun i c t) := by
  have hrun : ∀ k, (sys.atRun i c t).runs k = if k = i then c else sys.runs k := by
    intro k
    simp only [System.atRun, Function.update_apply]
  refine ⟨fun caseId h => ?_, fun k copy hcopy => ?_, fun k h hh => ?_⟩
  · rw [show (sys.atRun i c t).store = t from rfl, clearAt_congr hm.times]
    rcases standing_atRun hm h with h | h
    · exact hs.clear caseId h
    · exact hbrings caseId h
  · rw [show (sys.atRun i c t).store = t from rfl, hm.objectives]
    rw [hrun] at hcopy
    split at hcopy
    · exact hcopies copy hcopy
    · exact hs.copies k copy hcopy
  · rw [hrun] at hh
    have hstored : ∃ stored, sys.store.handoffs.get? h.handoffId = some stored ∧
        stored.caseId = h.caseId := by
      split at hh
      · exact hheld h hh
      · exact hs.held k h hh
    obtain ⟨stored, hget, hcase⟩ := hstored
    obtain ⟨stored', hget', hcase'⟩ := hm.forth _ stored hget
    exact ⟨stored', hget', hcase'.trans hcase⟩

/-- A step to a place that brings nothing. -/
theorem Sound.atCalm {py : Python} {sys : System} (hs : Sound py sys) {i : Nat} {c : VerifierRun}
    {t : Store} (hm : Moved sys.store t) (hc : c.Calm)
    (hcopies : ∀ copy ∈ c.copies, copy ∈ (sys.runs i).copies) : Sound py (sys.atRun i c t) :=
  hs.atRun hm (fun caseId h => absurd h (not_brings hc caseId))
    (fun copy h => hs.copies i copy (hcopies copy h)) fun h hh => absurd hh (hc.not_holds h)

/-- The recorded objective asks for what the stored one asks for. -/
theorem Sound.recorded {py : Python} {sys : System} (hs : Sound py sys) {i : Nat}
    {updated : VerificationObjective} (hu : updated ∈ (sys.runs i).recorded?)
    (hcopy : updated ∈ (sys.runs i).copies) : Sound py { sys with
      store := { sys.store with
        verificationObjectives := sys.store.verificationObjectives.put updated } } := by
  obtain ⟨row, hrow, hsame⟩ := hs.copies i updated hcopy
  have hid : row.objectiveId = updated.objectiveId := Table.key_of_get? hrow
  refine ⟨?_, fun k copy hk => ?_, hs.held⟩
  · rintro caseId ⟨o, ho, halert, hcase, h⟩
    refine hs.clear caseId ?_
    rcases Table.mem_put.1 ho with rfl | ⟨ho, -⟩
    · -- the verdict was on its way to the stored row
      refine ⟨row, Table.mem_of_get? hrow, hsame.alertClear.2 halert, hsame.1.trans hcase, ?_⟩
      rw [hsame.2.1]
      rcases h with ⟨hsettled, hawaits⟩ | hclosing
      · refine Or.inl ⟨Or.inr ?_, hawaits⟩
        rcases hsettled with hsat | ⟨k, u, hk, he, hsat⟩
        · exact ⟨i, o, hu, hid.symm, hsat⟩
        · exact ⟨k, u, hk, he.trans hid.symm, hsat⟩
      · exact Or.inr hclosing
    · exact ⟨o, ho, halert, hcase, h⟩
  · obtain ⟨o, ho, hso⟩ := hs.copies k copy hk
    simp only [Table.get?_put]
    split
    · rename_i he
      have he : updated.objectiveId = copy.objectiveId := he
      rw [← he, hrow] at ho
      cases ho
      exact ⟨updated, rfl, hsame.symm.trans hso⟩
    · exact ⟨o, ho, hso⟩

section Steps

variable (v : CaseVerifier)

/-- A verdict that the alert is clear comes from a case that is. -/
theorem clear_of_satisfied (hchecker : v.checker = defaultVerificationCheck v.py)
    (d : VerifierDraws) {now : String} {o updated : VerificationObjective} {s : Store}
    (h : v.check d now o (s.atomicCase? o.caseId) = .ok updated) (hsat : objectiveSatisfied updated)
    (htype : o.objectiveType = "monitoring_alert_clear") : ClearAt v.py s o.caseId := by
  have hpass : (v.judge o (s.atomicCase? o.caseId)).status = .pass := by
    unfold CaseVerifier.check applyCheckResult at h
    cases hn : nextCheckAt v.py now (d.checkedAt o.objectiveId)
        v.settings.caseVerificationIntervalS with
    | error e => rw [hn] at h; cases h
    | ok next =>
      rw [hn] at h
      cases h
      by_contra hne
      have hcount := hsat.2
      simp only [if_neg hne] at hcount
      exact absurd (le_trans o.requiredConsecutivePasses_pos hcount) (by decide)
  unfold CaseVerifier.judge at hpass
  rw [hchecker] at hpass
  unfold defaultVerificationCheck at hpass
  rw [if_pos htype] at hpass
  cases hcase : s.atomicCase? o.caseId with
  | none => rw [hcase] at hpass; cases hpass
  | some case =>
    rw [hcase] at hpass
    refine ⟨_, by unfold Store.caseTimes; rw [hcase]; rfl, ?_⟩
    revert hpass
    simp only []
    cases observedCleanAfterUnhealthy v.py case.lastObservedClean case.lastObservedUnhealthy with
    | error e => intro hpass; cases hpass
    | ok b =>
      cases b with
      | true => intro _; rfl
      | false => intro hpass; cases hpass

theorem sameTarget_of_check {d : VerifierDraws} {now : String} {o updated : VerificationObjective}
    {case : Option AtomicCaseProjection} (h : v.check d now o case = .ok updated) :
    SameTarget o updated := by
  unfold CaseVerifier.check applyCheckResult at h
  cases hn : nextCheckAt v.py now (d.checkedAt o.objectiveId)
      v.settings.caseVerificationIntervalS with
  | error e => rw [hn] at h; cases h
  | ok next => rw [hn] at h; cases h; exact ⟨rfl, rfl, rfl, rfl⟩

theorem after_run {sys : System} {i : Nat} {d : VerifierDraws} {c : VerifierRun} {t : Store}
    (h : v.goesOn d (sys.runs i) sys.store = (c, t)) : sys.after v (.run i d) = sys.atRun i c t := by
  unfold CaseVerifier.goesOn at h
  unfold System.after
  simp only [Prod.mk.injEq] at h
  rw [← h.1, ← h.2]

theorem Sound.checking (hchecker : v.checker = defaultVerificationCheck v.py) {sys : System}
    (hs : Sound v.py sys) {i : Nat} (d : VerifierDraws) {now : String}
    {due : List VerificationObjective} {tally : CaseVerifier.Tally}
    (hrun : sys.runs i = .checking now due tally) : Sound v.py (sys.after v (.run i d)) := by
  have hcopies := hs.copies i
  rw [hrun] at hcopies
  cases due with
  | nil =>
    obtain ⟨c, hc, h⟩ := checked_goesOn v d now tally sys.store
    rw [← hrun] at hc
    rw [after_run v hc]
    rcases h with rfl | ⟨ids, done, rfl⟩
    · exact hs.atCalm (Moved.refl _) .idle (by simp [VerifierRun.copies])
    · exact hs.atCalm (Moved.refl _) (.verifying _ _) (by simp [VerifierRun.copies])
  | cons o due =>
    obtain ⟨c, hc, h⟩ := checking_goesOn v d now o due tally sys.store
    rw [← hrun] at hc
    rw [after_run v hc]
    rcases h with rfl | ⟨tally', rfl⟩ | ⟨updated, tally', hcheck, rfl⟩
    · exact hs.atCalm (Moved.refl _) .idle (by simp [VerifierRun.copies])
    · refine hs.atCalm (Moved.refl _) (.checking _ _ _) fun copy h => ?_
      rw [hrun]
      exact List.mem_cons_of_mem _ h
    · obtain ⟨hid, hhandoff⟩ := check_ok v d now hcheck
      obtain ⟨row, hrow, hsame⟩ := hcopies o List.mem_cons_self
      refine hs.atRun (Moved.refl _) (fun caseId hb => ?_) (fun copy hcopy => ?_) fun h hh => ?_
      · cases hb with
        | recorded o' u stored alert about holds same satisfied =>
          cases holds
          have hrow' : row = o' := by
            have h1 := Table.mem_rows_iff.1 stored
            rw [← same, hid, hrow] at h1
            exact Option.some.inj h1
          subst hrow'
          rw [← about, hsame.1]
          exact clear_of_satisfied v hchecker d hcheck satisfied (hsame.alertClear.1 alert).2
        | loaded _ _ _ _ _ _ holds => cases holds
        | closing _ _ _ _ _ holds => cases holds
        | resolving _ _ _ _ _ holds => cases holds
      · rcases List.mem_cons.1 hcopy with rfl | hcopy
        · exact ⟨row, by rw [hid]; exact hrow, hsame.trans (sameTarget_of_check v hcheck)⟩
        · exact hcopies copy (List.mem_cons_of_mem _ hcopy)
      · rcases hh with hh | hh | hh <;> cases hh

theorem Sound.recording {sys : System} (hs : Sound v.py sys) {i : Nat} (d : VerifierDraws)
    {now : String} {updated : VerificationObjective} {due : List VerificationObjective}
    {tally : CaseVerifier.Tally} (hrun : sys.runs i = .recording now updated due tally) :
    Sound v.py (sys.after v (.run i d)) := by
  have hcopy : updated ∈ (sys.runs i).copies := by rw [hrun]; exact List.mem_cons_self
  obtain ⟨row, hrow, -⟩ := hs.copies i updated hcopy
  obtain ⟨tally', t, hc, hview, htimes⟩ := recording_goesOn v d now hrow due tally
  rw [← hrun] at hc
  rw [after_run v hc]
  have hs' := hs.recorded (by rw [hrun]; rfl) hcopy
  refine hs'.atCalm (Moved.of_eq hview htimes) (.checking _ _ _) fun copy h => ?_
  change copy ∈ (sys.runs i).copies
  rw [hrun]
  exact List.mem_cons_of_mem _ h

theorem Sound.verifying {sys : System} (hs : Sound v.py sys) {i : Nat} (d : VerifierDraws)
    {ids : List String} {done : Nat × Nat} (hrun : sys.runs i = .verifying ids done) :
    Sound v.py (sys.after v (.run i d)) := by
  obtain ⟨c, hc, h⟩ := verifying_goesOn v d ids done sys.store
  rw [← hrun] at hc
  rw [after_run v hc]
  rcases h with rfl | ⟨ids', done', rfl⟩ | ⟨handoff, ids', done', hget, hopen, rfl⟩
  · exact hs.atCalm (Moved.refl _) .idle (by simp [VerifierRun.copies])
  · exact hs.atCalm (Moved.refl _) (.verifying _ _) (by simp [VerifierRun.copies])
  · refine hs.atRun (Moved.refl _) (fun caseId hb => ?_) (by simp [VerifierRun.copies]) fun h hh => ?_
    · cases hb with
      | recorded _ _ _ _ _ holds => cases holds
      | loaded o h stored alert about settled holds same =>
        cases holds
        refine hs.clear caseId ⟨o, stored, alert, about, Or.inl ⟨settled, Or.inl ⟨handoff, ?_, hopen⟩⟩⟩
        rw [← same]
        exact hget
      | closing _ _ _ _ _ holds => cases holds
      | resolving _ _ _ _ _ holds => cases holds
    · rcases hh with hh | hh | hh
      · cases hh
        exact ⟨handoff, hget, rfl⟩
      · cases hh
      · cases hh

theorem Sound.loaded {sys : System} (hs : Sound v.py sys) {i : Nat} (d : VerifierDraws)
    {handoff : CaseHandoff} {ids : List String} {done : Nat × Nat}
    (hrun : sys.runs i = .loaded handoff ids done) : Sound v.py (sys.after v (.run i d)) := by
  obtain ⟨c, hc, h⟩ := loaded_goesOn v d handoff ids done sys.store
  rw [← hrun] at hc
  rw [after_run v hc]
  rcases h with ⟨ids', done', rfl⟩ | ⟨hpassed, rfl⟩
  · exact hs.atCalm (Moved.refl _) (.verifying _ _) (by simp [VerifierRun.copies])
  · refine hs.atRun (Moved.refl _) (fun caseId hb => ?_) (by simp [VerifierRun.copies]) fun h hh => ?_
    · cases hb with
      | recorded _ _ _ _ _ holds => cases holds
      | loaded _ _ _ _ _ _ holds => cases holds
      | closing o h stored alert about holds same target isOpen =>
        cases holds
        -- the objective is one of those the run found satisfied
        have hsat := hpassed.2 o stored ⟨about.trans target.symm, same.symm, alert.1⟩
        refine hs.clear caseId ⟨o, stored, alert, about, Or.inl ⟨Or.inl hsat, Or.inr ⟨i, handoff, ?_,
          same⟩⟩⟩
        rw [hrun]
        rfl
      | resolving _ _ _ _ _ holds => cases holds
    · rcases hh with hh | hh | hh
      · cases hh
      · cases hh
        exact hs.held i handoff (by rw [hrun]; exact Or.inl rfl)
      · cases hh

theorem Sound.passed {sys : System} (hs : Sound v.py sys) {i : Nat} (d : VerifierDraws)
    {handoff : CaseHandoff} {ids : List String} {done : Nat × Nat}
    (hrun : sys.runs i = .passed handoff ids done) : Sound v.py (sys.after v (.run i d)) := by
  obtain ⟨c, hc, h⟩ := passed_goesOn v d handoff ids done sys.store
  rw [← hrun] at hc
  rw [after_run v hc]
  rcases h with rfl | ⟨found, hget, rfl⟩
  · exact hs.atCalm (Moved.refl _) .idle (by simp [VerifierRun.copies])
  · obtain ⟨stored, hstored, hcase⟩ := hs.held i handoff (by rw [hrun]; exact Or.inr (Or.inl rfl))
    rw [hget] at hstored
    cases hstored
    have hid : found.handoffId = handoff.handoffId := Table.key_of_get? hget
    refine hs.atRun (Moved.refl _) (fun caseId hb => ?_) (by simp [VerifierRun.copies]) fun h hh => ?_
    · cases hb with
      | recorded _ _ _ _ _ holds => cases holds
      | loaded _ _ _ _ _ _ holds => cases holds
      | closing o h stored alert about holds same target isOpen =>
        cases holds
        refine hs.clear caseId ⟨o, stored, alert, about, Or.inr (Or.inl ⟨i, handoff, ?_,
          hid.symm.trans same, hcase.symm.trans target, isOpen⟩)⟩
        rw [hrun]
        rfl
      | resolving _ _ _ _ _ holds => cases holds
    · rcases hh with hh | hh | hh
      · cases hh
      · cases hh
        exact ⟨found, Table.get?_key hget, rfl⟩
      · cases hh

theorem Sound.marking {sys : System} (hs : Sound v.py sys) {i : Nat} (d : VerifierDraws)
    {handoff : CaseHandoff} {ids : List String} {done : Nat × Nat}
    (hrun : sys.runs i = .marking handoff ids done) : Sound v.py (sys.after v (.run i d)) := by
  obtain ⟨c, t, hc, hm, h⟩ := marking_goesOn v d handoff ids done sys.store
  rw [← hrun] at hc
  rw [after_run v hc]
  rcases h with rfl | ⟨ids', done', rfl⟩ | ⟨verified, h, hget, hopen, hcase, hid, rfl⟩
  · exact hs.atCalm hm .idle (by simp [VerifierRun.copies])
  · exact hs.atCalm hm (.verifying _ _) (by simp [VerifierRun.copies])
  · obtain ⟨stored, hstored, hc'⟩ := hs.held i handoff (by rw [hrun]; exact Or.inr (Or.inl rfl))
    rw [hget] at hstored
    cases hstored
    have hkey : h.handoffId = handoff.handoffId := Table.key_of_get? hget
    refine hs.atRun hm (fun caseId hb => ?_) (by simp [VerifierRun.copies]) fun h' hh => ?_
    · cases hb with
      | recorded _ _ _ _ _ holds => cases holds
      | loaded _ _ _ _ _ _ holds => cases holds
      | closing _ _ _ _ _ holds => cases holds
      | resolving o h' stored alert about holds same target =>
        cases holds
        have hg : handoff.handoffId = o.handoffId := (hid.trans hkey).symm.trans same
        refine hs.clear caseId ⟨o, stored, alert, about, Or.inr (Or.inl ⟨i, handoff, ?_, hg,
          (hcase.trans hc').symm.trans target, h, ?_, hopen⟩)⟩
        · rw [hrun]
          rfl
        · rw [← hg]
          exact hget
    · rcases hh with hh | hh | hh
      · cases hh
      · cases hh
      · cases hh
        refine ⟨h, ?_, hcase.symm⟩
        rw [hid]
        exact Table.get?_key hget

/-- **A step of a run keeps the invariant.** -/
theorem Sound.run (hchecker : v.checker = defaultVerificationCheck v.py) {sys : System}
    (hs : Sound v.py sys) (i : Nat) (d : VerifierDraws) : Sound v.py (sys.after v (.run i d)) := by
  cases hrun : sys.runs i with
  | idle =>
    have hc : v.goesOn d (sys.runs i) sys.store = (.idle, sys.store) := by rw [hrun]; rfl
    rw [after_run v hc]
    exact hs.atCalm (Moved.refl _) .idle (by simp [VerifierRun.copies])
  | checking now due tally => exact hs.checking v hchecker d hrun
  | recording now updated due tally => exact hs.recording v d hrun
  | verifying ids done => exact hs.verifying v d hrun
  | loaded handoff ids done => exact hs.loaded v d hrun
  | passed handoff ids done => exact hs.passed v d hrun
  | marking handoff ids done => exact hs.marking v d hrun
  | resolving verified ids done =>
    obtain ⟨c, t, hc, hm, h⟩ := resolving_goesOn v d verified ids done sys.store
    rw [← hrun] at hc
    rw [after_run v hc]
    rcases h with rfl | ⟨ids', done', rfl⟩ | ⟨outcomeId, rfl⟩
    · exact hs.atCalm hm .idle (by simp [VerifierRun.copies])
    · exact hs.atCalm hm (.verifying _ _) (by simp [VerifierRun.copies])
    · exact hs.atCalm hm (.proposing _ _ _ _) (by simp [VerifierRun.copies])
  | proposing verified outcomeId ids done =>
    obtain ⟨c, t, hc, hm, h⟩ := proposing_goesOn v d verified outcomeId ids done sys.store
    rw [← hrun] at hc
    rw [after_run v hc]
    rcases h with rfl | ⟨ids', done', rfl⟩
    · exact hs.atCalm hm .idle (by simp [VerifierRun.copies])
    · exact hs.atCalm hm (.verifying _ _) (by simp [VerifierRun.copies])

theorem Sound.start {sys : System} (hs : Sound v.py sys) (i : Nat) (d : VerifierDraws)
    (now : Option String) (limit : Int) : Sound v.py (sys.after v (.start i d now limit)) := by
  change Sound v.py (sys.atRun i (v.start d now limit sys.store) sys.store)
  unfold CaseVerifier.start
  split
  · have hcalm := VerifierRun.Calm.checking (orText (now.getD "") d.startedAt)
      (sys.store.listDueVerificationObjectives (orText (now.getD "") d.startedAt) limit) {}
    refine hs.atRun (Moved.refl _) (fun caseId h => absurd h (not_brings hcalm caseId))
      (fun copy hcopy => ?_) fun h hh => absurd hh (hcalm.not_holds h)
    exact ⟨copy, Table.mem_rows_iff.1 (mem_listDue hcopy), rfl, rfl, rfl, rfl⟩
  · exact hs.atCalm (Moved.refl _) .idle (by simp [VerifierRun.copies])

/-- Verdicts do not depend on the observers, nor on the cases. -/
theorem standing_atObserver {sys : System} {j : Nat} {c : Observer} {t : Store}
    (hview : t.verifierView = sys.store.verifierView) {caseId : String}
    (h : Standing (sys.atObserver j c t) caseId) : Standing sys caseId := by
  have hh : t.handoffs = sys.store.handoffs := congrArg Prod.fst hview
  have ho : t.verificationObjectives = sys.store.verificationObjectives := congrArg Prod.snd hview
  unfold Standing Awaits ClosingFor at h ⊢
  simp only [System.atObserver, hh, ho] at h
  exact h

/-- **A step of an observer keeps the invariant unless it disturbs a standing verdict.** -/
theorem Sound.observe {sys : System} (hs : Sound v.py sys) {j : Nat} {draws : ObserveDraws}
    (hallowed : (SystemLabel.observe j draws).Allowed sys)
    (hguard : Undisturbed v.py sys (.observe j draws)) :
    Sound v.py (sys.after v (.observe j draws)) := by
  obtain ⟨hview, htimes⟩ := observer_next v.py v.policy draws (sys.observers j) sys.store
  have hh := congrArg Prod.fst hview
  have ho := congrArg Prod.snd hview
  change Sound v.py (sys.atObserver j _ _)
  refine ⟨fun caseId h => ?_, fun k copy hcopy => ?_, fun k h hheld => ?_⟩
  · have hstanding := standing_atObserver hview h
    obtain ⟨times, hmem, hclear⟩ := hs.clear caseId hstanding
    have hnew : ∀ observation, sys.observers j = .writing observation none →
        caseId ≠ draws.caseId := by
      intro observation hw he
      -- a new case gets an id that no case has
      unfold Store.caseTimes Store.atomicCase? at hmem
      rw [he, hallowed observation hw] at hmem
      cases hmem
    rcases htimes caseId hnew with hsame | ⟨times', hw, hset⟩
    · exact ⟨times, hsame.trans hmem, hclear⟩
    · exact ⟨times', hset, hguard caseId times' hw hstanding⟩
  · obtain ⟨o, hget, hsame⟩ := hs.copies k copy hcopy
    exact ⟨o, (congrArg (fun rows => Table.get? rows copy.objectiveId) ho).trans hget, hsame⟩
  · obtain ⟨stored, hget, hcase⟩ := hs.held k h hheld
    exact ⟨stored, (congrArg (fun rows => Table.get? rows h.handoffId) hh).trans hget, hcase⟩

theorem Sound.step (hchecker : v.checker = defaultVerificationCheck v.py) {sys t : System}
    {l : SystemLabel} (hs : Sound v.py sys)
    (h : Guarded (systemStep v) (Undisturbed v.py) sys l t) : Sound v.py t := by
  obtain ⟨hguard, hallowed, rfl⟩ := h
  cases l with
  | start i d now limit => exact hs.start v i d now limit
  | run i d => exact hs.run v hchecker i d
  | receive j observation =>
    refine ⟨fun caseId h => ?_, hs.copies, hs.held⟩
    exact hs.clear caseId (standing_atObserver rfl h)
  | observe j draws => exact hs.observe v hallowed hguard

/-- **Where no observation disturbs a standing verdict, handoffs that ask for the alert to be
clear are marked verified and their cases resolved only while it is clear.** -/
theorem resolvesClear_run (hchecker : v.checker = defaultVerificationCheck v.py) {start : Store}
    (hstart : ∀ caseId, Standing (System.quiet start) caseId → ClearAt v.py start caseId)
    {ls : List SystemLabel} {sys : System}
    (hrun : Run (Guarded (systemStep v) (Undisturbed v.py)) (System.quiet start) ls sys) :
    ResolvesClear v.py sys := by
  have hquiet : Sound v.py (System.quiet start) := by
    refine ⟨hstart, fun i copy h => ?_, fun i h hh => ?_⟩
    · cases h
    · exact absurd hh (VerifierRun.Calm.idle.not_holds h)
  exact (hrun.invariant (fun _ _ _ hs h => hs.step v hchecker h) hquiet).resolvesClear

end Steps

/-! ## A case resolved while its alert fires -/

theorem not_standing_of_unsettled {sys : System} (hidle : ∀ i, sys.runs i = .idle)
    (hrows : ∀ o ∈ sys.store.verificationObjectives.rows, ¬ objectiveSatisfied o)
    (caseId : String) : ¬ Standing sys caseId := by
  have hcalm : ∀ i, (sys.runs i).Calm := fun i => by rw [hidle i]; exact .idle
  rintro ⟨o, ho, _, _, ⟨hsettled, _⟩ | hclosing⟩
  · rcases hsettled with hsat | ⟨i, updated, hmem, _⟩
    · exact hrows o ho hsat
    · rw [(hcalm i).recorded] at hmem
      cases hmem
  · rcases hclosing with ⟨i, h, hmem, _⟩ | ⟨i, h, hmem, _⟩
    · rw [(hcalm i).closing] at hmem
      cases hmem
    · rw [(hcalm i).resolving] at hmem
      cases hmem

/-- The moments of the runs below, with the microseconds of each. -/
def clock : List (String × Int) :=
  [("2026-01-01T00:00:00+00:00", 1767225600000000), ("2026-01-01T01:00:00+00:00", 1767229200000000),
    ("2026-01-01T02:00:00+00:00", 1767232800000000), ("2026-01-01T02:02:00+00:00", 1767232920000000),
    ("2026-01-01T03:00:00+00:00", 1767236400000000), ("2026-01-01T04:00:00+00:00", 1767240000000000),
    ("2026-01-01T04:02:00+00:00", 1767240120000000)]

def clockPython : Python := tablePython clock

def alertObjective (key type : String) (morePasses : Nat) : VerificationObjective where
  objectiveId := "vo_" ++ key
  caseId := "case_1"
  handoffId := "handoff_1"
  objectiveKey := key
  objectiveType := type
  name := key
  requiredConsecutivePasses := morePasses + 1
  requiredConsecutivePasses_pos := Nat.succ_pos morePasses
  createdAt := "2026-01-01T00:00:00+00:00"
  updatedAt := "2026-01-01T00:00:00+00:00"

def reportFirst (status : HandoffStatus) : StoreOp :=
  .handoff (.appendHandoffUpdate {
    updateId := "hu_" ++ status.text
    handoffId := "handoff_1"
    caseId := "case_1"
    sourceLoop := .engineering
    updateType := if status = .implemented then .implemented else .accepted
    status := status
    externalEventId := status.text
    correlationId := "corr_1"
    createdAt := "2026-01-01T00:00:00+00:00" } none none none none)

/-- A case with one handoff; its alert must be clear once and its service healthy twice. -/
def alertHandoff : List StoreOp :=
  [.createAtomicCase {
      caseId := "case_1"
      fingerprint := "fp_1"
      lastObservedUnhealthy := "2026-01-01T00:00:00+00:00"
      openedAt := "2026-01-01T00:00:00+00:00"
      updatedAt := "2026-01-01T00:00:00+00:00" }
      [{ aliasId := "alias_1", caseId := "case_1", aliasType := .sourceFp, aliasValue := "fp_1" }] [],
    .handoff (.createHandoffWithObjectives (probeHandoff "handoff_1" "restore")
      [alertObjective "clear" "monitoring_alert_clear" 0,
        alertObjective "health" "health_endpoint" 1] none none none),
    reportFirst .accepted, reportFirst .inProgress, reportFirst .implemented]

def alertStore : Store := alertHandoff.foldl (fun s op => op.run s) {}

def clockVerifier : CaseVerifier where
  py := clockPython
  settings := {
    caseVerificationEnabled := true
    caseVerificationDryRun := false
    caseAutoResolveEnabled := true }
  checker := defaultVerificationCheck clockPython
  classify _ := "unknown"

def drawsAt (now : String) : VerifierDraws where
  startedAt := now
  checkedAt _ := 0
  check id := { eventId := "ce_" ++ id, now := now }
  verify id := { eventId := "cv_" ++ id, now := now }
  outcomeId id := "out_" ++ id
  outcomeAt _ := now
  resolve id := { eventId := "cr_" ++ id, now := now }
  outboxId id := "ob_" ++ id
  propose id := { eventId := "cp_" ++ id, now := now }

def observeAt (now : String) : ObserveDraws where
  caseId := "case_2"
  aliasId n := "alias_2" ++ toString n
  now := now
  created := { eventId := "oc_" ++ now, now := now }
  unhealthy := { eventId := "ou_" ++ now, now := now }
  updatedAt := now
  update := { eventId := "oe_" ++ now, now := now }

/-- An observation of the alert, from receipt to its last write. -/
def observed (status : ObservationStatus) (now : String) : List SystemLabel :=
  .receive 0 {
    observationId := "obs_" ++ now
    source := "alertmanager"
    sourceFingerprint := "fp_1"
    severity := .high
    status := status
    observedAt := now
    signalSignature := "sig"
    sourceHealth := .healthy } :: List.replicate 4 (.observe 0 (observeAt now))

/-- A call of `run_once` and its first steps. -/
def checked (now : String) (steps : Nat) : List SystemLabel :=
  .start 0 (drawsAt now) none 100 :: List.replicate steps (.run 0 (drawsAt now))

/-- The alert fires again between the check that finds it clear and the one that finds the
service healthy for the second time. -/
def refiring : List SystemLabel :=
  observed .clean "2026-01-01T01:00:00+00:00" ++ checked "2026-01-01T02:00:00+00:00" 8 ++
    observed .firing "2026-01-01T03:00:00+00:00" ++ checked "2026-01-01T04:00:00+00:00" 7

def refiringSystem : System := refiring.foldl (System.after clockVerifier) (System.quiet alertStore)

/-- The same without the second alert. -/
def cleared : List SystemLabel :=
  observed .clean "2026-01-01T01:00:00+00:00" ++ (checked "2026-01-01T02:00:00+00:00" 8 ++
    checked "2026-01-01T04:00:00+00:00" 7)

def clearedSystem : System := cleared.foldl (System.after clockVerifier) (System.quiet alertStore)

theorem run_alertStore : Run (storeStep clockPython) {} alertHandoff alertStore :=
  Run.cons ⟨trivial, rfl⟩ (Run.cons ⟨rfl, rfl⟩ (Run.cons ⟨trivial, rfl⟩
    (Run.cons ⟨trivial, rfl⟩ (Run.single ⟨trivial, rfl⟩))))

theorem closes_of_resolving {sys : System} {i : Nat} {h : CaseHandoff}
    (hmem : h ∈ (sys.runs i).resolving?) : Closes sys h := by
  cases hrun : sys.runs i with
  | resolving verified ids done =>
    rw [hrun] at hmem
    cases hmem
    exact Or.inr ⟨i, ids, done, hrun⟩
  | _ =>
    rw [hrun] at hmem
    cases hmem

/-- The next step resolves the case, whose unhealthy observation is the newer one. -/
theorem not_resolvesClear_refiring : Run (storeStep clockPython) {} alertHandoff alertStore ∧
    Run (systemStep clockVerifier) (System.quiet alertStore) refiring refiringSystem ∧
    ¬ ResolvesClear clockPython refiringSystem ∧
    ∃ case ∈ (refiringSystem.after clockVerifier
        (.run 0 (drawsAt "2026-01-01T04:00:00+00:00"))).store.atomicCase? "case_1",
      case.status = .resolved ∧ observedCleanAfterUnhealthy clockPython case.lastObservedClean
        case.lastObservedUnhealthy = .ok false := by
  refine ⟨run_alertStore, Run.of_valid (by decide +kernel), fun hclear => ?_, by decide +kernel⟩
  have hrun : ∃ h ∈ (refiringSystem.runs 0).resolving?,
      h.handoffId = "handoff_1" ∧ h.caseId = "case_1" := by decide +kernel
  have halert : ∃ o ∈ refiringSystem.store.verificationObjectives.rows,
      o.caseId = "case_1" ∧ o.handoffId = "handoff_1" ∧ o.required = true ∧
        o.objectiveType = "monitoring_alert_clear" := by decide +kernel
  have hnot : ¬ ∃ times ∈ refiringSystem.store.caseTimes "case_1",
      observedCleanAfterUnhealthy clockPython times.1 times.2 = .ok true := by decide +kernel
  obtain ⟨h, hmem, hhandoff, hcase⟩ := hrun
  obtain ⟨o, ho, hocase, hohandoff, hreq, htype⟩ := halert
  have hat := hclear h (closes_of_resolving hmem)
    ⟨o, ho, ⟨hocase.trans hcase.symm, hohandoff.trans hhandoff.symm, hreq⟩, htype⟩
  rw [hcase] at hat
  exact hnot hat

/-- An observation, with no satisfied objective on record. -/
def Unsettled (sys : System) (l : SystemLabel) : Prop :=
  (l.Allowed sys ∧ ∀ o ∈ sys.store.verificationObjectives.rows, ¬ objectiveSatisfied o) ∧
    match l with
    | .receive _ _ | .observe _ _ => True
    | _ => False

instance (sys : System) (l : SystemLabel) : Decidable (Unsettled sys l) := by
  unfold Unsettled
  cases l <;> infer_instance

theorem run_clearedSystem :
    Run (Guarded (systemStep clockVerifier) (Undisturbed clockPython)) (System.quiet alertStore)
      cleared clearedSystem := by
  unfold clearedSystem cleared
  rw [List.foldl_append]
  have hclean : Run (fun sys l t => Unsettled sys l ∧ t = sys.after clockVerifier l)
      (System.quiet alertStore) (observed .clean "2026-01-01T01:00:00+00:00") _ :=
    Run.of_valid (by decide +kernel)
  have hquiet := hclean.carry (I := fun sys => ∀ i, sys.runs i = .idle)
    (r := Guarded (systemStep clockVerifier) (Undisturbed clockPython))
    (fun sys l t hidle h => ?_) (fun _ => rfl)
  · have hchecks : Run (fun sys l t => l.Allowed sys ∧ t = sys.after clockVerifier l)
        ((observed .clean "2026-01-01T01:00:00+00:00").foldl (System.after clockVerifier)
          (System.quiet alertStore))
        (checked "2026-01-01T02:00:00+00:00" 8 ++ checked "2026-01-01T04:00:00+00:00" 7) _ :=
      Run.of_valid (by decide +kernel)
    refine hquiet.append (Run.guarded hchecks fun l hl sys => ?_)
    simp only [checked, List.mem_append, List.mem_cons, List.mem_replicate] at hl
    rcases hl with (rfl | ⟨_, rfl⟩) | (rfl | ⟨_, rfl⟩) <;> trivial
  · obtain ⟨⟨⟨hallowed, hrows⟩, hl⟩, rfl⟩ := h
    cases l with
    | receive j observation => exact ⟨hidle, trivial, hallowed, rfl⟩
    | observe j draws =>
      exact ⟨hidle, fun caseId _ _ h => absurd h (not_standing_of_unsettled hidle hrows caseId),
        hallowed, rfl⟩
    | _ => exact hl.elim

theorem resolvesClear_cleared :
    (∃ h, Closes clearedSystem h) ∧ ResolvesClear clockPython clearedSystem := by
  have hrun : ∃ h, h ∈ (clearedSystem.runs 0).resolving? :=
    Option.isSome_iff_exists.1 (by decide +kernel)
  refine ⟨hrun.imp fun h hmem => closes_of_resolving hmem, resolvesClear_run clockVerifier rfl
    (fun caseId h => absurd h ?_) run_clearedSystem⟩
  exact not_standing_of_unsettled (fun _ => rfl) (by decide +kernel) caseId

end NocAgent.Cases
