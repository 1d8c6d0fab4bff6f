import NocAgent.Cases.Attention
import Mathlib.Data.List.Chain

/-!
# The spacing of attention

* `Due` — what may be delivered after a delivery: another phase, another generation, a higher
  severity, or six hours later.
* `attentionDue_due`, `reminderDue_due` — both policies ask for it.
* `Sound` — what a handler knows: until somebody else delivers, its own delivery is due.
* `attentionSpaced_run` — deliveries of one case follow each other in sequence and spaced.
-/

set_option autoImplicit false

namespace NocAgent.Cases

open Effects Effects.Action Keyed Lts

/-! ## What the policies ask for -/

/-- A delivery of this phase, generation and severity is due at `now` after `prev`. -/
def Due (phase : AttentionPhase) (generation : Nat) (severity : Severity) (now : Int)
    (prev : AttentionDelivery) : Prop :=
  prev.phase ≠ phase ∨ prev.generation ≠ generation ∨
    SEVERITY_RANK prev.severity < SEVERITY_RANK severity ∨ hours6 ≤ now - prev.deliveredAt

theorem Due.later {phase : AttentionPhase} {generation : Nat} {severity : Severity} {now later : Int}
    {prev : AttentionDelivery} (h : Due phase generation severity now prev) (hnow : now ≤ later) :
    Due phase generation severity later prev := by
  rcases h with h | h | h | h
  · exact Or.inl h
  · exact Or.inr (Or.inl h)
  · exact Or.inr (Or.inr (Or.inl h))
  · exact Or.inr (Or.inr (Or.inr (by omega)))

theorem attentionKind_due {case : AtomicCaseProjection} {prev : AttentionDelivery}
    {phase : AttentionPhase} {now reminderSeconds : Int} {kind : AttentionKind}
    (h : attentionKind case (some prev) phase now reminderSeconds = some kind) :
    kind ≠ .new ∧
      Due phase case.reportGeneration (attentionSeverity case (some prev) kind) now prev := by
  cases phase with
  | recovered =>
    simp only [attentionKind] at h
    split at h
    · cases h
    split at h
    · rename_i hfiring
      cases h
      exact ⟨by simp, Or.inl (by rw [hfiring]; simp)⟩
    · cases h
  | firing =>
    simp only [attentionKind] at h
    split at h
    · cases h
    split at h
    · rename_i hrecovered
      cases h
      exact ⟨by simp, Or.inl (by rw [hrecovered]; simp)⟩
    split at h
    · rename_i hrank
      cases h
      exact ⟨by simp, Or.inr (Or.inr (Or.inl hrank))⟩
    split at h
    · rename_i hgeneration
      cases h
      exact ⟨by simp, Or.inr (Or.inl fun he => hgeneration he.symm)⟩
    split at h
    · rename_i hsix
      cases h
      exact ⟨by simp, Or.inr (Or.inr (Or.inr (by omega)))⟩
    · cases h

/-- **A request that is still due is due after the last delivery**, and is not the first one. -/
theorem attentionDue_due {py : Python} {case : AtomicCaseProjection}
    {previous : Option AttentionDelivery} {now reminderSeconds : Int} {request : AttentionRequest}
    (h : attentionDue py case previous now reminderSeconds = .ok (some request)) :
    request.expectedSequence = (previous.map AttentionDelivery.sequence).getD 0 ∧
      ∀ prev ∈ previous, request.kind ≠ .new ∧
        Due request.phase request.generation request.severity now prev := by
  unfold attentionDue at h
  split at h
  · cases h
  split at h
  · cases h
  split at h
  · cases h
  split at h
  · cases h
  simp only [] at h
  split at h
  · cases h
  rename_i kind hkind
  cases h
  refine ⟨rfl, fun prev hprev => ?_⟩
  cases hprev
  exact attentionKind_due hkind

/-- `datetime.fromisoformat` reads what `isoformat` wrote. -/
def IsoInverse (py : Python) : Prop :=
  ∀ t t', py.parseIso (py.isoformat t) = some t' → t' = t

theorem parseIsoTime_isoformat {py : Python} (hiso : IsoInverse py) {t last : Int}
    (h : parseIsoTime py (py.isoformat t) = .ok (some last)) : last = t := by
  unfold parseIsoTime at h
  split at h
  · cases h
  split at h
  · cases h
  rename_i t' hparse
  by_cases hbound : MIN_INSTANT ≤ t' ∧ t' ≤ MAX_INSTANT
  · simp only [asInstant, if_pos hbound] at h
    cases h
    exact hiso t _ hparse
  · simp only [asInstant, if_neg hbound] at h
    cases h

theorem shouldRemind_elapsed {py : Python} {policy : CasePolicy} {enabled : Bool}
    {case : AtomicCaseProjection} {now : Int} (h : shouldRemind py policy enabled case now = .ok true) :
    ∃ last, parseIsoTime py case.lastReportedAt = .ok (some last) ∧ hours6 ≤ now - last := by
  unfold shouldRemind at h
  split at h
  · cases h
  split at h
  · cases h
  split at h
  · cases h
  split at h
  · cases h
  split at h
  · cases h
  · cases h
  split at h
  · cases h
  · cases h
  split at h
  · cases h
  split at h
  · cases h
  · cases h
  rename_i last hlast
  refine ⟨last, hlast, ?_⟩
  simp only [Except.ok.injEq, decide_eq_true_eq] at h
  omega

/-- **A reminder that is still due comes six hours after the last delivery.** -/
theorem reminderDue_due {env : AttentionSettings} (hiso : IsoInverse env.py) {enabled : Bool}
    {claimed : OutboxIntent} {case reported : AtomicCaseProjection}
    {attention : Option AttentionDelivery} {now : Int}
    (hbridged : bridged env.py case attention = .ok reported)
    (h : reminderDue env enabled claimed reported now = .ok true) :
    ∀ prev ∈ attention, hours6 ≤ now - prev.deliveredAt := by
  intro prev hprev
  cases hprev
  unfold reminderDue at h
  split at h
  · cases h
  obtain ⟨last, hlast, helapsed⟩ := shouldRemind_elapsed h
  unfold bridged at hbridged
  split at hbridged
  · cases hbridged
  rename_i time htime
  simp only [] at hbridged
  split at hbridged
  · cases hbridged
    rw [parseIsoTime_isoformat hiso hlast] at helapsed
    exact helapsed
  · rename_i hnewer
    cases hbridged
    rw [htime] at hlast
    cases hlast
    simp only [Option.mem_def, Option.some.injEq, forall_eq', Int.not_lt] at hnewer
    omega

/-! ## What the handlers know -/

/-- Nothing below `sequence` is committed any more, and the delivery with that number has `P`. -/
def Follows (s : Store) (caseId : String) (sequence : Nat) (P : AttentionDelivery → Prop) : Prop :=
  sequence ≤ s.sequenceOf caseId ∧
    ∀ prev ∈ s.attention.get? caseId, prev.sequence = sequence → P prev

def OwnedCase (s : Store) (caseId : String) : Prop :=
  ∃ case, s.atomicCase? caseId = some case ∧ case.owned = true

/-- What a handler knows where it stands. -/
def AttentionWorker.Sound (s : Store) (now : Int) : AttentionWorker → Prop
  | .sending _ request case _ => (request.kind = .new → request.expectedSequence = 0) ∧
    Follows s case.caseId request.expectedSequence
      (Due request.phase request.generation request.severity now)
  | .reporting claimed caseId => truthyId claimed.caseId = some caseId
  | .reported claimed caseId => truthyId claimed.caseId = some caseId ∧ OwnedCase s caseId
  | .leasing claimed caseId sequence => truthyId claimed.caseId = some caseId ∧
    OwnedCase s caseId ∧ (claimed.reminds = false → sequence = 0)
  | .delivering claimed caseId sequence _ => OwnedCase s caseId ∧
    sequence ≤ s.sequenceOf caseId ∧ (claimed.reminds = false → sequence = 0)
  | .projecting _ case sequence _ | .reminding _ case sequence _ =>
    sequence ≤ s.sequenceOf case.caseId
  | .notifying _ case sequence _ => Follows s case.caseId sequence
    (Due .firing case.reportGeneration case.severity now)
  | .releasing _ _ _ (.returned (some result)) => result.attentionDelivery = none
  | .completing _ (.returned (some result)) => ∀ delivery ∈ result.attentionDelivery,
    Follows s delivery.caseId (delivery.sequence - 1)
      (Due delivery.phase delivery.generation delivery.severity delivery.deliveredAt)
  | _ => True

/-- A step delivers nothing, or the next delivery of a case; it loses no case. -/
structure Advances (s t : Store) : Prop where
  attention : ∀ caseId, t.attention.get? caseId = s.attention.get? caseId ∨
    ∃ new, t.attention.get? caseId = some new ∧ new.sequence = s.sequenceOf caseId + 1
  identity : KeepsIdentity s t

theorem Advances.sequenceOf {s t : Store} (h : Advances s t) (caseId : String) :
    s.sequenceOf caseId ≤ t.sequenceOf caseId := by
  rcases h.attention caseId with hsame | ⟨new, hget, hseq⟩
  · unfold Store.sequenceOf
    rw [hsame]
  · have ht : t.sequenceOf caseId = new.sequence := by
      unfold Store.sequenceOf
      rw [hget]
      rfl
    omega

theorem OwnedCase.advance {s t : Store} {caseId : String} (h : OwnedCase s caseId)
    (ht : Advances s t) : OwnedCase t caseId := by
  obtain ⟨case, hcase, howned⟩ := h
  obtain ⟨case', hcase', hidentity⟩ := ht.identity caseId case hcase
  refine ⟨case', hcase', ?_⟩
  unfold AtomicCaseProjection.owned at howned ⊢
  rw [hidentity]
  exact howned

theorem Follows.advance {s t : Store} {caseId : String} {sequence : Nat}
    {P Q : AttentionDelivery → Prop} (h : Follows s caseId sequence P) (ht : Advances s t)
    (hPQ : ∀ prev, P prev → Q prev) : Follows t caseId sequence Q := by
  refine ⟨Nat.le_trans h.1 (ht.sequenceOf caseId), fun prev hprev hseq => ?_⟩
  rcases ht.attention caseId with hsame | ⟨new, hget, hnew⟩
  · rw [hsame] at hprev
    exact hPQ prev (h.2 prev hprev hseq)
  · rw [hget] at hprev
    cases hprev
    have hle := h.1
    omega

/-- **What a handler knows outlives the steps of others.** -/
theorem AttentionWorker.Sound.advance {s t : Store} {now later : Int} {w : AttentionWorker}
    (h : w.Sound s now) (ht : Advances s t) (hnow : now ≤ later) : w.Sound t later := by
  cases w with
  | sending _ request case _ => exact ⟨h.1, h.2.advance ht fun _ hd => hd.later hnow⟩
  | reported => exact ⟨h.1, h.2.advance ht⟩
  | leasing => exact ⟨h.1, h.2.1.advance ht, h.2.2⟩
  | delivering _ caseId => exact ⟨h.1.advance ht, Nat.le_trans h.2.1 (ht.sequenceOf caseId), h.2.2⟩
  | projecting _ case | reminding _ case => exact Nat.le_trans h (ht.sequenceOf case.caseId)
  | notifying => exact Follows.advance h ht fun _ hd => hd.later hnow
  | completing claimed outcome =>
    cases outcome with
    | raised error => trivial
    | returned result =>
      cases result with
      | none => trivial
      | some result => exact fun delivery hd => (h delivery hd).advance ht fun _ hp => hp
  | reporting => exact h
  | releasing _ _ _ outcome =>
    cases outcome with
    | raised error => trivial
    | returned result => cases result <;> exact h
  | _ => trivial

/-! ## A turn of a handler -/

theorem follows_zero {s : Store} {caseId : String} (P : AttentionDelivery → Prop) :
    Follows s caseId 0 P := by
  refine ⟨Nat.zero_le _, fun prev _ hseq => ?_⟩
  have hpos := prev.sequence_pos
  omega

section Turns

variable (env : AttentionSettings) (d : AttentionDraws)

theorem enter_sound (enabled : Bool) (claimed : OutboxIntent) (s : Store) (now : Int) :
    (AttentionWorker.enter env enabled claimed).Sound s now := by
  unfold AttentionWorker.enter
  split
  · split
    · trivial
    · split
      · trivial
      · split <;> trivial
  · split
    · trivial
    · rename_i caseId hcase
      split
      · trivial
      · exact hcase

theorem stillDue_true {env : AttentionSettings} {case : AtomicCaseProjection}
    {previous : Option AttentionDelivery} {request : AttentionRequest} {now : Int}
    (h : stillDue env case previous request now = .ok true) :
    attentionDue env.py case previous now env.policy.reportReassertS = .ok (some request) := by
  unfold stillDue at h
  split at h
  · cases h
  · rename_i current hdue
    rw [hdue]
    simp only [Except.ok.injEq, decide_eq_true_eq] at h
    rw [h]

theorem rechecked_sound {claimed : OutboxIntent} {request : AttentionRequest}
    {case : AtomicCaseProjection} {lease : String} {s : Store} {now : Int}
    (h : stillDue env case (s.attention.get? case.caseId) request now = .ok true) :
    (AttentionWorker.sending claimed request case lease).Sound s now := by
  obtain ⟨hseq, hdue⟩ := attentionDue_due (stillDue_true h)
  refine ⟨fun hnew => ?_, Nat.le_of_eq hseq, fun prev hprev _ => (hdue prev hprev).2⟩
  rw [hseq]
  cases hprev : s.attention.get? case.caseId with
  | none => rfl
  | some prev => exact absurd hnew (hdue prev hprev).1

theorem sending_sound {claimed : OutboxIntent} {request : AttentionRequest}
    {case : AtomicCaseProjection} {lease : String} {s : Store} {now deliveredAt : Int}
    (h : (AttentionWorker.sending claimed request case lease).Sound s now) {outcome : NotifierOutcome}
    (hsent : attentionSent request.kind outcome now = some deliveredAt) :
    Follows s case.caseId request.expectedSequence
      (Due request.phase request.generation request.severity deliveredAt) := by
  unfold attentionSent at hsent
  split at hsent
  · cases hsent
    exact h.2
  · split at hsent
    · rename_i hnew
      rw [h.1 hnew]
      exact follows_zero _
    · cases hsent
  all_goals cases hsent

theorem bridged_caseId {py : Python} {case reported : AtomicCaseProjection}
    {attention : Option AttentionDelivery} (h : bridged py case attention = .ok reported) :
    reported.caseId = case.caseId := by
  unfold bridged at h
  split at h
  · cases h
  split at h
  · cases h
    rfl
  · split at h <;> cases h <;> rfl

theorem suppressed_sound (claimed : OutboxIntent) (reason : String) (s : Store) (now : Int) :
    (AttentionWorker.completing claimed (suppressed reason)).Sound s now := by
  intro delivery h
  cases h

/-- The lease of a handler has the number that is stored. -/
theorem leasing_sound {claimed : OutboxIntent} {caseId : String} {sequence : Nat}
    {s : Store} {now : Int}
    (h : (AttentionWorker.leasing claimed caseId sequence).Sound s now) :
    (goto .idle ((AttentionWorker.leasing claimed caseId sequence).next env d now s).1).Sound
      ((AttentionWorker.leasing claimed caseId sequence).next env d now s).2 now := by
  obtain ⟨hcase, howned, hfirst⟩ := h
  simp only [AttentionWorker.next]
  rcases claimAttention_run claimed sequence 120 now d.token s with
    ⟨r, hrun, hnone⟩ | ⟨caseId', hid, hseq, -, -, hrun⟩
  · rw [hrun]
    split
    · rename_i hok
      exact absurd (congrArg Prod.fst hok) (hnone _)
    · trivial
  · rw [hrun]
    have hsame : caseId' = caseId := by
      unfold truthyId at hcase
      rw [Option.filter_eq_some_iff, hid] at hcase
      exact Option.some.inj hcase.1
    subst hsame
    exact ⟨howned, Nat.le_of_eq hseq.symm, hfirst⟩

theorem delivering_sound {claimed : OutboxIntent} {caseId : String} {sequence : Nat}
    {lease : String} {s : Store} {now : Int}
    (h : (AttentionWorker.delivering claimed caseId sequence lease).Sound s now) :
    (goto .idle ((AttentionWorker.delivering claimed caseId sequence lease).next env d now s).1).Sound
      ((AttentionWorker.delivering claimed caseId sequence lease).next env d now s).2 now := by
  obtain ⟨⟨stored, hstored, howned⟩, hseq, hfirst⟩ := h
  simp only [AttentionWorker.next, peek_run, goto]
  split
  · trivial
  split
  · trivial
  rename_i case hcase
  have hid := caseId_of_atomicCase? hcase
  split
  · rename_i hreminds
    change Follows s case.caseId sequence _
    rw [hfirst hreminds]
    exact follows_zero _
  split
  · change sequence ≤ s.sequenceOf case.caseId
    rw [hid]
    exact hseq
  · rename_i hnot
    rw [hstored] at hcase
    cases hcase
    exact absurd howned hnot

theorem notifying_sound {claimed : OutboxIntent} {case : AtomicCaseProjection} {sequence : Nat}
    {lease : String} {s : Store} {now : Int}
    (h : (AttentionWorker.notifying claimed case sequence lease).Sound s now) :
    (goto .idle ((AttentionWorker.notifying claimed case sequence lease).next env d now s).1).Sound
      ((AttentionWorker.notifying claimed case sequence lease).next env d now s).2 now := by
  simp only [AttentionWorker.next, peek_run, goto]
  split
  · trivial
  split
  · trivial
  split
  · trivial
  have hdelivery : ∀ delivery ∈ (reportResult env d claimed case sequence lease now).attentionDelivery,
      Follows s delivery.caseId (delivery.sequence - 1)
        (Due delivery.phase delivery.generation delivery.severity delivery.deliveredAt) := by
    intro delivery hdelivery
    cases hdelivery
    exact h
  split
  · trivial
  · trivial
  · trivial
  · exact hdelivery
  · exact hdelivery

theorem releasing_sound {claimed : OutboxIntent} {caseId lease : String}
    {outcome : HandlerOutcome} {s : Store} {now : Int}
    (h : (AttentionWorker.releasing claimed caseId lease outcome).Sound s now) :
    (goto .idle ((AttentionWorker.releasing claimed caseId lease outcome).next env d now s).1).Sound
      ((AttentionWorker.releasing claimed caseId lease outcome).next env d now s).2 now := by
  have hnone : (AttentionWorker.completing claimed outcome).Sound
      ((AttentionWorker.releasing claimed caseId lease outcome).next env d now s).2 now := by
    cases outcome with
    | raised error => trivial
    | returned result =>
      cases result with
      | none => trivial
      | some result =>
        have hresult : result.attentionDelivery = none := h
        intro delivery hdelivery
        rw [hresult] at hdelivery
        cases hdelivery
  simp only [AttentionWorker.next] at hnone ⊢
  by_cases hfailed : d.failed = true
  · simp only [if_pos hfailed] at hnone ⊢
    exact hnone
  · simp only [if_neg hfailed] at hnone ⊢
    exact hnone

/-- **A handler goes on knowing what it must.** -/
theorem AttentionWorker.Sound.next (hiso : IsoInverse env.py) {w : AttentionWorker} {s : Store}
    {now : Int} (h : w.Sound s now) :
    (goto .idle (w.next env d now s).1).Sound (w.next env d now s).2 now := by
  cases w with
  | idle =>
    rw [AttentionWorker.next_idle]
    trivial
  | checking claimed request caseId =>
    simp only [AttentionWorker.next, peek_run, goto]
    split
    · trivial
    split
    · trivial
    split
    · trivial
    · exact suppressed_sound claimed _ s now
  | checked claimed request case =>
    simp only [AttentionWorker.next, peek_run, goto]
    split
    · trivial
    split
    · trivial
    · trivial
    · exact suppressed_sound claimed _ s now
  | rechecking =>
    simp only [AttentionWorker.next, peek_run, goto]
    repeat' split
    all_goals trivial
  | claiming claimed request caseId =>
    simp only [AttentionWorker.next]
    split <;> trivial
  | rechecked claimed request case lease =>
    simp only [AttentionWorker.next, peek_run, goto]
    split
    · trivial
    split
    · trivial
    · rename_i hdue
      exact rechecked_sound env hdue
    · trivial
  | sending claimed request case lease =>
    simp only [AttentionWorker.next, peek_run, goto]
    split
    · trivial
    split
    · trivial
    split
    · trivial
    · rename_i deliveredAt hsent
      intro delivery hdelivery
      cases hdelivery
      exact sending_sound h hsent
  | reporting claimed caseId =>
    simp only [AttentionWorker.next, peek_run, goto]
    split
    · trivial
    · rename_i case hcase
      split
      · rename_i howned
        exact ⟨h, case, hcase, howned⟩
      · trivial
  | reported claimed caseId =>
    simp only [AttentionWorker.next, peek_run, goto]
    split
    · exact ⟨h.1, h.2, fun _ => rfl⟩
    · split
      · rename_i hreminds
        exact ⟨h.1, h.2, fun hnot => by rw [hreminds] at hnot; cases hnot⟩
      · trivial
  | leasing => exact leasing_sound env d h
  | delivering => exact delivering_sound env d h
  | projecting claimed case sequence lease =>
    simp only [AttentionWorker.next, peek_run, goto]
    split
    · trivial
    split
    · trivial
    · exact h
  | reminding claimed case sequence lease =>
    simp only [AttentionWorker.next, peek_run, goto]
    split
    · trivial
    split
    · trivial
    rename_i reported hbridged
    split
    · trivial
    · rename_i hdue
      have hid := bridged_caseId hbridged
      change Follows s reported.caseId sequence _
      rw [hid]
      exact ⟨h, fun prev hprev _ =>
        Or.inr (Or.inr (Or.inr (reminderDue_due hiso hbridged hdue prev hprev)))⟩
    · trivial
  | notifying => exact notifying_sound env d h
  | releasing => exact releasing_sound env d h
  | completing claimed outcome =>
    simp only [AttentionWorker.next]
    rcases hrun : (OutboxWorker.handling claimed [] {}).next env.processor ⟨now, d.token, outcome⟩ s
      with ⟨e | w, t⟩
    · rw [bind_error hrun]
      trivial
    · rw [bind_ok hrun]
      trivial

/-! ## A turn as a step of the leases -/

/-- The write of a result that carries a delivery. -/
theorem completing_run {claimed : OutboxIntent} {result : OutboxHandlerResult}
    {delivery : AttentionDelivery} (h : result.attentionDelivery = some delivery) (s : Store)
    (now : Int) :
    ((AttentionWorker.completing claimed (.returned (some result))).next env d now s).2 =
      (completeAttention env.py (completed env.processor now (some result) claimed) delivery
        (delivery.sequence - 1) claimed.claimToken result.attentionLeaseToken result.reportEvent
        now s).2 := by
  have hstore : storeCompletion env.processor now claimed (some result) =
      completeAttention env.py (completed env.processor now (some result) claimed) delivery
        (delivery.sequence - 1) claimed.claimToken result.attentionLeaseToken result.reportEvent
        now := by
    cases result
    simp only [] at h
    subst h
    rfl
  simp only [AttentionWorker.next, OutboxWorker.next, hstore]
  refine (bind_pure_state _ _ s).trans (bind_state (fun stored t => ?_) _ s)
  cases stored <;> rfl

/-- The write of a result without a delivery touches the outbox only. -/
theorem completing_kept (claimed : OutboxIntent) {outcome : HandlerOutcome}
    (h : ∀ result, outcome = .returned (some result) → result.attentionDelivery = none) (s : Store)
    (now : Int) :
    let t := ((AttentionWorker.completing claimed outcome).next env d now s).2
    t.attention = s.attention ∧ t.attentionLeases = s.attentionLeases ∧ t.cases = s.cases := by
  have hupdate : ∀ intent : OutboxIntent,
      let t := (updateOutboxIfStatus intent .inProgress (some claimed.claimToken) s).2
      t.attention = s.attention ∧ t.attentionLeases = s.attentionLeases ∧ t.cases = s.cases := by
    intro intent
    rcases updateOutboxIfStatus_run intent .inProgress (some claimed.claimToken) s with
      hrun | ⟨_, _, _, hrun⟩ <;> rw [hrun] <;> exact ⟨rfl, rfl, rfl⟩
  cases outcome with
  | raised error =>
    have hrun : ((AttentionWorker.completing claimed (.raised error)).next env d now s).2 =
        (updateOutboxIfStatus (errored env.processor now error claimed) .inProgress
          (some claimed.claimToken) s).2 := by
      simp only [AttentionWorker.next, OutboxWorker.next]
      refine (bind_pure_state _ _ s).trans (bind_state (fun stored t => ?_) _ s)
      cases stored <;> rfl
    simp only [hrun]
    exact hupdate _
  | returned result =>
    have hstore : storeCompletion env.processor now claimed result =
        updateOutboxIfStatus (completed env.processor now result claimed) .inProgress
          (some claimed.claimToken) := by
      cases result with
      | none => rfl
      | some result =>
        have hnone := h result rfl
        cases result
        simp only [] at hnone
        subst hnone
        rfl
    have hrun : ((AttentionWorker.completing claimed (.returned result)).next env d now s).2 =
        (updateOutboxIfStatus (completed env.processor now result claimed) .inProgress
          (some claimed.claimToken) s).2 := by
      simp only [AttentionWorker.next, OutboxWorker.next, hstore]
      refine (bind_pure_state _ _ s).trans (bind_state (fun stored t => ?_) _ s)
      cases stored <;> rfl
    simp only [hrun]
    exact hupdate _

/-- **The leases follow the store**, one step for each turn. -/
theorem work_leases (w : AttentionWorker) (leases : LeaseSystem) :
    let t := (w.next env d leases.now leases.store).2
    let l := w.leaseLabel env d leases.now t
    (leases.after env.py l).store = t ∧ (leases.after env.py l).now = leases.now ∧
      l.Allowed leases ∧ (∀ u, l = .elsewhere u → u.cases = leases.store.cases) := by
  cases w with
  | claiming claimed request caseId =>
    refine ⟨?_, rfl, trivial, fun u h => by cases h⟩
    simp only [AttentionWorker.next, AttentionWorker.leaseLabel, LeaseSystem.after]
    split <;> rename_i hrun <;> rw [hrun]
  | leasing claimed caseId sequence =>
    refine ⟨?_, rfl, trivial, fun u h => by cases h⟩
    simp only [AttentionWorker.next, AttentionWorker.leaseLabel, LeaseSystem.after]
    split <;> rename_i hrun <;> rw [hrun]
  | releasing claimed caseId lease outcome =>
    simp only [AttentionWorker.next, AttentionWorker.leaseLabel]
    by_cases hfailed : d.failed = true
    · simp only [if_pos hfailed]
      exact ⟨rfl, rfl, ⟨rfl, rfl⟩, fun u h => by cases h; rfl⟩
    · simp only [if_neg hfailed]
      exact ⟨rfl, rfl, trivial, fun u h => by cases h⟩
  | completing claimed outcome =>
    have hkept : (∀ result, outcome = .returned (some result) → result.attentionDelivery = none) →
        AttentionWorker.leaseLabel env d leases.now
          ((AttentionWorker.completing claimed outcome).next env d leases.now leases.store).2
          (.completing claimed outcome) = .elsewhere
            ((AttentionWorker.completing claimed outcome).next env d leases.now leases.store).2 := by
      intro hnone
      rcases outcome with error | _ | result
      · rfl
      · rfl
      · simp only [AttentionWorker.leaseLabel, hnone result rfl]
    by_cases hnone : ∀ result, outcome = .returned (some result) → result.attentionDelivery = none
    · obtain ⟨hattention, hleases, hcases⟩ := completing_kept env d claimed hnone
        leases.store leases.now
      simp only [hkept hnone]
      exact ⟨rfl, rfl, ⟨hattention, hleases⟩, fun u h => by cases h; exact hcases⟩
    · simp only [not_forall] at hnone
      obtain ⟨result, rfl, hsome⟩ := hnone
      obtain ⟨delivery, hdelivery⟩ := Option.ne_none_iff_exists'.1 hsome
      simp only [completing_run env d hdelivery, AttentionWorker.leaseLabel, hdelivery]
      refine ⟨?_, ?_, trivial, fun u h => by cases h⟩ <;> simp only [LeaseSystem.after] <;>
        split <;> rfl
  | _ => exact ⟨rfl, rfl, ⟨rfl, rfl⟩, fun u h => by cases h; rfl⟩

end Turns

/-- **A step of the leases delivers nothing, or the next delivery of a case.** -/
theorem leaseStep_advances (py : Python) {leases t : LeaseSystem} {l : LeaseLabel}
    (h : leaseStep py leases l t)
    (hkeeps : ∀ u, l = .elsewhere u → KeepsIdentity leases.store u) :
    Advances leases.store t.store ∧ leases.now ≤ t.now := by
  have hstay : ∀ u : Store, u.attention = leases.store.attention → u.cases = leases.store.cases →
      Advances leases.store u := fun u hattention hcases =>
    ⟨fun caseId => Or.inl (by rw [hattention]), keepsIdentity_of_cases hcases⟩
  obtain ⟨hallowed, rfl⟩ := h
  cases l with
  | claim intent expectedSequence leaseSeconds token =>
    refine ⟨?_, Int.le_refl _⟩
    rcases claimAttention_run intent expectedSequence leaseSeconds leases.now token leases.store with
      ⟨r, hrun, -⟩ | ⟨_, -, -, -, -, hrun⟩ <;> simp only [LeaseSystem.after, hrun] <;>
      exact hstay _ rfl rfl
  | release caseId leaseToken =>
    refine ⟨?_, Int.le_refl _⟩
    simp only [LeaseSystem.after, releaseAttention, alter_run]
    split
    · split <;> exact hstay _ rfl rfl
    · exact hstay _ rfl rfl
  | complete intent delivery expectedSequence expectedClaimToken leaseToken reportEvent =>
    rcases completeAttention_run py intent delivery expectedSequence expectedClaimToken leaseToken
      reportEvent leases.now leases.store with
      ⟨r, hrun, hnone⟩ | ⟨-, -, hnext, ⟨-, hseq, -⟩, cases, ev, ix, hidentity, hrun⟩
    · simp only [LeaseSystem.after, hrun]
      exact ⟨hstay _ rfl rfl, Int.le_refl _⟩
    · simp only [LeaseSystem.after, hrun]
      refine ⟨⟨fun caseId => ?_, hidentity⟩, Int.le_refl _⟩
      change (leases.store.attention.put delivery).get? caseId = _ ∨ _
      by_cases hcase : delivery.caseId = caseId
      · subst hcase
        refine Or.inr ⟨delivery, ?_, by omega⟩
        change (leases.store.attention.put delivery).get? delivery.caseId = some delivery
        rw [Table.get?_put, if_pos rfl]
      · exact Or.inl (Table.get?_put_of_ne _ hcase)
  | updateOutbox intent expectedStatus expectedClaimToken =>
    refine ⟨?_, Int.le_refl _⟩
    rcases updateOutboxIfStatus_run intent expectedStatus expectedClaimToken leases.store with
      hrun | ⟨_, -, -, hrun⟩ <;> simp only [LeaseSystem.after, hrun] <;> exact hstay _ rfl rfl
  | enqueue intent =>
    have hkept := enqueueOutbox_fixes (f := fun s => (s.attention, s.cases)) (fun _ _ _ => rfl)
      intent leases.store
    exact ⟨hstay _ (congrArg Prod.fst hkept) (congrArg Prod.snd hkept), Int.le_refl _⟩
  | tick now => exact ⟨hstay _ rfl rfl, hallowed⟩
  | elsewhere u =>
    exact ⟨⟨fun caseId => Or.inl (congrArg (fun rows => Table.get? rows caseId) hallowed.1),
      hkeeps u rfl⟩, Int.le_refl _⟩

/-! ## Runs -/

/-- The later of two deliveries has the next number and was due after the earlier one. -/
def Next (earlier later : AttentionDelivery) : Prop :=
  later.sequence = earlier.sequence + 1 ∧
    Due later.phase later.generation later.severity later.deliveredAt earlier

/-- The commit of a delivery that is due extends the chain. -/
theorem next_commit {py : Python} {leases : LeaseSystem} (hleased : Leased leases)
    {intent : OutboxIntent} {delivery : AttentionDelivery} {expectedClaimToken leaseToken : String}
    {reportEvent : Option CaseEvent}
    (hdue : Follows leases.store delivery.caseId (delivery.sequence - 1)
      (Due delivery.phase delivery.generation delivery.severity delivery.deliveredAt))
    {caseId : String} (hchain : (leases.commitsOf caseId).IsChain Next) :
    ((leases.after py (.complete intent delivery (delivery.sequence - 1) expectedClaimToken
      leaseToken reportEvent)).commitsOf caseId).IsChain Next := by
  rcases completeAttention_run py intent delivery (delivery.sequence - 1) expectedClaimToken
    leaseToken reportEvent leases.now leases.store with
    ⟨r, hrun, hnone⟩ | ⟨-, -, hnext, ⟨-, hseq, -⟩, cases, ev, ix, -, hrun⟩
  · simp only [LeaseSystem.after, hrun]
    exact hchain
  · simp only [LeaseSystem.after, hrun]
    refine (congrArg (List.IsChain Next) (commitsOf_append leases delivery caseId)).mpr ?_
    split
    · rename_i hcase
      subst hcase
      refine List.isChain_append.2 ⟨hchain, List.isChain_singleton _, fun prev hprev d hd => ?_⟩
      cases hd
      rw [← hleased.latest delivery.caseId] at hprev
      have hlast : leases.store.sequenceOf delivery.caseId = prev.sequence := by
        unfold Store.sequenceOf
        rw [hprev]
        rfl
      exact ⟨by omega, hdue.2 prev hprev (by omega)⟩
    · exact hchain

/-- The leases, the workers and the chain of commits of each case are in order. -/
structure AttentionInvariant (sys : AttentionSystem) : Prop where
  leased : Leased sys.leases
  workers : ∀ i, (sys.workers i).Sound sys.leases.store sys.leases.now
  chain : ∀ caseId, (sys.leases.commitsOf caseId).IsChain Next

section Runs

variable {env : AttentionSettings} {sys : AttentionSystem}

/-- A step of the leases that commits nothing. -/
theorem AttentionInvariant.other (env : AttentionSettings) (h : AttentionInvariant sys) {l : LeaseLabel}
    (hallowed : l.Allowed sys.leases)
    (hkeeps : ∀ u, l = .elsewhere u → KeepsIdentity sys.leases.store u)
    (hchain : ∀ caseId, ((sys.leases.after env.py l).commitsOf caseId).IsChain Next) :
    AttentionInvariant { sys with leases := sys.leases.after env.py l } := by
  obtain ⟨hadvance, hnow⟩ := leaseStep_advances env.py ⟨hallowed, rfl⟩ hkeeps
  exact ⟨h.leased.step env.py ⟨hallowed, rfl⟩,
    fun i => (h.workers i).advance hadvance hnow, hchain⟩

theorem AttentionInvariant.atWorker (h : AttentionInvariant sys) (i : Nat) {w : AttentionWorker}
    (hw : w.Sound sys.leases.store sys.leases.now) :
    AttentionInvariant { sys with workers := Function.update sys.workers i w } := by
  refine ⟨h.leased, fun j => ?_, h.chain⟩
  simp only [Function.update_apply]
  split
  · exact hw
  · exact h.workers j

theorem AttentionInvariant.work (h : AttentionInvariant sys) (hiso : IsoInverse env.py) (i : Nat)
    (d : AttentionDraws) : AttentionInvariant (sys.after env (.work i d)) := by
  obtain ⟨hstore, hnow, hallowed, hcases⟩ := work_leases env d (sys.workers i) sys.leases
  have hsound := (h.workers i).next env d hiso
  have hchain : ∀ caseId, ((sys.leases.after env.py ((sys.workers i).leaseLabel env d sys.leases.now
      ((sys.workers i).next env d sys.leases.now sys.leases.store).2)).commitsOf caseId).IsChain
        Next := by
    intro caseId
    cases hw : sys.workers i with
    | completing claimed outcome =>
      rcases outcome with error | _ | result
      · exact h.chain caseId
      · exact h.chain caseId
      · have hdue := h.workers i
        rw [hw] at hdue
        cases hdelivery : result.attentionDelivery with
        | none =>
          simp only [AttentionWorker.leaseLabel, hdelivery]
          exact h.chain caseId
        | some delivery =>
          simp only [AttentionWorker.leaseLabel, hdelivery]
          exact next_commit h.leased (hdue delivery hdelivery) (h.chain caseId)
    | releasing claimed caseId lease outcome =>
      simp only [AttentionWorker.leaseLabel]
      split <;> exact h.chain _
    | _ => exact h.chain caseId
  have hother := h.other env hallowed
    (fun u hu => keepsIdentity_of_cases (hcases u hu)) hchain
  have hat := hother.atWorker i (w := goto .idle ((sys.workers i).next env d sys.leases.now
    sys.leases.store).1) ?_
  · exact hat
  · simp only [hstore, hnow]
    exact hsound

theorem AttentionInvariant.step (h : AttentionInvariant sys) (hiso : IsoInverse env.py)
    {l : AttentionLabel} {t : AttentionSystem} (hstep : attentionStep env sys l t) :
    AttentionInvariant t := by
  obtain ⟨hallowed, rfl⟩ := hstep
  cases l with
  | handle i enabled claimed => exact h.atWorker i (enter_sound env enabled claimed _ _)
  | work i d => exact h.work hiso i d
  | stop i => exact h.atWorker i trivial
  | tick now => exact h.other env hallowed (fun u hu => by cases hu) h.chain
  | elsewhere t =>
    exact h.other env ⟨hallowed.1, hallowed.2.1⟩
      (fun u hu => by cases hu; exact hallowed.2.2) h.chain

/-- **Attention is spaced.**  In every run, each delivery of a case has the number after the one
before, and differs from it in phase or generation, is of a higher severity, or comes at least six
hours later. -/
theorem attentionSpaced_run (hiso : IsoInverse env.py) {s : Store} {now : Int}
    {ls : List AttentionLabel} (hrun : Run (attentionStep env) (.fresh s now) ls sys)
    (caseId : String) : (sys.leases.commitsOf caseId).IsChain Next := by
  have hfresh : AttentionInvariant (.fresh s now) :=
    ⟨leased_fresh s now, fun _ => trivial, fun _ => List.isChain_nil⟩
  exact (hrun.invariant (fun _ _ _ hs h => hs.step hiso h) hfresh).chain caseId

end Runs

/-! ## A notification and its reminder -/

def reminderTimes : List (String × Int) :=
  [("2026-01-01T00:00:00+00:00", 1767225600000000), ("2026-01-01T06:00:00+00:00", 1767247200000000)]

/-- The request in the fields of its dump. -/
def readRequest (fields : JsonDict) : Except PyExc AttentionRequest :=
  let kind := [AttentionKind.new, .recurrence, .escalation, .recovery, .reminder].find? fun kind =>
    (fields.get "kind").isStr kind.text
  let phase := [AttentionPhase.firing, .recovered].find? fun phase =>
    (fields.get "phase").isStr phase.text
  let severity := [Severity.high, .medium, .low, .unknown].find? fun severity =>
    (fields.get "severity").isStr severity.text
  match kind, phase, severity, fields.get "generation", fields.get "expected_sequence",
    fields.get "idempotency_key" with
  | some kind, some phase, some severity, .int (.ofNat generation), .int (.ofNat sequence),
    .str key => .ok ⟨kind, generation, phase, severity, sequence, key⟩
  | _, _, _, _, _, _ => .error .validationError

def reminderSettings : AttentionSettings where
  py := tablePython reminderTimes
  policy := {}
  validate := fun request => (request.dict?.map readRequest).getD (.error .validationError)

/-- A critical notification in progress. -/
def criticalIntent (outboxId kind : String) (sequence : Nat) : OutboxIntent where
  outboxId := outboxId
  intentType := .report
  caseId := some "case_1"
  idempotencyKey := "attention:case_1:0:firing:HIGH:" ++ toString sequence ++ ":" ++ kind
  payload := [("attention_request", .dict [("kind", .str kind), ("generation", .int 0),
    ("phase", .str "firing"), ("severity", .str "HIGH"), ("expected_sequence", .int sequence),
    ("idempotency_key", .str ("attention:case_1:0:firing:HIGH:" ++ toString sequence ++ ":" ++ kind))])]
  status := .inProgress
  attempts := 1
  claimToken := "claim_" ++ outboxId
  nextAttemptAt := "2026-01-01T00:00:00+00:00"
  createdAt := "2026-01-01T00:00:00+00:00"

def criticalStore : Store :=
  { cases := Table.empty.put (.atomic {
      caseId := "case_1"
      identity := [("source", .str "alertmanager")]
      severity := .high
      openedAt := "2026-01-01T00:00:00+00:00"
      updatedAt := "2026-01-01T00:00:00+00:00" })
    outbox := (Table.empty.put (criticalIntent "out_1" "new" 0)).put
      (criticalIntent "out_2" "reminder" 1) }

/-- A notification at 00:00 and its reminder at 06:00. -/
def criticalRun : List AttentionLabel :=
  .handle 0 true (criticalIntent "out_1" "new" 0) ::
      List.replicate 7 (.work 0 { token := "lease_1" }) ++
    .tick 1767247200000000 :: .handle 1 true (criticalIntent "out_2" "reminder" 1) ::
      List.replicate 7 (.work 1 { token := "lease_2" })

def criticalSystem : AttentionSystem :=
  criticalRun.foldl (AttentionSystem.after reminderSettings)
    (.fresh criticalStore 1767225600000000)

instance (w : AttentionWorker) : Decidable (w = .idle) := by
  cases w with
  | idle => exact isTrue rfl
  | _ => exact isFalse (by simp)

/-- A step of a handler or of the clock, where it may be taken. -/
def AttentionLabel.Scheduled (sys : AttentionSystem) : AttentionLabel → Prop
  | .handle i _ _ => sys.workers i = .idle
  | .work _ _ | .stop _ => True
  | .tick now => sys.leases.now ≤ now
  | .elsewhere _ => False

instance AttentionLabel.decidableScheduled (sys : AttentionSystem) (l : AttentionLabel) :
    Decidable (l.Scheduled sys) := by
  unfold AttentionLabel.Scheduled
  cases l <;> infer_instance

theorem AttentionLabel.Scheduled.allowed {sys : AttentionSystem} {l : AttentionLabel}
    (h : l.Scheduled sys) : l.Allowed sys := by
  cases l with
  | elsewhere => exact h.elim
  | _ => exact h

theorem isoInverse_reminderTimes : IsoInverse (tablePython reminderTimes) := by
  intro t t' h
  by_cases hfirst : 1767225600000000 = t
  · subst hfirst
    exact Option.some.inj (h.symm.trans (by decide))
  by_cases hlast : 1767247200000000 = t
  · subst hlast
    exact Option.some.inj (h.symm.trans (by decide))
  · simp only [tablePython, reminderTimes, List.find?_cons, List.find?_nil, hfirst, hlast,
      decide_false, Option.map_none, Option.getD_none] at h
    cases h

theorem attentionSpaced_criticalSystem :
    (criticalSystem.leases.commitsOf "case_1").map (fun d => (d.sequence, d.deliveredAt)) =
      [(1, 1767225600000000), (2, 1767247200000000)] ∧
    (criticalSystem.leases.commitsOf "case_1").IsChain Next :=
  ⟨by decide +kernel, attentionSpaced_run isoInverse_reminderTimes
    ((Run.of_valid (p := AttentionLabel.Scheduled) (by decide +kernel)).carry (I := fun _ => True)
      (fun _ _ _ _ h => ⟨trivial, h.1.allowed, h.2⟩) trivial :
        Run (attentionStep reminderSettings) (.fresh criticalStore 1767225600000000) criticalRun
          criticalSystem) "case_1"⟩

end NocAgent.Cases
