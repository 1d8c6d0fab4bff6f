import NocAgent.Cases.Outbox

/-!
# Attention leases

* `leaseStep` — claims, releases and completions with any arguments, between outbox updates and
  whatever else happens to the store, under a clock that does not go back.
* `Leased` — what every run keeps: a lease that has not expired is the stored one, and the stored
  delivery is the last committed one.
* `attentionSafe_run` — deliveries are committed in sequence, under the live lease of the intent
  in progress, and a completion that does not commit changes nothing.
-/

set_option autoImplicit false

namespace NocAgent.Cases

open Effects Effects.Action Keyed Lts

/-- A lease is given only where no other is live, to an intent in progress; otherwise the store
stays as it is. -/
theorem claimAttention_run (intent : OutboxIntent) (expectedSequence : Nat) (leaseSeconds now : Int)
    (token : String) (s : Store) :
    (∃ r, claimAttention intent expectedSequence leaseSeconds now token s = (r, s) ∧
        ∀ lease, r ≠ .ok (some lease)) ∨
      ∃ caseId, intent.caseId = some caseId ∧ s.sequenceOf caseId = expectedSequence ∧
        (∀ lease ∈ s.attentionLeases caseId, lease.expires ≤ now) ∧
        (∃ current ∈ s.outbox.get? intent.outboxId, current.status = .inProgress ∧
          current.claimToken = intent.claimToken ∧ current.caseId = some caseId) ∧
        claimAttention intent expectedSequence leaseSeconds now token s = (.ok (some token), { s with
          attentionLeases := s.attentionLeases.set caseId
            ⟨token, intent.outboxId, intent.claimToken, now + leaseSeconds * 1000000⟩ }) := by
  unfold claimAttention
  cases hcase : truthyId intent.caseId with
  | none => exact Or.inl ⟨_, rfl, fun _ h => by cases h⟩
  | some caseId =>
    have hid : intent.caseId = some caseId := by
      unfold truthyId at hcase
      rw [Option.filter_eq_some_iff] at hcase
      exact hcase.1
    simp only [raiseIf_bind_run, peek_bind_run]
    split
    · exact Or.inl ⟨_, rfl, fun _ h => by cases h⟩
    cases hcurrent : s.outbox.get? intent.outboxId with
    | none => exact Or.inl ⟨_, rfl, fun _ h => by cases h⟩
    | some current =>
      simp only []
      split
      · exact Or.inl ⟨_, rfl, fun _ h => by cases h⟩
      rename_i hfree
      simp only [not_or, not_not, not_exists, not_and, Int.not_lt] at hfree
      rw [requireAtomicCase_bind_run]
      cases s.atomicCase? caseId with
      | none => exact Or.inl ⟨_, rfl, fun _ h => by cases h⟩
      | some case =>
        exact Or.inr ⟨caseId, hid, hfree.2.2.2.1, fun lease hl => hfree.2.2.2.2 lease hl,
          ⟨current, rfl, hfree.1, hfree.2.1, hfree.2.2.1.trans hid⟩, rfl⟩

/-! ## The system -/

/-- The store under calls of its lease methods. -/
structure LeaseSystem where
  store : Store
  now : Int
  /-- the leases that were given and neither released nor used -/
  granted : List (String × AttentionLease)
  /-- the deliveries that were committed, oldest first -/
  commits : List AttentionDelivery

/-- A store in which nothing was delivered yet. -/
def LeaseSystem.fresh (s : Store) (now : Int) : LeaseSystem where
  store := { s with
    attention := .empty
    attentionLeases := .empty }
  now := now
  granted := []
  commits := []

inductive LeaseLabel where
  | claim (intent : OutboxIntent) (expectedSequence : Nat) (leaseSeconds : Int) (token : String)
  | release (caseId leaseToken : String)
  | complete (intent : OutboxIntent) (delivery : AttentionDelivery) (expectedSequence : Nat)
      (expectedClaimToken leaseToken : String) (reportEvent : Option CaseEvent)
  | updateOutbox (intent : OutboxIntent) (expectedStatus : OutboxStatus)
      (expectedClaimToken : Option String)
  | enqueue (intent : OutboxIntent)
  | tick (now : Int)
  /-- what others do to the store, which is nothing to its deliveries and leases -/
  | elsewhere (t : Store)

section System

variable (py : Python)

def LeaseSystem.claimed (sys : LeaseSystem) (intent : OutboxIntent)
    (r : Except PyExc (Option String)) (t : Store) : List (String × AttentionLease) :=
  match r, intent.caseId with
  | .ok (some _), some caseId => (t.attentionLeases caseId).toList.map (caseId, ·) ++ sys.granted
  | _, _ => sys.granted

def LeaseSystem.without (sys : LeaseSystem) (caseId leaseToken : String) :
    List (String × AttentionLease) :=
  sys.granted.filter fun g => ¬ (g.1 = caseId ∧ g.2.token = leaseToken)

def LeaseSystem.after (sys : LeaseSystem) : LeaseLabel → LeaseSystem
  | .claim intent expectedSequence leaseSeconds token =>
    let r := claimAttention intent expectedSequence leaseSeconds sys.now token sys.store
    { sys with
      store := r.2
      granted := sys.claimed intent r.1 r.2 }
  | .release caseId leaseToken =>
    { sys with
      store := (releaseAttention caseId leaseToken sys.store).2
      granted := sys.without caseId leaseToken }
  | .complete intent delivery expectedSequence expectedClaimToken leaseToken reportEvent =>
    let r := completeAttention py intent delivery expectedSequence expectedClaimToken leaseToken
      reportEvent sys.now sys.store
    match r.1 with
    | .ok (some _) =>
      { sys with
        store := r.2
        granted := sys.without delivery.caseId leaseToken
        commits := sys.commits ++ [delivery] }
    | _ => { sys with store := r.2 }
  | .updateOutbox intent expectedStatus expectedClaimToken =>
    { sys with
      store := (updateOutboxIfStatus intent expectedStatus expectedClaimToken sys.store).2 }
  | .enqueue intent => { sys with store := (enqueueOutbox intent sys.store).2 }
  | .tick now => { sys with now := now }
  | .elsewhere t => { sys with store := t }

/-- The clock does not go back. -/
def LeaseLabel.Allowed (sys : LeaseSystem) : LeaseLabel → Prop
  | .tick now => sys.now ≤ now
  | .elsewhere t =>
    t.attention = sys.store.attention ∧ t.attentionLeases = sys.store.attentionLeases
  | _ => True

def leaseStep (sys : LeaseSystem) (l : LeaseLabel) (t : LeaseSystem) : Prop :=
  l.Allowed sys ∧ t = sys.after py l

end System

/-! ## The invariant -/

def LeaseSystem.commitsOf (sys : LeaseSystem) (caseId : String) : List AttentionDelivery :=
  sys.commits.filter fun delivery => delivery.caseId = caseId

/-- A lease that was given and runs is the one of its case, and the row of a case is its last
commit. -/
structure Leased (sys : LeaseSystem) : Prop where
  live : ∀ g ∈ sys.granted, sys.now < g.2.expires → sys.store.attentionLeases g.1 = some g.2
  stored : ∀ caseId lease, sys.store.attentionLeases caseId = some lease → (caseId, lease) ∈ sys.granted
  latest : ∀ caseId, sys.store.attention.get? caseId = (sys.commitsOf caseId).getLast?
  sequences : ∀ caseId, (sys.commitsOf caseId).map AttentionDelivery.sequence =
    List.range' 1 (sys.commitsOf caseId).length

theorem leased_fresh (s : Store) (now : Int) : Leased (.fresh s now) := by
  refine ⟨fun g hg => ?_, fun caseId lease h => ?_, fun caseId => rfl, fun caseId => rfl⟩
  · cases hg
  · cases h

section Steps

variable {py : Python} {sys : LeaseSystem}

/-- A step that gives no lease, takes none and commits nothing. -/
theorem Leased.elsewhere (h : Leased sys) {t : Store} {now : Int} (hnow : sys.now ≤ now)
    (hattention : t.attention = sys.store.attention)
    (hleases : t.attentionLeases = sys.store.attentionLeases) :
    Leased { sys with store := t, now := now } := by
  refine ⟨fun g hg hlive => ?_, fun caseId lease hl => ?_, fun caseId => ?_, h.sequences⟩
  · exact (congrFun hleases g.1).trans (h.live g hg (Int.lt_of_le_of_lt hnow hlive))
  · exact h.stored caseId lease ((congrFun hleases caseId).symm.trans hl)
  · exact (congrArg (fun rows => Table.get? rows caseId) hattention).trans (h.latest caseId)

theorem mem_without {caseId leaseToken : String} {g : String × AttentionLease} :
    g ∈ sys.without caseId leaseToken ↔
      g ∈ sys.granted ∧ ¬ (g.1 = caseId ∧ g.2.token = leaseToken) := by
  simp only [LeaseSystem.without, List.mem_filter, decide_eq_true_eq]

theorem Leased.claim (h : Leased sys) (intent : OutboxIntent) (expectedSequence : Nat)
    (leaseSeconds : Int) (token : String) :
    Leased (sys.after py (.claim intent expectedSequence leaseSeconds token)) := by
  rcases claimAttention_run intent expectedSequence leaseSeconds sys.now token sys.store with
    ⟨r, hrun, hnone⟩ | ⟨caseId, hid, -, hfree, -, hrun⟩
  · have hsame : sys.after py (.claim intent expectedSequence leaseSeconds token) = sys := by
      unfold LeaseSystem.after LeaseSystem.claimed
      simp only [hrun]
      split
      · exact absurd rfl (hnone _)
      · rfl
    rw [hsame]
    exact h
  · set lease : AttentionLease :=
      ⟨token, intent.outboxId, intent.claimToken, sys.now + leaseSeconds * 1000000⟩ with hlease
    have hafter : sys.after py (.claim intent expectedSequence leaseSeconds token) = { sys with
        store := { sys.store with
          attentionLeases := sys.store.attentionLeases.set caseId lease }
        granted := (caseId, lease) :: sys.granted } := by
      unfold LeaseSystem.after LeaseSystem.claimed
      simp only [hrun, hid, Index.set_apply, if_true]
      rfl
    rw [hafter]
    refine ⟨fun g hg hlive => ?_, fun caseId' lease' hl => ?_, h.latest, h.sequences⟩
    · change (sys.store.attentionLeases.set caseId lease) g.1 = some g.2
      rw [Index.set_apply]
      rcases List.mem_cons.1 hg with rfl | hg
      · exact if_pos rfl
      · have hstored := h.live g hg hlive
        split
        · rename_i hsame
          rw [hsame] at hstored
          exact absurd (hfree g.2 hstored) (Int.not_le.2 hlive)
        · exact hstored
    · change (sys.store.attentionLeases.set caseId lease) caseId' = some lease' at hl
      rw [Index.set_apply] at hl
      split at hl
      · rename_i hsame
        cases hl
        exact List.mem_cons.2 (Or.inl (by rw [hsame]))
      · exact List.mem_cons_of_mem _ (h.stored caseId' lease' hl)

/-- Taking the stored lease of a case away, with what was given under its token. -/
theorem Leased.without (h : Leased sys) {caseId leaseToken : String} {lease : AttentionLease}
    (hstored : sys.store.attentionLeases caseId = some lease) (htoken : lease.token = leaseToken) :
    (∀ g ∈ sys.without caseId leaseToken, sys.now < g.2.expires →
        (sys.store.attentionLeases.pop caseId) g.1 = some g.2) ∧
      ∀ caseId' lease', (sys.store.attentionLeases.pop caseId) caseId' = some lease' →
        (caseId', lease') ∈ sys.without caseId leaseToken := by
  refine ⟨fun g hg hlive => ?_, fun caseId' lease' hl => ?_⟩
  · obtain ⟨hg, hkept⟩ := mem_without.1 hg
    have hget := h.live g hg hlive
    rw [Index.pop_apply]
    split
    · rename_i hsame
      rw [hsame, hstored] at hget
      cases hget
      exact absurd ⟨hsame, htoken⟩ hkept
    · exact hget
  · rw [Index.pop_apply] at hl
    split at hl
    · cases hl
    · rename_i hne
      exact mem_without.2 ⟨h.stored caseId' lease' hl, fun hc => hne hc.1⟩

theorem Leased.release (h : Leased sys) (caseId leaseToken : String) :
    Leased (sys.after py (.release caseId leaseToken)) := by
  have hother : (∀ lease, sys.store.attentionLeases caseId = some lease → lease.token ≠ leaseToken) →
      Leased { sys with granted := sys.without caseId leaseToken } := by
    intro hne
    refine ⟨fun g hg => h.live g (mem_without.1 hg).1, fun caseId' lease' hl => ?_, h.latest,
      h.sequences⟩
    refine mem_without.2 ⟨h.stored caseId' lease' hl, fun hc => ?_⟩
    have hc' : caseId' = caseId := hc.1
    subst hc'
    exact hne lease' hl hc.2
  cases hlease : sys.store.attentionLeases caseId with
  | none =>
    have hafter : sys.after py (.release caseId leaseToken) =
        { sys with granted := sys.without caseId leaseToken } := by
      simp only [LeaseSystem.after, releaseAttention, alter_run, hlease]
    rw [hafter]
    exact hother fun lease hl => by rw [hlease] at hl; cases hl
  | some lease =>
    by_cases htoken : lease.token = leaseToken
    · have hafter : sys.after py (.release caseId leaseToken) = { sys with
          store := { sys.store with
            attentionLeases := sys.store.attentionLeases.pop caseId }
          granted := sys.without caseId leaseToken } := by
        simp only [LeaseSystem.after, releaseAttention, alter_run, hlease, if_pos htoken]
      rw [hafter]
      obtain ⟨hlive, hstored⟩ := h.without hlease htoken
      exact ⟨hlive, hstored, h.latest, h.sequences⟩
    · have hafter : sys.after py (.release caseId leaseToken) =
          { sys with granted := sys.without caseId leaseToken } := by
        simp only [LeaseSystem.after, releaseAttention, alter_run, hlease, if_neg htoken]
      rw [hafter]
      refine hother fun lease' hl => ?_
      rw [hlease] at hl
      cases hl
      exact htoken

theorem commitsOf_append (sys : LeaseSystem) (delivery : AttentionDelivery) (caseId : String) :
    LeaseSystem.commitsOf { sys with commits := sys.commits ++ [delivery] } caseId =
      if delivery.caseId = caseId then sys.commitsOf caseId ++ [delivery]
      else sys.commitsOf caseId := by
  unfold LeaseSystem.commitsOf
  rw [List.filter_append]
  by_cases h : delivery.caseId = caseId
  · rw [if_pos h, List.filter_cons_of_pos (by simpa using h), List.filter_nil]
  · rw [if_neg h, List.filter_cons_of_neg (by simpa using h), List.filter_nil, List.append_nil]

/-- The stored sequence number is the number of deliveries. -/
theorem Leased.sequenceOf (h : Leased sys) (caseId : String) :
    sys.store.sequenceOf caseId = (sys.commitsOf caseId).length := by
  have hseq := h.sequences caseId
  unfold Store.sequenceOf
  rw [h.latest caseId, ← List.getLast?_map, hseq, List.getLast?_range']
  split
  · rename_i hzero
    exact hzero.symm
  · simp only [Option.getD_some]
    omega

theorem Leased.complete (h : Leased sys) (intent : OutboxIntent) (delivery : AttentionDelivery)
    (expectedSequence : Nat) (expectedClaimToken leaseToken : String)
    (reportEvent : Option CaseEvent) :
    Leased (sys.after py (.complete intent delivery expectedSequence expectedClaimToken leaseToken
      reportEvent)) := by
  rcases completeAttention_run py intent delivery expectedSequence expectedClaimToken leaseToken
    reportEvent sys.now sys.store with
    ⟨r, hrun, hnone⟩ | ⟨-, -, hnext, ⟨-, hseq, lease, hlease, htoken, -⟩, cases, ev, ix,
      -, hrun⟩
  · have hsame : sys.after py (.complete intent delivery expectedSequence expectedClaimToken
        leaseToken reportEvent) = sys := by
      simp only [LeaseSystem.after, hrun]
    rw [hsame]
    exact h
  · obtain ⟨hlive, hstored⟩ := h.without hlease htoken
    simp only [LeaseSystem.after, hrun]
    refine ⟨hlive, hstored, fun caseId => ?_, fun caseId => ?_⟩
    · change (sys.store.attention.put delivery).get? caseId = _
      refine Eq.trans ?_ (congrArg List.getLast? (commitsOf_append sys delivery caseId)).symm
      rw [Table.get?_put]
      split
      · rw [List.getLast?_concat]
      · exact h.latest caseId
    · refine (congrArg (fun l => List.map AttentionDelivery.sequence l)
        (commitsOf_append sys delivery caseId)).trans (Eq.trans ?_
          (congrArg (fun l => List.range' 1 (List.length l))
            (commitsOf_append sys delivery caseId)).symm)
      by_cases hcase : delivery.caseId = caseId
      · subst hcase
        simp only [if_true, List.map_append, List.map_cons, List.map_nil, List.length_append,
          List.length_cons, List.length_nil, List.range'_1_concat]
        rw [h.sequences, hnext, ← hseq, h.sequenceOf, Nat.add_comm]
      · simp only [if_neg hcase]
        exact h.sequences caseId

theorem Leased.step (py : Python) (h : Leased sys) {l : LeaseLabel} {t : LeaseSystem}
    (hstep : leaseStep py sys l t) : Leased t := by
  obtain ⟨hallowed, rfl⟩ := hstep
  cases l with
  | claim intent expectedSequence leaseSeconds token => exact h.claim intent expectedSequence _ token
  | release caseId leaseToken => exact h.release caseId leaseToken
  | complete intent delivery expectedSequence expectedClaimToken leaseToken reportEvent =>
    exact h.complete intent delivery expectedSequence expectedClaimToken leaseToken reportEvent
  | updateOutbox intent expectedStatus expectedClaimToken =>
    rcases updateOutboxIfStatus_run intent expectedStatus expectedClaimToken sys.store with
      hrun | ⟨current, -, -, hrun⟩
    · exact h.elsewhere (Int.le_refl _) (by rw [hrun]) (by rw [hrun])
    · exact h.elsewhere (Int.le_refl _) (by rw [hrun]) (by rw [hrun])
  | enqueue intent =>
    have hkept := enqueueOutbox_fixes (f := fun s => (s.attention, s.attentionLeases))
      (fun _ _ _ => rfl) intent sys.store
    exact h.elsewhere (Int.le_refl _) (congrArg Prod.fst hkept) (congrArg Prod.snd hkept)
  | tick now => exact h.elsewhere hallowed rfl rfl
  | elsewhere t => exact h.elsewhere (Int.le_refl _) hallowed.1 hallowed.2

/-- What the leases ask of a state: deliveries are numbered without gap or repetition, at most one
lease of a case has not expired, a delivery is committed only by the intent in progress under the
claim token of the live lease, and a completion that does not commit changes nothing. -/
structure AttentionSafe (py : Python) (sys : LeaseSystem) : Prop where
  sequences : ∀ caseId, (sys.commitsOf caseId).map AttentionDelivery.sequence =
    List.range' 1 (sys.commitsOf caseId).length
  single : ∀ g ∈ sys.granted, ∀ g' ∈ sys.granted, g.1 = g'.1 → sys.now < g.2.expires →
    sys.now < g'.2.expires → g = g'
  commit : ∀ intent delivery expectedSequence expectedClaimToken leaseToken reportEvent stored,
    (completeAttention py intent delivery expectedSequence expectedClaimToken leaseToken
      reportEvent sys.now sys.store).1 = .ok (some stored) →
    ∃ current lease, sys.store.outbox.get? intent.outboxId = some current ∧
      current.status = .inProgress ∧ current.caseId = some delivery.caseId ∧
      sys.store.attentionLeases delivery.caseId = some lease ∧ sys.now < lease.expires ∧
      lease.token = leaseToken ∧ lease.outboxId = current.outboxId ∧
      lease.claimToken = current.claimToken ∧ (delivery.caseId, lease) ∈ sys.granted
  refused : ∀ intent delivery expectedSequence expectedClaimToken leaseToken reportEvent,
    (∀ stored, (completeAttention py intent delivery expectedSequence expectedClaimToken leaseToken
      reportEvent sys.now sys.store).1 ≠ .ok (some stored)) →
    (completeAttention py intent delivery expectedSequence expectedClaimToken leaseToken
      reportEvent sys.now sys.store).2 = sys.store

/-- **Attention leases are safe in every run.** -/
theorem attentionSafe_run {s : Store} {now : Int} {ls : List LeaseLabel}
    (hrun : Run (leaseStep py) (.fresh s now) ls sys) : AttentionSafe py sys := by
  have h : Leased sys := hrun.invariant (fun _ _ _ hs h => hs.step py h) (leased_fresh s now)
  refine ⟨h.sequences, fun g hg g' hg' hcase hlive hlive' => ?_,
    fun intent delivery expectedSequence expectedClaimToken leaseToken reportEvent stored hok => ?_,
    fun intent delivery expectedSequence expectedClaimToken leaseToken reportEvent hnone => ?_⟩
  · have hget := h.live g hg hlive
    rw [hcase, h.live g' hg' hlive'] at hget
    exact Prod.ext hcase (Option.some.inj hget).symm
  · rcases completeAttention_run py intent delivery expectedSequence expectedClaimToken leaseToken
      reportEvent sys.now sys.store with ⟨r, hr, hnone⟩ | ⟨-, -, -, hmay, -⟩
    · rw [hr] at hok
      exact absurd hok (hnone stored)
    · obtain ⟨⟨current, hcur, hstatus, hclaim, hcase⟩, -, lease, hlease, htoken, hout, hltok, hlive⟩ :=
        hmay
      exact ⟨current, lease, hcur, hstatus, hcase, hlease, hlive, htoken,
        hout.trans (Table.key_of_get? hcur).symm, hltok.trans hclaim.symm,
        h.stored _ _ hlease⟩
  · rcases completeAttention_run py intent delivery expectedSequence expectedClaimToken leaseToken
      reportEvent sys.now sys.store with ⟨r, hr, -⟩ | ⟨-, -, -, -, cases, ev, ix, -, hr⟩
    · rw [hr]
    · exact absurd (congrArg Prod.fst hr) (hnone intent)

end Steps

/-- A report in progress under the token "a", and its case. -/
def claimedReport : OutboxIntent where
  outboxId := "out_1"
  intentType := .report
  caseId := some "case_1"
  idempotencyKey := "attention:case_1"
  status := .inProgress
  attempts := 1
  claimToken := "a"
  nextAttemptAt := "2026-01-01T00:00:00+00:00"
  createdAt := "2026-01-01T00:00:00+00:00"

def claimedReportStore : Store :=
  { cases := Table.empty.put (.atomic {
      caseId := "case_1"
      openedAt := "2026-01-01T00:00:00+00:00"
      updatedAt := "2026-01-01T00:00:00+00:00" })
    outbox := Table.empty.put claimedReport }

/-- Two claims of the same lease, then the delivery. -/
def firstDelivery : List LeaseLabel :=
  [.claim claimedReport 0 120 "lease", .tick 1000000, .claim claimedReport 0 120 "other",
    .complete { claimedReport with status := .succeeded }
      ⟨"case_1", 0, .firing, .high, 1000000, 1, by decide⟩ 0 "a" "lease" none]

def deliveredSystem : LeaseSystem :=
  firstDelivery.foldl (LeaseSystem.after asciiPython) (.fresh claimedReportStore 0)

theorem attentionSafe_deliveredSystem :
    deliveredSystem.commits.map AttentionDelivery.sequence = [1] ∧
      AttentionSafe asciiPython deliveredSystem :=
  ⟨by decide +kernel, attentionSafe_run (Run.cons ⟨trivial, rfl⟩ (Run.cons
    ⟨show (0 : Int) ≤ 1000000 by decide, rfl⟩ (Run.cons ⟨trivial, rfl⟩
      (Run.single ⟨trivial, rfl⟩))) : Run (leaseStep asciiPython) (.fresh claimedReportStore 0)
        firstDelivery deliveredSystem)⟩

end NocAgent.Cases
