import NocAgent.Cases.HandoffDelivery

/-!
# Failed deliveries of a handoff in the Postgres store

The handler of `engineering_handoff_requested` runs inside `handoff_delivery_guard`, which in the
Postgres store is one transaction: what the handler has written is committed when it returns, and
rolled back when it raises.

* `DeliveryRun.writes`, `DeliveryRun.next_writes` — the delivery that a turn of the handler writes.
* `PostgresHandoffs`, `rollbackStep` — any number of runs of the handler, each in a transaction,
  while anybody else commits changes of the other tables.
* `failuresForgotten_run` — no committed delivery says that an attempt has failed.
* `DeliveryRun.failure_recorded` — in the in-memory store each failed attempt is counted.
-/

set_option autoImplicit false

namespace NocAgent.Cases

open Effects Effects.Action Keyed Lts Guards

/-! ## What a turn writes -/

/-- The row of a delivery is inserted or updated. -/
def DeliveryStore.write (s : DeliveryStore) (delivery : HandoffTransportDelivery) : DeliveryStore :=
  { s with
    deliveries := s.deliveries.put delivery
    deliveryIndex := s.deliveryIndex.set delivery.idempotencyKey delivery.deliveryId }

def DeliveryRun.writes (py : Python) (draws : DeliveryDraws) (s : DeliveryStore) :
    DeliveryRun → List HandoffTransportDelivery
  | .recording handoff case =>
    match newDelivery py handoff case draws with
    | some delivery =>
      if truthyId (s.deliveryIndex delivery.idempotencyKey) = none then [delivery] else []
    | none => []
  | .updating _ delivery _ => [delivery]
  | _ => []

section Turns

variable {py : Python} {draws : DeliveryDraws} {s t : DeliveryStore}

/-- A call that only reads the case store. -/
theorem onCaseStore_reads {α : Type} {x : StoreM α} (hx : Fixes id x) (s : DeliveryStore) :
    (onCaseStore x s).2 = s := by
  have hstore : (x s.store).2 = s.store := hx s.store
  show ({ s with store := (x s.store).2 } : DeliveryStore) = s
  rw [hstore]

theorem getHandoff_reads (handoffId : String) : Fixes id (getHandoff handoffId) := Fixes.peek _

theorem getCase_reads (caseId : String) : Fixes id (getCase caseId) := Fixes.peek _

theorem requireHandoff_reads (handoffId : String) : Fixes id (requireHandoff handoffId) :=
  Fixes.bind (Fixes.peek _) fun _ => Fixes.orRaise _ _

theorem recordHandoffDelivery_ok {delivery stored : HandoffTransportDelivery}
    (h : recordHandoffDelivery delivery s = (.ok stored, t)) :
    (truthyId (s.deliveryIndex delivery.idempotencyKey) = none ∧ stored = delivery ∧
      t = s.write delivery) ∨
    (truthyId (s.deliveryIndex delivery.idempotencyKey) ≠ none ∧
      (∃ id, s.deliveries.get? id = some stored) ∧ t = s) := by
  unfold recordHandoffDelivery at h
  obtain ⟨handoff, u, hread, h⟩ := bind_returns.1 h
  obtain rfl : s = u := by
    rw [← onCaseStore_reads (requireHandoff_reads delivery.handoffId) s, hread]
  simp only [peek_bind_run] at h
  cases hindex : truthyId (s.deliveryIndex delivery.idempotencyKey) with
  | none =>
    simp only [hindex, alter_bind_run, pure_returns] at h
    exact .inl ⟨rfl, h.1, h.2⟩
  | some id =>
    simp only [hindex, peek_bind_run, orRaise_returns] at h
    exact .inr ⟨Option.some_ne_none id, ⟨id, h.1⟩, h.2⟩

theorem updateHandoffDelivery_ok {delivery stored : HandoffTransportDelivery}
    (h : updateHandoffDelivery delivery s = (.ok stored, t)) : t = s.write delivery := by
  unfold updateHandoffDelivery at h
  simp only [peek_bind_run, raiseIf_bind_returns, alter_bind_run, pure_returns] at h
  exact h.2.2

end Turns

/-! ## The handler in its transaction -/

/-- The handoffs in Postgres, with the deliveries under way. -/
structure PostgresHandoffs where
  /-- what is committed -/
  shared : DeliveryStore := {}
  guards : Guards String Nat := fun _ => none
  runs : Nat → DeliveryRun := fun _ => .idle
  /-- what the transaction of each run has written -/
  own : Nat → List HandoffTransportDelivery := fun _ => []

inductive RollbackLabel where
  | deliver (j : Nat) (intent : OutboxIntent)
  | turn (j : Nat) (draws : DeliveryDraws)
  /-- the handler is cancelled, or its process ends, or the commit fails -/
  | abort (j : Nat)
  /-- anybody commits a change of the other tables -/
  | others (store : Store)

/-- What the transaction of a run sees. -/
def PostgresHandoffs.view (sys : PostgresHandoffs) (j : Nat) : DeliveryStore :=
  (sys.own j).foldl DeliveryStore.write sys.shared

section Steps

variable (py : Python)

def PostgresHandoffs.goTo (sys : PostgresHandoffs) (j : Nat) (c : DeliveryRun)
    (shared : DeliveryStore) (own : List HandoffTransportDelivery) : PostgresHandoffs where
  shared := shared
  guards := sys.guards.change j (sys.runs j).guard c.guard
  runs := Function.update sys.runs j c
  own := Function.update sys.own j own

def PostgresHandoffs.after (sys : PostgresHandoffs) : RollbackLabel → PostgresHandoffs
  | .deliver j intent => sys.goTo j (.enter py intent) sys.shared []
  | .turn j draws =>
    let own := sys.own j ++ (sys.runs j).writes py draws (sys.view j)
    match ((sys.runs j).next py draws (sys.view j)).1 with
    -- the guard is left with an exception
    | .error _ => sys.goTo j .idle sys.shared []
    | .ok c =>
      if c.Ended then sys.goTo j c (own.foldl DeliveryStore.write sys.shared) []
      else sys.goTo j c sys.shared own
  | .abort j => sys.goTo j .idle sys.shared []
  | .others store => { sys with shared := { sys.shared with store := store } }

def RollbackLabel.Allowed (sys : PostgresHandoffs) : RollbackLabel → Prop
  | .deliver j _ => (sys.runs j).Ended
  | .turn j _ => ∀ k ∈ (sys.runs j).waitsFor, sys.guards k = none
  | .abort _ | .others _ => True

def rollbackStep (sys : PostgresHandoffs) (l : RollbackLabel) (t : PostgresHandoffs) : Prop :=
  l.Allowed sys ∧ t = sys.after py l

end Steps

/-! ## What is committed -/

/-- No attempt has failed, and the issue was filed or the handoff had ended. -/
structure Unfailed (delivery : HandoffTransportDelivery) : Prop where
  attempts : delivery.attempts = 0
  outcome : delivery.status = .succeeded ∧ delivery.externalUrl ≠ "" ∨ delivery.status = .abandoned

/-- The delivery that a run works on, and what it has written of it. -/
def DeliveryRun.Fits (own : List HandoffTransportDelivery) : DeliveryRun → Prop
  | .rereading _ delivery | .calling _ delivery | .awaiting _ delivery =>
    delivery.attempts = 0 ∧ ∀ w ∈ own, w.deliveryId = delivery.deliveryId
  | .updating _ delivery (.ok _) =>
    Unfailed delivery ∧ ∀ w ∈ own, w.deliveryId = delivery.deliveryId
  | .updating _ _ (.error _) => True
  | _ => own = []

section Turns

variable {py : Python} {draws : DeliveryDraws} {s : DeliveryStore}
  {own : List HandoffTransportDelivery}

theorem newDelivery_eq {handoff : CaseHandoff} {case : AtomicCaseProjection}
    {delivery : HandoffTransportDelivery} (h : newDelivery py handoff case draws = some delivery) :
    delivery.attempts = 0 ∧ delivery.status = .inProgress := by
  unfold newDelivery at h
  simp only [Option.bind_eq_bind, Option.bind_eq_some_iff, Option.some.injEq] at h
  obtain ⟨handoffId, -, caseId, -, idempotencyKey, -, rfl⟩ := h
  exact ⟨rfl, rfl⟩

theorem DeliveryStore.get?_write (s : DeliveryStore) (delivery : HandoffTransportDelivery)
    (id : String) : (s.write delivery).deliveries.get? id =
      if delivery.deliveryId = id then some delivery else s.deliveries.get? id :=
  Table.get?_put ..

/-- What is seen is what was written or what is committed. -/
theorem mem_or_get?_of_writes {id : String} {delivery : HandoffTransportDelivery} :
    ∀ (own : List HandoffTransportDelivery) (s : DeliveryStore),
      (own.foldl DeliveryStore.write s).deliveries.get? id = some delivery →
      (delivery ∈ own ∧ delivery.deliveryId = id) ∨
        ((∀ w ∈ own, w.deliveryId ≠ id) ∧ s.deliveries.get? id = some delivery)
  | [], s, h => .inr ⟨by simp, h⟩
  | w :: own, s, h => by
    rcases mem_or_get?_of_writes own (s.write w) h with ⟨hmem, hid⟩ | ⟨hnot, hget⟩
    · exact .inl ⟨List.mem_cons_of_mem w hmem, hid⟩
    · rw [DeliveryStore.get?_write] at hget
      by_cases hw : w.deliveryId = id
      · rw [if_pos hw] at hget
        cases hget
        exact .inl ⟨List.mem_cons_self, hw⟩
      · rw [if_neg hw] at hget
        refine .inr ⟨?_, hget⟩
        simpa [hw] using hnot

theorem answered_fits {handoff : CaseHandoff} {delivery : HandoffTransportDelivery}
    (hattempts : delivery.attempts = 0) (hids : ∀ w ∈ own, w.deliveryId = delivery.deliveryId) :
    (answered handoff delivery draws).Fits own ∧ ¬ (answered handoff delivery draws).Ended := by
  unfold answered
  split
  · exact ⟨trivial, fun hend => hend⟩
  · split
    · exact ⟨trivial, fun hend => hend⟩
    · rename_i link htruthy
      have hlink : link ≠ "" := by simpa using (Option.filter_eq_some_iff.1 htruthy).2
      exact ⟨⟨⟨hattempts, .inl ⟨rfl, hlink⟩⟩, hids⟩, fun hend => hend⟩

/-- A delivery is recorded, or the one that is stored is taken up. -/
theorem recording_fits {handoff : CaseHandoff} {case : AtomicCaseProjection} {c' : DeliveryRun}
    {t : DeliveryStore}
    (hseen : ∀ id delivery, s.deliveries.get? id = some delivery → delivery.attempts = 0)
    (h : (DeliveryRun.recording handoff case).next py draws s = (.ok c', t)) :
    (∀ w ∈ (DeliveryRun.recording handoff case).writes py draws s, w.attempts = 0) ∧
      ((c'.Fits ((DeliveryRun.recording handoff case).writes py draws s) ∧ ¬ c'.Ended) ∨
        (c'.Ended ∧ (DeliveryRun.recording handoff case).writes py draws s = [])) := by
  simp only [DeliveryRun.next] at h
  obtain ⟨delivery, hnew, hrest⟩ := orRaise_bind_returns.1 h
  obtain ⟨stored, u, hrecord, hgo⟩ := bind_returns.1 hrest
  obtain ⟨hattempts, hstatus⟩ := newDelivery_eq hnew
  rcases recordHandoffDelivery_ok hrecord with ⟨hnone, rfl, -⟩ | ⟨hsome, ⟨id, hid⟩, -⟩
  · have hwrites : (DeliveryRun.recording handoff case).writes py draws s = [stored] := by
      simp [DeliveryRun.writes, hnew, hnone]
    rw [hwrites]
    refine ⟨by simpa using hattempts, .inl ?_⟩
    rw [if_neg (by simp [hstatus])] at hgo
    cases hgo
    exact ⟨⟨hattempts, by simp⟩, fun hend => hend⟩
  · have hwrites : (DeliveryRun.recording handoff case).writes py draws s = [] := by
      simp [DeliveryRun.writes, hnew, hsome]
    rw [hwrites]
    refine ⟨by simp, ?_⟩
    split at hgo
    · cases hgo
      exact .inr ⟨trivial, rfl⟩
    · cases hgo
      exact .inl ⟨⟨hseen id stored hid, by simp⟩, fun hend => hend⟩

/-- **What a turn that returns leaves: a run that goes on, with what it has written, or one that has
ended, with nothing written or a delivery that did not fail.** -/
theorem DeliveryRun.Fits.next {c c' : DeliveryRun} {t : DeliveryStore} (hfits : c.Fits own)
    (hseen : ∀ id delivery, s.deliveries.get? id = some delivery → delivery.attempts = 0)
    (h : c.next py draws s = (.ok c', t)) :
    (∀ w ∈ c.writes py draws s, w.attempts = 0) ∧
      ((c'.Fits (own ++ c.writes py draws s) ∧ ¬ c'.Ended) ∨
        (c'.Ended ∧ own ++ c.writes py draws s = []) ∨
        ∃ delivery, c'.Ended ∧ Unfailed delivery ∧ c.writes py draws s = [delivery] ∧
          ∀ w ∈ own, w.deliveryId = delivery.deliveryId) := by
  cases c with
  | idle =>
    cases h
    obtain rfl : own = [] := hfits
    exact ⟨by simp [writes], .inr (.inl ⟨trivial, rfl⟩)⟩
  | returned result =>
    cases h
    obtain rfl : own = [] := hfits
    exact ⟨by simp [writes], .inr (.inl ⟨trivial, rfl⟩)⟩
  | waiting handoffId =>
    cases h
    obtain rfl : own = [] := hfits
    exact ⟨by simp [writes], .inl ⟨rfl, id⟩⟩
  | reading handoffId =>
    obtain rfl : own = [] := hfits
    refine ⟨by simp [writes], ?_⟩
    simp only [DeliveryRun.next] at h
    obtain ⟨handoff?, u, -, h⟩ := bind_returns.1 h
    obtain ⟨handoff, -, h⟩ := orRaise_bind_returns.1 h
    split at h
    · cases h
      exact .inr (.inl ⟨trivial, rfl⟩)
    · cases h
      exact .inl ⟨rfl, id⟩
  | loading handoff =>
    obtain rfl : own = [] := hfits
    refine ⟨by simp [writes], ?_⟩
    simp only [DeliveryRun.next] at h
    obtain ⟨case?, u, -, h⟩ := bind_returns.1 h
    obtain ⟨case, -, h⟩ := orRaise_bind_returns.1 h
    cases h
    exact .inl ⟨rfl, id⟩
  | recording handoff case =>
    obtain rfl : own = [] := hfits
    obtain ⟨hattempts, hgo | hend⟩ := recording_fits hseen h
    · exact ⟨hattempts, .inl hgo⟩
    · exact ⟨hattempts, .inr (.inl hend)⟩
  | rereading handoff delivery =>
    obtain ⟨hattempts, hids⟩ := hfits
    refine ⟨by simp [writes], .inl ?_⟩
    simp only [DeliveryRun.next] at h
    obtain ⟨current?, u, -, h⟩ := bind_returns.1 h
    obtain ⟨current, -, h⟩ := orRaise_bind_returns.1 h
    split at h
    · cases h
      exact ⟨⟨⟨hattempts, .inr rfl⟩, by simpa [writes] using hids⟩, fun hend => hend⟩
    · cases h
      exact ⟨⟨hattempts, by simpa [writes] using hids⟩, fun hend => hend⟩
  | calling handoff delivery =>
    obtain ⟨hattempts, hids⟩ := hfits
    cases h
    exact ⟨by simp [writes], .inl ⟨⟨hattempts, by simpa [writes] using hids⟩, fun hend => hend⟩⟩
  | awaiting handoff delivery =>
    obtain ⟨hattempts, hids⟩ := hfits
    cases h
    exact ⟨by simp [writes], .inl (answered_fits hattempts (by simpa [writes] using hids))⟩
  | updating handoff delivery outcome =>
    simp only [DeliveryRun.next] at h
    obtain ⟨stored, u, -, h⟩ := bind_returns.1 h
    cases outcome with
    | error e => cases h
    | ok result =>
      cases h
      obtain ⟨hunfailed, hids⟩ := hfits
      exact ⟨by simpa [writes] using hunfailed.attempts,
        .inr (.inr ⟨delivery, trivial, hunfailed, rfl, hids⟩)⟩

/-- In a transaction, as in the in-memory store, a turn that returns has written that. -/
theorem DeliveryRun.next_writes {c c' : DeliveryRun} {t : DeliveryStore}
    (h : c.next py draws s = (.ok c', t)) :
    t = (c.writes py draws s).foldl DeliveryStore.write s := by
  have hreads : ∀ {α : Type} {x : StoreM α} {r : Except PyExc α} {u : DeliveryStore},
      Fixes id x → onCaseStore x s = (r, u) → u = s := by
    intro α x r u hx hrun
    rw [← onCaseStore_reads hx s, hrun]
  cases c with
  | idle | returned _ | waiting _ | calling _ _ | awaiting _ _ =>
    cases h
    rfl
  | reading handoffId =>
    simp only [DeliveryRun.next] at h
    obtain ⟨handoff?, u, hread, hrest⟩ := bind_returns.1 h
    obtain ⟨handoff, -, hgo⟩ := orRaise_bind_returns.1 hrest
    obtain rfl := hreads (getHandoff_reads handoffId) hread
    split at hgo <;> exact (pure_returns.1 hgo).2
  | loading handoff =>
    simp only [DeliveryRun.next] at h
    obtain ⟨case?, u, hread, hrest⟩ := bind_returns.1 h
    obtain ⟨case, -, hgo⟩ := orRaise_bind_returns.1 hrest
    obtain rfl := hreads (getCase_reads handoff.caseId) hread
    exact (pure_returns.1 hgo).2
  | rereading handoff delivery =>
    simp only [DeliveryRun.next] at h
    obtain ⟨current?, u, hread, hrest⟩ := bind_returns.1 h
    obtain ⟨current, -, hgo⟩ := orRaise_bind_returns.1 hrest
    obtain rfl := hreads (getHandoff_reads handoff.handoffId) hread
    split at hgo <;> exact (pure_returns.1 hgo).2
  | recording handoff case =>
    simp only [DeliveryRun.next] at h
    obtain ⟨delivery, hnew, hrest⟩ := orRaise_bind_returns.1 h
    obtain ⟨stored, u, hrecord, hgo⟩ := bind_returns.1 hrest
    have hstate : t = u := by split at hgo <;> exact (pure_returns.1 hgo).2
    rcases recordHandoffDelivery_ok hrecord with ⟨hnone, -, hwrite⟩ | ⟨hsome, -, hsame⟩
    · simp [writes, hnew, hnone, hstate, hwrite]
    · simp [writes, hnew, hsome, hstate, hsame]
  | updating handoff delivery outcome =>
    simp only [DeliveryRun.next] at h
    obtain ⟨stored, u, hupdate, hgo⟩ := bind_returns.1 h
    cases outcome with
    | error e => cases hgo
    | ok result => exact (pure_returns.1 hgo).2.trans (updateHandoffDelivery_ok hupdate)

/-- In the in-memory store the failed attempt stays, though the turn raises. -/
theorem DeliveryRun.failure_recorded (handoff : CaseHandoff) {delivery : HandoffTransportDelivery}
    (hknown : (s.deliveries.get? delivery.deliveryId).isSome) (error : String) (e : PyExc) :
    ((DeliveryRun.updating handoff (failedDelivery delivery error) (.error e)).next py draws s).2 =
      s.write (failedDelivery delivery error) := by
  have hknown' : ¬ (s.deliveries.get? (failedDelivery delivery error).deliveryId).isSome = false :=
    fun hnone => nomatch hknown.symm.trans hnone
  simp only [DeliveryRun.next, updateHandoffDelivery, bind_bind_run, peek_bind_run,
    raiseIf_bind_run, if_neg hknown', alter_bind_run, pure_bind_run, raise_run]
  rfl

end Turns

/-- Nothing failed is committed, and every run fits what it has written. -/
structure PostgresHandoffs.Kept (sys : PostgresHandoffs) : Prop where
  committed : ∀ id delivery, sys.shared.deliveries.get? id = some delivery → Unfailed delivery
  fits : ∀ j, (sys.runs j).Fits (sys.own j)
  own : ∀ j, ∀ w ∈ sys.own j, w.attempts = 0

namespace PostgresHandoffs.Kept

variable {py : Python} {sys t : PostgresHandoffs}

theorem new : PostgresHandoffs.Kept {} where
  committed _ _ h := nomatch h
  fits _ := rfl
  own _ _ h := nomatch h

/-- A transaction sees no failed attempt. -/
theorem seen (h : sys.Kept) (j : Nat) (id : String) (delivery : HandoffTransportDelivery)
    (hget : (sys.view j).deliveries.get? id = some delivery) : delivery.attempts = 0 := by
  rcases mem_or_get?_of_writes _ _ hget with ⟨hmem, -⟩ | ⟨-, hget⟩
  · exact h.own j delivery hmem
  · exact (h.committed id delivery hget).attempts

theorem goTo (h : sys.Kept) (j : Nat) {c : DeliveryRun} {shared : DeliveryStore}
    {own : List HandoffTransportDelivery}
    (hshared : ∀ id delivery, shared.deliveries.get? id = some delivery → Unfailed delivery)
    (hfits : c.Fits own) (hown : ∀ w ∈ own, w.attempts = 0) : (sys.goTo j c shared own).Kept where
  committed := hshared
  fits k := by
    by_cases hk : k = j
    · subst hk
      simpa [PostgresHandoffs.goTo] using hfits
    · simpa [PostgresHandoffs.goTo, Function.update_of_ne hk] using h.fits k
  own k := by
    by_cases hk : k = j
    · subst hk
      simpa [PostgresHandoffs.goTo] using hown
    · simpa [PostgresHandoffs.goTo, Function.update_of_ne hk] using h.own k

theorem step (h : sys.Kept) {l : RollbackLabel} (hstep : rollbackStep py sys l t) : t.Kept := by
  obtain ⟨-, rfl⟩ := hstep
  cases l with
  | deliver j intent =>
    refine h.goTo j h.committed ?_ (by simp)
    unfold DeliveryRun.enter
    dsimp only
    split <;> rfl
  | abort j => exact h.goTo j h.committed rfl (by simp)
  | others store => exact ⟨h.committed, h.fits, h.own⟩
  | turn j draws =>
    dsimp only [PostgresHandoffs.after]
    cases hnext : ((sys.runs j).next py draws (sys.view j)).1 with
    | error e => exact h.goTo j h.committed rfl (by simp)
    | ok c =>
      dsimp only
      obtain ⟨hwrites, hcases⟩ := (h.fits j).next (h.seen j) (Prod.ext_iff.2 ⟨hnext, rfl⟩)
      have hown : ∀ w ∈ sys.own j ++ (sys.runs j).writes py draws (sys.view j),
          w.attempts = 0 := by
        intro w hw
        rcases List.mem_append.1 hw with hw | hw
        · exact h.own j w hw
        · exact hwrites w hw
      rcases hcases with ⟨hfits, hgoes⟩ | ⟨hends, hnothing⟩ | ⟨last, hends, hlast, hwritten, hids⟩
      · rw [if_neg hgoes]
        exact h.goTo j h.committed hfits hown
      · rw [if_pos hends, hnothing]
        refine h.goTo j h.committed ?_ (by simp)
        cases c <;> first | rfl | exact absurd hends id
      · rw [if_pos hends, hwritten]
        refine h.goTo j ?_ ?_ (by simp)
        · intro id delivery hget
          rw [List.foldl_append, List.foldl_cons, List.foldl_nil, DeliveryStore.get?_write] at hget
          by_cases hid : last.deliveryId = id
          · rw [if_pos hid] at hget
            cases hget
            exact hlast
          · rw [if_neg hid] at hget
            -- what the run had written before is the same delivery
            rcases mem_or_get?_of_writes _ _ hget with ⟨hmem, hsame⟩ | ⟨-, hget⟩
            · exact absurd ((hids delivery hmem).symm.trans hsame) hid
            · exact h.committed id delivery hget
        · cases c <;> first | rfl | exact absurd hends id

end PostgresHandoffs.Kept

/-- **In the Postgres store no committed delivery says that an attempt has failed**, whatever the
client answers, however the runs of the handler are interleaved, cancelled and retried, and whatever
else is committed in between: its attempts are zero, and it is succeeded, with the issue's address,
or abandoned. -/
theorem failuresForgotten_run {py : Python} {ls : List RollbackLabel} {sys : PostgresHandoffs}
    (h : Run (rollbackStep py) {} ls sys) (id : String) (delivery : HandoffTransportDelivery)
    (hget : sys.shared.deliveries.get? id = some delivery) : Unfailed delivery :=
  (h.invariant (fun _ _ _ hkept hstep => hkept.step hstep) PostgresHandoffs.Kept.new).committed id
    delivery hget

instance RollbackLabel.decidableAllowed (sys : PostgresHandoffs) :
    ∀ l : RollbackLabel, Decidable (l.Allowed sys)
  | .deliver j _ => inferInstanceAs (Decidable (sys.runs j).Ended)
  | .turn j _ => inferInstanceAs (Decidable (∀ k ∈ (sys.runs j).waitsFor, sys.guards k = none))
  | .abort _ | .others _ => .isTrue trivial

/-- The client fails, and is called again later. -/
def retriedDelivery : List RollbackLabel :=
  .others sharedStore :: .deliver 0 deliverSecond ::
    List.replicate 8 (.turn 0 { lateDraws with answer := .raised "HTTPStatusError: 502" }) ++
      .deliver 0 deliverSecond :: List.replicate 8 (.turn 0 lateDraws)

theorem failuresForgotten_retried : ∃ sys delivery,
    Run (rollbackStep asciiPython) {} retriedDelivery sys ∧
      sys.shared.deliveries.get? "hd_1" = some delivery ∧ Unfailed delivery := by
  have hvalid : Valid RollbackLabel.Allowed (PostgresHandoffs.after asciiPython) {}
      retriedDelivery := by decide +kernel
  have hrun : Run (rollbackStep asciiPython) {} retriedDelivery
      (retriedDelivery.foldl (PostgresHandoffs.after asciiPython) {}) := Run.of_valid hvalid
  have hsome : ((retriedDelivery.foldl (PostgresHandoffs.after asciiPython)
      {}).shared.deliveries.get? "hd_1").isSome := by decide +kernel
  obtain ⟨delivery, hget⟩ := Option.isSome_iff_exists.1 hsome
  exact ⟨_, delivery, hrun, hget, failuresForgotten_run hrun "hd_1" delivery hget⟩

end NocAgent.Cases
