import NocAgent.Cases.Outbox

/-!
# Fenced outbox claims

* `Fenced` — what every run of the workers keeps: two versions of an intent under one claim token
  have the same number of attempts, and no two running handlers hold the same token.
* `outboxFenced_run` — an intent leaves `in_progress` for `succeeded` or `failed` by the worker
  that holds the stored token, its attempts are the claims that succeeded on it, and a worker
  does not touch a succeeded or abandoned one.
-/

set_option autoImplicit false

namespace NocAgent.Cases

open Effects Effects.Action Keyed Lts

namespace OutboxWorker

/-- The versions of intents that a call holds. -/
def held : OutboxWorker → List OutboxIntent
  | .idle => []
  | .requeueing inProgress _ _ => inProgress
  | .listing pending _ => pending
  | .processing candidates _ => candidates
  | .handling claimed rest _ => claimed :: rest

/-- The intents that a call may still claim. -/
def candidates : OutboxWorker → List OutboxIntent
  | .listing pending _ => pending
  | .processing candidates _ => candidates
  | .handling _ rest _ => rest
  | _ => []

/-- The intent whose handler is running. -/
def handled? : OutboxWorker → Option OutboxIntent
  | .handling claimed _ _ => some claimed
  | _ => none

end OutboxWorker

def Store.attemptsOf (s : Store) (outboxId : String) : Nat :=
  ((s.outbox.get? outboxId).map OutboxIntent.attempts).getD 0

/-- An intent is claimed only while it waits. -/
def Waiting (status : OutboxStatus) : Prop := status = .pending ∨ status = .failed

/-- The stored rows among all the versions there have been. -/
structure Versions (start s : Store) (claims : String → Nat) (seen : List OutboxIntent) : Prop where
  rows : ∀ r ∈ s.outbox.rows, r ∈ seen
  stored : ∀ r ∈ seen, (s.outbox.get? r.outboxId).isSome
  attempts : ∀ id, s.attemptsOf id = start.attemptsOf id + claims id
  same : ∀ a ∈ seen, ∀ b ∈ seen, a.outboxId = b.outboxId → a.claimToken = b.claimToken →
    a.attempts = b.attempts

/-- Every copy that a worker holds is a version the store had. -/
structure Fenced (start : Store) (sys : OutboxSystem) : Prop where
  versions : Versions start sys.store sys.claims sys.seen
  held : ∀ i, ∀ r ∈ (sys.workers i).held, r ∈ sys.seen
  waiting : ∀ i, ∀ r ∈ (sys.workers i).candidates, Waiting r.status
  alone : ∀ i j, ∀ a ∈ (sys.workers i).handled?, ∀ b ∈ (sys.workers j).handled?,
    a.claimToken = b.claimToken → i = j

/-! ## The stored versions -/

theorem attemptsOf_put {s t : Store} {r : OutboxIntent} (h : t.outbox = s.outbox.put r)
    (id : String) : t.attemptsOf id = if r.outboxId = id then r.attempts else s.attemptsOf id := by
  unfold Store.attemptsOf
  rw [h, Table.get?_put]
  split <;> rfl

theorem attemptsOf_of_get? {s : Store} {id : String} {r : OutboxIntent}
    (h : s.outbox.get? id = some r) : s.attemptsOf id = r.attempts := by
  unfold Store.attemptsOf
  rw [h]
  rfl

theorem isSome_get?_put {s t : Store} {r : OutboxIntent} (h : t.outbox = s.outbox.put r)
    {id : String} (hid : r.outboxId = id ∨ (s.outbox.get? id).isSome) :
    (t.outbox.get? id).isSome := by
  rw [h, Table.get?_put]
  split
  · rfl
  · rename_i hne
    exact hid.resolve_left hne

section Versions

variable {start s t : Store} {claims : String → Nat} {seen : List OutboxIntent}

theorem Versions.unchanged (h : Versions start s claims seen) (ht : t.outbox = s.outbox) :
    Versions start t claims (t.outbox.rows ++ seen) := by
  have hmem : ∀ r ∈ t.outbox.rows ++ seen, r ∈ seen := by
    intro r hr
    rcases List.mem_append.1 hr with hr | hr
    · exact h.rows r (ht ▸ hr)
    · exact hr
  refine ⟨fun r hr => List.mem_append_left _ hr, fun r hr => ?_, fun id => ?_,
    fun a ha b hb => h.same a (hmem a ha) b (hmem b hb)⟩
  · rw [ht]
    exact h.stored r (hmem r hr)
  · rw [← h.attempts id]
    unfold Store.attemptsOf
    rw [ht]

/-- A new version of an intent that agrees with the versions under the same token. -/
theorem Versions.put (h : Versions start s claims seen) {r : OutboxIntent} {claims' : String → Nat}
    (ht : t.outbox = s.outbox.put r)
    (hsame : ∀ b ∈ seen, b.outboxId = r.outboxId → b.claimToken = r.claimToken →
      b.attempts = r.attempts)
    (hcount : r.attempts = start.attemptsOf r.outboxId + claims' r.outboxId)
    (hothers : ∀ id, r.outboxId ≠ id → claims' id = claims id) :
    Versions start t claims' (t.outbox.rows ++ seen) := by
  have hmem : ∀ a ∈ t.outbox.rows ++ seen, a = r ∨ a ∈ seen := by
    intro a ha
    rcases List.mem_append.1 ha with ha | ha
    · rw [ht, Table.mem_put] at ha
      exact ha.imp_right fun ha => h.rows a ha.1
    · exact Or.inr ha
  refine ⟨fun a ha => List.mem_append_left _ ha, fun a ha => ?_, fun id => ?_, fun a ha b hb => ?_⟩
  · refine isSome_get?_put ht ?_
    rcases hmem a ha with rfl | ha
    · exact Or.inl rfl
    · exact Or.inr (h.stored a ha)
  · rw [attemptsOf_put ht]
    split
    · rename_i hid
      rw [← hid, hcount]
    · rename_i hid
      rw [h.attempts id, hothers id hid]
  · intro hid htoken
    rcases hmem a ha with rfl | ha <;> rcases hmem b hb with rfl | hb
    · rfl
    · exact (hsame b hb hid.symm htoken.symm).symm
    · exact hsame a ha hid htoken
    · exact h.same a ha b hb hid htoken

/-- A new version under the token of the stored one. -/
theorem Versions.rewrite (h : Versions start s claims seen) {current r copy : OutboxIntent}
    (hget : s.outbox.get? copy.outboxId = some current) (hcopy : copy ∈ seen)
    (htoken : current.claimToken = copy.claimToken) (hid : r.outboxId = copy.outboxId)
    (hattempts : r.attempts = copy.attempts) (hr : r.claimToken = copy.claimToken)
    (ht : t.outbox = s.outbox.put r) : Versions start t claims (t.outbox.rows ++ seen) := by
  have hcurrent : copy.attempts = current.attempts :=
    h.same copy hcopy current (h.rows current (Table.mem_of_get? hget))
      (Table.key_of_get? hget).symm htoken.symm
  refine h.put ht (fun b hb hbid hbtoken => ?_) ?_ fun _ _ => rfl
  · rw [hattempts]
    exact h.same b hb copy hcopy (hbid.trans hid) (hbtoken.trans hr)
  · rw [hattempts, hid, hcurrent, ← attemptsOf_of_get? hget]
    exact h.attempts copy.outboxId

/-- A claim of the stored version, under a token that was never used. -/
theorem Versions.claim (h : Versions start s claims seen) (p : OutboxProcessor) (now : Int)
    {token : String} (copy : OutboxIntent) {current : OutboxIntent}
    (hget : s.outbox.get? copy.outboxId = some current) (hcopy : copy ∈ seen)
    (htoken : current.claimToken = copy.claimToken)
    (hfresh : ∀ intent ∈ seen, intent.claimToken ≠ token)
    (ht : t.outbox = s.outbox.put (Cases.claim p now token copy)) :
    Versions start t (countClaim claims (some copy.outboxId)) (t.outbox.rows ++ seen) := by
  have hcurrent : copy.attempts = current.attempts :=
    h.same copy hcopy current (h.rows current (Table.mem_of_get? hget))
      (Table.key_of_get? hget).symm htoken.symm
  refine h.put ht (fun b hb _ hbtoken => absurd hbtoken (hfresh b hb)) ?_ fun id hid => ?_
  · change copy.attempts + 1 = start.attemptsOf copy.outboxId +
      Function.update claims copy.outboxId (claims copy.outboxId + 1) copy.outboxId
    rw [Function.update_self, hcurrent, ← attemptsOf_of_get? hget, h.attempts copy.outboxId]
    omega
  · exact Function.update_of_ne (fun he => hid he.symm) _ _

/-- A new intent. -/
theorem Versions.enqueue (h : Versions start s claims seen) {intent : OutboxIntent}
    (hnew : s.outbox.get? intent.outboxId = none) (hzero : intent.attempts = 0)
    (ht : t.outbox = s.outbox.put intent) : Versions start t claims (t.outbox.rows ++ seen) := by
  refine h.put ht (fun b hb hid _ => ?_) ?_ fun _ _ => rfl
  · have hstored := h.stored b hb
    rw [hid, hnew] at hstored
    cases hstored
  · have hcount := h.attempts intent.outboxId
    unfold Store.attemptsOf at hcount
    rw [hnew] at hcount
    rw [hzero]
    exact hcount

end Versions

/-! ## The workers -/

theorem mem_listOutbox {s : Store} {status : OutboxStatus} {r : OutboxIntent}
    (h : r ∈ s.listOutbox (some status)) : r ∈ s.outbox.rows ∧ r.status = status := by
  unfold Store.listOutbox at h
  rw [(List.perm_insertionSort _ _).mem_iff, List.mem_filter] at h
  exact ⟨h.1, by simpa using h.2⟩

section Turns

variable {p : OutboxProcessor} {d : OutboxDraws} {s t : Store} {w w' : OutboxWorker}

theorem OutboxTurn.held (h : OutboxTurn p d s w w' t) {r : OutboxIntent} (hr : r ∈ w'.held) :
    r ∈ w.held ∨ r ∈ t.outbox.rows := by
  cases h with
  | halt => cases hr
  | kept | requeued | skipped | lost | finished => exact Or.inl (List.mem_cons_of_mem _ hr)
  | listed => exact Or.inr (mem_listOutbox hr).1
  | chosen pending limit =>
    rcases List.mem_append.1 (List.mem_of_mem_take hr) with hr | hr
    · exact Or.inl hr
    · exact Or.inr (mem_listOutbox (List.mem_of_mem_filter hr)).1
  | claimed intent rest _ _ current t stored status token written =>
    rcases List.mem_cons.1 hr with rfl | hr
    · refine Or.inr ?_
      rw [written, Table.mem_put]
      exact Or.inl rfl
    · exact Or.inl (List.mem_cons_of_mem _ hr)

theorem OutboxTurn.waiting (h : OutboxTurn p d s w w' t) {r : OutboxIntent}
    (hr : r ∈ w'.candidates) : r ∈ w.candidates ∨ Waiting r.status := by
  cases h with
  | halt | kept | requeued => cases hr
  | skipped | claimed => exact Or.inl (List.mem_cons_of_mem _ hr)
  | lost | finished => exact Or.inl hr
  | listed => exact Or.inr (Or.inl (mem_listOutbox hr).2)
  | chosen pending limit =>
    rcases List.mem_append.1 (List.mem_of_mem_take hr) with hr | hr
    · exact Or.inl hr
    · exact Or.inr (Or.inr (mem_listOutbox (List.mem_of_mem_filter hr)).2)

/-- A handler starts under the token that the turn drew. -/
theorem OutboxTurn.handled (h : OutboxTurn p d s w w' t) {a : OutboxIntent}
    (ha : a ∈ w'.handled?) : a.claimToken = d.token := by
  cases h with
  | claimed => cases ha; rfl
  | _ => cases ha

/-- What a turn adds to the versions, and to the claims. -/
theorem OutboxTurn.versions {start : Store} {claims : String → Nat} {seen : List OutboxIntent}
    {r : Except PyExc OutboxWorker} (h : OutboxTurn p d s w (goto .idle r) t)
    (hv : Versions start s claims seen) (hheld : ∀ r ∈ w.held, r ∈ seen)
    (hfresh : ∀ intent ∈ seen, intent.claimToken ≠ d.token) :
    Versions start t (countClaim claims (w.claimed? r)) (t.outbox.rows ++ seen) := by
  generalize hw : goto OutboxWorker.idle r = w' at h
  have hnone : (∀ a, a ∉ w'.handled?) → countClaim claims (w.claimed? r) = claims := by
    intro hcalm
    rcases r with e | c
    · cases w <;> rfl
    · change c = w' at hw
      subst hw
      cases c with
      | handling a rest report => exact absurd rfl (hcalm a)
      | _ => cases w <;> rfl
  cases h with
  | halt | kept | listed | chosen | skipped | lost =>
    rw [hnone fun a ha => by cases ha]
    exact hv.unchanged rfl
  | requeued intent rest _ _ current _ stored _ token written =>
    rw [hnone fun a ha => by cases ha]
    exact hv.rewrite (r := retryClaim p d.now intent) stored (hheld _ (List.mem_cons_self ..))
      token rfl rfl rfl written
  | finished claimed rest _ _ current done _ stored _ token same written =>
    rw [hnone fun a ha => by cases ha]
    exact hv.rewrite stored (hheld _ (List.mem_cons_self ..)) token same.1 same.2.1 same.2.2 written
  | claimed intent rest _ _ current _ stored _ token written =>
    rcases r with e | c
    · cases hw
    · change c = _ at hw
      subst hw
      exact hv.claim p d.now intent stored (hheld intent (List.mem_cons_self ..)) token hfresh written

end Turns

section Steps

variable {p : OutboxProcessor} {start : Store} {sys : OutboxSystem}

/-- A worker moves, the store as it is. -/
theorem Fenced.atWorker (h : Fenced start sys) (i : Nat) {w : OutboxWorker}
    (hheld : ∀ r ∈ w.held, r ∈ sys.seen) (hwaiting : ∀ r ∈ w.candidates, Waiting r.status)
    (hhandled : ∀ a, a ∉ w.handled?) : Fenced start (sys.atWorker i w) := by
  refine ⟨h.versions, fun j r hr => ?_, fun j r hr => ?_, fun j k a ha b hb => ?_⟩
  · simp only [OutboxSystem.atWorker, Function.update_apply] at hr
    split at hr
    · exact hheld r hr
    · exact h.held j r hr
  · simp only [OutboxSystem.atWorker, Function.update_apply] at hr
    split at hr
    · exact hwaiting r hr
    · exact h.waiting j r hr
  · simp only [OutboxSystem.atWorker, Function.update_apply] at ha hb
    split at ha
    · exact absurd ha (hhandled a)
    split at hb
    · exact absurd hb (hhandled b)
    · exact h.alone j k a ha b hb

/-- The store moves, the workers stay. -/
theorem Fenced.atStore (h : Fenced start sys) {t : Store}
    (hv : Versions start t sys.claims (t.outbox.rows ++ sys.seen)) : Fenced start (sys.atStore t) :=
  ⟨hv, fun i r hr => List.mem_append_right _ (h.held i r hr), h.waiting, h.alone⟩

theorem enqueueOutbox_outbox (intent : OutboxIntent) (s : Store) :
    (enqueueOutbox intent s).2.outbox = s.outbox ∨
      (enqueueOutbox intent s).2.outbox = s.outbox.put intent := by
  rcases enqueueOutbox_cases intent s with ⟨_, _, -, -, hrun⟩ | ⟨_, -, -, hrun⟩ | ⟨-, hrun⟩
  all_goals rw [hrun]
  · exact Or.inl rfl
  · exact Or.inl rfl
  · exact Or.inr rfl

theorem Fenced.work (h : Fenced start sys) (i : Nat) (d : OutboxDraws)
    (hfresh : ∀ intent ∈ sys.seen, intent.claimToken ≠ d.token) :
    Fenced start (sys.after p (.work i d)) := by
  have hturn := next_turn p d (sys.workers i) sys.store
  refine ⟨hturn.versions h.versions (h.held i) hfresh, fun j r hr => ?_, fun j r hr => ?_,
    fun j k a ha b hb hab => ?_⟩
  · simp only [OutboxSystem.after, OutboxSystem.atStore, OutboxSystem.atWorker,
      Function.update_apply] at hr
    split at hr
    · rcases hturn.held hr with hr | hr
      · exact List.mem_append_right _ (h.held i r hr)
      · exact List.mem_append_left _ hr
    · exact List.mem_append_right _ (h.held j r hr)
  · simp only [OutboxSystem.after, OutboxSystem.atStore, OutboxSystem.atWorker,
      Function.update_apply] at hr
    split at hr
    · exact (hturn.waiting hr).elim (h.waiting i r) id
    · exact h.waiting j r hr
  · have holder : ∀ k, ∀ b ∈ (sys.workers k).handled?, b.claimToken ≠ d.token := by
      intro k b hb
      refine hfresh b (h.held k b ?_)
      cases hw : sys.workers k with
      | handling claimed rest report =>
        rw [hw] at hb
        cases hb
        exact List.mem_cons_self ..
      | _ =>
        rw [hw] at hb
        cases hb
    simp only [OutboxSystem.after, OutboxSystem.atStore, OutboxSystem.atWorker,
      Function.update_apply] at ha hb
    split at ha <;> split at hb
    · rename_i hj hk
      exact hj.trans hk.symm
    · exact absurd (hab.symm.trans (hturn.handled ha)) (holder k b hb)
    · exact absurd (hab.trans (hturn.handled hb)) (holder j a ha)
    · exact h.alone j k a ha b hb hab

theorem Fenced.step (h : Fenced start sys) {l : OutboxLabel} {t : OutboxSystem}
    (hstep : outboxStep p sys l t) : Fenced start t := by
  obtain ⟨hallowed, rfl⟩ := hstep
  cases l with
  | processPending i limit now =>
    refine h.atWorker i (fun r hr => ?_) (fun r hr => by cases hr) fun a ha => by cases ha
    simp only [OutboxWorker.start, OutboxWorker.held] at hr
    split at hr
    · exact h.versions.rows r (mem_listOutbox hr).1
    · cases hr
  | processIntent i intent =>
    obtain ⟨-, hseen, hpending⟩ := hallowed
    refine h.atWorker i (fun r hr => ?_) (fun r hr => ?_) fun a ha => by cases ha
    · rw [List.mem_singleton.1 hr]
      exact hseen
    · rw [List.mem_singleton.1 hr]
      exact Or.inl hpending
  | work i d => exact h.work i d hallowed.2
  | stop i =>
    refine h.atWorker i (fun r hr => ?_) (fun r hr => ?_) fun a ha => ?_
    · cases hr
    · cases hr
    · cases ha
  | enqueue intent =>
    obtain ⟨hnew, -, hzero, -⟩ := hallowed
    refine h.atStore ?_
    rcases enqueueOutbox_outbox intent sys.store with ht | ht
    · exact h.versions.unchanged ht
    · exact h.versions.enqueue hnew hzero ht
  | elsewhere t => exact h.atStore (h.versions.unchanged hallowed)

theorem fenced_quiet (start : Store) : Fenced start (.quiet start) := by
  have hrow : ∀ r ∈ start.outbox.rows, start.outbox.get? r.outboxId = some r :=
    fun r hr => Table.mem_rows_iff.1 hr
  refine ⟨⟨fun r hr => hr, fun r hr => ?_, fun id => rfl, fun a ha b hb hid _ => ?_⟩,
    fun i r hr => ?_, fun i r hr => ?_, fun i j a ha => ?_⟩
  · change (start.outbox.get? r.outboxId).isSome
    rw [hrow r hr]
    rfl
  · have hget := hrow a ha
    rw [hid, hrow b hb] at hget
    cases hget
    rfl
  · cases hr
  · cases hr
  · cases ha

/-- What a turn makes of a stored intent. -/
inductive OutboxTurn.Row (w : OutboxWorker) (before after : OutboxIntent) : Prop where
  | requeued (running : before.status = .inProgress) (status : after.status = .pending)
  | claimed (waiting : Waiting before.status) (status : after.status = .inProgress)
  | finished (claimed : OutboxIntent) (rest : List OutboxIntent) (report : OutboxProcessReport)
      (handling : w = .handling claimed rest report) (same : claimed.outboxId = before.outboxId)
      (token : claimed.claimToken = before.claimToken) (running : before.status = .inProgress)

theorem OutboxTurn.row {d : OutboxDraws} {s t : Store} {w w' : OutboxWorker}
    (h : OutboxTurn p d s w w' t) (hwaiting : ∀ r ∈ w.candidates, Waiting r.status)
    {id : String} {before : OutboxIntent} (hbefore : s.outbox.get? id = some before) :
    t.outbox.get? id = some before ∨
      ∃ after, t.outbox.get? id = some after ∧ Row w before after := by
  have hput : ∀ r : OutboxIntent, ∀ current, t.outbox = s.outbox.put r →
      s.outbox.get? r.outboxId = some current → (current = before → Row w before r) →
      t.outbox.get? id = some before ∨ ∃ after, t.outbox.get? id = some after ∧ Row w before after := by
    intro r current ht hget hrow
    rw [ht, Table.get?_put]
    split
    · rename_i hid
      have hid : r.outboxId = id := hid
      rw [hid, hbefore] at hget
      exact Or.inr ⟨r, rfl, hrow (Option.some.inj hget).symm⟩
    · exact Or.inl hbefore
  cases h with
  | halt | kept | listed | chosen | skipped | lost => exact Or.inl hbefore
  | requeued intent rest now limit current _ stored running token written =>
    exact hput _ current written stored fun he => .requeued (he ▸ running) rfl
  | claimed intent rest report _ current _ stored status token written =>
    refine hput _ current written stored fun he => .claimed ?_ rfl
    rw [← he, status]
    exact hwaiting intent (List.mem_cons_self ..)
  | finished claimed rest report _ current done _ stored running token same written =>
    refine hput done current written (same.1.symm ▸ stored) fun he => ?_
    subst he
    exact .finished claimed rest report rfl (Table.key_of_get? stored).symm token.symm running

/-- A stored intent changes in the turns of workers only. -/
theorem Fenced.row (h : Fenced start sys) {l : OutboxLabel} {t : OutboxSystem}
    (hstep : outboxStep p sys l t) {id : String} {before : OutboxIntent}
    (hbefore : sys.store.outbox.get? id = some before) :
    t.store.outbox.get? id = some before ∨ ∃ i d after, l = .work i d ∧
      t.store.outbox.get? id = some after ∧ OutboxTurn.Row (sys.workers i) before after := by
  obtain ⟨hallowed, rfl⟩ := hstep
  cases l with
  | processPending | processIntent | stop => exact Or.inl hbefore
  | work i d =>
    refine ((next_turn p d (sys.workers i) sys.store).row (h.waiting i) hbefore).imp_right ?_
    rintro ⟨after, hafter, hrow⟩
    exact ⟨i, d, after, rfl, hafter, hrow⟩
  | enqueue intent =>
    refine Or.inl ?_
    change (enqueueOutbox intent sys.store).2.outbox.get? id = some before
    rcases enqueueOutbox_outbox intent sys.store with ht | ht
    · rw [ht]
      exact hbefore
    · rw [ht, Table.get?_put_of_ne _ fun hid => ?_]
      · exact hbefore
      · have hnew := hallowed.1
        rw [hid, hbefore] at hnew
        cases hnew
  | elsewhere t =>
    refine Or.inl ?_
    change t.outbox.get? id = some before
    rw [hallowed]
    exact hbefore

/-- What fencing asks of a step: an intent in progress gets its result from the worker that holds
the stored token, and no other worker holds it; the attempts of an intent are the claims that
succeeded on it; and an intent that has succeeded or was abandoned stays as it is. -/
structure FencedStep (start : Store) (sys : OutboxSystem) (l : OutboxLabel) (t : OutboxSystem) :
    Prop where
  result : ∀ id before after, sys.store.outbox.get? id = some before →
    t.store.outbox.get? id = some after → before.status = .inProgress →
    after.status = .succeeded ∨ after.status = .failed →
    ∃ i d claimed rest report, l = .work i d ∧ sys.workers i = .handling claimed rest report ∧
      claimed.outboxId = id ∧ claimed.claimToken = before.claimToken ∧
      ∀ j, ∀ other ∈ (sys.workers j).handled?, other.claimToken = before.claimToken → j = i
  attempts : ∀ r ∈ t.store.outbox.rows,
    r.attempts = start.attemptsOf r.outboxId + t.claims r.outboxId
  final : ∀ id before, sys.store.outbox.get? id = some before →
    before.status = .succeeded ∨ before.status = .abandoned →
    t.store.outbox.get? id = some before

/-- **Every step of every run of the workers is fenced.** -/
theorem outboxFenced_run {ls : List OutboxLabel} {l : OutboxLabel} {t : OutboxSystem}
    (hrun : Run (outboxStep p) (.quiet start) ls sys) (hstep : outboxStep p sys l t) :
    FencedStep start sys l t := by
  have hfenced : Fenced start sys := hrun.invariant (fun _ _ _ hs h => hs.step h) (fenced_quiet start)
  refine ⟨fun id before after hbefore hafter hprogress hdone => ?_, fun r hr => ?_,
    fun id before hbefore hdone => ?_⟩
  · rcases hfenced.row hstep hbefore with hsame | ⟨i, d, written, hl, hwritten, hrow⟩
    · rw [hafter] at hsame
      cases hsame
      rw [hprogress] at hdone
      rcases hdone with hdone | hdone <;> cases hdone
    rw [hafter] at hwritten
    cases hwritten
    cases hrow with
    | requeued running status =>
      rw [status] at hdone
      rcases hdone with hdone | hdone <;> cases hdone
    | claimed waiting status =>
      rw [status] at hdone
      rcases hdone with hdone | hdone <;> cases hdone
    | finished claimed rest report handling same token running =>
      refine ⟨i, d, claimed, rest, report, hl, handling, ?_, token, fun j other hother htoken => ?_⟩
      · exact same.trans (Table.key_of_get? hbefore)
      · exact hfenced.alone j i other hother claimed (by rw [handling]; rfl)
          (htoken.trans token.symm)
  · rw [← (hfenced.step hstep).versions.attempts r.outboxId]
    exact (attemptsOf_of_get? (Table.mem_rows_iff.1 hr)).symm
  · rcases hfenced.row hstep hbefore with hsame | ⟨i, d, written, -, -, hrow⟩
    · exact hsame
    · exfalso
      cases hrow with
      | requeued running => rw [running] at hdone; rcases hdone with hdone | hdone <;> cases hdone
      | claimed waiting =>
        rcases waiting with hw | hw <;> rw [hw] at hdone <;> rcases hdone with hdone | hdone <;>
          cases hdone
      | finished _ _ _ _ _ _ running =>
        rw [running] at hdone
        rcases hdone with hdone | hdone <;> cases hdone

end Steps

/-! ## A handler that outlives its claim -/

def claimTimes : List (String × Int) :=
  [("2026-01-01T00:00:00+00:00", 1767225600000000), ("2026-01-01T00:10:00+00:00", 1767226200000000),
    ("2026-01-01T00:20:00+00:00", 1767226800000000), ("2026-01-01T00:30:00+00:00", 1767227400000000),
    ("2026-01-01T00:31:00+00:00", 1767227460000000)]

def reportProcessor : OutboxProcessor where
  py := tablePython claimTimes
  handles := fun type => type = .report

def reportStore : Store :=
  { outbox := Table.empty.put {
      outboxId := "out_1"
      intentType := .report
      caseId := some "case_1"
      idempotencyKey := "report:case_1"
      nextAttemptAt := "2026-01-01T00:00:00+00:00"
      createdAt := "2026-01-01T00:00:00+00:00" } }

/-- Worker 0 claims the report at 00:00; worker 1 finds the claim expired at 00:20, claims the
report itself, and has its result at 00:30. -/
def lateHandler : List OutboxLabel :=
  .processPending 0 10 1767225600000000 :: List.replicate 3 (.work 0 ⟨1767225600000000, "a", .returned none⟩) ++
    .processPending 1 10 1767226800000000 :: List.replicate 4 (.work 1 ⟨1767226800000000, "b", .returned none⟩)

def lateSystem : OutboxSystem := lateHandler.foldl (OutboxSystem.after reportProcessor) (.quiet reportStore)

instance (w : OutboxWorker) : Decidable (w = .idle) :=
  match w with
  | .idle => isTrue rfl
  | .requeueing .. | .listing .. | .processing .. | .handling .. => isFalse (by simp)

/-- A call of `process_pending` or a turn, where it may be taken. -/
def OutboxLabel.Scheduled (sys : OutboxSystem) : OutboxLabel → Prop
  | .processPending i _ _ => sys.workers i = .idle
  | .work _ d => d.token ≠ "" ∧ ∀ intent ∈ sys.seen, intent.claimToken ≠ d.token
  | _ => False

instance OutboxLabel.decidableScheduled (sys : OutboxSystem) (l : OutboxLabel) : Decidable (l.Scheduled sys) := by
  unfold OutboxLabel.Scheduled
  cases l <;> infer_instance

theorem OutboxLabel.Scheduled.allowed {sys : OutboxSystem} {l : OutboxLabel} (h : l.Scheduled sys) :
    l.Allowed sys := by
  cases l with
  | processPending | work => exact h
  | _ => exact h.elim

theorem run_lateSystem :
    Run (outboxStep reportProcessor) (.quiet reportStore) lateHandler lateSystem :=
  (Run.of_valid (p := OutboxLabel.Scheduled) (by decide +kernel)).carry (I := fun _ => True)
    (fun _ _ _ _ h => ⟨trivial, h.1.allowed, h.2⟩) trivial

theorem fencedStep_lateSystem :
    FencedStep reportStore lateSystem (.work 1 ⟨1767227400000000, "c", .returned none⟩)
      (lateSystem.after reportProcessor (.work 1 ⟨1767227400000000, "c", .returned none⟩)) :=
  outboxFenced_run run_lateSystem ⟨OutboxLabel.Scheduled.allowed (by decide +kernel), rfl⟩

end NocAgent.Cases
