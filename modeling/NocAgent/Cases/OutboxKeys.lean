import NocAgent.Cases.Outbox
import NocAgent.Cases.Reachable
import NocAgent.Lib.UniqueIndex

/-!
# One intent for each idempotency key

* `Filed` — a table and the index of its ids: each key leads to the row that has it, and no id is
  empty; `Filed.enter`, `Filed.rewrite`, `Filed.lookup`.
* `outboxCallStep` — the store's methods that write the outbox, called by anybody in any order.
* `OneIntentPerKey` — no two intents share a key, and asking for a key again gives its intent.
* `oneIntentPerKey_run` — it holds in every store that is reached.
-/

set_option autoImplicit false

namespace NocAgent.Cases

open Effects Effects.Action Keyed Lts

/-! ## Tables with an index of their ids -/

section Filing

variable {α ρ : Type} {key : ρ → String} {keyOf : ρ → α}
  {t : Table key} {ix : Index α String}

/-- The index leads to the rows by their keys, and no row has the empty id. -/
structure Filed (keyOf : ρ → α) (t : Table key) (ix : Index α String) : Prop where
  mirrors : Mirrors (fun r => some (keyOf r)) t ix
  ids : ∀ r ∈ t.rows, key r ≠ ""

theorem filed_empty : Filed keyOf (.empty : Table key) .empty := by
  refine ⟨fun a k => ?_, fun r hr => nomatch hr⟩
  constructor
  · intro h
    cases h
  · rintro ⟨r, hr, -⟩
    cases hr

/-- The id that a key leads to is the id of a row. -/
theorem Filed.lookup (h : Filed keyOf t ix) {a : α} {id : String} :
    truthyId (ix a) = some id ↔ ∃ r, t.get? id = some r ∧ keyOf r = a := by
  unfold truthyId
  rw [Option.filter_eq_some_iff, h.mirrors a id]
  constructor
  · rintro ⟨⟨r, hr, ha⟩, -⟩
    exact ⟨r, hr, Option.some.inj ha⟩
  · rintro ⟨r, hr, rfl⟩
    refine ⟨⟨r, hr, rfl⟩, ?_⟩
    rw [← Table.key_of_get? hr]
    exact decide_eq_true (h.ids r (Table.mem_of_get? hr))

theorem Filed.lookup_row (h : Filed keyOf t ix) {r : ρ} (hr : r ∈ t.rows) :
    truthyId (ix (keyOf r)) = some (key r) :=
  h.lookup.2 ⟨r, Table.mem_rows_iff.1 hr, rfl⟩

/-- **A key belongs to one row.** -/
theorem Filed.unique (h : Filed keyOf t ix) {r y : ρ} (hr : r ∈ t.rows) (hy : y ∈ t.rows)
    (hkey : keyOf r = keyOf y) : r = y := by
  have hid := h.lookup_row hr
  rw [hkey, h.lookup_row hy] at hid
  exact List.inj_on_of_nodup_map t.nodup hr hy (Option.some.inj hid).symm

/-- An unknown key has no row. -/
theorem Filed.unknown (h : Filed keyOf t ix) {a : α} (hnone : truthyId (ix a) = none) :
    ix a = none := by
  cases hix : ix a with
  | none => rfl
  | some id =>
    obtain ⟨r, hr, ha⟩ := (h.mirrors a id).1 hix
    have hfound := h.lookup.2 ⟨r, hr, Option.some.inj ha⟩
    cases hnone.symm.trans hfound

/-- A row written over one that has its id and its key. -/
theorem Filed.rewrite (h : Filed keyOf t ix) {old r : ρ} (hold : t.get? (key r) = some old)
    (hkey : keyOf r = keyOf old) : Filed keyOf (t.put r) ix := by
  refine ⟨h.mirrors.put_same hold (by rw [hkey]), fun y hy => ?_⟩
  rcases Table.mem_put.1 hy with rfl | ⟨hy, -⟩
  · rw [← Table.key_of_get? hold]
    exact h.ids old (Table.mem_of_get? hold)
  · exact h.ids y hy

variable [DecidableEq α]

/-- A new row under an unknown key. -/
theorem Filed.enter (h : Filed keyOf t ix) {r : ρ} (hnone : truthyId (ix (keyOf r)) = none)
    (hnew : t.get? (key r) = none) (hid : key r ≠ "") :
    Filed keyOf (t.put r) (ix.set (keyOf r) (key r)) := by
  refine ⟨h.mirrors.put_new hnew rfl (h.unknown hnone), fun y hy => ?_⟩
  rcases Table.mem_put.1 hy with rfl | ⟨hy, -⟩
  · exact hid
  · exact h.ids y hy

/-- Its entry is written again as it is. -/
theorem Filed.set_known (h : Filed keyOf t ix) {old r : ρ} (hold : t.get? (key r) = some old)
    (hkey : keyOf r = keyOf old) : ix.set (keyOf r) (key r) = ix := by
  have hix : ix (keyOf r) = some (key r) := (h.mirrors _ _).2 ⟨old, hold, by rw [hkey]⟩
  funext a
  rw [Index.set_apply]
  split
  · rename_i ha
    rw [ha, hix]
  · rfl

end Filing

/-! ## The methods that write the outbox -/

/-- `update_outbox`. -/
def updateOutbox (intent : OutboxIntent) : StoreM OutboxIntent := do
  let current ← peek fun s => s.outbox.get? intent.outboxId
  let _ ← orRaise current .keyError
  alter fun s => { s with
    outbox := s.outbox.put intent
    outboxIndex := s.outboxIndex.set intent.idempotencyKey intent.outboxId }
  pure intent

/-- `get_outbox_by_key`. -/
def getOutboxByKey (idempotencyKey : String) : StoreM (Option OutboxIntent) := do
  let outboxId ← peek fun s => truthyId (s.outboxIndex idempotencyKey)
  match outboxId with
  | none => pure none
  | some outboxId =>
    let found ← peek fun s => s.outbox.get? outboxId
    let found ← orRaise found .keyError
    pure (some found)

/-- A call that may write the outbox, and what every other method leaves. -/
inductive OutboxCall where
  | enqueueOutbox (intent : OutboxIntent)
  | updateOutbox (intent : OutboxIntent)
  | updateOutboxIfStatus (intent : OutboxIntent) (expectedStatus : OutboxStatus)
      (expectedClaimToken : Option String)
  | completeAttention (py : Python) (intent : OutboxIntent) (delivery : AttentionDelivery)
      (expectedSequence : Nat) (expectedClaimToken leaseToken : String)
      (reportEvent : Option CaseEvent) (now : Int)
  | createHandoffWithObjectives (handoff : CaseHandoff) (objectives : List VerificationObjective)
      (caseStatus : Option CaseStatus) (event : Option CaseEvent)
      (outboxIntent : Option OutboxIntent)
  | elsewhere (t : Store)

def OutboxCall.run : OutboxCall → Store → Store
  | .enqueueOutbox intent, s => (Cases.enqueueOutbox intent s).2
  | .updateOutbox intent, s => (Cases.updateOutbox intent s).2
  | .updateOutboxIfStatus intent expectedStatus expectedClaimToken, s =>
    (Cases.updateOutboxIfStatus intent expectedStatus expectedClaimToken s).2
  | .completeAttention py intent delivery expectedSequence expectedClaimToken leaseToken
      reportEvent now, s =>
    (Cases.completeAttention py intent delivery expectedSequence expectedClaimToken leaseToken
      reportEvent now s).2
  | .createHandoffWithObjectives handoff objectives caseStatus event outboxIntent, s =>
    (Cases.createHandoffWithObjectives handoff objectives caseStatus event outboxIntent s).2
  | .elsewhere t, _ => t

/-- The store, with every version of an intent that was ever stored. -/
structure OutboxHistory where
  store : Store
  seen : List OutboxIntent

def OutboxHistory.empty : OutboxHistory := ⟨{}, []⟩

def OutboxHistory.after (sys : OutboxHistory) (call : OutboxCall) : OutboxHistory where
  store := call.run sys.store
  seen := (call.run sys.store).outbox.rows ++ sys.seen

/-- The intent is a copy of a version that was stored, with its id and its key. -/
def OutboxHistory.Copied (sys : OutboxHistory) (intent : OutboxIntent) : Prop :=
  ∃ version ∈ sys.seen, version.outboxId = intent.outboxId ∧
    version.idempotencyKey = intent.idempotencyKey

/-- The intent was stored before, or its id is new. -/
def OutboxHistory.Offered (sys : OutboxHistory) (intent : OutboxIntent) : Prop :=
  sys.Copied intent ∨ sys.store.outbox.get? intent.outboxId = none ∧ intent.outboxId ≠ ""

/-- Who writes an intent back has edited a copy of a version that it was given, and the ids of new
intents are new. -/
def OutboxCall.Allowed (sys : OutboxHistory) : OutboxCall → Prop
  | .enqueueOutbox intent => sys.Offered intent
  | .updateOutbox intent | .updateOutboxIfStatus intent _ _
  | .completeAttention _ intent _ _ _ _ _ _ => sys.Copied intent
  | .createHandoffWithObjectives _ _ _ _ outboxIntent =>
    ∀ intent ∈ outboxIntent, sys.Offered intent
  | .elsewhere t => t.outbox = sys.store.outbox ∧ t.outboxIndex = sys.store.outboxIndex

def outboxCallStep (sys : OutboxHistory) (call : OutboxCall) (t : OutboxHistory) : Prop :=
  call.Allowed sys ∧ t = sys.after call

/-! ## What the methods keep -/

abbrev FiledOutbox (s : Store) : Prop := Filed OutboxIntent.idempotencyKey s.outbox s.outboxIndex

/-- The outbox is filed, and every version that was ever stored has the key of the record that is
stored under its id. -/
structure KeysKept (s : Store) (seen : List OutboxIntent) : Prop where
  filed : FiledOutbox s
  rows : ∀ r ∈ s.outbox.rows, r ∈ seen
  versions : ∀ version ∈ seen, ∃ current, s.outbox.get? version.outboxId = some current ∧
    current.idempotencyKey = version.idempotencyKey

section Calls

variable {s t : Store} {seen : List OutboxIntent}

theorem KeysKept.congr (h : KeysKept s seen) (hrows : t.outbox = s.outbox)
    (hindex : t.outboxIndex = s.outboxIndex) : KeysKept t (t.outbox.rows ++ seen) := by
  obtain ⟨hfiled, hseen, hversions⟩ := h
  refine ⟨by unfold FiledOutbox; rwa [hrows, hindex], fun r hr => List.mem_append_left _ hr, ?_⟩
  intro version hversion
  rw [hrows] at hversion ⊢
  rcases List.mem_append.1 hversion with h | h
  · exact ⟨version, Table.mem_rows_iff.1 h, rfl⟩
  · exact hversions version h

/-- A record is written under its id, where its key is the one it had or is new. -/
theorem KeysKept.put (h : KeysKept s seen) {r : OutboxIntent} (hrows : t.outbox = s.outbox.put r)
    (hfiled : FiledOutbox t)
    (hkey : ∀ current, s.outbox.get? r.outboxId = some current →
      current.idempotencyKey = r.idempotencyKey) : KeysKept t (t.outbox.rows ++ seen) := by
  refine ⟨hfiled, fun y hy => List.mem_append_left _ hy, fun version hversion => ?_⟩
  have hstored : ∃ current, s.outbox.get? version.outboxId = some current ∧
      current.idempotencyKey = version.idempotencyKey ∨ version = r := by
    rcases List.mem_append.1 hversion with hin | hin
    · rw [hrows] at hin
      rcases Table.mem_put.1 hin with rfl | ⟨hin, -⟩
      · exact ⟨version, Or.inr rfl⟩
      · exact ⟨version, Or.inl ⟨Table.mem_rows_iff.1 hin, rfl⟩⟩
    · obtain ⟨current, hcurrent, hsame⟩ := h.versions version hin
      exact ⟨current, Or.inl ⟨hcurrent, hsame⟩⟩
  obtain ⟨current, ⟨hcurrent, hsame⟩ | rfl⟩ := hstored
  · rw [hrows, Table.get?_put]
    split
    · rename_i hid
      refine ⟨r, rfl, ?_⟩
      rw [← hsame]
      exact (hkey current (hid ▸ hcurrent)).symm
    · exact ⟨current, hcurrent, hsame⟩
  · exact ⟨version, by rw [hrows, Table.get?_put_self], rfl⟩

/-- A copy of a version is written back. -/
theorem KeysKept.rewrite (h : KeysKept s seen) {r : OutboxIntent}
    (hcopied : ∃ version ∈ seen, version.outboxId = r.outboxId ∧
      version.idempotencyKey = r.idempotencyKey) (hrows : t.outbox = s.outbox.put r)
    (hindex : t.outboxIndex = s.outboxIndex ∨
      t.outboxIndex = s.outboxIndex.set r.idempotencyKey r.outboxId) :
    KeysKept t (t.outbox.rows ++ seen) := by
  obtain ⟨version, hversion, hid, hkey⟩ := hcopied
  obtain ⟨current, hcurrent, hsame⟩ := h.versions version hversion
  rw [hid] at hcurrent
  have hkeys : r.idempotencyKey = current.idempotencyKey := hkey.symm.trans hsame.symm
  refine h.put hrows ?_ fun other hother => ?_
  · have hindex' : t.outboxIndex = s.outboxIndex := by
      rcases hindex with hix | hix
      · exact hix
      · exact hix.trans (h.filed.set_known hcurrent hkeys)
    unfold FiledOutbox
    rw [hrows, hindex']
    exact h.filed.rewrite hcurrent hkeys
  · cases hcurrent.symm.trans hother
    exact hkeys.symm

/-- What `_enqueue_outbox_locked` does: a known key changes nothing, and a new one is entered. -/
theorem enqueueOutbox_filed (h : FiledOutbox s) (intent : OutboxIntent) :
    (∃ r ∈ s.outbox.rows, r.idempotencyKey = intent.idempotencyKey ∧
      enqueueOutbox intent s = (.ok r, s)) ∨
    truthyId (s.outboxIndex intent.idempotencyKey) = none ∧
      enqueueOutbox intent s = (.ok intent, { s with
        outbox := s.outbox.put intent
        outboxIndex := s.outboxIndex.set intent.idempotencyKey intent.outboxId }) := by
  cases hknown : truthyId (s.outboxIndex intent.idempotencyKey) with
  | some id =>
    obtain ⟨r, hr, hkey⟩ := h.lookup.1 hknown
    refine Or.inl ⟨r, Table.mem_of_get? hr, hkey, ?_⟩
    unfold enqueueOutbox
    simp only [peek_bind_run, hknown, hr]
    rfl
  | none =>
    refine Or.inr ⟨rfl, ?_⟩
    unfold enqueueOutbox
    simp only [peek_bind_run, hknown]
    rfl

theorem KeysKept.enqueueOutbox (h : KeysKept s seen) {intent : OutboxIntent}
    (hoffered : (∃ version ∈ seen, version.outboxId = intent.outboxId ∧
        version.idempotencyKey = intent.idempotencyKey) ∨
      s.outbox.get? intent.outboxId = none ∧ intent.outboxId ≠ "") :
    KeysKept (Cases.enqueueOutbox intent s).2
      ((Cases.enqueueOutbox intent s).2.outbox.rows ++ seen) := by
  rcases enqueueOutbox_filed h.filed intent with ⟨r, -, -, hrun⟩ | ⟨hunknown, hrun⟩
  · rw [hrun]
    exact h.congr rfl rfl
  · rcases hoffered with ⟨version, hversion, -, hkey⟩ | ⟨hnew, hid⟩
    · -- a version that was stored has its key in the index
      obtain ⟨current, hcurrent, hsame⟩ := h.versions version hversion
      have hlisted := h.filed.lookup_row (Table.mem_of_get? hcurrent)
      rw [hsame, hkey, hunknown] at hlisted
      cases hlisted
    · rw [hrun]
      refine h.put rfl (h.filed.enter hunknown hnew hid) fun current hcurrent => ?_
      cases hnew.symm.trans hcurrent

theorem KeysKept.updateOutboxIfStatus (h : KeysKept s seen) {intent : OutboxIntent}
    (hcopied : ∃ version ∈ seen, version.outboxId = intent.outboxId ∧
      version.idempotencyKey = intent.idempotencyKey) (expectedStatus : OutboxStatus)
    (expectedClaimToken : Option String) :
    KeysKept (Cases.updateOutboxIfStatus intent expectedStatus expectedClaimToken s).2
      ((Cases.updateOutboxIfStatus intent expectedStatus expectedClaimToken s).2.outbox.rows ++
        seen) := by
  rcases updateOutboxIfStatus_run intent expectedStatus expectedClaimToken s with
    hrun | ⟨current, -, -, hrun⟩
  · rw [hrun]
    exact h.congr rfl rfl
  · rw [hrun]
    exact h.rewrite hcopied rfl (Or.inr rfl)

theorem KeysKept.updateOutbox (h : KeysKept s seen) {intent : OutboxIntent}
    (hcopied : ∃ version ∈ seen, version.outboxId = intent.outboxId ∧
      version.idempotencyKey = intent.idempotencyKey) :
    KeysKept (Cases.updateOutbox intent s).2
      ((Cases.updateOutbox intent s).2.outbox.rows ++ seen) := by
  unfold Cases.updateOutbox
  simp only [peek_bind_run, orRaise_bind_run]
  cases s.outbox.get? intent.outboxId with
  | none => exact h.congr rfl rfl
  | some current => exact h.rewrite hcopied rfl (Or.inr rfl)

theorem KeysKept.completeAttention (h : KeysKept s seen) {intent : OutboxIntent}
    (hcopied : ∃ version ∈ seen, version.outboxId = intent.outboxId ∧
      version.idempotencyKey = intent.idempotencyKey) (py : Python) (delivery : AttentionDelivery)
    (expectedSequence : Nat) (expectedClaimToken leaseToken : String)
    (reportEvent : Option CaseEvent) (now : Int) :
    let t := (Cases.completeAttention py intent delivery expectedSequence expectedClaimToken
      leaseToken reportEvent now s).2
    KeysKept t (t.outbox.rows ++ seen) := by
  dsimp only
  rcases completeAttention_run py intent delivery expectedSequence expectedClaimToken leaseToken
    reportEvent now s with ⟨r, hrun, -⟩ | ⟨-, -, -, -, cases, ev, ix, -, hrun⟩
  · rw [hrun]
    exact h.congr rfl rfl
  · rw [hrun]
    exact h.rewrite hcopied rfl (Or.inl rfl)

/-- The part of the store that the outbox methods write. -/
def Store.outboxPart (s : Store) : Table OutboxIntent.outboxId × Index String String :=
  (s.outbox, s.outboxIndex)

/-- Creating a handoff leaves the outbox alone, or enqueues its intent in the end. -/
theorem createHandoff_outbox (handoff : CaseHandoff) (objectives : List VerificationObjective)
    (caseStatus : Option CaseStatus) (event : Option CaseEvent)
    (outboxIntent : Option OutboxIntent) (s : Store) :
    let t := (createHandoffWithObjectives handoff objectives caseStatus event outboxIntent s).2
    t.outboxPart = s.outboxPart ∨ ∃ intent ∈ outboxIntent, ∃ u, u.outboxPart = s.outboxPart ∧
      t.outboxPart = (enqueueOutbox intent u).2.outboxPart := by
  dsimp only
  unfold createHandoffWithObjectives
  simp only [raiseIf_bind_run, requireAtomicCase_bind_run]
  split
  · exact Or.inl rfl
  split
  · rename_i case hcase
    rcases existingHandoff_cases handoff s with ⟨r, hr, hne⟩ | ⟨hnone, -⟩
    · rcases r with e | _ | existing
      · rw [bind_error hr]
        exact Or.inl rfl
      · exact absurd rfl hne
      · rw [bind_ok hr]
        exact Or.inl rfl
    · rw [bind_ok hnone]
      simp only [alter_bind_run]
      generalize hstart : Store.indexIfActive _ handoff = start
      have hpart : start.outboxPart = s.outboxPart := by
        rw [← hstart]
        unfold Store.indexIfActive
        split <;> rfl
      have hobjectives := Fixes.forEach (storeObjective_fixes (f := Store.outboxPart)
        (fun _ _ _ => rfl) handoff) objectives start
      rcases hrun : forEach (storeObjective handoff) objectives start with ⟨e | stored, u⟩
      · rw [hrun] at hobjectives
        rw [bind_error hrun]
        exact Or.inl (hobjectives.trans hpart)
      · rw [hrun] at hobjectives
        rw [bind_ok hrun]
        simp only [putCase, alter_bind_run]
        generalize hput : ({ u with cases := _ } : Store) = v
        have hv : v.outboxPart = s.outboxPart := by
          rw [← hput]
          exact hobjectives.trans hpart
        obtain ⟨found, ev, ix, hevent⟩ := storeEvent?_run event v
        rw [bind_ok hevent]
        cases outboxIntent with
        | none => exact Or.inl hv
        | some intent =>
          right
          refine ⟨intent, rfl, { v with
            events := ev
            caseEvents := ix }, hv, congrArg Store.outboxPart ?_⟩
          exact (bind_pure_state _ _ _).trans (bind_pure_state (enqueueOutbox intent) _ _)
  · exact Or.inl rfl

theorem KeysKept.createHandoffWithObjectives (h : KeysKept s seen) (handoff : CaseHandoff)
    (objectives : List VerificationObjective) (caseStatus : Option CaseStatus)
    (event : Option CaseEvent) {outboxIntent : Option OutboxIntent}
    (hoffered : ∀ intent ∈ outboxIntent, (∃ version ∈ seen, version.outboxId = intent.outboxId ∧
        version.idempotencyKey = intent.idempotencyKey) ∨
      s.outbox.get? intent.outboxId = none ∧ intent.outboxId ≠ "") :
    let t := (Cases.createHandoffWithObjectives handoff objectives caseStatus event outboxIntent s).2
    KeysKept t (t.outbox.rows ++ seen) := by
  dsimp only
  rcases createHandoff_outbox handoff objectives caseStatus event outboxIntent s with
    hsame | ⟨intent, hintent, u, hu, hsame⟩
  · exact h.congr (congrArg Prod.fst hsame) (congrArg Prod.snd hsame)
  · have hstart : KeysKept u seen := by
      obtain ⟨hfiled, hrows, hversions⟩ := h
      have hrow : u.outbox = s.outbox := congrArg Prod.fst hu
      have hix : u.outboxIndex = s.outboxIndex := congrArg Prod.snd hu
      exact ⟨by unfold FiledOutbox; rwa [hrow, hix], by rwa [hrow], by rwa [hrow]⟩
    have hgiven := hoffered intent hintent
    rw [show s.outbox = u.outbox from (congrArg Prod.fst hu).symm] at hgiven
    obtain ⟨hfiled, hrows, hversions⟩ := hstart.enqueueOutbox hgiven
    have hrow := congrArg Prod.fst hsame
    have hix := congrArg Prod.snd hsame
    simp only [Store.outboxPart] at hrow hix
    refine ⟨?_, ?_, ?_⟩
    · unfold FiledOutbox
      rwa [hrow, hix]
    · exact fun r hr => List.mem_append_left _ hr
    · rwa [hrow]

end Calls

/-! ## Runs -/

section Runs

variable {sys t : OutboxHistory}

theorem keysKept_step {call : OutboxCall} (h : KeysKept sys.store sys.seen)
    (hstep : outboxCallStep sys call t) : KeysKept t.store t.seen := by
  obtain ⟨hallowed, rfl⟩ := hstep
  cases call with
  | enqueueOutbox intent => exact h.enqueueOutbox hallowed
  | updateOutbox intent => exact h.updateOutbox hallowed
  | updateOutboxIfStatus intent expectedStatus expectedClaimToken =>
    exact h.updateOutboxIfStatus hallowed expectedStatus expectedClaimToken
  | completeAttention py intent delivery expectedSequence expectedClaimToken leaseToken reportEvent
      now =>
    exact h.completeAttention hallowed py delivery expectedSequence expectedClaimToken leaseToken
      reportEvent now
  | createHandoffWithObjectives handoff objectives caseStatus event outboxIntent =>
    exact h.createHandoffWithObjectives handoff objectives caseStatus event hallowed
  | elsewhere u => exact h.congr hallowed.1 hallowed.2

theorem keysKept_empty : KeysKept OutboxHistory.empty.store OutboxHistory.empty.seen := by
  refine ⟨filed_empty, ?_, ?_⟩
  · intro r hr
    cases hr
  · intro version hversion
    cases hversion

/-- Every key has one intent, and whoever asks for the key is given it. -/
structure OneIntentPerKey (sys : OutboxHistory) : Prop where
  /-- two stored intents have different keys -/
  unique : ∀ r ∈ sys.store.outbox.rows, ∀ y ∈ sys.store.outbox.rows,
    r.idempotencyKey = y.idempotencyKey → r = y
  /-- a key that was ever used still has its intent, under the id it had -/
  kept : ∀ version ∈ sys.seen, ∃ current ∈ sys.store.outbox.rows,
    current.outboxId = version.outboxId ∧ current.idempotencyKey = version.idempotencyKey
  /-- looking a key up finds its intent, and never raises -/
  found : ∀ idempotencyKey, ∃ answer,
    getOutboxByKey idempotencyKey sys.store = (.ok answer, sys.store) ∧
      ∀ r, answer = some r ↔ r ∈ sys.store.outbox.rows ∧ r.idempotencyKey = idempotencyKey
  /-- enqueueing a key that is in use returns its intent and changes nothing -/
  deduplicated : ∀ r ∈ sys.store.outbox.rows, ∀ intent : OutboxIntent,
    intent.idempotencyKey = r.idempotencyKey →
      enqueueOutbox intent sys.store = (.ok r, sys.store)

theorem getOutboxByKey_filed {s : Store} (h : FiledOutbox s) (idempotencyKey : String) :
    ∃ answer, getOutboxByKey idempotencyKey s = (.ok answer, s) ∧
      ∀ r, answer = some r ↔ r ∈ s.outbox.rows ∧ r.idempotencyKey = idempotencyKey := by
  unfold getOutboxByKey
  cases hid : truthyId (s.outboxIndex idempotencyKey) with
  | none =>
    refine ⟨none, ?_, fun r => ?_⟩
    · simp only [peek_bind_run, hid]
      rfl
    · refine iff_of_false (by simp) ?_
      rintro ⟨hr, rfl⟩
      rw [h.lookup_row hr] at hid
      cases hid
  | some id =>
    obtain ⟨found, hfound, hkey⟩ := h.lookup.1 hid
    refine ⟨some found, ?_, fun r => ?_⟩
    · simp only [peek_bind_run, hid, hfound, orRaise_bind_run]
      rfl
    · rw [Option.some_inj]
      constructor
      · rintro rfl
        exact ⟨Table.mem_of_get? hfound, hkey⟩
      · rintro ⟨hr, hr'⟩
        exact h.unique (Table.mem_of_get? hfound) hr (hkey.trans hr'.symm)

/-- Asking the outbox for a key. -/
theorem FiledOutbox.deduplicates {s : Store} (h : FiledOutbox s) {r intent : OutboxIntent}
    (hr : r ∈ s.outbox.rows) (hkey : intent.idempotencyKey = r.idempotencyKey) :
    enqueueOutbox intent s = (.ok r, s) := by
  rcases enqueueOutbox_filed h intent with ⟨y, hy, hyr, hrun⟩ | ⟨hunknown, -⟩
  · rw [hrun, h.unique hy hr (hyr.trans hkey)]
  · rw [hkey, h.lookup_row hr] at hunknown
    cases hunknown

/-- **However the outbox is used, one intent belongs to each key.** -/
theorem oneIntentPerKey_run {calls : List OutboxCall}
    (h : Run outboxCallStep .empty calls sys) : OneIntentPerKey sys := by
  have hkept := h.invariant (I := fun sys => KeysKept sys.store sys.seen)
    (fun _ _ _ hs hstep => keysKept_step hs hstep) keysKept_empty
  refine ⟨?_, ?_, getOutboxByKey_filed hkept.filed, ?_⟩
  · exact fun r hr y hy hkey => hkept.filed.unique hr hy hkey
  · intro version hversion
    obtain ⟨current, hcurrent, hkey⟩ := hkept.versions version hversion
    exact ⟨current, Table.mem_of_get? hcurrent, Table.key_of_get? hcurrent, hkey⟩
  · exact fun r hr intent hkey => hkept.filed.deduplicates hr hkey

end Runs

/-! ## Who writes intents back -/

/-- **The edits that the callers make**: a worker's claim and its results, a requeued claim, a report
that waits again and an abandoned delivery keep the id and the key. -/
theorem edits_copied {sys : OutboxHistory} {intent : OutboxIntent} (hseen : intent ∈ sys.seen)
    (p : OutboxProcessor) (now : Int) (text : String) (result : Option OutboxHandlerResult) :
    sys.Copied (claim p now text intent) ∧ sys.Copied (errored p now text intent) ∧
      sys.Copied (completed p now result intent) ∧ sys.Copied (retryClaim p now intent) := by
  refine ⟨⟨intent, hseen, rfl, rfl⟩, ⟨intent, hseen, rfl, rfl⟩, ⟨intent, hseen, ?_⟩,
    ⟨intent, hseen, rfl, rfl⟩⟩
  cases result <;> exact ⟨rfl, rfl⟩

/-! ## A report that is asked for twice -/

def weeklyReport (outboxId : String) : OutboxIntent where
  outboxId := outboxId
  intentType := .report
  caseId := some "case_1"
  idempotencyKey := "report:case_1:abc"
  nextAttemptAt := ""
  createdAt := ""

/-- It is enqueued, claimed, and enqueued again. -/
def weeklyCalls : List OutboxCall :=
  [.enqueueOutbox (weeklyReport "out_1"),
    .updateOutboxIfStatus { weeklyReport "out_1" with status := .inProgress } .pending none,
    .enqueueOutbox (weeklyReport "out_2")]

def weeklyHistory : OutboxHistory := weeklyCalls.foldl OutboxHistory.after .empty

theorem oneIntentPerKey_weekly :
    weeklyHistory.store.outbox.rows.map OutboxIntent.status = [.inProgress] ∧
      OneIntentPerKey weeklyHistory := by
  have hrun : Run outboxCallStep .empty weeklyCalls weeklyHistory := by
    refine Run.cons ⟨Or.inr ⟨rfl, by decide⟩, rfl⟩ (Run.cons ⟨?_, rfl⟩ (Run.single ⟨?_, rfl⟩))
    · exact ⟨weeklyReport "out_1", List.mem_append_left _ List.mem_cons_self, rfl, rfl⟩
    · exact Or.inr ⟨by decide, by decide⟩
  exact ⟨by decide, oneIntentPerKey_run hrun⟩

end NocAgent.Cases
