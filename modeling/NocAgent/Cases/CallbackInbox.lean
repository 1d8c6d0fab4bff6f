import NocAgent.Cases.Cancellation
import NocAgent.Cases.OutboxKeys

/-!
# Callbacks of the Engineering loop

An update is delivered at least once.  The route records it with one call of the store and answers
with another, and it may stop between the two.

* `claimCallbackEvent` — the first answer to an event is kept, and given to everybody.
* `CallbackCall.next` — a call of the route, cut between its two calls of the store.
* `callbackStep` — any number of calls beside everything else that the store does.
* `recordUpdate_cases` — an event that was recorded is repeated, a new one is recorded or refused.
* `callbacksSafe_run` — an event is applied at most once, its answers are equal and name its update,
  and once it is recorded no retry is refused.
-/

set_option autoImplicit false

namespace NocAgent.Cases

open Effects Effects.Action Keyed Lts

/-! ## The inbox -/

/-- Deduplication record for external loop callbacks. -/
structure CallbackInboxRecord where
  callbackId : String
  sourceLoop : LoopName
  externalEventId : String
  payloadHash : String
  handoffId : String := ""
  caseId : String := ""
  resultPayload : JsonDict := []
  receivedAt : String

abbrev EventKey := LoopName × String

def CallbackInboxRecord.event (callback : CallbackInboxRecord) : EventKey :=
  (callback.sourceLoop, callback.externalEventId)

def HandoffUpdate.event (update : HandoffUpdate) : EventKey :=
  (update.sourceLoop, update.externalEventId)

/-- `_callback_inbox` and `_callback_index`. -/
structure CallbackInbox where
  records : Table CallbackInboxRecord.callbackId := .empty
  index : Index EventKey String := .empty

/-- The record of an event, and whether this call made it. -/
structure CallbackClaimResult where
  callback : CallbackInboxRecord
  created : Bool

def claimCallbackEvent (callback : CallbackInboxRecord) :
    Action CallbackInbox PyExc CallbackClaimResult := do
  let existingId ← peek fun s => truthyId (s.index callback.event)
  match existingId with
  | some existingId =>
    let existing ← peek fun s => s.records.get? existingId
    let existing ← orRaise existing .keyError
    pure ⟨existing, false⟩
  | none =>
    alter fun s =>
      { records := s.records.put callback
        index := s.index.set callback.event callback.callbackId }
    pure ⟨callback, true⟩

/-! ## The route -/

/-- What a call draws. -/
structure CallbackDraws where
  event : Draw
  callbackId : String
  receivedAt : String

section Route

variable (py : Python) (policy : CasePolicy)

/-- The answer, as the record keeps it. -/
def callbackAnswer (updateId : String) (handoffStatus : HandoffStatus) (caseStatus : CaseStatus)
    (created : Bool) : JsonDict :=
  sanitizePayloadDict py [("status", .str "accepted"), ("update_id", .str updateId),
    ("handoff_status", .str handoffStatus.text), ("case_status", .str caseStatus.text),
    ("created", .bool created)]

/-- The `CallbackInboxRecord` of an accepted update; `none` is `ValidationError`. -/
def callbackRecord (body : Json) (update : HandoffUpdate) (result : HandoffUpdateResult)
    (draws : CallbackDraws) : Option CallbackInboxRecord := do
  let externalEventId ← requireLhpToken py update.externalEventId 180
  let payloadHash ← requireLhpToken py (lhpPayloadHash py body) 180
  some {
    callbackId := sanitizeLhpToken py draws.callbackId 180
    sourceLoop := .engineering
    externalEventId := externalEventId
    payloadHash := payloadHash
    handoffId := sanitizeLhpToken py update.handoffId 180
    caseId := sanitizeLhpToken py update.caseId 180
    resultPayload := callbackAnswer py result.update.updateId result.handoff.status
      result.case.status result.created
    receivedAt := draws.receivedAt }

/-- Where a call of `engineering_lhp_handoff_update` stands between two accesses to the store. -/
inductive CallbackCall where
  | idle
  /-- the request has passed its checks; before `append_handoff_update` -/
  | recording (body : Json) (update : HandoffUpdate)
  /-- before `claim_callback_event` -/
  | claiming (callback : CallbackInboxRecord)
  | answered (event : EventKey) (answer : JsonDict)

/-- `record_lhp_handoff_update`, with the arguments that the route gives. -/
def recordUpdate (update : HandoffUpdate) (draws : CallbackDraws) : StoreM HandoffUpdateResult :=
  recordLhpHandoffUpdate policy update none none { updateType := update.updateType.text }
    draws.event

end Route

/-! ## Any number of calls -/

/-- The store, the inbox, and any number of callbacks under way. -/
structure CallbackSystem where
  store : Store
  inbox : CallbackInbox
  calls : Nat → CallbackCall
  /-- the updates that were applied by a call of the route -/
  applied : List HandoffUpdate

def CallbackSystem.empty : CallbackSystem where
  store := {}
  inbox := {}
  calls _ := .idle
  applied := []

inductive CallbackLabel where
  /-- another call of the store -/
  | store (op : LedgerOp)
  /-- a request that passes the checks of the route -/
  | post (i : Nat) (body : Json) (update : HandoffUpdate)
  | turn (i : Nat) (draws : CallbackDraws)
  /-- the call is cancelled, or its process ends -/
  | drop (i : Nat)

section System

variable (py : Python) (policy : CasePolicy)

def CallbackSystem.atCall (sys : CallbackSystem) (i : Nat) (c : CallbackCall) : CallbackSystem :=
  { sys with calls := Function.update sys.calls i c }

/-- An accepted update is claimed, if its record can be built. -/
def CallbackCall.ofRecord : Option CallbackInboxRecord → CallbackCall
  | none => .idle
  | some callback => .claiming callback

/-- Between the two accesses: the answer is made from the result. -/
def CallbackSystem.recorded (sys : CallbackSystem) (i : Nat) (body : Json) (update : HandoffUpdate)
    (draws : CallbackDraws) : CallbackSystem :=
  match recordUpdate policy update draws sys.store with
  | (.error _, t) => { sys.atCall i .idle with store := t }
  | (.ok result, t) =>
    { sys.atCall i (.ofRecord (callbackRecord py body update result draws)) with
      store := t
      applied := if result.created then sys.applied ++ [result.update] else sys.applied }

def CallbackSystem.claimed (sys : CallbackSystem) (i : Nat) (callback : CallbackInboxRecord) :
    CallbackSystem :=
  match claimCallbackEvent callback sys.inbox with
  | (.error _, inbox) => { sys.atCall i .idle with inbox := inbox }
  | (.ok result, inbox) =>
    { sys.atCall i (.answered callback.event result.callback.resultPayload) with inbox := inbox }

def CallbackSystem.after (sys : CallbackSystem) : CallbackLabel → CallbackSystem
  | .store op => { sys with store := op.run sys.store }
  | .post i body update => sys.atCall i (.recording body update)
  | .turn i draws =>
    match sys.calls i with
    | .idle | .answered _ _ => sys
    | .recording body update => sys.recorded py policy i body update draws
    | .claiming callback => sys.claimed i callback
  | .drop i => sys.atCall i .idle

/-- The event was recorded before, or the id of the update is new. -/
def Store.MayRecord (s : Store) (update : HandoffUpdate) : Prop :=
  (∃ recorded ∈ s.handoffUpdates.rows, recorded.event = update.event) ∨
    s.handoffUpdates.get? update.updateId = none ∧ update.updateId ≠ ""

instance (s : Store) (update : HandoffUpdate) : Decidable (s.MayRecord update) := by
  unfold Store.MayRecord
  infer_instance

def HandoffOp.MayRecord (s : Store) : HandoffOp → Prop
  | .appendHandoffUpdate update .. => s.MayRecord update
  | _ => True

def CallbackCall.MayTurn (s : Store) (inbox : CallbackInbox) : CallbackCall → Prop
  | .idle | .answered _ _ => True
  | .recording _ update => s.MayRecord update
  | .claiming callback =>
    inbox.records.get? callback.callbackId = none ∧ callback.callbackId ≠ ""

instance (s : Store) (inbox : CallbackInbox) :
    (call : CallbackCall) → Decidable (call.MayTurn s inbox)
  | .idle | .answered _ _ => .isTrue trivial
  | .recording _ update => inferInstanceAs (Decidable (s.MayRecord update))
  | .claiming callback => inferInstanceAs (Decidable (_ = none ∧ callback.callbackId ≠ ""))

/-- Ids that are drawn are new, and the event id of a validated update is a token. -/
def CallbackLabel.Allowed (sys : CallbackSystem) : CallbackLabel → Prop
  | .store op => op.Allowed py sys.store ∧
    ∀ call, op = .store (.handoff call) → call.MayRecord sys.store
  | .post i _ update => sys.calls i = .idle ∧ update.sourceLoop = .engineering ∧
    requireLhpToken py update.externalEventId 180 = some update.externalEventId
  | .turn i _ => (sys.calls i).MayTurn sys.store sys.inbox
  | .drop _ => True

instance (sys : CallbackSystem) (i : Nat) (draws : CallbackDraws) :
    Decidable (CallbackLabel.Allowed py sys (.turn i draws)) :=
  inferInstanceAs (Decidable ((sys.calls i).MayTurn sys.store sys.inbox))

def callbackStep (sys : CallbackSystem) (l : CallbackLabel) (t : CallbackSystem) : Prop :=
  l.Allowed py sys ∧ t = sys.after py policy l

end System

/-! ## Recorded updates -/

section Updates

variable {py : Python} {policy : CasePolicy} {s t : Store}

/-- The updates are filed by their events. -/
abbrev FiledUpdates (s : Store) : Prop :=
  Filed HandoffUpdate.event s.handoffUpdates s.handoffUpdateExternalIndex

/-- Every update that was recorded still is. -/
def KeepsUpdates (s t : Store) : Prop := ∀ u ∈ s.handoffUpdates.rows, u ∈ t.handoffUpdates.rows

theorem KeepsUpdates.refl (s : Store) : KeepsUpdates s s := fun _ hu => hu

theorem FiledUpdates.congr (h : FiledUpdates s) (ht : t.updates = s.updates) :
    FiledUpdates t ∧ KeepsUpdates s t := by
  simp only [Store.updates, Prod.mk.injEq] at ht
  obtain ⟨hrows, hix⟩ := ht
  constructor
  · unfold FiledUpdates
    rwa [hrows, hix]
  · intro u hu
    rwa [hrows]

/-- A new event is entered beside the others. -/
theorem FiledUpdates.enter (h : FiledUpdates s) {update : HandoffUpdate}
    (hunseen : truthyId (s.handoffUpdateExternalIndex update.event) = none)
    (hmay : s.MayRecord update)
    (ht : t.updates = (s.handoffUpdates.put update,
      s.handoffUpdateExternalIndex.set update.event update.updateId)) :
    FiledUpdates t ∧ KeepsUpdates s t ∧ update ∈ t.handoffUpdates.rows := by
  simp only [Store.updates, Prod.mk.injEq] at ht
  obtain ⟨hrows, hix⟩ := ht
  rcases hmay with ⟨recorded, hrecorded, hevent⟩ | ⟨hnew, hid⟩
  · rw [← hevent, h.lookup_row hrecorded] at hunseen
    cases hunseen
  · refine ⟨?_, fun u hu => ?_, ?_⟩
    · unfold FiledUpdates
      rw [hrows, hix]
      exact Filed.enter h hunseen hnew hid
    · rw [hrows, Table.mem_put]
      refine Or.inr ⟨hu, fun hkey => ?_⟩
      rw [← hkey, Table.mem_rows_iff.1 hu] at hnew
      cases hnew
    · rw [hrows, Table.mem_put]
      exact Or.inl rfl

theorem filedUpdates_call {op : HandoffOp} (hop : op.MayRecord s) (h : FiledUpdates s) :
    FiledUpdates (op.run s) ∧ KeepsUpdates s (op.run s) := by
  rcases op.run_updates s with hsame | ⟨update, target, handoff, happlied, hrun⟩
  · exact h.congr hsame
  · cases op with
    | appendHandoffUpdate given handoffStatus caseStatus caseHandoffStatus event =>
      by_cases hgiven : ∃ handoff, Applied s given (handoffStatus.getD given.status) handoff
      · obtain ⟨found, hfound⟩ := hgiven
        have hwritten := appendHandoffUpdate_updates hfound caseStatus caseHandoffStatus event
        obtain ⟨hfiled, hkeeps, -⟩ := h.enter hfound.unseen hop hwritten
        exact ⟨hfiled, hkeeps⟩
      · refine h.congr (congrArg Store.updates ?_)
        exact appendHandoffUpdate_refused (not_exists.1 hgiven) caseStatus caseHandoffStatus event
    | upsertCase case => exact h.congr rfl
    | createHandoffWithObjectives handoff objectives caseStatus event outboxIntent =>
      exact h.congr (createHandoff_updates handoff objectives caseStatus event outboxIntent s)
    | markHandoffVerified handoffId now event =>
      exact h.congr (markHandoffVerified_updates handoffId now event s)
    | resolveCaseWithOutcome caseId handoffId outcome now event =>
      exact h.congr (resolveCaseWithOutcome_updates caseId handoffId outcome now event s)

/-- **Whatever else the store does, recorded updates stay and stay filed.** -/
theorem filedUpdates_ledger {op : LedgerOp} (hallowed : op.Allowed py s)
    (hop : ∀ call, op = .store (.handoff call) → call.MayRecord s) (h : FiledUpdates s) :
    FiledUpdates (op.run s) ∧ KeepsUpdates s (op.run s) := by
  cases op with
  | store op =>
    -- the verifier's calls record no update, so the rule for single calls covers its runs
    refine StoreOp.keeps (I := fun t => FiledUpdates t ∧ KeepsUpdates s t)
      (C := fun t call => call.MayRecord t) (fun u v hview hu => ?_) (fun u call hcall hu => ?_)
      (fun _ _ _ _ => trivial) (fun _ _ _ _ _ _ => trivial) s op (fun call hcall => ?_)
      ⟨h, KeepsUpdates.refl s⟩
    · obtain ⟨hfiled, hkeeps⟩ := hu.1.congr (congrArg Prod.snd hview)
      exact ⟨hfiled, fun w hw => hkeeps w (hu.2 w hw)⟩
    · obtain ⟨hfiled, hkeeps⟩ := filedUpdates_call hcall hu.1
      exact ⟨hfiled, fun w hw => hkeeps w (hu.2 w hw)⟩
    · exact hop call (by rw [hcall])
  | elsewhere u => exact h.congr (congrArg Prod.snd hallowed.ledger)

/-- **An event that was recorded is repeated; a new one is recorded, or refused.** -/
theorem recordUpdate_cases (policy : CasePolicy) (hs : HandoffLedger py s) (h : FiledUpdates s)
    (update : HandoffUpdate) (hmay : s.MayRecord update) (draws : CallbackDraws) :
    (∃ u ∈ s.handoffUpdates.rows, u.event = update.event ∧ ∃ result,
      recordUpdate policy update draws s = (.ok result, s) ∧ result.update = u ∧
        result.created = false) ∨
    truthyId (s.handoffUpdateExternalIndex update.event) = none ∧ ((∃ result t,
      recordUpdate policy update draws s = (.ok result, t) ∧ result.update = update ∧
        result.created = true ∧ FiledUpdates t ∧ KeepsUpdates s t ∧
        update ∈ t.handoffUpdates.rows) ∨
      ∃ e, recordUpdate policy update draws s = (.error e, s)) := by
  unfold recordUpdate recordLhpHandoffUpdate
  cases hseen : truthyId (s.handoffUpdateExternalIndex update.event) with
  | some id =>
    left
    obtain ⟨u, hu, hevent⟩ := h.lookup.1 hseen
    obtain ⟨found, hfound, hof⟩ := hs.booked.recorded _ id hseen
    cases hu.symm.trans hfound
    obtain ⟨handoff, hhandoff⟩ := Option.isSome_iff_exists.1 hof
    obtain ⟨case, hcase⟩ := Option.isSome_iff_exists.1
      (hs.wellFormed.handoffCase handoff (Table.mem_of_get? hhandoff))
    refine ⟨u, Table.mem_of_get? hu, hevent, ⟨u, handoff, case, none, false⟩, ?_, rfl, rfl⟩
    have hseen' : truthyId (s.handoffUpdateExternalIndex
        (update.sourceLoop, update.externalEventId)) = some id := hseen
    unfold appendHandoffUpdate
    simp only [peek_bind_run, hseen', hu, orRaise_bind_run, requireHandoff_bind_run, hhandoff,
      requireAtomicCase_bind_run, hcase]
    rfl
  | none =>
    refine Or.inr ⟨rfl, ?_⟩
    by_cases happlied : ∃ handoff, Applied s update (Option.getD none update.status) handoff
    · obtain ⟨handoff, happlied⟩ := happlied
      obtain ⟨case, hcase⟩ := Option.isSome_iff_exists.1 happlied.atomic
      left
      generalize hnote : some (handoffUpdateEvent policy update _ draws.event) = event
      generalize hstatus : some (Option.getD none (caseStatusForHandoff update.status)) = status
      have hrun := appendHandoffUpdate_applied happlied hcase status none event
      have hwritten := appendHandoffUpdate_updates happlied status none event
      simp only [putCase, alter_bind_run] at hrun
      obtain ⟨stored, ev, ix, hevent⟩ := storeEvent?_run event _
      rw [bind_ok hevent] at hrun
      refine ⟨_, _, hrun, rfl, rfl, ?_⟩
      rw [hrun] at hwritten
      exact h.enter hseen hmay hwritten
    · right
      exact appendHandoffUpdate_raises hseen (not_exists.1 happlied) _ _ _

end Updates

/-! ## What a run keeps -/

section Keeping

variable {py : Python} {policy : CasePolicy} {sys t : CallbackSystem}

/-- The answer is about a recorded update of the event. -/
def Answers (py : Python) (s : Store) (event : EventKey) (answer : JsonDict) : Prop :=
  ∃ u ∈ s.handoffUpdates.rows, u.event = event ∧ ∃ handoffStatus caseStatus created,
    answer = callbackAnswer py u.updateId handoffStatus caseStatus created

theorem Answers.mono {s t : Store} {event : EventKey} {answer : JsonDict}
    (h : Answers py s event answer) (hkeeps : KeepsUpdates s t) : Answers py t event answer := by
  obtain ⟨u, hu, hanswer⟩ := h
  exact ⟨u, hkeeps u hu, hanswer⟩

/-- What is known of a call between its accesses. -/
def CallbackCall.Fits (py : Python) (s : Store)
    (records : Table CallbackInboxRecord.callbackId) : CallbackCall → Prop
  | .idle => True
  | .recording _ update => update.sourceLoop = .engineering ∧
    requireLhpToken py update.externalEventId 180 = some update.externalEventId
  | .claiming callback => Answers py s callback.event callback.resultPayload
  | .answered event answer => ∃ c ∈ records.rows, c.event = event ∧ c.resultPayload = answer

theorem CallbackCall.Fits.mono {s t : Store} {records kept : Table CallbackInboxRecord.callbackId}
    {call : CallbackCall} (h : call.Fits py s records) (hkeeps : KeepsUpdates s t)
    (hkept : ∀ c ∈ records.rows, c ∈ kept.rows) : call.Fits py t kept := by
  cases call with
  | idle => trivial
  | recording body update => exact h
  | claiming callback => exact Answers.mono h hkeeps
  | answered event answer =>
    obtain ⟨c, hc, hanswer⟩ := h
    exact ⟨c, hkept c hc, hanswer⟩

/-- Both indexes are right, and whatever a call or a record holds is about a recorded update. -/
structure CallbacksKept (py : Python) (sys : CallbackSystem) : Prop where
  ledger : HandoffLedger py sys.store
  updates : FiledUpdates sys.store
  inbox : Filed CallbackInboxRecord.event sys.inbox.records sys.inbox.index
  answers : ∀ c ∈ sys.inbox.records.rows, Answers py sys.store c.event c.resultPayload
  calls : ∀ i, (sys.calls i).Fits py sys.store sys.inbox.records
  applied : ∀ u ∈ sys.applied, u ∈ sys.store.handoffUpdates.rows
  once : (sys.applied.map HandoffUpdate.event).Nodup

theorem callbacksKept_empty : CallbacksKept py .empty where
  ledger := handoffLedger_empty
  updates := filed_empty
  inbox := filed_empty
  answers := by intro c hc; cases hc
  calls _ := trivial
  applied := by intro u hu; cases hu
  once := List.nodup_nil

/-- The store moves on, and nothing else. -/
theorem CallbacksKept.withStore (h : CallbacksKept py sys) {s : Store}
    (hledger : HandoffLedger py s)
    (hupdates : FiledUpdates s) (hkeeps : KeepsUpdates sys.store s) :
    CallbacksKept py { sys with store := s } where
  ledger := hledger
  updates := hupdates
  inbox := h.inbox
  answers c hc := (h.answers c hc).mono hkeeps
  calls i := (h.calls i).mono hkeeps fun _ hc => hc
  applied u hu := hkeeps u (h.applied u hu)
  once := h.once

/-- One call moves on, and nothing else. -/
theorem CallbacksKept.atCall (h : CallbacksKept py sys) (i : Nat) {call : CallbackCall}
    (hcall : call.Fits py sys.store sys.inbox.records) : CallbacksKept py (sys.atCall i call) := by
  refine ⟨h.ledger, h.updates, h.inbox, h.answers, fun j => ?_, h.applied, h.once⟩
  show (Function.update sys.calls i call j).Fits py sys.store sys.inbox.records
  by_cases hj : j = i
  · subst hj
    rwa [Function.update_self]
  · rw [Function.update_of_ne hj]
    exact h.calls j

/-- A recorded update is applied that was not known before. -/
theorem CallbacksKept.apply (h : CallbacksKept py sys) {update : HandoffUpdate}
    (hin : update ∈ sys.store.handoffUpdates.rows)
    (hnew : ∀ u ∈ sys.applied, u.event ≠ update.event) :
    CallbacksKept py { sys with applied := sys.applied ++ [update] } := by
  refine ⟨h.ledger, h.updates, h.inbox, h.answers, h.calls, fun u hu => ?_, ?_⟩
  · rcases List.mem_append.1 hu with hu | hu
    · exact h.applied u hu
    · rw [List.mem_singleton.1 hu]
      exact hin
  · show ((sys.applied ++ [update]).map HandoffUpdate.event).Nodup
    rw [List.map_append, List.nodup_append]
    refine ⟨h.once, List.nodup_singleton _, ?_⟩
    intro event hevent other hother heq
    obtain ⟨u, hu, rfl⟩ := List.mem_map.1 hevent
    rw [List.map_singleton, List.mem_singleton] at hother
    exact hnew u hu (heq.trans hother)

/-- The record of an accepted update has its event, and the answer about it. -/
theorem callbackRecord_answers {body : Json} {update : HandoffUpdate}
    {result : HandoffUpdateResult} {draws : CallbackDraws} {callback : CallbackInboxRecord}
    (hloop : update.sourceLoop = .engineering)
    (htoken : requireLhpToken py update.externalEventId 180 = some update.externalEventId)
    (h : callbackRecord py body update result draws = some callback) :
    callback.event = update.event ∧ callback.resultPayload = callbackAnswer py
      result.update.updateId result.handoff.status result.case.status result.created := by
  unfold callbackRecord at h
  cases hhash : requireLhpToken py (lhpPayloadHash py body) 180 with
  | none =>
    simp only [htoken, hhash, Option.bind_eq_bind, Option.bind_some, Option.bind_none] at h
    cases h
  | some payloadHash =>
    simp only [htoken, hhash, Option.bind_eq_bind, Option.bind_some, Option.some.injEq] at h
    subst h
    refine ⟨?_, rfl⟩
    show (LoopName.engineering, update.externalEventId) =
      (update.sourceLoop, update.externalEventId)
    rw [hloop]

/-- The ledger's rule covers the route's own call. -/
theorem handoffLedger_recordUpdate (policy : CasePolicy) {s : Store} (hs : HandoffLedger py s)
    (update : HandoffUpdate) (draws : CallbackDraws) :
    HandoffLedger py (recordUpdate policy update draws s).2 := by
  let op : LedgerOp := .store (.handoff (.appendHandoffUpdate update none
    (some ((none : Option CaseStatus).getD (caseStatusForHandoff update.status))) none
    (some (handoffUpdateEvent policy update { updateType := update.updateType.text }
      draws.event))))
  have hallowed : op.Allowed py s := by
    refine ⟨trivial, fun call hcall => ?_⟩
    cases hcall
    trivial
  exact hs.step (t := op.run s) ⟨hallowed, rfl⟩

/-- A result about a recorded update of the event leads to a claim that is about it. -/
theorem ofRecord_fits {s : Store} {records : Table CallbackInboxRecord.callbackId} {body : Json}
    {update : HandoffUpdate} {result : HandoffUpdateResult} (draws : CallbackDraws)
    (hloop : update.sourceLoop = .engineering)
    (htoken : requireLhpToken py update.externalEventId 180 = some update.externalEventId)
    (hin : result.update ∈ s.handoffUpdates.rows) (hevent : result.update.event = update.event) :
    (CallbackCall.ofRecord (callbackRecord py body update result draws)).Fits py s records := by
  cases hrecord : callbackRecord py body update result draws with
  | none => trivial
  | some callback =>
    obtain ⟨hkey, hanswer⟩ := callbackRecord_answers hloop htoken hrecord
    exact ⟨result.update, hin, hevent.trans hkey.symm, _, _, _, hanswer⟩

theorem CallbacksKept.recorded (h : CallbacksKept py sys) {i : Nat} {body : Json}
    {update : HandoffUpdate} (hcall : sys.calls i = .recording body update)
    (hmay : sys.store.MayRecord update) (draws : CallbackDraws) :
    CallbacksKept py (sys.recorded py policy i body update draws) := by
  have hposted := h.calls i
  rw [hcall] at hposted
  obtain ⟨hloop, htoken⟩ := hposted
  have hledger := handoffLedger_recordUpdate policy h.ledger update draws
  unfold CallbackSystem.recorded
  rcases recordUpdate_cases policy h.ledger h.updates update hmay draws with
    ⟨u, hu, hevent, result, hrun, rfl, hcreated⟩ |
    ⟨hunseen, ⟨result, t, hrun, rfl, hcreated, hupdates, hkeeps, hin⟩ | ⟨e, hrun⟩⟩
  · -- the event is known: nothing is applied
    simp only [hrun, hcreated]
    exact h.atCall i (ofRecord_fits draws hloop htoken hu hevent)
  · rw [hrun] at hledger
    have hnew : ∀ u ∈ sys.applied, u.event ≠ result.update.event := by
      intro u hu heq
      rw [← heq, h.updates.lookup_row (h.applied u hu)] at hunseen
      cases hunseen
    simp only [hrun, hcreated]
    exact ((h.withStore hledger hupdates hkeeps).apply hin hnew).atCall i
      (ofRecord_fits draws hloop htoken hin rfl)
  · simp only [hrun]
    exact h.atCall i trivial

/-- **The first claim of an event is kept; every other is given it.** -/
theorem claimCallbackEvent_cases {inbox : CallbackInbox}
    (h : Filed CallbackInboxRecord.event inbox.records inbox.index)
    (callback : CallbackInboxRecord) :
    (∃ c ∈ inbox.records.rows, c.event = callback.event ∧
      claimCallbackEvent callback inbox = (.ok ⟨c, false⟩, inbox)) ∨
    truthyId (inbox.index callback.event) = none ∧
      claimCallbackEvent callback inbox = (.ok ⟨callback, true⟩, {
        records := inbox.records.put callback
        index := inbox.index.set callback.event callback.callbackId }) := by
  unfold claimCallbackEvent
  cases hseen : truthyId (inbox.index callback.event) with
  | some id =>
    left
    obtain ⟨c, hc, hevent⟩ := h.lookup.1 hseen
    refine ⟨c, Table.mem_of_get? hc, hevent, ?_⟩
    simp only [peek_bind_run, hseen, hc, orRaise_bind_run]
    rfl
  | none =>
    right
    refine ⟨rfl, ?_⟩
    simp only [peek_bind_run, hseen, alter_bind_run]
    rfl

theorem CallbacksKept.claimed (h : CallbacksKept py sys) {i : Nat} {callback : CallbackInboxRecord}
    (hcall : sys.calls i = .claiming callback)
    (hnew : sys.inbox.records.get? callback.callbackId = none) (hid : callback.callbackId ≠ "") :
    CallbacksKept py (sys.claimed i callback) := by
  have hanswers := h.calls i
  rw [hcall] at hanswers
  unfold CallbackSystem.claimed
  rcases claimCallbackEvent_cases h.inbox callback with ⟨c, hc, hevent, hrun⟩ | ⟨hunseen, hrun⟩
  · simp only [hrun]
    exact h.atCall i ⟨c, hc, hevent, rfl⟩
  · have hkept : ∀ c ∈ sys.inbox.records.rows, c ∈ (sys.inbox.records.put callback).rows := by
      intro c hc
      rw [Table.mem_put]
      refine Or.inr ⟨hc, fun hkey => ?_⟩
      rw [← hkey, Table.mem_rows_iff.1 hc] at hnew
      cases hnew
    have hfiled : CallbacksKept py { sys with inbox := {
        records := sys.inbox.records.put callback
        index := sys.inbox.index.set callback.event callback.callbackId } } := by
      refine ⟨h.ledger, h.updates, h.inbox.enter hunseen hnew hid, fun c hc => ?_, fun j => ?_,
        h.applied, h.once⟩
      · rcases Table.mem_put.1 hc with rfl | ⟨hc, -⟩
        · exact hanswers
        · exact h.answers c hc
      · exact (h.calls j).mono (KeepsUpdates.refl _) hkept
    simp only [hrun]
    exact hfiled.atCall i ⟨callback, Table.mem_put.2 (Or.inl rfl), rfl, rfl⟩

/-- **Whatever one step is, the answers stay about recorded updates.** -/
theorem CallbacksKept.step (h : CallbacksKept py sys) {l : CallbackLabel}
    (hstep : callbackStep py policy sys l t) : CallbacksKept py t := by
  obtain ⟨hallowed, rfl⟩ := hstep
  cases l with
  | store op =>
    obtain ⟨hledger, hmay⟩ := hallowed
    obtain ⟨hupdates, hkeeps⟩ := filedUpdates_ledger hledger hmay h.updates
    exact h.withStore (h.ledger.step ⟨hledger, rfl⟩) hupdates hkeeps
  | post i body update => exact h.atCall i hallowed.2
  | turn i draws =>
    have hturn : (sys.calls i).MayTurn sys.store sys.inbox := hallowed
    show CallbacksKept py (match sys.calls i with
      | .idle | .answered _ _ => sys
      | .recording body update => sys.recorded py policy i body update draws
      | .claiming callback => sys.claimed i callback)
    cases hcall : sys.calls i with
    | idle => exact h
    | answered event answer => exact h
    | recording body update =>
      rw [hcall] at hturn
      exact h.recorded hcall hturn draws
    | claiming callback =>
      rw [hcall] at hturn
      exact h.claimed hcall hturn.1 hturn.2
  | drop i => exact h.atCall i trivial

end Keeping

/-! ## Safety -/

section Safety

variable {py : Python} {policy : CasePolicy} {sys : CallbackSystem}

/-- Delivering an event again and again comes to what delivering it once does. -/
structure CallbacksSafe (py : Python) (policy : CasePolicy) (sys : CallbackSystem) : Prop where
  oneUpdate : ∀ u ∈ sys.store.handoffUpdates.rows, ∀ v ∈ sys.store.handoffUpdates.rows,
    u.event = v.event → u = v
  appliedOnce : (sys.applied.map HandoffUpdate.event).Nodup
  applied : ∀ u ∈ sys.applied, u ∈ sys.store.handoffUpdates.rows
  oneAnswer : ∀ i j event a b, sys.calls i = .answered event a → sys.calls j = .answered event b →
    a = b
  answers : ∀ i event answer, sys.calls i = .answered event answer →
    Answers py sys.store event answer
  /-- a retry of a recorded event changes nothing, and goes on to its claim -/
  retried : ∀ i body update draws, sys.calls i = .recording body update →
    (∃ u ∈ sys.store.handoffUpdates.rows, u.event = update.event) →
    (requireLhpToken py (lhpPayloadHash py body) 180).isSome →
    ∃ callback, callback.event = update.event ∧
      sys.after py policy (.turn i draws) = sys.atCall i (.claiming callback)
  /-- and a claim is always answered -/
  claimed : ∀ i callback draws, sys.calls i = .claiming callback → ∃ answer,
    (sys.after py policy (.turn i draws)).calls i = .answered callback.event answer

/-- A known event, with a body whose digest is a token, has a record. -/
theorem callbackRecord_isSome {body : Json} {update : HandoffUpdate} (result : HandoffUpdateResult)
    (draws : CallbackDraws)
    (htoken : requireLhpToken py update.externalEventId 180 = some update.externalEventId)
    (hhash : (requireLhpToken py (lhpPayloadHash py body) 180).isSome) :
    ∃ callback, callbackRecord py body update result draws = some callback := by
  obtain ⟨payloadHash, hhash⟩ := Option.isSome_iff_exists.1 hhash
  unfold callbackRecord
  simp only [htoken, hhash, Option.bind_eq_bind, Option.bind_some]
  exact ⟨_, rfl⟩

theorem CallbacksKept.retry (h : CallbacksKept py sys) {i : Nat} {body : Json}
    {update : HandoffUpdate} (draws : CallbackDraws) (hcall : sys.calls i = .recording body update)
    (hknown : ∃ u ∈ sys.store.handoffUpdates.rows, u.event = update.event)
    (hhash : (requireLhpToken py (lhpPayloadHash py body) 180).isSome) :
    ∃ callback, callback.event = update.event ∧
      sys.after py policy (.turn i draws) = sys.atCall i (.claiming callback) := by
  have hposted := h.calls i
  rw [hcall] at hposted
  obtain ⟨hloop, htoken⟩ := hposted
  obtain ⟨u, hu, hevent⟩ := hknown
  rcases recordUpdate_cases policy h.ledger h.updates update
    (Or.inl ⟨u, hu, hevent⟩) draws with ⟨v, -, -, result, hrun, -, hcreated⟩ | ⟨hunseen, -⟩
  · obtain ⟨callback, hrecord⟩ := callbackRecord_isSome result draws htoken hhash
    refine ⟨callback, (callbackRecord_answers hloop htoken hrecord).1, ?_⟩
    show (match sys.calls i with
      | .idle | .answered _ _ => sys
      | .recording body update => sys.recorded py policy i body update draws
      | .claiming callback => sys.claimed i callback) = _
    simp only [hcall, CallbackSystem.recorded, hrun, hrecord, hcreated, CallbackCall.ofRecord]
    rfl
  · rw [← hevent, h.updates.lookup_row hu] at hunseen
    cases hunseen

theorem CallbacksKept.finish (h : CallbacksKept py sys) {i : Nat} {callback : CallbackInboxRecord}
    (draws : CallbackDraws) (hcall : sys.calls i = .claiming callback) :
    ∃ answer, (sys.after py policy (.turn i draws)).calls i = .answered callback.event answer := by
  have hturn : sys.after py policy (.turn i draws) = sys.claimed i callback := by
    show (match sys.calls i with
      | .idle | .answered _ _ => sys
      | .recording body update => sys.recorded py policy i body update draws
      | .claiming callback => sys.claimed i callback) = _
    rw [hcall]
  rw [hturn]
  unfold CallbackSystem.claimed
  rcases claimCallbackEvent_cases h.inbox callback with ⟨c, -, -, hrun⟩ | ⟨-, hrun⟩
  · simp only [hrun]
    exact ⟨c.resultPayload, Function.update_self _ _ _⟩
  · simp only [hrun]
    exact ⟨callback.resultPayload, Function.update_self _ _ _⟩

theorem CallbacksKept.answer (h : CallbacksKept py sys) {i : Nat} {event : EventKey}
    {answer : JsonDict} (hcall : sys.calls i = .answered event answer) :
    ∃ c ∈ sys.inbox.records.rows, c.event = event ∧ c.resultPayload = answer := by
  have hfits := h.calls i
  rwa [hcall] at hfits

theorem CallbacksKept.safe (h : CallbacksKept py sys) : CallbacksSafe py policy sys where
  oneUpdate _ hu _ hv hevent := h.updates.unique hu hv hevent
  appliedOnce := h.once
  applied := h.applied
  oneAnswer := by
    intro i j event a b hi hj
    obtain ⟨c, hc, hevent, rfl⟩ := h.answer hi
    obtain ⟨d, hd, hother, rfl⟩ := h.answer hj
    rw [h.inbox.unique hc hd (hevent.trans hother.symm)]
  answers := by
    intro i event answer hcall
    obtain ⟨c, hc, rfl, rfl⟩ := h.answer hcall
    exact h.answers c hc
  retried _ _ _ draws hcall := h.retry draws hcall
  claimed _ _ draws hcall := h.finish draws hcall

/-- **In every run of callbacks beside the rest of the store, delivering an event again and again
comes to what delivering it once does.** -/
theorem callbacksSafe_run {ls : List CallbackLabel} (h : Run (callbackStep py policy) .empty ls sys) :
    CallbacksSafe py policy sys :=
  (h.invariant (fun _ _ _ hs hstep => hs.step hstep) callbacksKept_empty).safe

/-! An update is recorded, its call is dropped before the claim, and it is sent again. -/

def acceptedBody : Json :=
  .dict [("schema_version", .str "lhp.v1"), ("handoff_id", .str "handoff_1"),
    ("case_id", .str "case_1"), ("source_loop", .str "engineering"),
    ("update_type", .str "accepted"), ("status", .str "accepted"),
    ("external_event_id", .str "run_7"), ("correlation_id", .str "corr_1"),
    ("created_at", .str "2026-01-01T01:00:00+00:00")]

/-- The body has no `update_id`, so every validation of it draws one. -/
def acceptedUpdate (updateId : String) : HandoffUpdate where
  updateId := updateId
  handoffId := "handoff_1"
  caseId := "case_1"
  sourceLoop := .engineering
  updateType := .accepted
  status := .accepted
  externalEventId := "run_7"
  correlationId := "corr_1"
  createdAt := "2026-01-01T01:00:00+00:00"

/-- The interpreter, with the digest of that body. -/
def bodyPython : Python :=
  { asciiPython with
    sha256 := fun text =>
      if text = canonicalLhpJson asciiPython acceptedBody then
        "14061260ca437e249d058f6a847a757b9b876f18e4a96762d1d59fb673750572"
      else "" }

def deliveryDraws (eventId callbackId : String) : CallbackDraws where
  event := { eventId := eventId, now := "2026-01-01T01:00:00+00:00" }
  callbackId := callbackId
  receivedAt := "2026-01-01T01:00:00+00:00"

def openedHandoff : List LedgerOp :=
  [.store (.handoff (.upsertCase (.atomic {
      caseId := "case_1"
      openedAt := "2026-01-01T00:00:00+00:00"
      updatedAt := "2026-01-01T00:00:00+00:00" }))),
    .store (.handoff
      (.createHandoffWithObjectives (sharedHandoff "handoff_1" "dns") [] none none none))]

def redelivered : List CallbackLabel :=
  [.post 0 acceptedBody (acceptedUpdate "hu_1"),
    .turn 0 (deliveryDraws "ce_1" "cb_1"),
    .drop 0,
    .post 1 acceptedBody (acceptedUpdate "hu_2"),
    .turn 1 (deliveryDraws "ce_2" "cb_2"),
    .turn 1 (deliveryDraws "ce_3" "cb_3")]

def openedSystem : CallbackSystem where
  store := openedHandoff.foldl (fun s op => op.run s) {}
  inbox := {}
  calls _ := .idle
  applied := []

def redeliveredSystem : CallbackSystem :=
  redelivered.foldl (CallbackSystem.after bodyPython {}) openedSystem

theorem run_openedSystem : Run (callbackStep bodyPython {}) .empty
    (openedHandoff.map CallbackLabel.store) openedSystem := by
  have hallowed : ∀ {sys : CallbackSystem} {op : HandoffOp}, (StoreOp.handoff op).Built bodyPython
      sys.store → op.Registered bodyPython sys.store → op.MayRecord sys.store →
      CallbackLabel.Allowed bodyPython sys (.store (.store (.handoff op))) := by
    intro sys op hbuilt hregistered hmay
    refine ⟨⟨hbuilt, fun call heq => ?_⟩, fun call heq => ?_⟩
    · cases heq
      exact hregistered
    · cases heq
      exact hmay
  exact Run.cons ⟨hallowed trivial trivial trivial, rfl⟩
    (Run.single ⟨hallowed rfl rfl trivial, rfl⟩)

/-- The second call applies nothing; its record is the one that is kept. -/
theorem callbacksSafe_redelivered : CallbacksSafe bodyPython {} redeliveredSystem ∧
    redeliveredSystem.applied.map HandoffUpdate.updateId = ["hu_1"] ∧
    redeliveredSystem.inbox.records.rows.map CallbackInboxRecord.callbackId = ["cb_2"] := by
  have hposted : Valid (CallbackLabel.Allowed bodyPython) (CallbackSystem.after bodyPython {})
      openedSystem redelivered := by
    refine ⟨⟨rfl, rfl, ?_⟩, ?_⟩
    · decide +kernel
    refine ⟨?_, trivial, ⟨rfl, rfl, ?_⟩, ?_, ?_, trivial⟩
    · decide +kernel
    · decide +kernel
    · decide +kernel
    · decide +kernel
  refine ⟨callbacksSafe_run (run_openedSystem.append (Run.of_valid hposted)), ?_, ?_⟩
  · decide +kernel
  · decide +kernel

end Safety

end NocAgent.Cases
