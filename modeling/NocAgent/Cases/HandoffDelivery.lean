import NocAgent.Cases.Cancellation
import NocAgent.Lib.Guards
import Mathlib.Data.List.DropRight

/-!
# Delivering a handoff while it is cancelled

* `CancelCall` — where a call of `cancel_lhp_handoff` is between two accesses to the store;
  `cancelLhpHandoff_performs`: a call that nobody interrupts does what `cancelLhpHandoff` says.
* `DeliveryRun` — the same for a run of the handler of `engineering_handoff_requested`.
* `deliveryStep` — any number of both over one store and its guards, and any other call.
* `Serialized` — what every run keeps; `noDelivery_run` — after a cancellation has returned, the
  external client is not called for its handoff, which stays cancelled.
-/

set_option autoImplicit false

namespace NocAgent.Cases

open Effects Effects.Action Keyed Lts Guards

/-! ## Deliveries -/

/-- The case store with its deliveries. -/
structure DeliveryStore where
  store : Store := {}
  deliveries : Table HandoffTransportDelivery.deliveryId := .empty
  deliveryIndex : Index String String := .empty

abbrev DeliveryM := Action DeliveryStore PyExc

/-- A call that concerns no delivery. -/
def onCaseStore {α : Type} (x : StoreM α) : DeliveryM α := fun s =>
  let r := x s.store
  (r.1, { s with store := r.2 })

def recordHandoffDelivery (delivery : HandoffTransportDelivery) :
    DeliveryM HandoffTransportDelivery := do
  let _ ← onCaseStore (requireHandoff delivery.handoffId)
  let existingId ← peek fun s => truthyId (s.deliveryIndex delivery.idempotencyKey)
  match existingId with
  | some existingId =>
    let existing ← peek fun s => s.deliveries.get? existingId
    orRaise existing .keyError
  | none => do
    alter fun s => { s with
      deliveries := s.deliveries.put delivery
      deliveryIndex := s.deliveryIndex.set delivery.idempotencyKey delivery.deliveryId }
    pure delivery

def updateHandoffDelivery (delivery : HandoffTransportDelivery) :
    DeliveryM HandoffTransportDelivery := do
  let known ← peek fun s => (s.deliveries.get? delivery.deliveryId).isSome
  raiseIf (known = false) .keyError
  alter fun s => { s with
    deliveries := s.deliveries.put delivery
    deliveryIndex := s.deliveryIndex.set delivery.idempotencyKey delivery.deliveryId }
  pure delivery

/-! ## A call of `cancel_lhp_handoff` -/

inductive CancelCall where
  | idle
  /-- before the guard is taken -/
  | waiting (request : CancelRequest)
  /-- before `get_handoff` -/
  | reading (request : CancelRequest)
  /-- before the update is recorded -/
  | recording (request : CancelRequest) (handoff : CaseHandoff)
  /-- before `list_outbox` -/
  | listing (handoff : CaseHandoff) (result : HandoffUpdateResult)
  | abandoning (handoff : CaseHandoff) (intents : List OutboxIntent) (result : HandoffUpdateResult)
  /-- before `list_verification_objectives` -/
  | gathering (handoff : CaseHandoff) (result : HandoffUpdateResult)
  | skipping (handoff : CaseHandoff) (objectives : List VerificationObjective)
      (result : HandoffUpdateResult)
  | returned (result : HandoffUpdateResult)

namespace CancelCall

variable (py : Python) (policy : CasePolicy) (draws : CancelDraws)

def next : CancelCall → StoreM CancelCall
  | .idle => pure .idle
  | .waiting request => pure (.reading request)
  | .reading request => do
    let handoff ← getHandoff request.handoffId
    let handoff ← orRaise handoff .keyError
    pure (.recording request handoff)
  | .recording request handoff => do
    let result ← recordCancellation py policy handoff request draws
    pure (.listing handoff result)
  | .listing handoff result => do
    let intents ← peek fun s => s.listOutbox none
    pure (.abandoning handoff intents result)
  | .abandoning handoff (intent :: rest) result => do
    abandonIntent py handoff.handoffId draws intent
    pure (.abandoning handoff rest result)
  | .abandoning handoff [] result => pure (.gathering handoff result)
  | .gathering handoff result => do
    let objectives ← peek fun s => s.listVerificationObjectives handoff.caseId
    pure (.skipping handoff objectives result)
  | .skipping handoff (objective :: rest) result => do
    skipObjective policy handoff draws objective
    pure (.skipping handoff rest result)
  | .skipping _ [] result => pure (.returned result)
  | .returned result => pure (.returned result)

/-- The guard that the call holds; a handoff is stored under its own id. -/
def guard : CancelCall → Option String
  | .idle | .waiting _ | .returned _ => none
  | .reading request => some request.handoffId
  | .recording _ handoff | .listing handoff _ | .abandoning handoff _ _ | .gathering handoff _
  | .skipping handoff _ _ => some handoff.handoffId

/-- The guard that the call waits for. -/
def waitsFor : CancelCall → Option String
  | .waiting request => some request.handoffId
  | _ => none

/-- The handoff whose cancellation the call has stored. -/
def stored : CancelCall → Option String
  | .listing handoff result | .abandoning handoff _ result | .gathering handoff result
  | .skipping handoff _ result => if result.created then some handoff.handoffId else none
  | _ => none

/-- The handoff whose cancellation was stored by the call that returns in this turn. -/
def returns : CancelCall → Option String
  | .skipping handoff [] result => stored (.skipping handoff [] result)
  | _ => none

/-- No call is running. -/
def Ended : CancelCall → Prop
  | .idle | .returned _ => True
  | _ => False

end CancelCall

/-! ## A run of the handler -/

/-- What became of a call of `ensure_candidate_issue_from_body`. -/
inductive ClientResult where
  | raised (error : String)
  | url (url : Option String)

/-- What a turn of the handler draws: a fresh delivery id, the time, the delivery's payload and its
hash, the hash of the pointer to the handoff, and the answer of the client. -/
structure DeliveryDraws where
  deliveryId : String
  now : String
  payload : JsonDict
  payloadHash : String
  pointerHash : String
  answer : ClientResult

inductive DeliveryRun where
  | idle
  /-- before the guard is taken -/
  | waiting (handoffId : String)
  /-- before `get_lhp_handoff` -/
  | reading (handoffId : String)
  /-- before `get_case` -/
  | loading (handoff : CaseHandoff)
  /-- before `record_lhp_handoff_delivery` -/
  | recording (handoff : CaseHandoff) (case : AtomicCaseProjection)
  /-- before the second `get_lhp_handoff` -/
  | rereading (handoff : CaseHandoff) (delivery : HandoffTransportDelivery)
  /-- before `ensure_candidate_issue_from_body` -/
  | calling (handoff : CaseHandoff) (delivery : HandoffTransportDelivery)
  | awaiting (handoff : CaseHandoff) (delivery : HandoffTransportDelivery)
  /-- before `update_lhp_handoff_delivery`, and what the handler does then -/
  | updating (handoff : CaseHandoff) (delivery : HandoffTransportDelivery)
      (outcome : Except PyExc OutboxHandlerResult)
  | returned (result : OutboxHandlerResult)

/-- `_issue_id_from_url`. -/
def issueIdFromUrl (url : String) : String :=
  let stripped := url.toList.rdropWhile (· = '/')
  String.ofList (stripped.reverse.takeWhile (· ≠ '/')).reverse

section Handler

variable (py : Python)

/-- `handle`, up to the guard. -/
def DeliveryRun.enter (intent : OutboxIntent) : DeliveryRun :=
  let handoffId := strip (textOf py (intent.payload.get "handoff_id"))
  if handoffId = "" then .idle else .waiting handoffId

/-- `payload_updates` of a delivery that is skipped. -/
def skippedDelivery (handoff : CaseHandoff) (rest : JsonDict) : OutboxHandlerResult where
  payloadUpdates := ("handoff_id", .str handoff.handoffId) :: rest ++
    [("delivery_skipped", .bool true), ("terminal_status", .str handoff.status.text)]

/-- The delivery that the handler records; `none` is `ValidationError`. -/
def newDelivery (handoff : CaseHandoff) (case : AtomicCaseProjection) (draws : DeliveryDraws) :
    Option HandoffTransportDelivery := do
  let handoffId ← requireLhpToken py handoff.handoffId 180
  let caseId ← requireLhpToken py case.caseId 180
  let idempotencyKey ← requireLhpToken py
    ("engineering_handoff_delivery:" ++ handoff.handoffId ++ ":github_issue") 180
  some {
    deliveryId := draws.deliveryId
    handoffId := handoffId
    caseId := caseId
    status := .inProgress
    idempotencyKey := idempotencyKey
    nextAttemptAt := draws.now
    payloadHash := draws.payloadHash
    payload := draws.payload
    createdAt := draws.now
    updatedAt := draws.now }

def failedDelivery (delivery : HandoffTransportDelivery) (error : String) :
    HandoffTransportDelivery :=
  { delivery with
    status := .failed
    attempts := delivery.attempts + 1
    lastError := error }

/-- What the handler does with the answer of the client. -/
def answered (handoff : CaseHandoff) (delivery : HandoffTransportDelivery) (draws : DeliveryDraws) :
    DeliveryRun :=
  match draws.answer with
  | .raised error => .updating handoff (failedDelivery delivery error) (.error (.named "client" error))
  | .url url =>
    match truthyId url with
    | none => .updating handoff
        (failedDelivery delivery "handoff client did not return an issue URL")
        (.error (.named "RuntimeError" "handoff client did not return an issue URL"))
    | some url => .updating handoff
        { delivery with
          status := .succeeded
          externalId := issueIdFromUrl url
          externalUrl := url
          payloadHash := draws.pointerHash }
        (.ok {
          externalId := issueIdFromUrl url
          externalUrl := url
          payloadUpdates := [("handoff_id", .str handoff.handoffId),
            ("delivery_id", .str delivery.deliveryId), ("payload_hash", .str draws.pointerHash)] })

namespace DeliveryRun

variable (draws : DeliveryDraws)

/-- `deliver`. -/
def next : DeliveryRun → DeliveryM DeliveryRun
  | .idle => pure .idle
  | .waiting handoffId => pure (.reading handoffId)
  | .reading handoffId => do
    let handoff ← onCaseStore (getHandoff handoffId)
    let handoff ← orRaise handoff .keyError
    if handoff.status ∈ TERMINAL_HANDOFF_STATUSES then
      pure (.returned (skippedDelivery handoff []))
    else pure (.loading handoff)
  | .loading handoff => do
    let case ← onCaseStore (getCase handoff.caseId)
    let case ← orRaise (case.bind CaseProjection.atomic?) .keyError
    pure (.recording handoff case)
  | .recording handoff case => do
    let delivery ← orRaise (newDelivery py handoff case draws) .validationError
    let delivery ← recordHandoffDelivery delivery
    if delivery.status = .succeeded ∧ delivery.externalUrl ≠ "" then
      pure (.returned {
        externalId := delivery.externalId
        externalUrl := delivery.externalUrl
        payloadUpdates := [("handoff_id", .str handoff.handoffId),
          ("delivery_id", .str delivery.deliveryId)] })
    else pure (.rereading handoff delivery)
  | .rereading handoff delivery => do
    let current ← onCaseStore (getHandoff handoff.handoffId)
    let current ← orRaise current .keyError
    if current.status ∈ TERMINAL_HANDOFF_STATUSES then
      pure (.updating handoff
        { delivery with
          status := .abandoned
          lastError := "handoff_" ++ current.status.text }
        (.ok (skippedDelivery current [("delivery_id", .str delivery.deliveryId)])))
    else pure (.calling handoff delivery)
  | .calling handoff delivery => pure (.awaiting handoff delivery)
  | .awaiting handoff delivery => pure (answered handoff delivery draws)
  | .updating _ delivery outcome => do
    let _ ← updateHandoffDelivery delivery
    match outcome with
    | .error e => raise e
    | .ok result => pure (.returned result)
  | .returned result => pure (.returned result)

/-- The guard that the run holds; a handoff is stored under its own id. -/
def guard : DeliveryRun → Option String
  | .idle | .waiting _ | .returned _ => none
  | .reading handoffId => some handoffId
  | .loading handoff | .recording handoff _ | .rereading handoff _ | .calling handoff _
  | .awaiting handoff _ | .updating handoff _ _ => some handoff.handoffId

/-- The guard that the run waits for. -/
def waitsFor : DeliveryRun → Option String
  | .waiting handoffId => some handoffId
  | _ => none

/-- The handoff that the client is called for in this turn. -/
def starts : DeliveryRun → Option String
  | .calling handoff _ => some handoff.handoffId
  | _ => none

/-- No run is going on. -/
def Ended : DeliveryRun → Prop
  | .idle | .returned _ => True
  | _ => False

end DeliveryRun

end Handler

/-! ## All of them at once -/

inductive HandoffProcess where
  | cancel (i : Nat)
  | delivery (j : Nat)
  deriving DecidableEq, Repr

/-- The handoffs with their guards, the cancellations and the deliveries under way. -/
structure HandoffSystem where
  shared : DeliveryStore := {}
  guards : Guards String HandoffProcess := fun _ => none
  cancels : Nat → CancelCall := fun _ => .idle
  runs : Nat → DeliveryRun := fun _ => .idle
  /-- the handoffs whose cancellation was stored by a call that has returned -/
  cancelled : List String := []
  /-- the handoffs that the client was called for -/
  started : List String := []

inductive HandoffLabel where
  | cancel (i : Nat) (request : CancelRequest)
  | deliver (j : Nat) (intent : OutboxIntent)
  | turnCancel (i : Nat) (draws : CancelDraws)
  | turnDelivery (j : Nat) (draws : DeliveryDraws)
  /-- the call is cancelled or its process ends -/
  | abortCancel (i : Nat)
  | abortDelivery (j : Nat)
  /-- progress updates, the verifier's calls, new handoffs, and anything else -/
  | ledger (op : LedgerOp)

section Steps

variable (py : Python) (policy : CasePolicy)

def HandoffSystem.atCancel (sys : HandoffSystem) (i : Nat) (c : CancelCall) (s : Store) :
    HandoffSystem :=
  { sys with
    shared := { sys.shared with store := s }
    guards := sys.guards.change (.cancel i) (sys.cancels i).guard c.guard
    cancels := Function.update sys.cancels i c }

def HandoffSystem.atDelivery (sys : HandoffSystem) (j : Nat) (c : DeliveryRun) (s : DeliveryStore) :
    HandoffSystem :=
  { sys with
    shared := s
    guards := sys.guards.change (.delivery j) (sys.runs j).guard c.guard
    runs := Function.update sys.runs j c }

def HandoffSystem.after (sys : HandoffSystem) : HandoffLabel → HandoffSystem
  | .cancel i request => sys.atCancel i (.waiting request) sys.shared.store
  | .deliver j intent => sys.atDelivery j (.enter py intent) sys.shared
  | .turnCancel i draws =>
    let r := (sys.cancels i).next py policy draws sys.shared.store
    { sys.atCancel i (goto .idle r.1) r.2 with
      cancelled := (sys.cancels i).returns.toList ++ sys.cancelled }
  | .turnDelivery j draws =>
    let r := (sys.runs j).next py draws sys.shared
    { sys.atDelivery j (goto .idle r.1) r.2 with
      started := (sys.runs j).starts.toList ++ sys.started }
  | .abortCancel i => sys.atCancel i .idle sys.shared.store
  | .abortDelivery j => sys.atDelivery j .idle sys.shared
  | .ledger op => { sys with shared := { sys.shared with store := op.run sys.shared.store } }

/-- A call begins where none is running, takes a guard that is free, and creates handoffs that are
new. -/
def HandoffLabel.Allowed (sys : HandoffSystem) : HandoffLabel → Prop
  | .cancel i _ => (sys.cancels i).Ended
  | .deliver j _ => (sys.runs j).Ended
  | .turnCancel i _ => ∀ k ∈ (sys.cancels i).waitsFor, sys.guards k = none
  | .turnDelivery j _ => ∀ k ∈ (sys.runs j).waitsFor, sys.guards k = none
  | .abortCancel _ | .abortDelivery _ => True
  | .ledger op => op.Allowed py sys.shared.store ∧ op.Fresh sys.shared.store

def deliveryStep (sys : HandoffSystem) (l : HandoffLabel) (t : HandoffSystem) : Prop :=
  l.Allowed py sys ∧ t = sys.after py policy l

end Steps

/-! ## A call that nobody interrupts -/

section Alone

variable (py : Python) (policy : CasePolicy) (draws : CancelDraws)

theorem abandonIntents_performs (handoff : CaseHandoff) (result : HandoffUpdateResult) :
    ∀ intents : List OutboxIntent,
      Performs (CancelCall.next py policy draws) .idle (.abandoning handoff intents result)
        (forEach (abandonIntent py handoff.handoffId draws) intents)
        fun _ => .gathering handoff result
  | [] => Performs.step fun _ => rfl
  | _ :: rest => Performs.bind (Performs.step (k := fun _ => .abandoning handoff rest result)
      fun _ => rfl) fun done => (abandonIntents_performs handoff result rest).bind fun ys =>
        Performs.pure (done :: ys) fun _ => CancelCall.gathering handoff result

theorem skipObjectives_performs (handoff : CaseHandoff) (result : HandoffUpdateResult) :
    ∀ objectives : List VerificationObjective,
      Performs (CancelCall.next py policy draws) .idle (.skipping handoff objectives result)
        (forEach (skipObjective policy handoff draws) objectives) fun _ => .returned result
  | [] => Performs.step fun _ => rfl
  | _ :: rest => Performs.bind (Performs.step (k := fun _ => .skipping handoff rest result)
      fun _ => rfl) fun done => (skipObjectives_performs handoff result rest).bind fun ys =>
        Performs.pure (done :: ys) fun _ => CancelCall.returned result

/-- **A call that nobody interrupts does what `cancelLhpHandoff` says.** -/
theorem cancelLhpHandoff_performs (request : CancelRequest) :
    Performs (CancelCall.next py policy draws) .idle (.reading request)
      (cancelLhpHandoff py policy request draws) .returned := by
  have hread : Performs (CancelCall.next py policy draws) .idle (.reading request)
      (getHandoff request.handoffId >>= fun handoff => orRaise handoff PyExc.keyError)
      fun handoff => .recording request handoff :=
    Performs.step fun s => (bind_bind_run _ _ _ s).symm
  have hparts : cancelLhpHandoff py policy request draws =
      ((getHandoff request.handoffId >>= fun handoff => orRaise handoff PyExc.keyError) >>=
        fun handoff => recordCancellation py policy handoff request draws >>= fun result =>
          abandonHandoffDeliveryIntents py handoff.handoffId draws >>= fun _ =>
            skipCancelledHandoffObjectives policy handoff draws >>= fun _ => pure result) :=
    funext fun s => (bind_bind_run _ _ _ s).symm
  have hrecord : ∀ handoff : CaseHandoff, Performs (CancelCall.next py policy draws) .idle
      (.recording request handoff) (recordCancellation py policy handoff request draws)
      fun result => .listing handoff result := fun _ => Performs.step fun _ => rfl
  have habandon : ∀ (handoff : CaseHandoff) (result : HandoffUpdateResult),
      Performs (CancelCall.next py policy draws) .idle (.listing handoff result)
        (abandonHandoffDeliveryIntents py handoff.handoffId draws)
        fun _ => .gathering handoff result := fun handoff result =>
    Performs.bind (Performs.step (k := fun intents => .abandoning handoff intents result)
      fun _ => rfl) fun intents => (abandonIntents_performs py policy draws handoff result
        intents).bind fun _ => Performs.pure () fun _ => CancelCall.gathering handoff result
  have hskip : ∀ (handoff : CaseHandoff) (result : HandoffUpdateResult),
      Performs (CancelCall.next py policy draws) .idle (.gathering handoff result)
        (skipCancelledHandoffObjectives policy handoff draws)
        fun _ => .returned result := fun handoff result =>
    Performs.bind (Performs.step (k := fun objectives => .skipping handoff objectives result)
      fun _ => rfl) fun objectives => (skipObjectives_performs py policy draws handoff result
        objectives).bind fun _ => Performs.pure () fun _ => CancelCall.returned result
  rw [hparts]
  exact hread.bind fun handoff => (hrecord handoff).bind fun result =>
    (habandon handoff result).bind fun _ => (hskip handoff result).bind fun _ =>
      Performs.pure result CancelCall.returned

end Alone

/-! ## What the turns keep -/

/-- Every call that writes handoffs or updates keeps `I`, and so does any other. -/
def LedgerInvariant (py : Python) (I : Store → Prop) : Prop :=
  ∀ s op t, I s → op.Fresh s → ledgerStep py s op t → I t

section Turns

variable {py : Python} {policy : CasePolicy} {I : Store → Prop}

theorem handoffLedger_invariant : LedgerInvariant py (HandoffLedger py) :=
  fun _ _ _ hs _ hstep => hs.step hstep

theorem isCancelled_invariant (handoffId : String) :
    LedgerInvariant py fun s => IsCancelled s handoffId :=
  fun _ _ _ hs hfresh hstep => hs.step hfresh hstep

theorem LedgerInvariant.keeps {α : Type} {x : StoreM α} (hI : LedgerInvariant py I) (op : StoreOp)
    (hrun : ∀ s, (x s).2 = op.run s) (hbuilt : ∀ s, op.Built py s)
    (hquiet : ∀ call, op = .handoff call → ∀ s, call.Registered py s ∧ call.Fresh s) :
    Keeps I x := by
  intro s hs
  rw [hrun]
  exact hI s (.store op) _ hs (fun call h => (hquiet call h s).2)
    ⟨⟨hbuilt s, fun call h => (hquiet call h s).1⟩, rfl⟩

theorem recordCancellation_keeps (hI : LedgerInvariant py I) (handoff : CaseHandoff)
    (request : CancelRequest) (draws : CancelDraws) :
    Keeps I (recordCancellation py policy handoff request draws) :=
  Keeps.bind (Keeps.orRaise _ _) fun update =>
    hI.keeps (.handoff (.appendHandoffUpdate update none _ _ _)) (fun _ => rfl) (fun _ => trivial)
      fun call h => (by cases h; exact fun _ => ⟨trivial, trivial⟩)

theorem abandonIntent_keeps (hI : LedgerInvariant py I) (handoffId : String) (draws : CancelDraws)
    (intent : OutboxIntent) : Keeps I (abandonIntent py handoffId draws intent) := by
  unfold abandonIntent
  split
  · exact Keeps.pure _
  · exact Keeps.bind (hI.keeps (.updateOutboxIfStatus _ _ _) (fun _ => rfl) (fun _ => trivial)
      fun call h => (by cases h)) fun _ => Keeps.pure _

theorem skipObjective_keeps (hI : LedgerInvariant py I) (handoff : CaseHandoff)
    (draws : CancelDraws) (objective : VerificationObjective) :
    Keeps I (skipObjective policy handoff draws objective) := by
  unfold skipObjective
  split
  · exact Keeps.pure _
  · exact Keeps.bind (hI.keeps (.updateVerificationObjectiveResult _ _) (fun _ => rfl)
      (fun _ => trivial) fun call h => (by cases h)) fun _ => Keeps.pure _

theorem CancelCall.next_keeps (hI : LedgerInvariant py I) (draws : CancelDraws) (c : CancelCall) :
    Keeps I (c.next py policy draws) := by
  cases c with
  | idle | waiting _ | returned _ => exact Keeps.pure _
  | reading request =>
    exact Keeps.bind (Keeps.peek _) fun _ => Keeps.bind (Keeps.orRaise _ _) fun _ => Keeps.pure _
  | recording request handoff =>
    exact Keeps.bind (recordCancellation_keeps hI _ _ _) fun _ => Keeps.pure _
  | listing handoff result => exact Keeps.bind (Keeps.peek _) fun _ => Keeps.pure _
  | abandoning handoff intents result =>
    cases intents with
    | nil => exact Keeps.pure _
    | cons intent rest => exact Keeps.bind (abandonIntent_keeps hI _ _ _) fun _ => Keeps.pure _
  | gathering handoff result => exact Keeps.bind (Keeps.peek _) fun _ => Keeps.pure _
  | skipping handoff objectives result =>
    cases objectives with
    | nil => exact Keeps.pure _
    | cons objective rest => exact Keeps.bind (skipObjective_keeps hI _ _ _) fun _ => Keeps.pure _

/-- The handler writes deliveries only. -/
theorem DeliveryRun.next_store (draws : DeliveryDraws) (c : DeliveryRun) :
    Fixes DeliveryStore.store (c.next py draws) := by
  have hread : ∀ {α : Type} (f : Store → α), Fixes DeliveryStore.store (onCaseStore (peek f)) :=
    fun _ _ => rfl
  cases c with
  | idle | waiting _ | calling _ _ | awaiting _ _ | returned _ => exact Fixes.pure _
  | reading handoffId =>
    refine Fixes.bind (hread _) fun handoff => Fixes.bind (Fixes.orRaise _ _) fun handoff => ?_
    split <;> exact Fixes.pure _
  | loading handoff =>
    exact Fixes.bind (hread _) fun _ => Fixes.bind (Fixes.orRaise _ _) fun _ => Fixes.pure _
  | recording handoff case =>
    refine Fixes.bind (Fixes.orRaise _ _) fun delivery => Fixes.bind ?_ fun delivery => ?_
    · refine Fixes.bind (fun s => ?_) fun _ => Fixes.bind (Fixes.peek _) fun existingId => ?_
      · exact (Fixes.bind (f := id) (Fixes.peek _) fun _ => Fixes.orRaise _ _ :
          Fixes id (requireHandoff delivery.handoffId)) s.store
      · cases existingId with
        | some existingId => exact Fixes.bind (Fixes.peek _) fun _ => Fixes.orRaise _ _
        | none => exact Fixes.bind (Fixes.alter fun _ => rfl) fun _ => Fixes.pure _
    · split <;> exact Fixes.pure _
  | rereading handoff delivery =>
    refine Fixes.bind (hread _) fun current => Fixes.bind (Fixes.orRaise _ _) fun current => ?_
    split <;> exact Fixes.pure _
  | updating handoff delivery outcome =>
    refine Fixes.bind (Fixes.bind (Fixes.peek _) fun _ => Fixes.bind (Fixes.raiseIf _ _) fun _ =>
      Fixes.bind (Fixes.alter fun _ => rfl) fun _ => Fixes.pure _) fun _ => ?_
    cases outcome with
    | error e => exact Fixes.raise e
    | ok result => exact Fixes.pure _

/-- A turn takes no guard but the one that the call waits for. -/
theorem CancelCall.next_guard (draws : CancelDraws) (c : CancelCall) (s : Store) {k : String}
    (h : (goto .idle (c.next py policy draws s).1).guard = some k) :
    c.guard = some k ∨ c.waitsFor = some k := by
  have hgoes : ∀ {α : Type} {f : α → CancelCall} {x : StoreM α},
      (goto .idle ((x >>= fun a => pure (f a)) s).1).guard = some k →
      (∀ a, (f a).guard = c.guard) → c.guard = some k :=
    fun {α f x} hk hf => goto_bind (P := fun c' : CancelCall => c'.guard = some k → c.guard = some k)
      (fun hidle => by cases hidle) (fun a hk => (hf a).symm.trans hk) x s hk
  unfold CancelCall.next at h
  cases c with
  | idle => cases h
  | returned result => cases h
  | waiting request => exact Or.inr h
  | reading request =>
    left
    simp only [getHandoff, peek_bind_run, orRaise_bind_run] at h
    cases hstored : s.handoffs.get? request.handoffId with
    | none =>
      rw [hstored] at h
      cases h
    | some handoff =>
      rw [hstored] at h
      exact (congrArg some (Table.key_of_get? hstored)).symm.trans h
  | recording request handoff => exact Or.inl (hgoes h fun _ => rfl)
  | listing handoff result => exact Or.inl (hgoes h fun _ => rfl)
  | abandoning handoff intents result =>
    cases intents with
    | nil => exact Or.inl h
    | cons intent rest => exact Or.inl (hgoes h fun _ => rfl)
  | gathering handoff result => exact Or.inl (hgoes h fun _ => rfl)
  | skipping handoff objectives result =>
    cases objectives with
    | nil => cases h
    | cons objective rest => exact Or.inl (hgoes h fun _ => rfl)

theorem answered_guard (handoff : CaseHandoff) (delivery : HandoffTransportDelivery)
    (draws : DeliveryDraws) : (answered handoff delivery draws).guard = some handoff.handoffId := by
  unfold answered
  split
  · rfl
  · split <;> rfl

theorem answered_starts (handoff : CaseHandoff) (delivery : HandoffTransportDelivery)
    (draws : DeliveryDraws) : (answered handoff delivery draws).starts = none := by
  unfold answered
  split
  · rfl
  · split <;> rfl

/-- Neither does a turn of the handler. -/
theorem DeliveryRun.next_guard (draws : DeliveryDraws) (c : DeliveryRun) (s : DeliveryStore)
    {k : String} (h : (goto .idle (c.next py draws s).1).guard = some k) :
    c.guard = some k ∨ c.waitsFor = some k := by
  have hgoes : ∀ {α : Type} {f : α → DeliveryM DeliveryRun} (x : DeliveryM α),
      (∀ a t, (goto .idle (f a t).1).guard = some k → c.guard = some k) →
      (goto .idle ((x >>= f) s).1).guard = some k → c.guard = some k := by
    intro α f x hf hk
    rcases hr : x s with ⟨e | a, t⟩
    · rw [bind_error hr] at hk
      cases hk
    · rw [bind_ok hr] at hk
      exact hf a t hk
  cases c with
  | idle => cases h
  | returned result => cases h
  | waiting handoffId => exact Or.inr h
  | reading handoffId =>
    left
    have hread : onCaseStore (getHandoff handoffId) s = (.ok (s.store.handoffs.get? handoffId), s) := rfl
    simp only [DeliveryRun.next, bind_ok hread, orRaise_bind_run] at h
    cases hstored : s.store.handoffs.get? handoffId with
    | none =>
      rw [hstored] at h
      cases h
    | some handoff =>
      rw [hstored] at h
      simp only [] at h
      split at h
      · cases h
      · exact (congrArg some (Table.key_of_get? hstored)).symm.trans h
  | loading handoff =>
    exact Or.inl (hgoes _ (fun case t hk => by
      rcases hcase : case.bind CaseProjection.atomic? with _ | atomic
      · rw [hcase] at hk
        cases hk
      · rw [hcase] at hk
        exact hk) h)
  | recording handoff case =>
    refine Or.inl (hgoes _ (fun delivery t hk => ?_) h)
    rcases hrecorded : recordHandoffDelivery delivery t with ⟨e | recorded, u⟩
    · rw [bind_error hrecorded] at hk
      cases hk
    · rw [bind_ok hrecorded] at hk
      split at hk
      · cases hk
      · exact hk
  | rereading handoff delivery =>
    refine Or.inl (hgoes _ (fun current t hk => ?_) h)
    cases current with
    | none => cases hk
    | some current =>
      rw [show (orRaise (some current) PyExc.keyError : DeliveryM CaseHandoff) = pure current
        from rfl, pure_bind_run] at hk
      split at hk <;> exact hk
  | calling handoff delivery => exact Or.inl h
  | awaiting handoff delivery => exact Or.inl ((answered_guard handoff delivery draws).symm.trans h)
  | updating handoff delivery outcome =>
    refine Or.inl (hgoes _ (fun updated t hk => ?_) h)
    cases outcome <;> cases hk

/-- What the call recorded is stored as soon as it goes on. -/
theorem recordCancellation_stored {s t : Store} (hs : HandoffLedger py s) {handoff : CaseHandoff}
    (htoken : requireLhpToken py handoff.handoffId 180 = some handoff.handoffId)
    {request : CancelRequest} {draws : CancelDraws} {result : HandoffUpdateResult}
    (hrun : recordCancellation py policy handoff request draws s = (.ok result, t))
    (hcreated : result.created = true) : IsCancelled t handoff.handoffId := by
  unfold recordCancellation at hrun
  simp only [orRaise_bind_run] at hrun
  cases hupdate : cancelUpdate py handoff request draws with
  | none =>
    rw [hupdate] at hrun
    cases hrun
  | some update =>
    rw [hupdate] at hrun
    have hof : update.handoffId = handoff.handoffId ∧ update.status = .cancelled := by
      unfold cancelUpdate at hupdate
      obtain ⟨handoffId, hid, hupdate⟩ := Option.bind_eq_some_iff.1 hupdate
      obtain ⟨caseId, -, hupdate⟩ := Option.bind_eq_some_iff.1 hupdate
      obtain ⟨externalEventId, -, hupdate⟩ := Option.bind_eq_some_iff.1 hupdate
      cases hupdate
      exact ⟨Option.some.inj (hid.symm.trans htoken), rfl⟩
    unfold recordLhpHandoffUpdate at hrun
    rcases appendHandoffUpdate_cases hs update _ none _ with ⟨-, replay, hreplay, hold⟩ |
      ⟨-, found, applied, u, happlied, hstored, -, hu⟩ | ⟨-, e, hraised⟩
    · cases hreplay.symm.trans hrun
      rw [hold] at hcreated
      cases hcreated
    · cases hstored.symm.trans hrun
      unfold IsCancelled
      rw [hu, Table.get?_put]
      exact ⟨_, if_pos ((Table.key_of_get? happlied.stored).trans hof.1), hof.2⟩
    · cases hraised.symm.trans hrun

theorem CancelCall.next_stored {s : Store} (hs : HandoffLedger py s) (draws : CancelDraws)
    {c : CancelCall} (htoken : ∀ request handoff, c = .recording request handoff →
      requireLhpToken py handoff.handoffId 180 = some handoff.handoffId)
    (hc : ∀ k, c.stored = some k → IsCancelled s k) {k : String}
    (h : (goto .idle (c.next py policy draws s).1).stored = some k) :
    IsCancelled (c.next py policy draws s).2 k := by
  have hkept : c.stored = some k → IsCancelled (c.next py policy draws s).2 k := fun hold =>
    CancelCall.next_keeps (isCancelled_invariant k) draws c s (hc k hold)
  have hgoes : ∀ {α : Type} {f : α → CancelCall} {x : StoreM α},
      (goto .idle ((x >>= fun a => pure (f a)) s).1).stored = some k →
      (∀ a, (f a).stored = c.stored) → c.stored = some k :=
    fun {α f x} hk hf => goto_bind (P := fun c' : CancelCall => c'.stored = some k →
      c.stored = some k) (fun hidle => by cases hidle) (fun a hk => (hf a).symm.trans hk) x s hk
  cases c with
  | idle => cases h
  | returned result => cases h
  | waiting request => cases h
  | reading request =>
    simp only [CancelCall.next, getHandoff, peek_bind_run, orRaise_bind_run] at h
    cases hstored : s.handoffs.get? request.handoffId with
    | none =>
      rw [hstored] at h
      cases h
    | some handoff =>
      rw [hstored] at h
      cases h
  | recording request handoff =>
    simp only [CancelCall.next] at h ⊢
    rcases hrun : recordCancellation py policy handoff request draws s with ⟨e | result, t⟩
    · rw [bind_error hrun] at h
      cases h
    · rw [bind_ok hrun] at h ⊢
      by_cases hcreated : result.created = true
      · have hid : handoff.handoffId = k := Option.some.inj ((if_pos hcreated).symm.trans h)
        rw [← hid]
        exact recordCancellation_stored hs (htoken request handoff rfl) hrun hcreated
      · cases (if_neg hcreated).symm.trans h
  | listing handoff result =>
    simp only [CancelCall.next] at h
    exact hkept (hgoes h fun _ => rfl)
  | abandoning handoff intents result =>
    cases intents with
    | nil => exact hkept h
    | cons intent rest =>
      simp only [CancelCall.next] at h
      exact hkept (hgoes h fun _ => rfl)
  | gathering handoff result =>
    simp only [CancelCall.next] at h
    exact hkept (hgoes h fun _ => rfl)
  | skipping handoff objectives result =>
    cases objectives with
    | nil => cases h
    | cons objective rest =>
      simp only [CancelCall.next] at h
      exact hkept (hgoes h fun _ => rfl)

/-- A handoff that was read has an id that is a token. -/
theorem CancelCall.next_token {s : Store} (hs : HandoffLedger py s) (draws : CancelDraws)
    (c : CancelCall) {request : CancelRequest} {handoff : CaseHandoff}
    (h : goto .idle (c.next py policy draws s).1 = .recording request handoff) :
    requireLhpToken py handoff.handoffId 180 = some handoff.handoffId := by
  have hgoes : ∀ {α : Type} {f : α → CancelCall} {x : StoreM α},
      goto .idle ((x >>= fun a => pure (f a)) s).1 = .recording request handoff →
      (∀ a, f a ≠ .recording request handoff) → False :=
    fun {α f x} hk hf => goto_bind (P := fun c' : CancelCall => c' = .recording request handoff →
      False) (fun hidle => by cases hidle) hf x s hk
  unfold CancelCall.next at h
  cases c with
  | reading request' =>
    simp only [getHandoff, peek_bind_run, orRaise_bind_run] at h
    cases hstored : s.handoffs.get? request'.handoffId with
    | none =>
      rw [hstored] at h
      cases h
    | some found =>
      rw [hstored] at h
      cases h
      exact hs.booked.token _ (Table.mem_of_get? hstored)
  | idle => cases h
  | waiting request => cases h
  | returned result => cases h
  | recording request' handoff' => exact (hgoes h (by simp)).elim
  | listing handoff' result => exact (hgoes h (by simp)).elim
  | abandoning handoff' intents result =>
    cases intents with
    | nil => cases h
    | cons intent rest => exact (hgoes h (by simp)).elim
  | gathering handoff' result => exact (hgoes h (by simp)).elim
  | skipping handoff' objectives result =>
    cases objectives with
    | nil => cases h
    | cons objective rest => exact (hgoes h (by simp)).elim

/-- Before it calls the client, the handler has read that the handoff is not cancelled. -/
theorem DeliveryRun.next_starts (draws : DeliveryDraws) (c : DeliveryRun) (s : DeliveryStore)
    {k : String} (h : (goto .idle (c.next py draws s).1).starts = some k) :
    ¬ IsCancelled s.store k := by
  have hquiet : ∀ {α : Type} {f : α → DeliveryM DeliveryRun} {x : DeliveryM α},
      (goto .idle ((x >>= f) s).1).starts = some k →
      (∀ a t, (goto .idle (f a t).1).starts = none) → False := by
    intro α f x hk hf
    rcases hr : x s with ⟨e | a, t⟩
    · rw [bind_error hr] at hk
      cases hk
    · rw [bind_ok hr, hf a t] at hk
      cases hk
  unfold DeliveryRun.next at h
  cases c with
  | rereading handoff delivery =>
    have hread : onCaseStore (getHandoff handoff.handoffId) s =
        (.ok (s.store.handoffs.get? handoff.handoffId), s) := rfl
    simp only [bind_ok hread, orRaise_bind_run] at h
    cases hstored : s.store.handoffs.get? handoff.handoffId with
    | none =>
      rw [hstored] at h
      cases h
    | some current =>
      rw [hstored] at h
      simp only [] at h
      split at h
      · cases h
      · rename_i hlive
        cases h
        rintro ⟨found, hfound, hcancelled⟩
        cases hstored.symm.trans hfound
        exact hlive (by rw [hcancelled]; decide)
  | idle | waiting _ | calling _ _ | returned _ => cases h
  | awaiting handoff delivery => cases (answered_starts handoff delivery draws).symm.trans h
  | reading handoffId =>
    refine (hquiet h fun handoff t => ?_).elim
    cases handoff with
    | none => rfl
    | some handoff =>
      rw [show (orRaise (some handoff) PyExc.keyError : DeliveryM CaseHandoff) = pure handoff
        from rfl, pure_bind_run]
      split <;> rfl
  | loading handoff =>
    refine (hquiet h fun case t => ?_).elim
    cases case.bind CaseProjection.atomic? <;> rfl
  | recording handoff case =>
    refine (hquiet h fun delivery t => ?_).elim
    rcases hrecorded : recordHandoffDelivery delivery t with ⟨e | recorded, u⟩
    · rw [bind_error hrecorded]
      rfl
    · rw [bind_ok hrecorded]
      split <;> rfl
  | updating handoff delivery outcome =>
    refine (hquiet h fun updated t => ?_).elim
    cases outcome <;> rfl

end Turns

/-! ## What every run keeps -/

/-- The guard that each of them is in. -/
def HandoffSystem.inside (sys : HandoffSystem) : HandoffProcess → Option String
  | .cancel i => (sys.cancels i).guard
  | .delivery j => (sys.runs j).guard

theorem HandoffSystem.cancels_atCancel (sys : HandoffSystem) (i : Nat) (c : CancelCall) (s : Store)
    (i' : Nat) : (sys.atCancel i c s).cancels i' = if i' = i then c else sys.cancels i' :=
  Function.update_apply ..

theorem HandoffSystem.runs_atDelivery (sys : HandoffSystem) (j : Nat) (c : DeliveryRun)
    (s : DeliveryStore) (j' : Nat) :
    (sys.atDelivery j c s).runs j' = if j' = j then c else sys.runs j' :=
  Function.update_apply ..

theorem HandoffSystem.inside_atCancel (sys : HandoffSystem) (i : Nat) (c : CancelCall) (s : Store) :
    (sys.atCancel i c s).inside = Function.update sys.inside (.cancel i) c.guard := by
  funext p
  unfold HandoffSystem.atCancel
  by_cases hp : p = .cancel i
  · subst hp
    simp [HandoffSystem.inside]
  · rw [Function.update_of_ne hp]
    cases p with
    | cancel i' =>
      have hne : i' ≠ i := by rintro rfl; exact hp rfl
      simp [HandoffSystem.inside, Function.update_of_ne hne]
    | delivery j => rfl

theorem HandoffSystem.inside_atDelivery (sys : HandoffSystem) (j : Nat) (c : DeliveryRun)
    (s : DeliveryStore) :
    (sys.atDelivery j c s).inside = Function.update sys.inside (.delivery j) c.guard := by
  funext p
  unfold HandoffSystem.atDelivery
  by_cases hp : p = .delivery j
  · subst hp
    simp [HandoffSystem.inside]
  · rw [Function.update_of_ne hp]
    cases p with
    | cancel i => rfl
    | delivery j' =>
      have hne : j' ≠ j := by rintro rfl; exact hp rfl
      simp [HandoffSystem.inside, Function.update_of_ne hne]

/-- A handoff whose cancellation has returned is cancelled, and no run is about to call the client
for it; the guards record who is inside. -/
structure Serialized (py : Python) (sys : HandoffSystem) : Prop where
  ledger : HandoffLedger py sys.shared.store
  held : Held sys.guards sys.inside
  token : ∀ i request handoff, sys.cancels i = .recording request handoff →
    requireLhpToken py handoff.handoffId 180 = some handoff.handoffId
  stored : ∀ i k, (sys.cancels i).stored = some k → IsCancelled sys.shared.store k
  cancelled : ∀ k ∈ sys.cancelled, IsCancelled sys.shared.store k
  starts : ∀ j k, (sys.runs j).starts = some k → k ∉ sys.cancelled

namespace Serialized

variable {py : Python} {policy : CasePolicy} {sys t : HandoffSystem}

theorem empty : Serialized py {} := by
  refine ⟨handoffLedger_empty, ?_, ?_, ?_, ?_, ?_⟩
  · have hinside : ({} : HandoffSystem).inside = fun _ => none := by
      funext p
      cases p <;> rfl
    rw [hinside]
    exact Held.none
  · intro i request handoff h; cases h
  · intro i k h; cases h
  · intro k h; cases h
  · intro j k h; cases h

/-- The cancellation of a handoff is over: nobody else was inside its guard. -/
theorem endCall (h : Serialized py sys) {i : Nat} {k : String}
    (hk : (sys.cancels i).returns = some k) :
    Serialized py { sys with cancelled := k :: sys.cancelled } := by
  have hin : (sys.cancels i).stored = some k ∧ (sys.cancels i).guard = some k := by
    generalize sys.cancels i = c at hk
    cases c with
    | skipping handoff objectives result =>
      cases objectives with
      | nil =>
        refine ⟨hk, ?_⟩
        simp only [CancelCall.returns, CancelCall.stored] at hk
        split at hk
        · exact hk
        · cases hk
      | cons objective rest => cases hk
    | _ => cases hk
  refine ⟨h.ledger, h.held, h.token, h.stored, ?_, ?_⟩
  · rintro other (_ | ⟨_, hm⟩)
    · exact h.stored i k hin.1
    · exact h.cancelled other hm
  · rintro j other hstarts (_ | ⟨_, hm⟩)
    · have hguard : (sys.runs j).guard = some k := by
        generalize sys.runs j = c at hstarts
        cases c with
        | calling handoff delivery => exact hstarts
        | _ => cases hstarts
      cases h.held.exclusive (p := .cancel i) (q := .delivery j) hin.2 hguard
    · exact h.starts j other hstarts hm

theorem atCancel (h : Serialized py sys) {i : Nat} {c : CancelCall} {s : Store}
    (hledger : HandoffLedger py s)
    (hkept : ∀ k, IsCancelled sys.shared.store k → IsCancelled s k)
    (hfree : sys.guards.Free (.cancel i) c.guard)
    (htoken : ∀ request handoff, c = .recording request handoff →
      requireLhpToken py handoff.handoffId 180 = some handoff.handoffId)
    (hstored : ∀ k, c.stored = some k → IsCancelled s k) : Serialized py (sys.atCancel i c s) := by
  refine ⟨hledger, ?_, ?_, ?_, fun k hk => hkept k (h.cancelled k hk), h.starts⟩
  · rw [sys.inside_atCancel]
    exact h.held.change (p := .cancel i) hfree
  · intro i' request handoff hc
    rw [sys.cancels_atCancel] at hc
    split at hc
    · exact htoken request handoff hc
    · exact h.token i' request handoff hc
  · intro i' k hc
    rw [sys.cancels_atCancel] at hc
    split at hc
    · exact hstored k hc
    · exact hkept k (h.stored i' k hc)

theorem atDelivery (h : Serialized py sys) {j : Nat} {c : DeliveryRun} {s : DeliveryStore}
    (hstore : s.store = sys.shared.store) (hfree : sys.guards.Free (.delivery j) c.guard)
    (hstarts : ∀ k, c.starts = some k → k ∉ sys.cancelled) :
    Serialized py (sys.atDelivery j c s) := by
  refine ⟨hstore ▸ h.ledger, ?_, h.token, ?_, ?_, ?_⟩
  · rw [sys.inside_atDelivery]
    exact h.held.change (p := .delivery j) hfree
  · exact fun i k hk => hstore ▸ h.stored i k hk
  · exact fun k hk => hstore ▸ h.cancelled k hk
  · intro j' k hc
    rw [sys.runs_atDelivery] at hc
    split at hc
    · exact hstarts k hc
    · exact h.starts j' k hc

theorem store (h : Serialized py sys) {op : LedgerOp} (hfresh : op.Fresh sys.shared.store)
    (hallowed : op.Allowed py sys.shared.store) :
    Serialized py { sys with shared := { sys.shared with store := op.run sys.shared.store } } := by
  have hstep : ledgerStep py sys.shared.store op (op.run sys.shared.store) := ⟨hallowed, rfl⟩
  exact ⟨h.ledger.step hstep, h.held, h.token, fun i k hk => (h.stored i k hk).step hfresh hstep,
    fun k hk => (h.cancelled k hk).step hfresh hstep, h.starts⟩

/-- **Every step keeps it.** -/
theorem step (h : Serialized py sys) {l : HandoffLabel} (hstep : deliveryStep py policy sys l t) :
    Serialized py t := by
  obtain ⟨hallowed, rfl⟩ := hstep
  have hnothing : ∀ {p : HandoffProcess} {new : Option String}, new = none →
      sys.guards.Free p new := by
    rintro p _ rfl k hk
    cases hk
  cases l with
  | cancel i request =>
    exact h.atCancel h.ledger (fun _ hk => hk) (hnothing rfl) (fun _ _ hc => by cases hc)
      fun k hk => by cases hk
  | deliver j intent =>
    have hquiet : (DeliveryRun.enter py intent).guard = none ∧
        (DeliveryRun.enter py intent).starts = none := by
      unfold DeliveryRun.enter
      dsimp only
      split <;> exact ⟨rfl, rfl⟩
    refine h.atDelivery rfl (hnothing hquiet.1) fun k hk => ?_
    cases hquiet.2.symm.trans hk
  | abortCancel i =>
    exact h.atCancel h.ledger (fun _ hk => hk) (hnothing rfl) (fun _ _ hc => by cases hc)
      fun k hk => by cases hk
  | abortDelivery j => exact h.atDelivery rfl (hnothing rfl) fun k hk => by cases hk
  | ledger op => exact h.store hallowed.2 hallowed.1
  | turnCancel i draws =>
    have hreturned : Serialized py
        { sys with cancelled := (sys.cancels i).returns.toList ++ sys.cancelled } := by
      cases hk : (sys.cancels i).returns with
      | none => exact h
      | some k => exact h.endCall hk
    refine hreturned.atCancel (CancelCall.next_keeps handoffLedger_invariant draws _ _ h.ledger)
      (fun k hk => CancelCall.next_keeps (isCancelled_invariant k) draws _ _ hk) ?_
      (fun _ _ hc => CancelCall.next_token h.ledger draws _ hc)
      (fun k hk => CancelCall.next_stored h.ledger draws (h.token i) (h.stored i) hk)
    intro k hk
    rcases CancelCall.next_guard draws _ _ hk with hin | hwaits
    · exact Or.inr ((h.held (.cancel i) k).2 hin)
    · exact Or.inl (hallowed k hwaits)
  | turnDelivery j draws =>
    have hstarted : Serialized py
        { sys with started := (sys.runs j).starts.toList ++ sys.started } :=
      ⟨h.ledger, h.held, h.token, h.stored, h.cancelled, h.starts⟩
    refine hstarted.atDelivery (DeliveryRun.next_store draws _ _) ?_ ?_
    · intro k hk
      rcases DeliveryRun.next_guard draws _ _ hk with hin | hwaits
      · exact Or.inr ((h.held (.delivery j) k).2 hin)
      · exact Or.inl (hallowed k hwaits)
    · exact fun k hk hm => DeliveryRun.next_starts draws _ _ hk (h.cancelled k hm)

theorem run {ls : List HandoffLabel} (hrun : Run (deliveryStep py policy) {} ls sys) :
    Serialized py sys :=
  hrun.invariant (fun _ _ _ h hstep => h.step hstep) empty

end Serialized

/-! ## After a cancellation -/

section After

variable {py : Python} {policy : CasePolicy}

/-- From a handoff whose cancellation has returned, a step calls the client for another one or for
none. -/
theorem deliveryStep_started {sys t : HandoffSystem} {l : HandoffLabel} {k : String}
    (h : Serialized py sys) (hk : k ∈ sys.cancelled) (hstep : deliveryStep py policy sys l t) :
    k ∈ t.cancelled ∧ t.started.count k = sys.started.count k := by
  obtain ⟨-, rfl⟩ := hstep
  cases l with
  | turnCancel i draws => exact ⟨List.mem_append_right _ hk, rfl⟩
  | turnDelivery j draws =>
    refine ⟨hk, ?_⟩
    dsimp only [HandoffSystem.after]
    cases hstarts : (sys.runs j).starts with
    | none => rfl
    | some other =>
      have hne : other ≠ k := by
        rintro rfl
        exact h.starts j other hstarts hk
      rw [Option.toList_some, List.singleton_append, List.count_cons_of_ne hne]
  | _ =>
    dsimp only [HandoffSystem.after, HandoffSystem.atCancel, HandoffSystem.atDelivery]
    exact ⟨hk, rfl⟩

/-- **Once the call that cancelled a handoff has returned, the client is not called for the handoff
any more, and it stays cancelled**, whatever the cancellations, the handlers and every other call do
between each other's accesses. -/
theorem noDelivery_run {ls ms : List HandoffLabel} {sys t : HandoffSystem} {handoffId : String}
    (hrun : Run (deliveryStep py policy) {} ls sys) (hreturned : handoffId ∈ sys.cancelled)
    (hlater : Run (deliveryStep py policy) sys ms t) :
    IsCancelled t.shared.store handoffId ∧
      t.started.count handoffId = sys.started.count handoffId := by
  have hkept : Serialized py t ∧ handoffId ∈ t.cancelled ∧
      t.started.count handoffId = sys.started.count handoffId := by
    refine hlater.invariant (I := fun u => Serialized py u ∧ handoffId ∈ u.cancelled ∧
      u.started.count handoffId = sys.started.count handoffId) ?_ ⟨.run hrun, hreturned, rfl⟩
    rintro u l v ⟨hu, hmem, hcount⟩ hstep
    obtain ⟨hmem', hcount'⟩ := deliveryStep_started hu hmem hstep
    exact ⟨hu.step hstep, hmem', hcount'.trans hcount⟩
  exact ⟨hkept.1.cancelled _ hkept.2.1, hkept.2.2⟩

end After

/-! ## A handler that comes late -/

section Decisions

variable {py : Python} {sys : HandoffSystem}

instance (c : CancelCall) : Decidable c.Ended := by
  cases c <;> unfold CancelCall.Ended <;> infer_instance

instance (c : DeliveryRun) : Decidable c.Ended := by
  cases c <;> unfold DeliveryRun.Ended <;> infer_instance

instance (i : Nat) (request : CancelRequest) :
    Decidable (HandoffLabel.Allowed py sys (.cancel i request)) :=
  inferInstanceAs (Decidable (sys.cancels i).Ended)

instance (j : Nat) (intent : OutboxIntent) :
    Decidable (HandoffLabel.Allowed py sys (.deliver j intent)) :=
  inferInstanceAs (Decidable (sys.runs j).Ended)

instance (i : Nat) (draws : CancelDraws) :
    Decidable (HandoffLabel.Allowed py sys (.turnCancel i draws)) :=
  inferInstanceAs (Decidable (∀ k ∈ (sys.cancels i).waitsFor, sys.guards k = none))

instance (j : Nat) (draws : DeliveryDraws) :
    Decidable (HandoffLabel.Allowed py sys (.turnDelivery j draws)) :=
  inferInstanceAs (Decidable (∀ k ∈ (sys.runs j).waitsFor, sys.guards k = none))

end Decisions

def deliverSecond : OutboxIntent where
  outboxId := "outbox_web"
  intentType := .engineeringHandoffRequested
  caseId := some "case_1"
  idempotencyKey := "engineering_handoff_requested:handoff_2"
  payload := [("handoff_id", .str "handoff_2")]
  nextAttemptAt := "2026-01-01T00:00:00+00:00"
  createdAt := "2026-01-01T00:00:00+00:00"

/-- A handler has taken the intent and waits; the handoff is cancelled. -/
def cancelledBefore : List HandoffLabel :=
  cancelledFirst.map .ledger ++
    .deliver 0 deliverSecond :: .cancel 0 (cancelSecond "cancel_2") ::
      List.replicate 9 (.turnCancel 0 eveningDraws)

def lateDraws : DeliveryDraws where
  deliveryId := "hd_1"
  now := "2026-01-01T03:00:00+00:00"
  payload := [("outbox_id", .str "outbox_web"), ("payload_hash", .str "sha256:2")]
  payloadHash := "sha256:0"
  pointerHash := "sha256:1"
  answer := .url (some "https://example.net/issues/7")

def cancelledSystem : HandoffSystem := cancelledBefore.foldl (HandoffSystem.after asciiPython {}) {}

theorem run_cancelledSystem :
    Run (deliveryStep asciiPython {}) {} cancelledBefore cancelledSystem := by
  have hcall : ∀ {s : Store} {op : HandoffOp}, op.Registered asciiPython s → op.Fresh s →
      (∀ call, StoreOp.handoff op = .handoff call → call.Registered asciiPython s) ∧
        ∀ call, StoreOp.handoff op = .handoff call → call.Fresh s := by
    intro s op hregistered hfresh
    constructor
    all_goals
      intro call heq
      cases heq
      assumption
  have hledger : ∀ {sys : HandoffSystem} {op : HandoffOp},
      (StoreOp.handoff op).Built asciiPython sys.shared.store →
      op.Registered asciiPython sys.shared.store → op.Fresh sys.shared.store →
      HandoffLabel.Allowed asciiPython sys (.ledger (.store (.handoff op))) :=
    fun hbuilt hregistered hfresh =>
      ⟨⟨hbuilt, (hcall hregistered hfresh).1⟩, (hcall hregistered hfresh).2⟩
  refine Run.of_valid (p := HandoffLabel.Allowed asciiPython) ⟨hledger trivial trivial trivial,
    hledger rfl rfl ⟨rfl, ?_⟩, hledger rfl rfl ⟨rfl, ?_⟩, hledger trivial trivial trivial,
    ?_, ?_, ?_, ?_, ?_, ?_, ?_, ?_, ?_, ?_, ?_, trivial⟩
  all_goals decide +kernel

def handledLate : List HandoffLabel :=
  [.turnDelivery 0 lateDraws, .turnDelivery 0 lateDraws]

/-- The handler that had taken the intent before the cancellation calls nobody. -/
theorem noDelivery_run_late :
    cancelledSystem.cancelled = ["handoff_2"] ∧
      let t := handledLate.foldl (HandoffSystem.after asciiPython {}) cancelledSystem
      IsCancelled t.shared.store "handoff_2" ∧
        t.started.count "handoff_2" = cancelledSystem.started.count "handoff_2" := by
  have hcancelled : cancelledSystem.cancelled = ["handoff_2"] := by decide +kernel
  have hlater : Valid (HandoffLabel.Allowed asciiPython) (HandoffSystem.after asciiPython {})
      cancelledSystem handledLate := by
    refine ⟨?_, ?_, trivial⟩
    all_goals decide +kernel
  exact ⟨hcancelled, noDelivery_run run_cancelledSystem (by rw [hcancelled]; exact .head _)
    (Run.of_valid hlater)⟩

end NocAgent.Cases
