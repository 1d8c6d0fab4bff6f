import NocAgent.Cases.Service
import NocAgent.Lib.Disk
import NocAgent.Lib.Lts
import NocAgent.Lib.Stepwise

/-!
# The report spool

* `SpoolPath`, `SpoolFile`, `SpoolOp` — the files of the spool and of its quarantine, and the
  changes to them.
* `Retainer.next` — `retain_report`, cut at every access to the file system.
* `Replayer.next` — `replay_reports`, cut at every access to the file system and to the store.
* `spoolStep` — any number of both over one directory and one store; calls end anywhere, and the
  host crashes.
-/

set_option autoImplicit false

namespace NocAgent.Cases

open Effects Effects.Action Keyed Lts Storage

/-! ## The files -/

inductive SpoolPath where
  /-- `.pending-name` -/
  | temporary (name : String)
  /-- `stem.json` -/
  | record (stem : String)
  /-- `stem.invalid`, quarantined by an older version -/
  | invalid (stem : String)
  /-- `quarantine/stem.invalid` -/
  | quarantined (stem : String)
  deriving DecidableEq, Repr

def SpoolPath.stem : SpoolPath → String
  | .temporary name => ".pending-" ++ name
  | .record stem | .invalid stem | .quarantined stem => stem

/-- A file of the spool, and whether its data is durable. -/
structure SpoolFile where
  text : String
  /-- the data was synced; else a crash may leave anything in its place -/
  synced : Bool
  deriving DecidableEq, Repr

abbrev Spool := Index SpoolPath SpoolFile

/-- What a system call changes, as one step.  `rename` has the file that it moves. -/
inductive SpoolOp where
  | write (path : SpoolPath) (file : SpoolFile)
  | unlink (path : SpoolPath)
  | rename (source target : SpoolPath) (file : SpoolFile)
  deriving DecidableEq

def Spool.apply (s : Spool) : SpoolOp → Spool
  | .write path file => s.set path file
  | .unlink path => s.pop path
  | .rename source target file => (s.pop source).set target file

/-- What a crash does to the data that was not synced. -/
def Spool.damaged (garbage : SpoolPath → String) (s : Spool) : Spool := fun path =>
  (s path).map fun file => if file.synced then file else { file with text := garbage path }

abbrev SpoolDisk := Disk Spool SpoolOp

/-- What calls have in common: the directory and the store. -/
structure SpoolHost where
  disk : SpoolDisk
  store : Store

abbrev SpoolM := Action SpoolHost PyExc

def SpoolHost.file? (h : SpoolHost) (path : SpoolPath) : Option SpoolFile :=
  h.disk.current Spool.apply path

def onDisk (f : SpoolDisk → SpoolDisk) : SpoolM Unit := alter fun h => { h with disk := f h.disk }

def onStore {α : Type} (x : StoreM α) : SpoolM α := fun h =>
  let r := x h.store
  (r.1, { h with store := r.2 })

/-- `path.unlink(missing_ok=True)`. -/
def unlinkFile (path : SpoolPath) : SpoolM Unit := do
  let file ← peek fun h => h.file? path
  match file with
  | none => pure ()
  | some _ => onDisk fun d => d.write (.unlink path)

/-- `_sync_directory` of the spool.  Everything that happens to a file happens to this directory,
so all of it is synced. -/
def syncSpool : SpoolM Unit := onDisk fun d => d.sync Spool.apply

/-! ## Retention -/

def MAX_RECORD_BYTES : Nat := 262144

def MAX_HEALTH_SCAN_ENTRIES : Nat := 1000

/-- `hashlib.sha256` and the JSON form of an intent. -/
structure SpoolCodec where
  hexdigest : String → String
  dumpJson : OutboxIntent → String
  /-- `OutboxIntent.model_validate_json` -/
  validateJson : String → Except PyExc OutboxIntent

/-- A terminal report. -/
def OutboxIntent.Terminal (intent : OutboxIntent) : Prop :=
  intent.intentType = .report ∧ (intent.payload.get "card_update").dict?.isSome

instance (intent : OutboxIntent) : Decidable intent.Terminal := by
  unfold OutboxIntent.Terminal; infer_instance

section Spooling

variable (codec : SpoolCodec)

def recordPath (intent : OutboxIntent) : SpoolPath :=
  .record (codec.hexdigest intent.idempotencyKey)

/-- Where a call of `retain_report` stands, with its local variables. -/
inductive Retainer where
  | idle
  /-- before `mkstemp` -/
  | making (intent : OutboxIntent)
  | writing (intent : OutboxIntent) (name : String)
  /-- before the `fsync` of the file -/
  | flushing (intent : OutboxIntent) (name : String)
  | replacing (intent : OutboxIntent) (name : String)
  /-- before `_sync_directory` -/
  | syncing (intent : OutboxIntent) (name : String)
  /-- before the `unlink` of the `finally`; `kept`: nothing was raised -/
  | cleaning (intent : OutboxIntent) (name : String) (kept : Bool)
  | returned (intent : OutboxIntent)

/-- The call, up to its first access to the file system; `idle` is `ValueError`. -/
def Retainer.start (intent : OutboxIntent) : Retainer :=
  if intent.Terminal ∧ (codec.dumpJson intent).utf8ByteSize ≤ MAX_RECORD_BYTES then .making intent
  else .idle

/-- What a turn draws: the name of `mkstemp`, and whether the access raises. -/
structure RetainDraws where
  name : String := ""
  failed : Bool := false

/-- The open file is written, if its name is still there. -/
def rewriteTemporary (name : String) (file : SpoolFile) : SpoolM Unit := do
  let old ← peek fun h => h.file? (.temporary name)
  match old with
  | none => pure ()
  | some _ => onDisk fun d => d.write (.write (.temporary name) file)

/-- One turn. -/
def Retainer.next (d : RetainDraws) : Retainer → SpoolM Retainer
  | .idle => pure .idle
  | .making intent =>
    if d.failed then pure .idle
    else do
      onDisk fun disk => disk.write (.write (.temporary d.name) ⟨"", false⟩)
      pure (.writing intent d.name)
  | .writing intent name =>
    if d.failed then pure (.cleaning intent name false)
    else do
      rewriteTemporary name ⟨codec.dumpJson intent, false⟩
      pure (.flushing intent name)
  | .flushing intent name =>
    if d.failed then pure (.cleaning intent name false)
    else do
      rewriteTemporary name ⟨codec.dumpJson intent, true⟩
      pure (.replacing intent name)
  | .replacing intent name => do
    let file ← peek fun h => h.file? (.temporary name)
    match file with
    | none => pure (.cleaning intent name false)
    | some file =>
      if d.failed then pure (.cleaning intent name false)
      else do
        onDisk fun disk => disk.write (.rename (.temporary name) (recordPath codec intent) file)
        pure (.syncing intent name)
  | .syncing intent name =>
    if d.failed then pure (.cleaning intent name false)
    else do
      syncSpool
      pure (.cleaning intent name true)
  | .cleaning intent name kept =>
    if d.failed then pure .idle
    else do
      unlinkFile (.temporary name)
      if kept then pure (.returned intent) else pure .idle
  | .returned intent => pure (.returned intent)

/-! ## Replay -/

inductive EnqueueOutcome where
  | accepted
  /-- the intent was stored, and the reply was lost -/
  | replyLost
  /-- an SQLSTATE of class 23 -/
  | integrityError
  | failed
  deriving DecidableEq

/-- Where `_quarantine` returns to. -/
inductive AfterQuarantine where
  /-- the scan of `_pending` -/
  | scan (limit index migrated : Nat) (candidates : List String)
  /-- the loop of `replay_reports` -/
  | loop (rest : List String) (accepted : Nat)

/-- Where a call of `replay_reports` stands, with its local variables; records are given by their
stems. -/
inductive Replayer where
  | idle
  /-- before the next entry of `scandir` -/
  | scanning (limit index migrated : Nat) (candidates : List String)
  /-- before `destination.exists()` -/
  | quarantining (path : SpoolPath) (after : AfterQuarantine)
  /-- before the rename -/
  | moving (path : SpoolPath) (target : String) (after : AfterQuarantine)
  /-- before the sync of the quarantine directory -/
  | moved (after : AfterQuarantine)
  /-- before the sync of the spool -/
  | leaving (after : AfterQuarantine)
  /-- before `_read` of the first of the paths -/
  | reading (paths : List String) (accepted : Nat)
  | enqueueing (stem : String) (intent : OutboxIntent) (rest : List String) (accepted : Nat)
  | unlinking (stem : String) (rest : List String) (accepted : Nat)
  /-- before the last `_sync_directory` of a path -/
  | unlinked (rest : List String) (accepted : Nat)
  | returned (accepted : Nat)

/-- What a turn draws: the next entry of `scandir`, `uuid4().hex`, what becomes of the intent, and
whether the access raises. -/
structure ReplayDraws where
  entry : Option SpoolPath := none
  token : String := ""
  outcome : EnqueueOutcome := .accepted
  failed : Bool := false

/-- `heapq.nsmallest(limit, candidates)`: the end of `_pending`. -/
def nsmallest (limit : Nat) (candidates : List String) : List String :=
  (candidates.insertionSort fun a b => a ++ ".json" ≤ b ++ ".json").take limit

def Replayer.start (limit : Int) : Replayer :=
  match (max 0 (min limit 100)).toNat with
  | 0 => .reading [] 0
  | limit + 1 => .scanning (limit + 1) 0 0 []

/-- The next entry of the scan. -/
def scanEntry (limit index migrated : Nat) (candidates : List String) : Option SpoolPath → Replayer
  | none => .reading (nsmallest limit candidates) 0
  | some entry =>
    if MAX_HEALTH_SCAN_ENTRIES ≤ index then .reading (nsmallest limit candidates) 0
    else
      match entry with
      | .invalid stem => .quarantining (.invalid stem) (.scan limit (index + 1) migrated candidates)
      | .record stem => .scanning limit (index + 1) migrated (candidates ++ [stem])
      | .temporary _ | .quarantined _ => .scanning limit (index + 1) migrated candidates

/-- `_quarantine` has returned. -/
def AfterQuarantine.resume : AfterQuarantine → Replayer
  | .scan limit index migrated candidates =>
    if limit ≤ migrated + 1 then .reading (nsmallest limit candidates) 0
    else .scanning limit index (migrated + 1) candidates
  | .loop rest accepted => .reading rest accepted

/-- `_read` of a file that is there. -/
def readIntent (file : SpoolFile) : Except PyExc OutboxIntent :=
  if MAX_RECORD_BYTES < file.text.utf8ByteSize then .error .valueError
  else
    match codec.validateJson file.text with
    | .error e => .error e
    | .ok intent => if intent.Terminal then .ok intent else .error .valueError

/-- The name in the quarantine: a name that is taken is extended. -/
def quarantineStem (s : Spool) (stem token : String) : String :=
  if (s (.quarantined stem)).isSome then stem ++ "-" ++ token else stem

/-- One turn. -/
def Replayer.next (d : ReplayDraws) : Replayer → SpoolM Replayer
  | .idle => pure .idle
  | .scanning limit index migrated candidates =>
    if d.failed then pure .idle else pure (scanEntry limit index migrated candidates d.entry)
  | .quarantining path after => peek fun h =>
    if d.failed then .idle
    else .moving path (quarantineStem (h.disk.current Spool.apply) path.stem d.token) after
  | .moving path target after => do
    let file ← peek fun h => h.file? path
    match file with
    | none => pure after.resume
    | some file =>
      if d.failed then pure .idle
      else do
        onDisk fun disk => disk.write (.rename path (.quarantined target) file)
        pure (.moved after)
  -- what was synced of the quarantine alone may still be lost with the rename as a whole
  | .moved after => if d.failed then pure .idle else pure (.leaving after)
  | .leaving after =>
    if d.failed then pure .idle
    else do
      syncSpool
      pure after.resume
  | .reading [] accepted => pure (.returned accepted)
  | .reading (stem :: rest) accepted => peek fun h =>
    match h.file? (.record stem) with
    | none => .reading rest accepted
    | some file =>
      if d.failed then .quarantining (.record stem) (.loop rest accepted)
      else
        match readIntent codec file with
        | .error _ => .quarantining (.record stem) (.loop rest accepted)
        | .ok intent => .enqueueing stem intent rest accepted
  | .enqueueing stem intent rest accepted =>
    match d.outcome with
    | .accepted => do
      let _ ← onStore (enqueueOutbox intent)
      pure (.unlinking stem rest accepted)
    | .replyLost => do
      let _ ← onStore (enqueueOutbox intent)
      pure .idle
    | .integrityError => pure (.quarantining (.record stem) (.loop rest accepted))
    | .failed => pure .idle
  | .unlinking stem rest accepted =>
    if d.failed then pure .idle
    else do
      unlinkFile (.record stem)
      pure (.unlinked rest accepted)
  | .unlinked rest accepted =>
    if d.failed then pure .idle
    else do
      syncSpool
      pure (.reading rest (accepted + 1))
  | .returned accepted => pure (.returned accepted)

/-! ## Any number of both -/

/-- The host, and any number of calls that retain and replay. -/
structure SpoolSystem where
  host : SpoolHost
  retainers : Nat → Retainer
  replayers : Nat → Replayer
  /-- the intents for which `retain_report` has returned -/
  retained : List OutboxIntent

/-- No call is running. -/
def SpoolSystem.quiet (spool : Spool) (store : Store) : SpoolSystem where
  host := { disk := { durable := spool }, store := store }
  retainers _ := .idle
  replayers _ := .idle
  retained := []

inductive SpoolLabel where
  | retain (i : Nat) (intent : OutboxIntent)
  | keep (i : Nat) (d : RetainDraws)
  | replay (i : Nat) (limit : Int)
  | work (i : Nat) (d : ReplayDraws)
  /-- a call is cancelled, or its process ends -/
  | stopRetain (i : Nat)
  | stopReplay (i : Nat)
  /-- the host goes down: what was not synced is carried out in part -/
  | crash (kept : List SpoolOp) (garbage : SpoolPath → String)
  /-- what others do to the store -/
  | elsewhere (t : Store)

/-- The intent for which a call returns in this turn. -/
def Retainer.returning : Retainer → Retainer → List OutboxIntent
  | .cleaning _ _ _, .returned intent => [intent]
  | _, _ => []

def SpoolSystem.after (sys : SpoolSystem) : SpoolLabel → SpoolSystem
  | .retain i intent => { sys with
      retainers := Function.update sys.retainers i (.start codec intent) }
  | .keep i d =>
    let r := (sys.retainers i).next codec d sys.host
    { sys with
      host := r.2
      retainers := Function.update sys.retainers i (goto .idle r.1)
      retained := (sys.retainers i).returning (goto .idle r.1) ++ sys.retained }
  | .replay i limit => { sys with
      replayers := Function.update sys.replayers i (.start limit) }
  | .work i d =>
    let r := (sys.replayers i).next codec d sys.host
    { sys with
      host := r.2
      replayers := Function.update sys.replayers i (goto .idle r.1) }
  | .stopRetain i => { sys with retainers := Function.update sys.retainers i .idle }
  | .stopReplay i => { sys with replayers := Function.update sys.replayers i .idle }
  | .crash kept garbage => { sys with
      host := { sys.host with
        disk := sys.host.disk.crashed Spool.apply (Spool.damaged garbage) kept }
      retainers := fun _ => .idle
      replayers := fun _ => .idle }
  | .elsewhere t => { sys with host := { sys.host with store := t } }

/-- The name that `mkstemp` gave to a call. -/
def Retainer.temporary? : Retainer → Option String
  | .writing _ name | .flushing _ name | .replacing _ name | .syncing _ name
  | .cleaning _ name _ => some name
  | .idle | .making _ | .returned _ => none

def Store.Enqueued (s : Store) (key : String) : Prop :=
  ∃ row ∈ s.outbox.rows, row.idempotencyKey = key

/-- The outbox has one intent for a key: `ids` is the key of the intent that an id was drawn for,
and the index leads to the intent of its key. -/
structure Store.Keyed (ids : String → String) (s : Store) : Prop where
  ids : ∀ row ∈ s.outbox.rows, ids row.outboxId = row.idempotencyKey
  index : ∀ key id, s.outboxIndex key = some id →
    ∃ row, s.outbox.get? id = some row ∧ row.idempotencyKey = key

/-- `mkstemp` gives a name that no file has and no running call; an id was drawn for one intent
only; and others lose no intent of the store. -/
def SpoolLabel.Allowed (ids : String → String) (sys : SpoolSystem) : SpoolLabel → Prop
  | .retain _ intent => ids intent.outboxId = intent.idempotencyKey
  | .keep _ d => sys.host.file? (.temporary d.name) = none ∧
      ∀ j, d.name ∉ (sys.retainers j).temporary?
  | .replay _ _ | .work _ _ | .stopRetain _ | .stopReplay _ => True
  | .crash kept _ => kept.Sublist sys.host.disk.pending
  | .elsewhere t => t.Keyed ids ∧ ∀ key, sys.host.store.Enqueued key → t.Enqueued key

def spoolStep (ids : String → String) (sys : SpoolSystem) (l : SpoolLabel) (t : SpoolSystem) :
    Prop :=
  l.Allowed ids sys ∧ t = sys.after codec l

/-! ## What is retained -/

def SpoolFile.Holds (file : SpoolFile) (key : String) : Prop :=
  ∃ intent : OutboxIntent, file.text = codec.dumpJson intent ∧ intent.idempotencyKey = key

/-- An intent with the key is in the outbox, in a record of the spool or in the quarantine. -/
def SpoolSystem.Retains (sys : SpoolSystem) (key : String) : Prop :=
  sys.host.store.Enqueued key ∨
    (∃ stem, ∃ file ∈ sys.host.file? (.record stem), file.Holds codec key) ∨
    ∃ stem, ∃ file ∈ sys.host.file? (.quarantined stem), file.Holds codec key

end Spooling

end NocAgent.Cases
