import NocAgent.Cases.InvestigationClaims
import NocAgent.Cases.ReportRequests
import NocAgent.Lib.Paging

/-!
# The scan for due cases

`enqueue_due_case_reminders` walks the stored cases by pages, in the order of their ids, and keeps
a cursor from one call to the next.

* `Store.listReminderCandidates`, `Store.listAttentionCandidates` — one page.
* `ScanPlace.next` — `enqueue_attention`, and the reminder of one case, cut at every access to the
  store.
* `scanStep` — call after call, while others do anything to the store.
* `Pending`, `pending_step` — how near the scan is to a case.
* `visited_of_passes` — a case that stays a candidate is visited within a bounded number of passes.
-/

set_option autoImplicit false

namespace NocAgent.Cases

open Effects Effects.Action Keyed Lts Paging

/-! ## One page -/

/-- The two halves of `enqueue_due_case_reminders`; each has a cursor of its own. -/
inductive ScanKind where
  | attention
  | reminder
  deriving DecidableEq, Repr

/-- What `list_reminder_candidates` asks of a case. -/
def AtomicCaseProjection.reminderCandidate (case : AtomicCaseProjection) : Bool :=
  case.severity = .high ∧ case.lastReportedAt ≠ ""

/-- The clamp on the size of a page. -/
def pageLimit (limit : Int) : Nat := (max 0 (min limit 1000)).toNat

def Store.listReminderCandidates (s : Store) (afterCaseId : String) (limit : Int) :
    List AtomicCaseProjection :=
  page AtomicCaseProjection.caseId (pageLimit limit) afterCaseId
    (s.atomicCases.filter AtomicCaseProjection.reminderCandidate)

/-- A comprehension whose condition may raise. -/
def keepIf {α : Type} (test : α → Except PyExc Bool) : List α → Except PyExc (List α)
  | [] => .ok []
  | x :: xs =>
    match test x with
    | .error e => .error e
    | .ok keep =>
      match keepIf test xs with
      | .error e => .error e
      | .ok kept => .ok (if keep then x :: kept else kept)

/-- What `list_attention_candidates` asks of a case that the monitors own. -/
def Store.attentionCandidate (s : Store) (py : Python) (now reminderSeconds : Int)
    (case : AtomicCaseProjection) : Except PyExc Bool :=
  if case.owned = false then .ok false
  else
    match attentionDue py case (s.attention.get? case.caseId) now reminderSeconds with
    | .error e => .error e
    | .ok request => .ok request.isSome

def Store.listAttentionCandidates (s : Store) (py : Python) (afterCaseId : String) (limit : Int)
    (now reminderSeconds : Int) : Except PyExc (List AtomicCaseProjection) :=
  match keepIf (s.attentionCandidate py now reminderSeconds)
      (s.atomicCases.filter (afterCaseId < ·.caseId)) with
  | .error e => .error e
  | .ok due => .ok (page AtomicCaseProjection.caseId (pageLimit limit) afterCaseId due)

/-! ## One case -/

/-- What a turn draws, with the id of a new intent. -/
structure ScanDraws extends ReportDraws where
  outboxId : String
  createdAt : String

/-- `model_dump(mode="json")`. -/
def AttentionRequest.dump (request : AttentionRequest) : JsonDict :=
  [("kind", .str request.kind.text), ("generation", .int request.generation),
    ("phase", .str request.phase.text), ("severity", .str request.severity.text),
    ("expected_sequence", .int request.expectedSequence),
    ("idempotency_key", .str request.idempotencyKey)]

def attentionIntent (d : ScanDraws) (case : AtomicCaseProjection) (request : AttentionRequest) :
    OutboxIntent where
  outboxId := d.outboxId
  intentType := .report
  caseId := some case.caseId
  idempotencyKey := request.idempotencyKey
  payload := [("attention_request", .dict request.dump)]
  nextAttemptAt := d.nextAttemptAt
  createdAt := d.createdAt

/-- `eligible_again`: an intent that was completed without a delivery may have one after all. -/
def eligibleAgain (verbosity : Int) (request : AttentionRequest) (intent : OutboxIntent) : Bool :=
  let suppressed := intent.payload.get "notification_suppressed"
  if suppressed.isStr "attention_verbosity" then verbosity ≤ attentionLevel request.severity
  else suppressed.isStr "attention_no_longer_due"

/-- Where the turn of a case stands between two accesses to the store. -/
inductive ScanPlace where
  /-- before the `get_attention` of `enqueue_attention` -/
  | attending (case : AtomicCaseProjection)
  /-- before its `enqueue_outbox` -/
  | offering (case : AtomicCaseProjection) (request : AttentionRequest)
  /-- before its `update_outbox_if_status` -/
  | offered (request : AttentionRequest) (intent : OutboxIntent)
  /-- the compare-and-set was refused, before the second `enqueue_outbox` -/
  | again (intent : OutboxIntent)
  /-- before the `has_pending_attention` of `legacy_reminder_projection` -/
  | projecting (case : AtomicCaseProjection)
  /-- before its `get_attention` -/
  | bridging (case : AtomicCaseProjection)
  /-- before the `enqueue_outbox` of `request_report` -/
  | requesting (case : AtomicCaseProjection)
  | requested (request : ReportRequester)
  | finished (enqueued : Bool)

/-- The settings of a runtime: `policy` is its service's. -/
structure ScanSettings where
  processor : OutboxProcessor
  policy : CasePolicy
  batchSize : Int := 100

variable (env : ScanSettings)

/-- `reminder_case is not None and should_remind(reminder_case)`. -/
def remindIfDue (d : ScanDraws) (case : AtomicCaseProjection) : StoreM ScanPlace :=
  match shouldRemind env.processor.py env.policy d.enabled case d.now with
  | .error e => raise e
  | .ok true => pure (.requesting case)
  | .ok false => pure (.finished false)

/-- One turn; `now` is the reading of the clock that the call started with. -/
def ScanPlace.next (now : Int) (d : ScanDraws) : ScanPlace → StoreM ScanPlace
  | .attending case =>
    if case.owned = false then pure (.finished false)
    else do
      let previous ← peek fun s => s.attention.get? case.caseId
      match attentionDue env.processor.py case previous now env.policy.reportReassertS with
      | .error e => raise e
      | .ok none => pure (.finished false)
      | .ok (some request) => pure (.offering case request)
  | .offering case request => do
    let intent ← enqueueOutbox (attentionIntent d case request)
    pure (.offered request intent)
  | .offered request intent =>
    if intent.status = .succeeded ∧ eligibleAgain d.verbosity request intent = true then do
      let updated ← updateOutboxIfStatus
        (reopened d.nextAttemptAt ["notification_suppressed"] intent) .succeeded
        (some intent.claimToken)
      match updated with
      | some _ => pure (.finished true)
      | none => pure (.again intent)
    else pure (.finished true)
  | .again intent => do
    let _ ← enqueueOutbox intent
    pure (.finished true)
  | .projecting case =>
    if case.owned = false then remindIfDue env d case
    else do
      let pending ← peek fun s => s.hasPendingAttention case.caseId
      if pending then pure (.finished false) else pure (.bridging case)
  | .bridging case => do
    let attention ← peek fun s => s.attention.get? case.caseId
    match bridged env.processor.py case attention with
    | .error e => raise e
    | .ok projected => remindIfDue env d projected
  | .requesting case => do
    let request ← requestReport env.processor {
      case := case
      payload := [("source", .str "reminder_scheduler")]
      outboxId := d.outboxId
      nextAttemptAt := d.nextAttemptAt
      createdAt := d.createdAt }
    pure (.requested request)
  | .requested request => do
    let request ← request.next env.processor env.policy d.toReportDraws
    match request with
    | .returned _ => pure (.finished true)
    | request => pure (.requested request)
  | .finished enqueued => pure (.finished enqueued)

/-! ## Call after call -/

/-- A call of `enqueue_due_case_reminders`, at a case of the page `found`. -/
inductive Scan where
  | idle
  | walking (kind : ScanKind) (now : Int) (found : List AtomicCaseProjection)
      (case : AtomicCaseProjection) (place : ScanPlace) (rest : List AtomicCaseProjection)
      (count : Nat)

/-- The store, and how far the two scans are. -/
structure ScanSystem where
  store : Store
  /-- `attention_cursor` and `reminder_cursor` -/
  cursors : ScanKind → String
  scan : Scan
  /-- the cases whose turns have finished -/
  visited : ScanKind → List String
  /-- the calls that have moved their cursor -/
  passes : ScanKind → Nat

def ScanSystem.fresh (s : Store) (cursors : ScanKind → String) : ScanSystem where
  store := s
  cursors := cursors
  scan := .idle
  visited _ := []
  passes _ := 0

/-- What a call reads before its page. -/
structure TickDraws where
  now : Int
  /-- `attention_enabled()` -/
  enabled : Bool
  /-- `NOC_CASESERVICE_REACTIVE_REPORT` -/
  reactiveReport : Bool

def TickDraws.kind (d : TickDraws) : Option ScanKind :=
  if d.enabled then some .attention else if d.reactiveReport then some .reminder else none

inductive ScanLabel where
  | tick (d : TickDraws)
  | turn (d : ScanDraws)
  /-- the call is cancelled -/
  | cancel
  /-- what others do to the store -/
  | elsewhere (t : Store)

def ScanPlace.enter (case : AtomicCaseProjection) : ScanKind → ScanPlace
  | .attention => .attending case
  | .reminder => .projecting case

def ScanSettings.batch : Int := max 1 (min env.batchSize 1000)

/-- The page of a call. -/
def ScanSystem.found (sys : ScanSystem) (now : Int) :
    ScanKind → Except PyExc (List AtomicCaseProjection)
  | .attention => sys.store.listAttentionCandidates env.processor.py (sys.cursors .attention)
      env.batch now env.policy.reportReassertS
  | .reminder => .ok (sys.store.listReminderCandidates (sys.cursors .reminder) env.batch)

/-- On to the next case of the page, or the end of the call. -/
def ScanSystem.walk (sys : ScanSystem) (kind : ScanKind) (now : Int)
    (found : List AtomicCaseProjection) (count : Nat) : List AtomicCaseProjection → ScanSystem
  | [] => { sys with
      scan := .idle
      cursors := Function.update sys.cursors kind
        (nextCursor AtomicCaseProjection.caseId "" env.batch.toNat found)
      passes := Function.update sys.passes kind (sys.passes kind + 1) }
  | case :: rest => { sys with scan := .walking kind now found case (.enter case kind) rest count }

/-- A call that raises is logged and leaves its cursor. -/
def ScanSystem.after (sys : ScanSystem) : ScanLabel → ScanSystem
  | .tick d =>
    match d.kind with
    | none => sys
    | some kind =>
      match sys.found env d.now kind with
      | .error _ => sys
      | .ok found => sys.walk env kind d.now found 0 found
  | .turn d =>
    match sys.scan with
    | .idle => sys
    | .walking kind now found case place rest count =>
      match place.next env now d sys.store with
      | (.error _, t) => { sys with store := t, scan := .idle }
      | (.ok (.finished enqueued), t) =>
        ({ sys with
            store := t
            visited := Function.update sys.visited kind
              (sys.visited kind ++ [case.caseId]) } : ScanSystem).walk env kind now found
          (count + enqueued.toNat) rest
      | (.ok place, t) => { sys with
          store := t
          scan := .walking kind now found case place rest count }
  | .cancel => { sys with scan := .idle }
  | .elsewhere t => { sys with store := t }

/-- The outbox loop makes one call at a time. -/
def ScanLabel.Allowed (sys : ScanSystem) : ScanLabel → Prop
  | .tick _ => sys.scan = .idle
  | _ => True

def scanStep (sys : ScanSystem) (l : ScanLabel) (t : ScanSystem) : Prop :=
  l.Allowed sys ∧ t = sys.after env l

/-! ## What a page has -/

variable {env}

/-- The case would be listed by a call now, were the cursor before it. -/
def ScanSystem.Candidate (env : ScanSettings) (sys : ScanSystem) (now : Int)
    (case : AtomicCaseProjection) : ScanKind → Prop
  | .attention => case ∈ sys.store.atomicCases ∧
    sys.store.attentionCandidate env.processor.py now env.policy.reportReassertS case = .ok true
  | .reminder => case ∈ sys.store.atomicCases ∧ case.reminderCandidate = true

theorem batch_pos : 0 < env.batch.toNat := by
  unfold ScanSettings.batch
  omega

theorem pageLimit_batch : pageLimit env.batch = env.batch.toNat := by
  unfold pageLimit ScanSettings.batch
  omega

theorem map_caseId_atomic : ∀ rows : List CaseProjection,
    ((rows.filterMap CaseProjection.atomic?).map AtomicCaseProjection.caseId).Sublist
      (rows.map CaseProjection.caseId)
  | [] => .slnil
  | .atomic case :: rows => by
    rw [List.filterMap_cons_some (by rfl)]
    exact (map_caseId_atomic rows).cons_cons _
  | .storm case :: rows => by
    rw [List.filterMap_cons_none (by rfl)]
    exact (map_caseId_atomic rows).cons _

theorem atomicCases_nodup (s : Store) : (s.atomicCases.map AtomicCaseProjection.caseId).Nodup :=
  s.cases.nodup.sublist (map_caseId_atomic _)

theorem keepIf_ok {α : Type} {test : α → Except PyExc Bool} : ∀ {xs kept : List α},
    keepIf test xs = .ok kept →
      kept.Sublist xs ∧ ∀ x, x ∈ kept ↔ x ∈ xs ∧ test x = .ok true
  | [], kept, h => by
    cases h
    exact ⟨.slnil, fun x => by simp⟩
  | y :: ys, kept, h => by
    unfold keepIf at h
    rcases hy : test y with e | keep
    · rw [hy] at h
      cases h
    rw [hy] at h
    rcases hys : keepIf test ys with e | kept'
    · simp only [hys] at h
      cases h
    simp only [hys] at h
    obtain ⟨hsub, hmem⟩ := keepIf_ok hys
    cases h
    cases keep with
    | true =>
      refine ⟨hsub.cons_cons _, fun x => ?_⟩
      simp only [if_true, List.mem_cons, hmem]
      constructor
      · rintro (rfl | ⟨hx, ht⟩)
        · exact ⟨Or.inl rfl, hy⟩
        · exact ⟨Or.inr hx, ht⟩
      · rintro ⟨rfl | hx, ht⟩
        · exact Or.inl rfl
        · exact Or.inr ⟨hx, ht⟩
    | false =>
      refine ⟨hsub.cons _, fun x => ?_⟩
      simp only [Bool.false_eq_true, if_false, List.mem_cons, hmem]
      constructor
      · rintro ⟨hx, ht⟩
        exact ⟨Or.inr hx, ht⟩
      · rintro ⟨rfl | hx, ht⟩
        · rw [hy] at ht
          cases ht
        · exact ⟨hx, ht⟩

/-- **A call lists one page of the candidates.** -/
theorem found_page {sys : ScanSystem} {now : Int} {kind : ScanKind}
    {found : List AtomicCaseProjection} (h : sys.found env now kind = .ok found) :
    ∃ rows, found = page AtomicCaseProjection.caseId env.batch.toNat (sys.cursors kind) rows ∧
      (rows.map AtomicCaseProjection.caseId).Nodup ∧
      (∀ case ∈ rows, sys.Candidate env now case kind) ∧
      ∀ case, sys.Candidate env now case kind → sys.cursors kind < case.caseId → case ∈ rows := by
  cases kind with
  | attention =>
    simp only [ScanSystem.found, Store.listAttentionCandidates] at h
    split at h
    · cases h
    rename_i due hdue
    cases h
    obtain ⟨hsub, hmem⟩ := keepIf_ok hdue
    refine ⟨due, by rw [pageLimit_batch], ?_, fun case hcase => ?_, fun case hcase hafter => ?_⟩
    · exact (atomicCases_nodup sys.store).sublist ((hsub.trans List.filter_sublist).map _)
    · obtain ⟨hin, htest⟩ := (hmem case).1 hcase
      exact ⟨(List.mem_filter.1 hin).1, htest⟩
    · exact (hmem case).2 ⟨List.mem_filter.2 ⟨hcase.1, by simpa using hafter⟩, hcase.2⟩
  | reminder =>
    cases h
    refine ⟨sys.store.atomicCases.filter AtomicCaseProjection.reminderCandidate, ?_, ?_,
      fun case hcase => List.mem_filter.1 hcase, fun case hcase _ => List.mem_filter.2 hcase⟩
    · show sys.store.listReminderCandidates _ _ = _
      unfold Store.listReminderCandidates
      rw [pageLimit_batch]
    · exact (atomicCases_nodup sys.store).sublist (List.filter_sublist.map _)

/-! ## How near the scan is to a case -/

section Fairness

variable {kind : ScanKind} {keys : Finset String} {c : String} {total : Nat}

/-- At every call of the kind, `c` is the id of a candidate, and all candidates have ids in
`keys`. -/
def Listed (env : ScanSettings) (kind : ScanKind) (keys : Finset String) (c : String)
    (sys : ScanSystem) : ScanLabel → Prop
  | .tick d => d.kind = some kind →
    (∀ case, sys.Candidate env d.now case kind → case.caseId ∈ keys) ∧
      ∃ case, sys.Candidate env d.now case kind ∧ case.caseId = c
  | _ => True

/-- `wait` in the pages of a runtime. -/
def ScanSettings.wait (env : ScanSettings) (keys : Finset String) (cursor c : String) : Nat :=
  Paging.wait keys "" env.batch.toNat cursor c

/-- The cursor that the page of a call leaves. -/
def ScanSettings.next (env : ScanSettings) (found : List AtomicCaseProjection) : String :=
  nextCursor AtomicCaseProjection.caseId "" env.batch.toNat found

/-- The case waits at most `total` passes, and the page that is being walked has it or brings it
nearer. -/
def Pending (env : ScanSettings) (kind : ScanKind) (keys : Finset String) (c : String)
    (total : Nat) (sys : ScanSystem) : Prop :=
  sys.passes kind + env.wait keys (sys.cursors kind) c ≤ total ∧
    ∀ now found case place rest count, sys.scan = .walking kind now found case place rest count →
      c ∈ (case :: rest).map AtomicCaseProjection.caseId ∨
        env.wait keys (env.next found) c < env.wait keys (sys.cursors kind) c

theorem Pending.idle {sys : ScanSystem}
    (h : sys.passes kind + env.wait keys (sys.cursors kind) c ≤ total) (hidle : sys.scan = .idle) :
    Pending env kind keys c total sys := by
  refine ⟨h, fun now found case place rest count hscan => ?_⟩
  rw [hidle] at hscan
  cases hscan

/-- The next case of a page, or the end of the pass. -/
theorem Pending.walk {sys : ScanSystem} {k : ScanKind} {now : Int}
    {found todo : List AtomicCaseProjection} {count : Nat}
    (h : sys.passes kind + env.wait keys (sys.cursors kind) c ≤ total)
    (hpage : k = kind → c ∈ todo.map AtomicCaseProjection.caseId ∨
      env.wait keys (env.next found) c < env.wait keys (sys.cursors kind) c) :
    Pending env kind keys c total (sys.walk env k now found count todo) := by
  cases todo with
  | nil =>
    refine Pending.idle ?_ rfl
    by_cases hk : kind = k
    · subst hk
      have hnear := (hpage rfl).resolve_left List.not_mem_nil
      simp only [ScanSystem.walk, Function.update_self]
      show _ + env.wait keys (env.next found) c ≤ total
      omega
    · simp only [ScanSystem.walk, Function.update_of_ne hk]
      exact h
  | cons case rest =>
    refine ⟨h, fun now' found' case' place rest' count' hscan => ?_⟩
    cases hscan
    exact hpage rfl

theorem empty_lt (hc : c ≠ "") : "" < c := by
  rw [String.lt_iff_toList_lt]
  have hne : c.toList ≠ [] := by simpa using hc
  obtain ⟨a, rest, hcons⟩ := List.exists_cons_of_ne_nil hne
  rw [hcons]
  exact List.nil_lt_cons a rest

/-- **A call lists the case, or brings it nearer.** -/
theorem found_near {sys : ScanSystem} {now : Int} {found : List AtomicCaseProjection}
    (hfound : sys.found env now kind = .ok found) (hc : c ≠ "")
    (hkeys : ∀ case, sys.Candidate env now case kind → case.caseId ∈ keys)
    (hlisted : ∃ case, sys.Candidate env now case kind ∧ case.caseId = c) :
    c ∈ found.map AtomicCaseProjection.caseId ∨
      env.wait keys (env.next found) c < env.wait keys (sys.cursors kind) c := by
  obtain ⟨rows, rfl, hnodup, hrows, hall⟩ := found_page hfound
  by_cases hin : c ∈ (page AtomicCaseProjection.caseId env.batch.toNat (sys.cursors kind) rows).map
      AtomicCaseProjection.caseId
  · exact Or.inl hin
  · right
    refine wait_nextCursor batch_pos ?_ hnodup (fun case hcase => hkeys case (hrows case hcase))
      (fun hafter => ?_) hin
    · exact empty_lt hc
    · obtain ⟨case, hcase, rfl⟩ := hlisted
      exact List.mem_map_of_mem (hall case hcase hafter)

@[simp] theorem walk_visited (sys : ScanSystem) (k : ScanKind) (now : Int)
    (found todo : List AtomicCaseProjection) (count : Nat) :
    (sys.walk env k now found count todo).visited = sys.visited := by
  cases todo <;> rfl

/-- A case that has been visited stays visited. -/
theorem visited_mono {sys : ScanSystem} (l : ScanLabel) (h : c ∈ sys.visited kind) :
    c ∈ (sys.after env l).visited kind := by
  cases l with
  | tick d =>
    simp only [ScanSystem.after]
    split
    · exact h
    · split
      · exact h
      · rwa [walk_visited]
  | turn d =>
    simp only [ScanSystem.after]
    split
    · exact h
    · rename_i k now found case place rest count hscan
      split
      · exact h
      · rw [walk_visited]
        show c ∈ Function.update sys.visited k (sys.visited k ++ [case.caseId]) kind
        by_cases hk : kind = k
        · subst hk
          rw [Function.update_self]
          exact List.mem_append_left _ h
        · rwa [Function.update_of_ne hk]
      · exact h
  | cancel => exact h
  | elsewhere t => exact h

theorem pending_step {sys t : ScanSystem} {l : ScanLabel} (hc : c ≠ "")
    (hlisted : Listed env kind keys c sys l) (hstep : scanStep env sys l t)
    (h : c ∈ sys.visited kind ∨ Pending env kind keys c total sys) :
    c ∈ t.visited kind ∨ Pending env kind keys c total t := by
  obtain ⟨hallowed, rfl⟩ := hstep
  rcases h with hvisited | h
  · exact Or.inl (visited_mono l hvisited)
  obtain ⟨hwait, hpage⟩ := h
  cases l with
  | tick d =>
    right
    have hidle : sys.scan = .idle := hallowed
    simp only [ScanSystem.after]
    split
    · exact Pending.idle hwait hidle
    · rename_i k hk
      split
      · exact Pending.idle hwait hidle
      · rename_i found hfound
        refine Pending.walk hwait fun hkind => ?_
        subst hkind
        exact found_near hfound hc (hlisted hk).1 (hlisted hk).2
  | turn d =>
    simp only [ScanSystem.after]
    split
    · right
      exact ⟨hwait, hpage⟩
    · rename_i k now found case place rest count hscan
      split
      · right
        exact Pending.idle hwait rfl
      · rename_i enqueued s _
        by_cases hkind : k = kind
        · subst hkind
          rcases hpage now found case place rest count hscan with hin | hnear
          · rcases List.mem_cons.1 hin with rfl | hin
            · left
              rw [walk_visited]
              simp
            · right
              exact Pending.walk hwait fun _ => Or.inl hin
          · right
            exact Pending.walk hwait fun _ => Or.inr hnear
        · right
          exact Pending.walk hwait fun hk => absurd hk hkind
      · right
        refine ⟨hwait, fun now' found' case' place' rest' count' hscan' => ?_⟩
        cases hscan'
        exact hpage now found case place rest count hscan
  | cancel =>
    right
    exact Pending.idle hwait rfl
  | elsewhere s =>
    right
    exact ⟨hwait, hpage⟩

/-- **A case that is a candidate at every call is visited by the last of so many passes**, whatever
others do to the store and however many calls raise. -/
theorem visited_of_passes {s : Store} {cursors : ScanKind → String} {ls : List ScanLabel}
    {sys : ScanSystem} (hc : c ≠ "") (hkeys : c ∈ keys)
    (h : Run (Guarded (scanStep env) (Listed env kind keys c)) (.fresh s cursors) ls sys)
    (hpasses : (keys.card - 1) / env.batch.toNat + 2 ≤ sys.passes kind) :
    c ∈ sys.visited kind := by
  have hstart : Pending env kind keys c ((keys.card - 1) / env.batch.toNat + 2)
      (.fresh s cursors) := by
    refine Pending.idle ?_ rfl
    show 0 + env.wait keys (cursors kind) c ≤ _
    rw [Nat.zero_add]
    exact wait_le hkeys
  have hend := h.invariant
    (I := fun sys => c ∈ sys.visited kind ∨
      Pending env kind keys c ((keys.card - 1) / env.batch.toNat + 2) sys)
    (fun _ _ _ hi hl => pending_step hc hl.1 hl.2 hi) (Or.inr hstart)
  rcases hend with hvisited | ⟨hwait, -⟩
  · exact hvisited
  · have hpos : 0 < env.wait keys (sys.cursors kind) c := wait_pos keys
    omega

/-- Two critical cases that their operator has acknowledged, by pages of one. -/
def quietCase (caseId : String) : AtomicCaseProjection where
  caseId := caseId
  severity := .high
  openedAt := ""
  updatedAt := ""
  lastReportedAt := "2026-01-01T00:00:00+00:00"
  acknowledgedBy := "operator"

def acknowledgedStore : Store :=
  { cases := (Table.empty.put (.atomic (quietCase "case_a"))).put
      (.atomic (quietCase "case_b")) }

def narrowScan (py : Python) : ScanSettings where
  processor := { py := py, handles := fun _ => true }
  policy := {}
  batchSize := 1

def reminderTick : ScanLabel := .tick { now := 0, enabled := false, reactiveReport := true }

def reminderTurn : ScanLabel :=
  .turn {
    now := 0
    nextAttemptAt := ""
    enabled := false
    verbosity := 20
    outboxId := ""
    createdAt := "" }

/-- A call that may be made, or a turn. -/
def ScanLabel.Scheduled (sys : ScanSystem) : ScanLabel → Prop
  | .tick d => d.kind = some .reminder ∧ match sys.scan with
    | .idle => True
    | .walking .. => False
  | .turn _ => True
  | .cancel | .elsewhere _ => False

instance (sys : ScanSystem) (l : ScanLabel) : Decidable (l.Scheduled sys) := by
  unfold ScanLabel.Scheduled
  cases l with
  | tick d => cases sys.scan <;> infer_instance
  | _ => infer_instance

theorem ScanLabel.Scheduled.allowed {sys : ScanSystem} {l : ScanLabel} (h : l.Scheduled sys) :
    l.Allowed sys := by
  cases l with
  | tick d =>
    have h := h.2
    show sys.scan = .idle
    cases hscan : sys.scan with
    | idle => rfl
    | walking =>
      rw [hscan] at h
      exact h.elim
  | _ => trivial

/-- The end of one scan and the whole of the next. -/
def acknowledgedRun : List ScanLabel :=
  [reminderTick, reminderTick, reminderTurn, reminderTick, reminderTurn]

def acknowledgedSystem : ScanSystem :=
  acknowledgedRun.foldl (ScanSystem.after (narrowScan asciiPython))
    (.fresh acknowledgedStore fun _ => "case_b")

def AcknowledgedPair (sys : ScanSystem) (l : ScanLabel) : Prop :=
  l.Scheduled sys ∧ sys.store.atomicCases.map AtomicCaseProjection.caseId = ["case_a", "case_b"] ∧
    ∀ case ∈ sys.store.atomicCases, case.reminderCandidate = true

instance (sys : ScanSystem) (l : ScanLabel) : Decidable (AcknowledgedPair sys l) := by
  unfold AcknowledgedPair; infer_instance

theorem AcknowledgedPair.listed {sys : ScanSystem} {l : ScanLabel} (h : AcknowledgedPair sys l) :
    Listed env .reminder {"case_a", "case_b"} "case_b" sys l := by
  obtain ⟨-, hids, hall⟩ := h
  cases l with
  | tick d =>
    intro _
    refine ⟨fun case hcase => ?_, ?_⟩
    · have := List.mem_map_of_mem (f := AtomicCaseProjection.caseId) hcase.1
      rw [hids] at this
      simpa using this
    · have hin : "case_b" ∈ sys.store.atomicCases.map AtomicCaseProjection.caseId := by
        rw [hids]
        decide
      obtain ⟨case, hcase, hid⟩ := List.mem_map.1 hin
      exact ⟨case, ⟨hcase, hall case hcase⟩, hid⟩
  | _ => trivial

theorem visited_of_passes_acknowledged : "case_b" ∈ acknowledgedSystem.visited .reminder :=
  visited_of_passes (by decide) (by decide)
    ((Run.of_valid (p := AcknowledgedPair) (by decide +kernel)).carry (I := fun _ => True)
      (fun _ _ _ _ h => ⟨trivial, h.1.listed, h.1.1.allowed, h.2⟩) trivial :
        Run (Guarded (scanStep (narrowScan asciiPython))
          (Listed (narrowScan asciiPython) .reminder {"case_a", "case_b"} "case_b"))
          (.fresh acknowledgedStore fun _ => "case_b") acknowledgedRun acknowledgedSystem)
    (by decide +kernel)

end Fairness

end NocAgent.Cases
