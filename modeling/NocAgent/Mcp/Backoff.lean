import NocAgent.Lib.Action
import NocAgent.Lib.Lts
import NocAgent.Mcp.Owner
import Mathlib.Tactic.Linarith

/-!
# Reconnecting with a backoff

When the owner fails to connect, it puts the next attempt off: the snapshot of the client is degraded
and says from when on the owner may try again by itself.

* `ownerConnect`, `scheduleReconnectBackoff`, `raiseIfBackoffActive`, `handleOwnerCommand` — the code
  of the owner, with what its surroundings do.
* `ConnectEvent` — what is recorded of each attempt.
* `FailsWell`, `AttemptsWait` — a failure is reported and put off; nobody tries before that.
* `backoff_run_iff` — over every run, that is so for exactly the failures that were cleaned up and had
  less than 1024 before them.
-/

set_option autoImplicit false

namespace NocAgent.Mcp

open Effects Effects.Action Lts

/-! ## The client -/

/-- `MCPClientState`. -/
inductive ClientState where
  | connecting
  | connected
  | reconnecting
  | degraded
  | shutdown
  deriving DecidableEq

/-- `MCPClientSnapshot`. -/
structure ClientSnapshot where
  state : ClientState
  toolCount : Nat := 0
  error : Option String := none
  nextReconnectAt : Option ℚ := none
  reconnectBackoffS : Option ℚ := none
  deriving DecidableEq

/-- What opening the transport and the session comes to. -/
inductive ConnectEnd where
  | connected
  /-- it raises, with or without a session made; closing what was opened may raise as well -/
  | failed (e : PyExc) (session : Bool) (cleanup : Option PyExc)
  | cancelled
  deriving DecidableEq

/-- The surroundings of one attempt. -/
structure ConnectTry where
  /-- `time.monotonic()` when it begins -/
  begins : ℚ
  /-- what closing the session before raises, where there is one -/
  closing : Option PyExc := none
  connect : ConnectEnd
  /-- `time.monotonic()` when it has failed -/
  fails : ℚ := begins
  /-- `random.random()` -/
  random : ℚ := 0
  random_mem : 0 ≤ random ∧ random ≤ 1 := by decide
  deriving DecidableEq

/-- What `_owner_connect` can raise: a cancellation is no `Exception`. -/
inductive OwnerRaise where
  | error (e : PyExc)
  | cancelled
  deriving DecidableEq

/-- A failed attempt: what closing the session before raised, what the attempt raised and the snapshot
it left. -/
structure ConnectFailure where
  attempt : ConnectTry
  closing : Option PyExc
  raised : PyExc
  snapshot : ClientSnapshot
  deriving DecidableEq

inductive ConnectEvent where
  /-- `explicit`: for a `CONNECT` or a `RECONNECT` -/
  | attempted (explicit : Bool) (now : ℚ)
  | connected
  | failed (failure : ConnectFailure)
  deriving DecidableEq

/-- The client, as its owner sees it. -/
structure ReconnectClient where
  session : Bool := false
  /-- `_exit_stack` has something to close -/
  opened : Bool := false
  snapshot : ClientSnapshot := { state := .shutdown }
  reconnectFailures : Nat := 0
  log : List ConnectEvent := []
  /-- the owner has not begun -/
  fresh : Bool := true

abbrev OwnerAction (α : Type) := Action ReconnectClient OwnerRaise α

/-- `_set_snapshot`; without a count of tools the old one stays. -/
def ReconnectClient.setSnapshot (s : ReconnectClient) (state : ClientState) (toolCount : Nat)
    (error : Option String) (nextReconnectAt reconnectBackoffS : Option ℚ) : ReconnectClient :=
  { s with snapshot := ⟨state, toolCount, error, nextReconnectAt, reconnectBackoffS⟩ }

def ReconnectClient.record (s : ReconnectClient) (event : ConnectEvent) : ReconnectClient :=
  { s with log := s.log ++ [event] }

/-! ## The backoff -/

/-- `type(e).__name__`. -/
def PyExc.typeName : PyExc → String
  | .typeError => "TypeError"
  | .valueError => "ValueError"
  | .overflowError => "OverflowError"
  | .keyError => "KeyError"
  | .attributeError => "AttributeError"
  | .validationError => "ValidationError"
  | .named name _ => name

/-- `float(2 ** k)`; from `2 ** 1024` on it raises `OverflowError`. -/
def floatOfPow (k : Nat) : Option ℚ := if k < 1024 then some (2 ^ k) else none

/-- `min(base + random.uniform(0, min(base, 1.0)), 10.0)`. -/
def backoffDelay (base random : ℚ) : ℚ := min (base + min base 1 * random) 10

/-- `_schedule_reconnect_backoff`. -/
def scheduleReconnectBackoff (t : ConnectTry) (e : PyExc) : OwnerAction Unit := do
  alter fun s => { s with reconnectFailures := s.reconnectFailures + 1 }
  let failures ← peek ReconnectClient.reconnectFailures
  let power ← orRaise (floatOfPow (failures - 1)) (.error .overflowError)
  let delay := backoffDelay (min (1 / 2 * power) 10) t.random
  alter fun s => s.setSnapshot .degraded 0 (some (PyExc.typeName e)) (some (t.fails + delay)) (some delay)

/-- `_close_owner_session`. -/
def closeOwnerSession (closing : Option PyExc) : OwnerAction Unit := do
  let opened ← peek ReconnectClient.opened
  alter fun s => { s with opened := false, session := false }
  match opened, closing with
  | true, some e => raise (.error e)
  | _, _ => pure ()

/-- `_owner_connect`, from where it opens a transport. -/
def openSession (t : ConnectTry) : OwnerAction Unit :=
  match t.connect with
  | .connected => do
    alter fun s => { s with session := true, opened := true, reconnectFailures := 0 }
    alter fun s => s.setSnapshot .connected s.snapshot.toolCount none none none
  | .cancelled => raise .cancelled
  | .failed e session cleanup => do
    alter fun s => { s with session := session }
    match cleanup with
    | some e' => raise (.error e')
    | none =>
      alter fun s => { s with session := false }
      scheduleReconnectBackoff t e
      raise (.error e)

/-- `_owner_connect`. -/
def ownerConnectBody (initial : Bool) (t : ConnectTry) : OwnerAction Unit := do
  alter fun s => s.setSnapshot (if initial then .connecting else .reconnecting) s.snapshot.toolCount
    none none none
  closeOwnerSession t.closing
  openSession t

/-- The same, with a record of how it begins and ends. -/
def ownerConnect (initial explicit : Bool) (t : ConnectTry) : OwnerAction Unit := fun s =>
  match ownerConnectBody initial t { s.record (.attempted explicit t.begins) with fresh := false } with
  | (.ok (), u) => (.ok (), u.record .connected)
  | (.error (.error raised), u) =>
    (.error (.error raised),
      u.record (.failed ⟨t, if s.opened then t.closing else none, raised, u.snapshot⟩))
  | (.error .cancelled, u) => (.error .cancelled, u)

/-! ## The commands -/

/-- What a request to the session comes to; tools are counted. -/
inductive Answer where
  | answered (tools : Nat)
  | raised (e : PyExc)
  | cancelled

/-- The surroundings of one command: at most two attempts to connect and two requests. -/
structure Handling where
  /-- `time.monotonic()` at first -/
  begins : ℚ
  first : ConnectTry
  answer : Answer := .answered 0
  second : ConnectTry := first
  again : Answer := .answered 0

def ask : Answer → OwnerAction Nat
  | .answered tools => pure tools
  | .raised e => raise (.error e)
  | .cancelled => raise .cancelled

section Commands

/- `fixed2` is `f"{x:.2f}"`. -/
variable (py : Python) (fixed2 : ℚ → String)

/-- `_raise_if_backoff_active`. -/
def raiseIfBackoffActive (now : ℚ) : OwnerAction Unit := do
  let snapshot ← peek ReconnectClient.snapshot
  match snapshot.state, snapshot.nextReconnectAt with
  | .degraded, some nextAt =>
    raiseIf (0 < nextAt - now) (.error (degradedError (fixed2 (nextAt - now))))
  | _, _ => pure ()

/-- `_owner_reconnect_or_raise`. -/
def ownerReconnectOrRaise (t : ConnectTry) : OwnerAction Unit := do
  raiseIfBackoffActive fixed2 t.begins
  ownerConnect false false t

/-- `if not self.session: await self._owner_reconnect_or_raise()`. -/
def ownerRequireSession (t : ConnectTry) : OwnerAction Unit := do
  let session ← peek ReconnectClient.session
  if session then pure () else ownerReconnectOrRaise fixed2 t

/-- `_owner_list_tools_once` and `_owner_call_tool_once`. -/
def ownerOperationOnce (t : ConnectTry) (answer : Answer) : OwnerAction Nat := do
  ownerRequireSession fixed2 t
  let session ← peek ReconnectClient.session
  raiseIf (session = false) (.error (.named "RuntimeError" "Not connected to MCP server"))
  ask answer

/-- `_owner_run_with_reconnect_once`. -/
def ownerRunWithReconnectOnce (h : Handling) : OwnerAction Nat := do
  raiseIfBackoffActive fixed2 h.begins
  rescue (ownerOperationOnce fixed2 h.first h.answer) fun
    | .error e =>
      if looksLikeStaleSession py e then some do
        ownerReconnectOrRaise fixed2 h.second
        ownerOperationOnce fixed2 h.second h.again
      else none
    | .cancelled => none

/-- `_owner_list_tools` and `_owner_check_health`. -/
def ownerCountTools (h : Handling) : OwnerAction Unit := do
  let tools ← ownerRunWithReconnectOnce py fixed2 h
  alter fun s => s.setSnapshot .connected tools none none none

/-- `_handle_owner_command`, but for the reply. -/
def handleOwnerCommand (type : CommandType) (h : Handling) : OwnerAction Unit :=
  match type with
  | .connect => ownerConnect true true h.first
  | .reconnect => ownerConnect false true h.first
  | .listTools | .health => ownerCountTools py fixed2 h
  | .callTool => do
    let _ ← ownerRunWithReconnectOnce py fixed2 h
    pure ()
  | .shutdown => raise (.error closedResourceError)

end Commands

/-- The owner is over: shut down, cancelled, or without a channel.  Another one begins anew. -/
def ReconnectClient.ended (s : ReconnectClient) : ReconnectClient :=
  { s.setSnapshot .shutdown s.snapshot.toolCount none none none with
    session := false, opened := false, fresh := true }

inductive OwnerLabel where
  | command (type : CommandType) (h : Handling)
  | ended

/-- An owner is asked to connect before anything else. -/
def OwnerLabel.Asked (s : ReconnectClient) : OwnerLabel → Prop
  | .command type _ => s.fresh = true → type = .connect
  | .ended => True

instance (s : ReconnectClient) : ∀ l : OwnerLabel, Decidable (l.Asked s)
  | .command _ _ => inferInstanceAs (Decidable (_ → _))
  | .ended => .isTrue trivial

section Steps

variable (py : Python) (fixed2 : ℚ → String)

def ReconnectClient.next (s : ReconnectClient) : OwnerLabel → ReconnectClient
  | .command type h =>
    match handleOwnerCommand py fixed2 type h s with
    | (.error .cancelled, t) => t.ended
    | (_, t) => t
  | .ended => s.ended

def ownerStep (s : ReconnectClient) (l : OwnerLabel) (t : ReconnectClient) : Prop :=
  l.Asked s ∧ t = s.next py fixed2 l

end Steps

/-! ## What is claimed of the failures -/

/-- The last failure, if nothing was connected since. -/
def ConnectEvent.verdict (last : Option ConnectFailure) : ConnectEvent → Option ConnectFailure
  | .attempted _ _ => last
  | .connected => none
  | .failed f => some f

def lastFailure (log : List ConnectEvent) : Option ConnectFailure :=
  log.foldl ConnectEvent.verdict none

/-- **The failure is reported as it is, and the client degraded for up to ten seconds.** -/
structure FailsWell (f : ConnectFailure) : Prop where
  reported : ∃ session cleanup, f.attempt.connect = .failed f.raised session cleanup
  degraded : f.snapshot.state = .degraded
  delayed : ∃ delay, f.snapshot.reconnectBackoffS = some delay ∧ 0 < delay ∧ delay ≤ 10 ∧
    f.snapshot.nextReconnectAt = some (f.attempt.fails + delay)

/-- Until something is connected or fails anew, the owner does not try by itself before the time in
the snapshot. -/
def AttemptsWait (f : ConnectFailure) (after : List ConnectEvent) : Prop :=
  ∀ between now rest, after = between ++ .attempted false now :: rest →
    between.foldl ConnectEvent.verdict (some f) = some f →
      ∃ nextAt, f.snapshot.nextReconnectAt = some nextAt ∧ nextAt ≤ now

def ConnectTry.cleanup (t : ConnectTry) : Option PyExc :=
  match t.connect with
  | .failed _ _ cleanup => cleanup
  | _ => none

/-- Nothing raised when the old session and the new transport were closed. -/
def ConnectFailure.CleanedUp (f : ConnectFailure) : Prop :=
  f.closing = none ∧ f.attempt.cleanup = none

instance (f : ConnectFailure) : Decidable f.CleanedUp :=
  inferInstanceAs (Decidable (_ ∧ _))

/-- How many failures in a row were cleaned up. -/
def ConnectEvent.count (n : Nat) : ConnectEvent → Nat
  | .attempted _ _ => n
  | .connected => 0
  | .failed f => if f.CleanedUp then n + 1 else n

def failuresInARow (log : List ConnectEvent) : Nat := log.foldl ConnectEvent.count 0

/-! ## One attempt -/

section Attempts

variable {initial explicit : Bool} {t : ConnectTry} {e : PyExc} {s u : ReconnectClient}

theorem backoffDelay_mem {failures : Nat} {power : ℚ} (h : floatOfPow failures = some power) :
    0 < backoffDelay (min (1 / 2 * power) 10) t.random ∧
      backoffDelay (min (1 / 2 * power) 10) t.random ≤ 10 := by
  have hpower : 0 < power := by
    unfold floatOfPow at h
    split at h
    · cases h
      positivity
    · cases h
  have hbase : 0 < min (1 / 2 * power) 10 := lt_min (by linarith) (by norm_num)
  have hrandom : 0 ≤ min (min (1 / 2 * power) 10) 1 * t.random :=
    mul_nonneg (le_min hbase.le zero_le_one) t.random_mem.1
  refine ⟨lt_min (by linarith) (by norm_num), min_le_right _ _⟩

/-- What an attempt can do. -/
inductive ConnectMove (s : ReconnectClient) (explicit : Bool) (t : ConnectTry) :
    Except OwnerRaise Unit × ReconnectClient → Prop where
  | connected {u : ReconnectClient}
      (hlog : u.log = s.log ++ [.attempted explicit t.begins] ++ [.connected])
      (hfresh : u.fresh = false) (hfailures : u.reconnectFailures = 0)
      (hconnect : t.connect = .connected) :
      ConnectMove s explicit t (.ok (), u)
  | cancelled {u : ReconnectClient} (hconnect : t.connect = .cancelled)
      (hlog : u.log = s.log ++ [.attempted explicit t.begins])
      (hfailures : u.reconnectFailures = s.reconnectFailures) :
      ConnectMove s explicit t (.error .cancelled, u)
  | failed {u : ReconnectClient} {f : ConnectFailure} {raised : PyExc}
      (hlog : u.log = s.log ++ [.attempted explicit t.begins] ++ [.failed f])
      (hattempt : f.attempt = t) (hclosing : f.closing = if s.opened then t.closing else none)
      (hfresh : u.fresh = false)
      (hfailures : u.reconnectFailures =
        if f.CleanedUp then s.reconnectFailures + 1 else s.reconnectFailures)
      (hwell : FailsWell f ↔ f.CleanedUp ∧ s.reconnectFailures < 1024)
      (hsettled : FailsWell f → u.snapshot = f.snapshot ∧ u.session = false) :
      ConnectMove s explicit t (.error (.error raised), u)

/-- A failure whose snapshot is not degraded. -/
theorem not_failsWell {f : ConnectFailure} (h : f.snapshot.state = .reconnecting ∨
    f.snapshot.state = .connecting) : ¬ FailsWell f := by
  intro hwell
  rw [hwell.degraded] at h
  rcases h with h | h <;> cases h

/-- The state of the snapshot while an attempt is made. -/
theorem connecting_state (initial : Bool) :
    (if initial then ClientState.connecting else .reconnecting) = .reconnecting ∨
      (if initial then ClientState.connecting else .reconnecting) = .connecting := by
  cases initial
  · exact Or.inl rfl
  · exact Or.inr rfl

/-- `_schedule_reconnect_backoff`, where the delay can be computed and where it cannot. -/
theorem scheduleReconnectBackoff_run (s : ReconnectClient) :
    (s.reconnectFailures < 1024 ∧ ∃ delay, 0 < delay ∧ delay ≤ 10 ∧
      scheduleReconnectBackoff t e s = (.ok (),
        { s with reconnectFailures := s.reconnectFailures + 1 }.setSnapshot .degraded 0
          (some (PyExc.typeName e)) (some (t.fails + delay)) (some delay))) ∨
    (¬ s.reconnectFailures < 1024 ∧ scheduleReconnectBackoff t e s =
      (.error (.error .overflowError),
        { s with reconnectFailures := s.reconnectFailures + 1 })) := by
  unfold scheduleReconnectBackoff
  simp only [alter_bind_run, peek_bind_run, orRaise_bind_run, Nat.add_sub_cancel]
  by_cases h : s.reconnectFailures < 1024
  · have hpower : floatOfPow s.reconnectFailures = some (2 ^ s.reconnectFailures) := if_pos h
    obtain ⟨hpos, hle⟩ := backoffDelay_mem (t := t) hpower
    refine Or.inl ⟨h, _, hpos, hle, ?_⟩
    rw [hpower]
    rfl
  · have hpower : floatOfPow s.reconnectFailures = none := if_neg h
    refine Or.inr ⟨h, ?_⟩
    rw [hpower]

/-- `_close_owner_session`: only an open session raises. -/
theorem closeOwnerSession_run (closing : Option PyExc) (s : ReconnectClient) :
    closeOwnerSession closing s =
      ((match (if s.opened then closing else none) with
        | some e => .error (.error e)
        | none => .ok ()), { s with opened := false, session := false }) := by
  unfold closeOwnerSession
  rw [peek_bind_run, alter_bind_run]
  cases s.opened with
  | false => rfl
  | true =>
    cases closing with
    | none => rfl
    | some e => rfl

/-- What opening a session can do, from a state that is not degraded. -/
inductive OpenMove (s : ReconnectClient) (t : ConnectTry) :
    Except OwnerRaise Unit × ReconnectClient → Prop where
  | connected {u : ReconnectClient} (hlog : u.log = s.log) (hfresh : u.fresh = s.fresh)
      (hfailures : u.reconnectFailures = 0) (hconnect : t.connect = .connected) :
      OpenMove s t (.ok (), u)
  | cancelled (hcancelled : t.connect = .cancelled) : OpenMove s t (.error .cancelled, s)
  | uncleaned {raised : PyExc} {session : Bool} (hcleanup : t.cleanup ≠ none) :
      OpenMove s t (.error (.error raised), { s with session := session })
  | delayed {e : PyExc} {session : Bool} {delay : ℚ} (hcleanup : t.cleanup = none)
      (hconnect : t.connect = .failed e session none) (hfew : s.reconnectFailures < 1024)
      (hpos : 0 < delay) (hle : delay ≤ 10) :
      OpenMove s t (.error (.error e),
        { s with
          session := false
          reconnectFailures := s.reconnectFailures + 1 }.setSnapshot .degraded 0
            (some (PyExc.typeName e)) (some (t.fails + delay)) (some delay))
  | overflown (hcleanup : t.cleanup = none) (hmany : ¬ s.reconnectFailures < 1024) :
      OpenMove s t (.error (.error .overflowError),
        { s with session := false, reconnectFailures := s.reconnectFailures + 1 })

theorem openSession_move (s : ReconnectClient) : OpenMove s t (openSession t s) := by
  cases hconnect : t.connect with
  | connected =>
    have hrun : openSession t s = (.ok (),
        { s with session := true, opened := true, reconnectFailures := 0 }.setSnapshot .connected
          s.snapshot.toolCount none none none) := by
      unfold openSession
      rw [hconnect]
      rfl
    rw [hrun]
    exact .connected rfl rfl rfl hconnect
  | cancelled =>
    have hrun : openSession t s = (.error .cancelled, s) := by
      unfold openSession
      rw [hconnect]
      rfl
    rw [hrun]
    exact .cancelled hconnect
  | failed e session cleanup =>
    have hcleanup : t.cleanup = cleanup := by
      unfold ConnectTry.cleanup
      rw [hconnect]
    cases cleanup with
    | some e' =>
      have hrun : openSession t s = (.error (.error e'), { s with session := session }) := by
        unfold openSession
        rw [hconnect]
        rfl
      rw [hrun]
      refine .uncleaned ?_
      rw [hcleanup]
      exact Option.some_ne_none e'
    | none =>
      have hopen : openSession t s = (scheduleReconnectBackoff t e >>= fun _ =>
          (raise (.error e) : OwnerAction Unit)) { s with session := false } := by
        unfold openSession
        rw [hconnect]
        rfl
      rw [hopen]
      obtain ⟨hfew, delay, hpos, hle, hrun⟩ | ⟨hmany, hrun⟩ :=
        scheduleReconnectBackoff_run (t := t) (e := e) { s with session := false }
      · rw [bind_ok hrun]
        exact .delayed hcleanup hconnect hfew hpos hle
      · rw [bind_error hrun]
        exact .overflown hcleanup hmany

theorem ownerConnectBody_run (initial : Bool) (s : ReconnectClient) :
    ownerConnectBody initial t s =
      let v : ReconnectClient := { s with opened := false, session := false }.setSnapshot
        (if initial then .connecting else .reconnecting) s.snapshot.toolCount none none none
      match (if s.opened then t.closing else none) with
      | some e => (.error (.error e), v)
      | none => openSession t v := by
  unfold ownerConnectBody
  rw [alter_bind_run]
  have hclose := closeOwnerSession_run t.closing
    (s.setSnapshot (if initial then .connecting else .reconnecting) s.snapshot.toolCount none none none)
  change closeOwnerSession t.closing _ = ((match (if s.opened then t.closing else none) with
    | some e => .error (.error e)
    | none => .ok ()), _) at hclose
  cases hclosing : (if s.opened then t.closing else none) with
  | some e =>
    rw [hclosing] at hclose
    exact bind_error hclose
  | none =>
    rw [hclosing] at hclose
    exact bind_ok hclose

/-- A failure that is put off, in the state it leaves. -/
theorem failsWell_of_delay {session : Bool} {cleanup : Option PyExc} {delay : ℚ}
    (closing : Option PyExc) (hconnect : t.connect = .failed e session cleanup) (hpos : 0 < delay)
    (hle : delay ≤ 10) :
    FailsWell ⟨t, closing, e,
      ⟨.degraded, 0, some (PyExc.typeName e), some (t.fails + delay), some delay⟩⟩ where
  reported := ⟨session, cleanup, hconnect⟩
  degraded := rfl
  delayed := ⟨delay, rfl, hpos, hle, rfl⟩

/-- **An attempt that fails is reported and put off exactly if it was cleaned up and there were few
before.** -/
theorem ownerConnect_move (initial explicit : Bool) (t : ConnectTry) (s : ReconnectClient) :
    ConnectMove s explicit t (ownerConnect initial explicit t s) := by
  unfold ownerConnect
  rw [ownerConnectBody_run]
  have hstate := connecting_state initial
  generalize hclosing : (if s.opened then t.closing else none) = closing
  generalize (if initial then ClientState.connecting else .reconnecting) = state at hstate
  have hclosing' : (if ({ s.record (.attempted explicit t.begins) with fresh := false } :
    ReconnectClient).opened then t.closing else none) = closing := hclosing
  rw [hclosing']
  dsimp only
  generalize hv : ReconnectClient.setSnapshot _ state _ none none none = v
  have hlog : v.log = s.log ++ [.attempted explicit t.begins] := by rw [← hv]; rfl
  have hfresh : v.fresh = false := by rw [← hv]; rfl
  have hfailures : v.reconnectFailures = s.reconnectFailures := by rw [← hv]; rfl
  have hsnapshot : v.snapshot.state = state := by rw [← hv]; rfl
  rw [← hsnapshot] at hstate
  cases closing with
  | some e =>
    have hbad : ¬ FailsWell ⟨t, some e, e, v.snapshot⟩ := not_failsWell hstate
    have hdirty : ¬ (⟨t, some e, e, v.snapshot⟩ : ConnectFailure).CleanedUp :=
      fun h => Option.some_ne_none e h.1
    refine .failed (f := ⟨t, some e, e, v.snapshot⟩) ?_ rfl hclosing.symm hfresh ?_ ?_
      fun h => absurd h hbad
    · exact congrArg (· ++ _) hlog
    · rw [if_neg hdirty]
      exact hfailures
    · exact ⟨fun h => absurd h hbad, fun h => absurd h.1 hdirty⟩
  | none =>
    have hmove := openSession_move (t := t) v
    generalize openSession t v = out at hmove
    cases hmove with
    | connected hu hufresh hufailures hconnect =>
      refine .connected ?_ (hufresh.trans hfresh) hufailures hconnect
      exact congrArg (· ++ _) (hu.trans hlog)
    | cancelled hconnect => exact .cancelled hconnect hlog hfailures
    | @uncleaned raised session hcleanup =>
      have hbad : ¬ FailsWell ⟨t, none, raised, v.snapshot⟩ := not_failsWell hstate
      have hdirty : ¬ (⟨t, none, raised, v.snapshot⟩ : ConnectFailure).CleanedUp :=
        fun h => hcleanup h.2
      refine .failed (f := ⟨t, none, raised, v.snapshot⟩) ?_ rfl hclosing.symm hfresh ?_ ?_
        fun h => absurd h hbad
      · exact congrArg (· ++ _) hlog
      · rw [if_neg hdirty]
        exact hfailures
      · exact ⟨fun h => absurd h hbad, fun h => absurd h.1 hdirty⟩
    | @delayed e session delay hcleanup hconnect hfew hpos hle =>
      rw [hfailures] at hfew
      have hwell := failsWell_of_delay none hconnect hpos hle
      refine .failed (f := ⟨t, none, e,
        ⟨.degraded, 0, some (PyExc.typeName e), some (t.fails + delay), some delay⟩⟩)
        ?_ rfl hclosing.symm hfresh ?_ ?_ fun _ => ⟨rfl, rfl⟩
      · exact congrArg (· ++ _) hlog
      · rw [if_pos ⟨rfl, hcleanup⟩]
        exact congrArg (· + 1) hfailures
      · exact ⟨fun _ => ⟨⟨rfl, hcleanup⟩, hfew⟩, fun _ => hwell⟩
    | overflown hcleanup hmany =>
      rw [hfailures] at hmany
      have hbad : ¬ FailsWell ⟨t, none, .overflowError, v.snapshot⟩ := not_failsWell hstate
      refine .failed (f := ⟨t, none, .overflowError, v.snapshot⟩) ?_ rfl hclosing.symm hfresh
        ?_ ?_ fun h => absurd h hbad
      · exact congrArg (· ++ _) hlog
      · rw [if_pos ⟨rfl, hcleanup⟩]
        exact congrArg (· + 1) hfailures
      · exact ⟨fun h => absurd h hbad, fun h => absurd h.2 hmany⟩

end Attempts

/-! ## What the owner keeps -/

/-- An event after the events before it. -/
def ConnectEvent.Sound (earlier : List ConnectEvent) : ConnectEvent → Prop
  | .failed f => FailsWell f ↔ f.CleanedUp ∧ failuresInARow earlier < 1024
  | .attempted false now => ∀ f, lastFailure earlier = some f → FailsWell f →
      ∃ nextAt, f.snapshot.nextReconnectAt = some nextAt ∧ nextAt ≤ now
  | _ => True

def Logged (log : List ConnectEvent) : Prop :=
  ∀ earlier event later, log = earlier ++ event :: later → event.Sound earlier

theorem Logged.snoc {log : List ConnectEvent} {event : ConnectEvent} (h : Logged log)
    (hevent : event.Sound log) : Logged (log ++ [event]) := by
  intro earlier other later hsplit
  rcases List.eq_nil_or_concat later with rfl | ⟨rest, last, rfl⟩
  · obtain ⟨rfl, hlast⟩ := List.append_inj' hsplit rfl
    cases hlast
    exact hevent
  · rw [List.concat_eq_append, ← List.cons_append, ← List.append_assoc] at hsplit
    obtain ⟨hlog, -⟩ := List.append_inj' hsplit rfl
    exact h earlier other rest hlog

theorem lastFailure_snoc (log : List ConnectEvent) (event : ConnectEvent) :
    lastFailure (log ++ [event]) = event.verdict (lastFailure log) := by
  unfold lastFailure
  rw [List.foldl_append]
  rfl

theorem failuresInARow_snoc (log : List ConnectEvent) (event : ConnectEvent) :
    failuresInARow (log ++ [event]) = event.count (failuresInARow log) := by
  unfold failuresInARow
  rw [List.foldl_append]
  rfl

/-- What is so at any time. -/
structure KeptClient (s : ReconnectClient) : Prop where
  counted : s.reconnectFailures = failuresInARow s.log
  logged : Logged s.log

/-- The same while an owner is there: the snapshot is that of the last failure. -/
structure SettledClient (s : ReconnectClient) : Prop where
  kept : KeptClient s
  fresh : s.fresh = false
  settled : ∀ f, lastFailure s.log = some f → FailsWell f →
    s.snapshot = f.snapshot ∧ s.session = false

/-- The same where no failure is put off. -/
structure LiveClient (s : ReconnectClient) : Prop where
  kept : KeptClient s
  fresh : s.fresh = false
  clear : ∀ f, lastFailure s.log = some f → ¬ FailsWell f

theorem LiveClient.owned {s : ReconnectClient} (h : LiveClient s) : SettledClient s :=
  ⟨h.kept, h.fresh, fun f hlast hwell => absurd hwell (h.clear f hlast)⟩

/-- How a part of the owner that raises leaves the client. -/
def AfterRaise (e : OwnerRaise) (s : ReconnectClient) : Prop :=
  KeptClient s ∧ (e ≠ .cancelled → SettledClient s)

theorem SettledClient.afterRaise {s : ReconnectClient} (h : SettledClient s) (e : OwnerRaise) :
    AfterRaise e s :=
  ⟨h.kept, fun _ => h⟩

/-- **An attempt that is in order keeps the log in order.** -/
theorem ownerConnect_triple {P : ReconnectClient → Prop} {initial explicit : Bool} {t : ConnectTry}
    (hkept : ∀ s, P s → KeptClient s)
    (hsound : ∀ s, P s → (ConnectEvent.attempted explicit t.begins).Sound s.log) :
    Triple P (ownerConnect initial explicit t) (fun _ => LiveClient) AfterRaise := by
  intro s hs
  have hmove := ownerConnect_move initial explicit t s
  have hbegun := (hkept s hs).logged.snoc (hsound s hs)
  have hcount : failuresInARow (s.log ++ [.attempted explicit t.begins]) = s.reconnectFailures :=
    (failuresInARow_snoc _ _).trans (hkept s hs).counted.symm
  generalize ownerConnect initial explicit t s = out at hmove
  cases hmove with
  | connected hlog hfresh hfailures =>
    refine ⟨⟨?_, ?_⟩, hfresh, fun f hlast => ?_⟩
    · rw [hlog, failuresInARow_snoc, hfailures]
      rfl
    · rw [hlog]
      exact hbegun.snoc trivial
    · rw [hlog, lastFailure_snoc] at hlast
      cases hlast
  | cancelled _ hlog hfailures =>
    refine ⟨⟨?_, ?_⟩, fun h => absurd rfl h⟩
    · rw [hlog, hcount, hfailures]
    · rw [hlog]
      exact hbegun
  | @failed u f raised hlog _ _ hfresh hfailures hwell hsettled =>
    refine (SettledClient.mk ⟨?_, ?_⟩ hfresh ?_).afterRaise _
    · rw [hlog, failuresInARow_snoc, hcount, hfailures]
      rfl
    · rw [hlog]
      refine hbegun.snoc ?_
      rw [ConnectEvent.Sound, hcount]
      exact hwell
    · intro g hlast hg
      rw [hlog, lastFailure_snoc] at hlast
      cases hlast
      exact hsettled hg

section Commands

variable {py : Python} {fixed2 : ℚ → String}

/-- Past the check, an attempt of its own is in order. -/
theorem raiseIfBackoffActive_triple (now : ℚ) :
    Triple SettledClient (raiseIfBackoffActive fixed2 now)
      (fun _ s => SettledClient s ∧ (ConnectEvent.attempted false now).Sound s.log) AfterRaise := by
  refine Triple.peek_bind fun snapshot => ?_
  split
  · next nextAt _ hnext =>
    by_cases hactive : 0 < nextAt - now
    · rw [raiseIf_pos hactive]
      exact Triple.raise fun s hs => hs.1.afterRaise _
    · rw [raiseIf_neg hactive]
      refine Triple.pure fun s hs => ⟨hs.1, fun f hlast hwell => ⟨nextAt, ?_, by linarith⟩⟩
      rw [← (hs.1.settled f hlast hwell).1, hs.2]
      exact hnext
  · next hother =>
    refine Triple.pure fun s hs => ⟨hs.1, fun f hlast hwell => ?_⟩
    obtain ⟨delay, -, -, -, hnext⟩ := hwell.delayed
    have hsnapshot := (hs.1.settled f hlast hwell).1
    rw [hs.2] at hsnapshot
    rw [← hsnapshot] at hnext
    have hdegraded := hwell.degraded
    rw [← hsnapshot] at hdegraded
    exact absurd hnext (hother _ hdegraded)

theorem ownerReconnectOrRaise_triple (t : ConnectTry) :
    Triple SettledClient (ownerReconnectOrRaise fixed2 t) (fun _ => LiveClient) AfterRaise :=
  (raiseIfBackoffActive_triple t.begins).bind fun _ =>
    ownerConnect_triple (fun _ hs => hs.1.kept) fun _ hs => hs.2

theorem ask_triple (answer : Answer) : Triple LiveClient (ask answer) (fun _ => LiveClient) AfterRaise := by
  cases answer with
  | answered tools => exact Triple.pure fun _ hs => hs
  | raised e => exact Triple.raise fun _ hs => hs.owned.afterRaise _
  | cancelled => exact Triple.raise fun _ hs => hs.owned.afterRaise _

theorem ownerRequireSession_triple (t : ConnectTry) :
    Triple SettledClient (ownerRequireSession fixed2 t) (fun _ => LiveClient) AfterRaise := by
  refine Triple.peek_bind fun session => ?_
  cases session with
  | true =>
    refine Triple.pure fun s hs => ⟨hs.1.kept, hs.1.fresh, fun f hlast hwell => ?_⟩
    have hsession := (hs.1.settled f hlast hwell).2
    rw [hs.2] at hsession
    cases hsession
  | false => exact (ownerReconnectOrRaise_triple t).mono (fun _ hs => hs.1) fun _ _ hs => hs

theorem ownerOperationOnce_triple (t : ConnectTry) (answer : Answer) :
    Triple SettledClient (ownerOperationOnce fixed2 t answer) (fun _ => LiveClient) AfterRaise := by
  refine (ownerRequireSession_triple t).bind fun _ => Triple.peek_bind fun session => ?_
  refine Triple.bind (Q := fun _ => LiveClient) ?_ fun _ => ask_triple answer
  by_cases hsession : session = false
  · rw [raiseIf_pos hsession]
    exact Triple.raise fun _ hs => hs.1.owned.afterRaise _
  · rw [raiseIf_neg hsession]
    exact Triple.pure fun _ hs => hs.1

theorem ownerRunWithReconnectOnce_triple (h : Handling) :
    Triple SettledClient (ownerRunWithReconnectOnce py fixed2 h) (fun _ => LiveClient) AfterRaise := by
  refine (raiseIfBackoffActive_triple h.begins).bind fun _ => ?_
  refine Triple.rescue ((ownerOperationOnce_triple h.first h.answer).mono (fun _ hs => hs.1)
    fun _ _ hs => hs) ?_ fun _ _ _ hs => hs
  intro raised y hcaught
  cases raised with
  | cancelled => cases hcaught
  | error e =>
    dsimp only at hcaught
    split at hcaught
    · cases hcaught
      refine Triple.bind (Q := fun _ => LiveClient) ?_ fun _ => ?_
      · refine (ownerReconnectOrRaise_triple h.second).mono (fun s hs => hs.2 ?_) fun _ _ hs => hs
        exact OwnerRaise.noConfusion
      · exact (ownerOperationOnce_triple h.second h.again).mono (fun _ hs => hs.owned)
          fun _ _ hs => hs
    · cases hcaught

theorem ownerCountTools_triple (h : Handling) :
    Triple SettledClient (ownerCountTools py fixed2 h) (fun _ => SettledClient) AfterRaise :=
  (ownerRunWithReconnectOnce_triple h).bind fun _ => Triple.alter fun _ hs =>
    ⟨⟨hs.kept.counted, hs.kept.logged⟩, hs.fresh, fun f hlast hwell => absurd hwell (hs.clear f hlast)⟩

/-- **A command keeps the log in order.** -/
theorem handleOwnerCommand_triple {type : CommandType} {h : Handling} :
    Triple (fun s => KeptClient s ∧ (type ≠ .connect → SettledClient s))
      (handleOwnerCommand py fixed2 type h) (fun _ => SettledClient) AfterRaise := by
  have hconnect : ∀ initial, Triple (fun s => KeptClient s ∧ (type ≠ .connect → SettledClient s))
      (ownerConnect initial true h.first) (fun _ => SettledClient) AfterRaise := by
    intro initial
    have hlive : Triple (fun s => KeptClient s ∧ (type ≠ .connect → SettledClient s))
        (ownerConnect initial true h.first) (fun _ => LiveClient) AfterRaise :=
      ownerConnect_triple (fun _ hs => hs.1) fun _ _ => trivial
    exact hlive.mono (fun _ hs => hs) fun _ _ hs => hs.owned
  cases type with
  | connect => exact hconnect true
  | reconnect => exact hconnect false
  | listTools =>
    exact (ownerCountTools_triple h).mono (fun _ hs => hs.2 CommandType.noConfusion) fun _ _ hs => hs
  | health =>
    exact (ownerCountTools_triple h).mono (fun _ hs => hs.2 CommandType.noConfusion) fun _ _ hs => hs
  | callTool =>
    refine Triple.bind ((ownerRunWithReconnectOnce_triple h).mono
      (fun _ hs => hs.2 CommandType.noConfusion) fun _ _ hs => hs) fun _ => ?_
    exact Triple.pure fun _ hs => hs.owned
  | shutdown => exact Triple.raise fun _ hs => (hs.2 CommandType.noConfusion).afterRaise _

end Commands

/-! ## Runs -/

section Runs

variable {py : Python} {fixed2 : ℚ → String} {s t : ReconnectClient}

/-- Between two commands. -/
def BetweenCommands (s : ReconnectClient) : Prop := KeptClient s ∧ (s.fresh = false → SettledClient s)

theorem KeptClient.ended (h : KeptClient s) : BetweenCommands s.ended :=
  ⟨⟨h.counted, h.logged⟩, fun hfresh => by cases hfresh⟩

/-- **One command, or the end of an owner.** -/
theorem BetweenCommands.step {l : OwnerLabel} (hs : BetweenCommands s)
    (hstep : ownerStep py fixed2 s l t) : BetweenCommands t := by
  obtain ⟨hasked, rfl⟩ := hstep
  cases l with
  | ended => exact hs.1.ended
  | command type h =>
    have howned : type ≠ .connect → SettledClient s := fun htype => by
      cases hfresh : s.fresh with
      | true => exact absurd (hasked hfresh) htype
      | false => exact hs.2 hfresh
    have htriple : Triple _ (handleOwnerCommand py fixed2 type h) _ _ := handleOwnerCommand_triple
    have hend := htriple s ⟨hs.1, howned⟩
    unfold ReconnectClient.next
    rcases hrun : handleOwnerCommand py fixed2 type h s with ⟨raised | done, u⟩
    · rw [hrun] at hend
      cases raised with
      | cancelled =>
        simp only [hrun]
        exact hend.1.ended
      | error e =>
        simp only [hrun]
        exact ⟨hend.1, fun _ => hend.2 OwnerRaise.noConfusion⟩
    · rw [hrun] at hend
      simp only [hrun]
      exact ⟨hend.kept, fun _ => hend⟩

/-- Any run keeps the log in order. -/
theorem kept_run {ls : List OwnerLabel} (hrun : Run (ownerStep py fixed2) {} ls s) : KeptClient s := by
  refine (hrun.invariant (I := BetweenCommands) (fun _ _ _ hs hstep => hs.step hstep) ?_).1
  refine ⟨⟨rfl, fun earlier event later h => ?_⟩, fun hfresh => by cases hfresh⟩
  exact absurd h (List.append_ne_nil_of_right_ne_nil _ (List.cons_ne_nil _ _)).symm

/-- **Every failure that was cleaned up and had less than 1024 before it in a row is reported and put
off, and no other.** -/
theorem backoff_run_iff (py : Python) (fixed2 : ℚ → String) (ls : List OwnerLabel)
    (s : ReconnectClient) (hrun : Run (ownerStep py fixed2) {} ls s)
    (before : List ConnectEvent) (f : ConnectFailure) (after : List ConnectEvent)
    (hlog : s.log = before ++ .failed f :: after) :
    (FailsWell f ∧ AttemptsWait f after) ↔ (f.CleanedUp ∧ failuresInARow before < 1024) := by
  have hlogged := (kept_run hrun).logged
  have hwell : FailsWell f ↔ f.CleanedUp ∧ failuresInARow before < 1024 :=
    hlogged before _ after hlog
  refine ⟨fun h => hwell.1 h.1, fun h => ⟨hwell.2 h, fun between now rest hafter hlast => ?_⟩⟩
  have hsound := hlogged (before ++ .failed f :: between) (.attempted false now) rest (by
    rw [hlog, hafter, List.append_assoc, List.cons_append])
  refine hsound f ?_ (hwell.2 h)
  unfold lastFailure
  rw [List.foldl_append, List.foldl_cons]
  exact hlast

end Runs

/-! ## An outage that lasts -/

def serverUp : Handling := { begins := 0, first := { begins := 0, connect := .connected } }

def serverDown : Handling where
  begins := 0
  first := { begins := 0, connect := .failed (.named "ConnectError" "") false none }

/-- The server is down for `n` attempts. -/
def outage (n : Nat) : List OwnerLabel :=
  .command .connect serverUp :: List.replicate n (.command .reconnect serverDown)

section Outage

variable {py : Python} {fixed2 : ℚ → String} {s t : ReconnectClient}

/-- An attempt while the server is down. -/
theorem serverDown_step
    (hstep : ownerStep py fixed2 s (.command .reconnect serverDown) t) :
    t.fresh = false ∧ t.reconnectFailures = s.reconnectFailures + 1 ∧
      ∃ f, t.log = s.log ++ [.attempted true 0] ++ [.failed f] ∧
        (FailsWell f ↔ s.reconnectFailures < 1024) := by
  obtain ⟨-, rfl⟩ := hstep
  have hmove := ownerConnect_move false true serverDown.first s
  have hnext : s.next py fixed2 (.command .reconnect serverDown) =
      match ownerConnect false true serverDown.first s with
      | (.error .cancelled, t) => t.ended
      | (_, t) => t := rfl
  rw [hnext]
  generalize ownerConnect false true serverDown.first s = out at hmove
  cases hmove with
  | connected _ _ _ hconnect => cases hconnect
  | cancelled hconnect => cases hconnect
  | @failed u f raised hlog hattempt hclosing hufresh hfailures hwell =>
    have hclean : f.CleanedUp := by
      refine ⟨hclosing.trans (ite_self none), ?_⟩
      rw [hattempt]
      rfl
    rw [if_pos hclean] at hfailures
    exact ⟨hufresh, hfailures, f, hlog, hwell.trans (and_iff_right hclean)⟩

theorem serverDown_run (py : Python) (fixed2 : ℚ → String) (hfresh : s.fresh = false) (n : Nat) :
    ∃ t, Run (ownerStep py fixed2) s (List.replicate n (.command .reconnect serverDown)) t ∧
      t.fresh = false ∧ t.reconnectFailures = s.reconnectFailures + n := by
  induction n with
  | zero => exact ⟨s, .nil s, hfresh, rfl⟩
  | succ n ih =>
    obtain ⟨u, hrun, hufresh, hufailures⟩ := ih
    have hasked : OwnerLabel.Asked u (.command .reconnect serverDown) := by
      intro h
      rw [hufresh] at h
      cases h
    have hstep : ownerStep py fixed2 u (.command .reconnect serverDown) _ := ⟨hasked, rfl⟩
    obtain ⟨htfresh, htfailures, -⟩ := serverDown_step hstep
    refine ⟨_, ?_, htfresh, ?_⟩
    · rw [List.replicate_succ']
      exact hrun.snoc hstep
    · rw [htfailures, hufailures, Nat.add_assoc]

end Outage

/-- **After 1024 failures in a row the next one is not reported as it is, and nothing is put off.** -/
theorem outage_overflows : ∃ s before f,
    Run (ownerStep asciiPython fun _ => "") {} (outage 1025) s ∧ s.log = before ++ [.failed f] ∧
      failuresInARow before = 1024 ∧ ¬ FailsWell f := by
  have hup : ownerStep asciiPython (fun _ => "") {} (.command .connect serverUp) _ :=
    ⟨fun _ => rfl, rfl⟩
  obtain ⟨u, hrun, hfresh, hfailures⟩ := serverDown_run asciiPython (fun _ => "")
    (s := ({} : ReconnectClient).next asciiPython (fun _ => "") (.command .connect serverUp)) rfl 1024
  have hasked : OwnerLabel.Asked u (.command .reconnect serverDown) := by
    intro h
    rw [hfresh] at h
    cases h
  have hstep : ownerStep asciiPython (fun _ => "") u (.command .reconnect serverDown) _ :=
    ⟨hasked, rfl⟩
  obtain ⟨-, -, f, hlog, hwell⟩ := serverDown_step hstep
  have hcount : u.reconnectFailures = 1024 := hfailures
  have hkept := kept_run (Run.cons hup hrun)
  refine ⟨_, _, f, Run.cons hup ?_, hlog, ?_, fun h => absurd (hwell.1 h) (by omega)⟩
  · rw [List.replicate_succ']
    exact hrun.snoc hstep
  · rw [failuresInARow_snoc, ← hkept.counted]
    exact hcount

/-- The server is down for two attempts, the second of them by the owner, half a second later. -/
def shortOutage : List OwnerLabel :=
  [.command .connect serverUp, .command .reconnect serverDown,
    .command .health { serverDown with begins := 1 / 4 },
    .command .health
      { begins := 1, first := { begins := 1, connect := .failed (.named "ConnectError" "") false none } }]

def shortOutageClient : ReconnectClient :=
  shortOutage.foldl (ReconnectClient.next asciiPython fun _ => "") {}

/-- Its first failure, put off for half a second. -/
def firstFailure : ConnectFailure where
  attempt := serverDown.first
  closing := none
  raised := .named "ConnectError" ""
  snapshot :=
    { state := .degraded
      error := some "ConnectError"
      nextReconnectAt := some (1 / 2)
      reconnectBackoffS := some (1 / 2) }

theorem shortOutage_log : shortOutageClient.log =
    [.attempted true 0, .connected, .attempted true 0] ++ .failed firstFailure ::
      shortOutageClient.log.drop 4 := by
  decide +kernel

theorem backoff_shortOutage :
    FailsWell firstFailure ∧ AttemptsWait firstFailure (shortOutageClient.log.drop 4) := by
  have hrun : Run (ownerStep asciiPython fun _ => "") {} shortOutage shortOutageClient :=
    Run.of_valid (p := fun s l => OwnerLabel.Asked s l) (by decide +kernel)
  exact (backoff_run_iff asciiPython (fun _ => "") shortOutage shortOutageClient hrun _ firstFailure _
    shortOutage_log).2 (by decide)

end NocAgent.Mcp
