import NocAgent.Lib.Lts
import NocAgent.Lib.Transactions
import Mathlib.Data.List.Nodup
import Mathlib.Logic.Function.Basic

/-!
# The connections of the Postgres store

* `Frame`, `PoolTask` — the `async with` blocks that a task has entered, and its context variable
  `postgres_case_store_guarded_connection`.
* `PoolStep` — any number of tasks that call the methods of `PostgresCaseStore`, enter
  `case_write_guard` and `handoff_delivery_guard`, wait for a connection, give up and raise.
* `Holds`, `PostgresPool.Kept` — every block of a task is on the one connection it owns.
* `poolSafe_run` — a task that waits holds nothing, and no connection is lost or shared;
  `everyWaiterServed_run` — so the pool never deadlocks.
* `transactions_run` — what a task has committed is what its blocks, as nested transactions, keep.
-/

set_option autoImplicit false

namespace NocAgent.Cases

open Lts Transactions

universe u v

/-! ## Tasks and connections -/

/-- An `async with` block that was entered. -/
inductive Frame where
  /-- `_GuardAwareAcquire`; an owned connection was acquired from the pool -/
  | connection (conn : Nat) (owned : Bool)
  /-- `conn.transaction()` -/
  | transaction (conn : Nat)
  /-- the body of a guard, with the token that resets the context variable -/
  | guarded (token : Option Nat)
  deriving DecidableEq

/-- The blocks a task has entered, and what it waits for. -/
structure PoolTask where
  /-- innermost first -/
  frames : List Frame := []
  guardedConnection : Option Nat := none
  waiting : Bool := false

namespace PoolTask

def enter (t : PoolTask) (f : Frame) : PoolTask :=
  { t with frames := f :: t.frames, waiting := false }

/-- The connections that the task has acquired from the pool. -/
def owned (t : PoolTask) : List Nat :=
  t.frames.filterMap fun
    | .connection conn true => some conn
    | _ => none

/-- A method of the store can be called: no block is open, or the innermost is the body of a
guard. -/
def CanCall (t : PoolTask) : Prop :=
  t.waiting = false ∧ (t.frames = [] ∨ ∃ token rest, t.frames = .guarded token :: rest)

/-- The connection that the innermost block works on. -/
def conn? (t : PoolTask) : Option Nat :=
  match t.frames with
  | .connection conn _ :: _ => some conn
  | .transaction conn :: _ => some conn
  | _ => none

end PoolTask

/-- The connections of the pool, and the tasks over them. -/
structure PostgresPool (ω : Type u) (τ : Type v) where
  idle : List Nat
  /-- the open transactions of each connection, innermost first -/
  levels : Nat → List (List ω)
  /-- what was committed, by whom -/
  committed : List (τ × List ω)
  task : τ → PoolTask

inductive PoolLabel (ω : Type u) (τ : Type v) where
  /-- `self.pool.acquire()` -/
  | acquire (i : τ)
  /-- `self._raw_pool.acquire()` -/
  | acquireRaw (i : τ)
  | grant (i : τ) (conn : Nat)
  /-- the task is cancelled while it waits, or the pool raises -/
  | giveUp (i : τ)
  | begin (i : τ)
  | write (i : τ) (w : ω)
  | guard (i : τ)
  | unguard (i : τ)
  /-- a transaction ends; one that is not kept was left with an exception or failed to commit -/
  | close (i : τ) (keep : Bool)
  | release (i : τ)

section Pool

variable {ω : Type u} {τ : Type v} [DecidableEq τ]

namespace PostgresPool

def setTask (sys : PostgresPool ω τ) (i : τ) (t : PoolTask) : PostgresPool ω τ :=
  { sys with task := Function.update sys.task i t }

omit [DecidableEq τ] in
/-- What a connection has after a move of its session, for task `i`. -/
def session (sys : PostgresPool ω τ) (i : τ) (conn : Nat) (s : Session ω) : PostgresPool ω τ :=
  { sys with
    levels := Function.update sys.levels conn s.levels
    committed := sys.committed ++ s.settled.map fun batch => (i, batch) }

omit [DecidableEq τ] in
/-- A new store over a pool. -/
def start (pool : List Nat) : PostgresPool ω τ :=
  ⟨pool, fun _ => [], [], fun _ => {}⟩

/-- What a task has committed. -/
def committedBy (sys : PostgresPool ω τ) (i : τ) : List (List ω) :=
  (sys.committed.filter fun batch => batch.1 = i).map Prod.snd

end PostgresPool

inductive PoolStep : PostgresPool ω τ → PoolLabel ω τ → PostgresPool ω τ → Prop where
  /-- inside a guard, the guarded connection is used again -/
  | reuse {sys : PostgresPool ω τ} {i : τ} {conn : Nat} (hcall : (sys.task i).CanCall)
      (hguarded : (sys.task i).guardedConnection = some conn) :
      PoolStep sys (.acquire i) (sys.setTask i ((sys.task i).enter (.connection conn false)))
  | ask {sys : PostgresPool ω τ} {i : τ} (hcall : (sys.task i).CanCall)
      (hguarded : (sys.task i).guardedConnection = none) :
      PoolStep sys (.acquire i) (sys.setTask i { sys.task i with waiting := true })
  /-- `cancel_lhp_handoff` and the delivery handler enter `handoff_delivery_guard` with no block
  open -/
  | askRaw {sys : PostgresPool ω τ} {i : τ} (hnone : (sys.task i).frames = [])
      (hidle : (sys.task i).waiting = false) :
      PoolStep sys (.acquireRaw i) (sys.setTask i { sys.task i with waiting := true })
  | grant {sys : PostgresPool ω τ} {i : τ} {conn : Nat} (hwait : (sys.task i).waiting = true)
      (hconn : conn ∈ sys.idle) :
      PoolStep sys (.grant i conn) ({ sys with idle := sys.idle.erase conn }.setTask i
        ((sys.task i).enter (.connection conn true)))
  | giveUp {sys : PostgresPool ω τ} {i : τ} (hwait : (sys.task i).waiting = true) :
      PoolStep sys (.giveUp i) (sys.setTask i { sys.task i with waiting := false })
  | begin {sys : PostgresPool ω τ} {i : τ} {conn : Nat} {s : Session ω}
      (hwait : (sys.task i).waiting = false) (hconn : (sys.task i).conn? = some conn)
      (hnext : Session.next ⟨sys.levels conn, []⟩ .begin = some s) :
      PoolStep sys (.begin i) ((sys.session i conn s).setTask i
        ((sys.task i).enter (.transaction conn)))
  | write {sys : PostgresPool ω τ} {i : τ} {conn : Nat} {w : ω} {s : Session ω}
      (hwait : (sys.task i).waiting = false) (hconn : (sys.task i).conn? = some conn)
      (hnext : Session.next ⟨sys.levels conn, []⟩ (.write w) = some s) :
      PoolStep sys (.write i w) (sys.session i conn s)
  /-- a guard sets the context variable once its transaction has locked what it guards -/
  | guard {sys : PostgresPool ω τ} {i : τ} {conn : Nat} {rest : List Frame}
      (hwait : (sys.task i).waiting = false)
      (hframes : (sys.task i).frames = .transaction conn :: rest) :
      PoolStep sys (.guard i) (sys.setTask i
        ⟨.guarded (sys.task i).guardedConnection :: (sys.task i).frames, some conn, false⟩)
  | unguard {sys : PostgresPool ω τ} {i : τ} {token : Option Nat} {rest : List Frame}
      (hwait : (sys.task i).waiting = false)
      (hframes : (sys.task i).frames = .guarded token :: rest) :
      PoolStep sys (.unguard i) (sys.setTask i ⟨rest, token, false⟩)
  | close {sys : PostgresPool ω τ} {i : τ} {conn : Nat} {rest : List Frame} {keep : Bool}
      {s : Session ω} (hwait : (sys.task i).waiting = false)
      (hframes : (sys.task i).frames = .transaction conn :: rest)
      (hnext : Session.next ⟨sys.levels conn, []⟩ (.close keep) = some s) :
      PoolStep sys (.close i keep) ((sys.session i conn s).setTask i
        { sys.task i with frames := rest })
  /-- `__aexit__`: a connection that was used again stays with the guard -/
  | release {sys : PostgresPool ω τ} {i : τ} {conn : Nat} {owned : Bool} {rest : List Frame}
      (hwait : (sys.task i).waiting = false)
      (hframes : (sys.task i).frames = .connection conn owned :: rest) :
      PoolStep sys (.release i)
        ({ sys with idle := if owned then conn :: sys.idle else sys.idle }.setTask i
          { sys.task i with frames := rest })

/-! ## One connection for each task -/

/-- The blocks of a task that owns `conn`: the outermost one acquired it, the others are on it, and
the context variable is set in the body of a guard.  `n` transactions are open. -/
inductive Holds (conn : Nat) : List Frame → Option Nat → Nat → Prop where
  | base : Holds conn [.connection conn true] none 0
  | transaction {fs : List Frame} {v : Option Nat} {n : Nat} (h : Holds conn fs v n) :
      Holds conn (.transaction conn :: fs) v (n + 1)
  | guarded {fs : List Frame} {v : Option Nat} {n : Nat} (h : Holds conn fs v n) :
      Holds conn (.guarded v :: fs) (some conn) n
  | reuse {fs : List Frame} {n : Nat} (h : Holds conn fs (some conn) n) :
      Holds conn (.connection conn false :: fs) (some conn) n

namespace Holds

variable {conn n : Nat} {fs : List Frame} {v : Option Nat}

theorem owned_eq (h : Holds conn fs v n) (w : Bool) :
    (⟨fs, v, w⟩ : PoolTask).owned = [conn] := by
  induction h with
  | base => rfl
  | transaction _ ih => exact ih
  | guarded _ ih => exact ih
  | reuse _ ih => exact ih

theorem frames_ne (h : Holds conn fs v n) : fs ≠ [] := by
  cases h <;> nofun

/-- Whatever block is innermost is on the connection. -/
theorem conn_eq (h : Holds conn fs v n) {w : Bool} {c : Nat}
    (hconn : (⟨fs, v, w⟩ : PoolTask).conn? = some c) : c = conn := by
  cases h with
  | base => exact (Option.some.inj hconn).symm
  | transaction => exact (Option.some.inj hconn).symm
  | guarded => cases hconn
  | reuse => exact (Option.some.inj hconn).symm

/-- In the body of a guard the context variable names the connection. -/
theorem guarded_eq (h : Holds conn fs v n) {token : Option Nat} {rest : List Frame}
    (hframes : fs = .guarded token :: rest) : v = some conn ∧ Holds conn rest token n := by
  cases h with
  | base => cases hframes
  | transaction => cases hframes
  | guarded h =>
    cases hframes
    exact ⟨rfl, h⟩
  | reuse => cases hframes

end Holds

omit [DecidableEq τ] in
/-- A task has no block open, or holds one connection, on which all its blocks are. -/
def PoolTask.Kept (t : PoolTask) (pool idle : List Nat) (levels : Nat → List (List ω)) : Prop :=
  (t.frames = [] ∧ t.guardedConnection = none) ∨
    ∃ conn ∈ pool, conn ∉ idle ∧ t.waiting = false ∧
      Holds conn t.frames t.guardedConnection (levels conn).length

/-- Every connection is idle or owned by one task, whose blocks are all on it. -/
structure PostgresPool.Kept (pool : List Nat) (sys : PostgresPool ω τ) : Prop where
  distinct : sys.idle.Nodup
  known : ∀ conn ∈ sys.idle, conn ∈ pool
  task : ∀ i, (sys.task i).Kept pool sys.idle sys.levels
  alone : ∀ i j conn, conn ∈ (sys.task i).owned → conn ∈ (sys.task j).owned → i = j
  accounted : ∀ conn ∈ pool, conn ∈ sys.idle ∨ ∃ i, conn ∈ (sys.task i).owned
  quiet : ∀ conn, (∀ i, conn ∉ (sys.task i).owned) → sys.levels conn = []

namespace PoolTask.Kept

variable {t : PoolTask} {pool idle : List Nat} {levels : Nat → List (List ω)} {conn : Nat}

omit [DecidableEq τ] in
/-- A task that owns a connection, and no other. -/
theorem holds (h : t.Kept pool idle levels) (hconn : conn ∈ t.owned) :
    conn ∈ pool ∧ conn ∉ idle ∧ t.owned = [conn] ∧ t.waiting = false ∧
      Holds conn t.frames t.guardedConnection (levels conn).length := by
  rcases h with ⟨hnone, -⟩ | ⟨c, hpool, hc, hwait, hholds⟩
  · simp [owned, hnone] at hconn
  · have howned : t.owned = [c] := hholds.owned_eq t.waiting
    rw [howned, List.mem_singleton] at hconn
    subst hconn
    exact ⟨hpool, hc, howned, hwait, hholds⟩

omit [DecidableEq τ] in
/-- A task with a block open owns the connection of that block. -/
theorem mem_owned (h : t.Kept pool idle levels) (hconn : t.conn? = some conn) : conn ∈ t.owned := by
  rcases h with ⟨hnone, -⟩ | ⟨c, -, -, -, hholds⟩
  · simp [PoolTask.conn?, hnone] at hconn
  · have howned : t.owned = [c] := hholds.owned_eq t.waiting
    have hsame : conn = c := hholds.conn_eq (w := t.waiting) hconn
    rw [howned, hsame]
    exact List.mem_singleton_self c

omit [DecidableEq τ] in
/-- A task with no block open may wait, or give up. -/
theorem wait (h : t.Kept pool idle levels) (hframes : t.frames = []) (w : Bool) :
    ({ t with waiting := w } : PoolTask).Kept pool idle levels := by
  rcases h with hnone | ⟨c, -, -, -, hholds⟩
  · exact .inl hnone
  · exact absurd hframes hholds.frames_ne

omit [DecidableEq τ] in
theorem frames_of_waiting (h : t.Kept pool idle levels) (hwait : t.waiting = true) :
    t.frames = [] ∧ t.guardedConnection = none := by
  rcases h with hnone | ⟨c, -, -, hno, -⟩
  · exact hnone
  · rw [hwait] at hno
    cases hno

end PoolTask.Kept

namespace PostgresPool.Kept

variable {pool : List Nat} {sys : PostgresPool ω τ} {i : τ} {conn : Nat}

omit [DecidableEq τ] in
theorem new (hpool : pool.Nodup) : (PostgresPool.start pool : PostgresPool ω τ).Kept pool where
  distinct := hpool
  known _ h := h
  task _ := .inl ⟨rfl, rfl⟩
  alone _ _ _ h := nomatch h
  accounted _ h := .inl h
  quiet _ _ := rfl

omit [DecidableEq τ] in
theorem mem_pool (h : sys.Kept pool) (hconn : conn ∈ (sys.task i).owned) : conn ∈ pool :=
  ((h.task i).holds hconn).1

omit [DecidableEq τ] in
theorem not_idle (h : sys.Kept pool) (hconn : conn ∈ (sys.task i).owned) : conn ∉ sys.idle :=
  ((h.task i).holds hconn).2.1

/-- **A task changes its blocks, its own levels, and takes a connection from the pool or gives it
back.** -/
theorem change (h : sys.Kept pool) {t : PoolTask} {idle : List Nat}
    {levels : Nat → List (List ω)} {committed : List (τ × List ω)} (hdistinct : idle.Nodup)
    (hsame : ∀ conn, conn ∈ idle ∨ conn ∈ t.owned ↔ conn ∈ sys.idle ∨ conn ∈ (sys.task i).owned)
    (htask : t.Kept pool idle levels)
    (hlevels : ∀ conn, conn ∉ (sys.task i).owned → levels conn = sys.levels conn)
    (hquiet : ∀ conn ∈ (sys.task i).owned, conn ∉ t.owned → levels conn = []) :
    (⟨idle, levels, committed, Function.update sys.task i t⟩ : PostgresPool ω τ).Kept pool := by
  -- what the task has now is nobody else's
  have hothers : ∀ j, j ≠ i → ∀ conn, conn ∈ (sys.task j).owned →
      conn ∉ idle ∧ conn ∉ t.owned ∧ conn ∉ (sys.task i).owned := by
    intro j hj conn hconn
    have hnot : ¬ (conn ∈ sys.idle ∨ conn ∈ (sys.task i).owned) := by
      rintro (hidle | hmine)
      · exact h.not_idle hconn hidle
      · exact hj (h.alone j i conn hconn hmine)
    have hnow := mt (hsame conn).1 hnot
    exact ⟨fun hc => hnow (.inl hc), fun hc => hnow (.inr hc), fun hc => hnot (.inr hc)⟩
  refine ⟨hdistinct, ?_, ?_, ?_, ?_, ?_⟩
  · intro conn hconn
    rcases (hsame conn).1 (.inl hconn) with hidle | hmine
    · exact h.known conn hidle
    · exact h.mem_pool hmine
  · intro j
    by_cases hj : j = i
    · subst hj
      simpa using htask
    · simp only [Function.update_of_ne hj]
      rcases h.task j with hnone | ⟨c, hc, -, hwait, hholds⟩
      · exact .inl hnone
      · have hmem : c ∈ (sys.task j).owned := by
          rw [show (sys.task j).owned = [c] from hholds.owned_eq (sys.task j).waiting]
          exact List.mem_singleton_self c
        obtain ⟨hidle, -, hmine⟩ := hothers j hj c hmem
        refine .inr ⟨c, hc, hidle, hwait, ?_⟩
        rw [hlevels c hmine]
        exact hholds
  · intro j k conn hconn hconn'
    by_cases hj : j = i <;> by_cases hk : k = i
    · rw [hj, hk]
    · subst hj
      simp only [Function.update_self, Function.update_of_ne hk] at hconn hconn'
      exact absurd hconn (hothers k hk conn hconn').2.1
    · subst hk
      simp only [Function.update_self, Function.update_of_ne hj] at hconn hconn'
      exact absurd hconn' (hothers j hj conn hconn).2.1
    · simp only [Function.update_of_ne hj, Function.update_of_ne hk] at hconn hconn'
      exact h.alone j k conn hconn hconn'
  · intro conn hconn
    by_cases hmine : conn ∈ idle ∨ conn ∈ t.owned
    · rcases hmine with hidle | howned
      · exact .inl hidle
      · exact .inr ⟨i, by simpa using howned⟩
    · have hnot := mt (hsame conn).2 hmine
      rcases h.accounted conn hconn with hidle | ⟨j, hj⟩
      · exact absurd (.inl hidle) hnot
      · have hne : j ≠ i := by
          rintro rfl
          exact hnot (.inr hj)
        exact .inr ⟨j, by simpa [Function.update_of_ne hne] using hj⟩
  · intro conn hnone
    have hmine : conn ∉ t.owned := by simpa using hnone i
    by_cases hold : conn ∈ (sys.task i).owned
    · exact hquiet conn hold hmine
    · refine (hlevels conn hold).trans (h.quiet conn fun j => ?_)
      by_cases hj : j = i
      · exact hj ▸ hold
      · simpa [Function.update_of_ne hj] using hnone j

/-- The task owns what it owned. -/
theorem stay (h : sys.Kept pool) {t : PoolTask} {levels : Nat → List (List ω)}
    {c : List (τ × List ω)} (howned : t.owned = (sys.task i).owned)
    (htask : t.Kept pool sys.idle levels)
    (hlevels : ∀ conn, conn ∉ (sys.task i).owned → levels conn = sys.levels conn) :
    (⟨sys.idle, levels, c, Function.update sys.task i t⟩ : PostgresPool ω τ).Kept pool :=
  h.change h.distinct (fun conn => by rw [howned]) htask hlevels
    fun conn hold hnew => absurd (howned ▸ hold) hnew

omit [DecidableEq τ] in
/-- Only the levels of its own connection are changed. -/
theorem own_levels (hmem : conn ∈ (sys.task i).owned) (new : List (List ω)) (c : Nat)
    (hc : c ∉ (sys.task i).owned) : Function.update sys.levels conn new c = sys.levels c := by
  have hne : c ≠ conn := by
    rintro rfl
    exact hc hmem
  exact Function.update_of_ne hne _ _

omit [DecidableEq τ] in
/-- A task that goes on with the connection that it holds. -/
theorem held (h : sys.Kept pool) {t : PoolTask} {n : List (List ω)}
    (hmem : conn ∈ (sys.task i).owned) (hwait : t.waiting = false)
    (hholds : Holds conn t.frames t.guardedConnection n.length) :
    t.Kept pool sys.idle (Function.update sys.levels conn n) :=
  .inr ⟨conn, h.mem_pool hmem, h.not_idle hmem, hwait, by simpa using hholds⟩

/-- It opens or leaves a block that is no transaction. -/
theorem onward (h : sys.Kept pool) {t : PoolTask} {c : List (τ × List ω)}
    (hmem : conn ∈ (sys.task i).owned) (howned : t.owned = (sys.task i).owned)
    (hwait : t.waiting = false)
    (hholds : Holds conn t.frames t.guardedConnection (sys.levels conn).length) :
    (⟨sys.idle, sys.levels, c, Function.update sys.task i t⟩ : PostgresPool ω τ).Kept pool := by
  refine h.stay howned ?_ fun _ _ => rfl
  exact .inr ⟨conn, h.mem_pool hmem, h.not_idle hmem, hwait, hholds⟩

/-- A task with no block open takes an idle connection. -/
theorem take (h : sys.Kept pool) (hframes : (sys.task i).frames = [])
    (hvar : (sys.task i).guardedConnection = none) (hconn : conn ∈ sys.idle) :
    ({ sys with idle := sys.idle.erase conn }.setTask i
      ((sys.task i).enter (.connection conn true))).Kept pool := by
  have howned : (sys.task i).owned = [] := by simp [PoolTask.owned, hframes]
  have hnew : ((sys.task i).enter (.connection conn true)).owned = [conn] := by
    simp [PoolTask.owned, PoolTask.enter, hframes]
  have hnobody : ∀ j, conn ∉ (sys.task j).owned := fun j hj => h.not_idle hj hconn
  refine h.change (h.distinct.erase conn) (fun c => ?_) ?_ (fun _ _ => rfl) fun c hc => ?_
  · rw [howned, hnew, h.distinct.mem_erase_iff]
    by_cases hsame : c = conn
    · simp [hsame, hconn]
    · simp [hsame]
  · refine .inr ⟨conn, h.known conn hconn, ?_, rfl, ?_⟩
    · simp [h.distinct.mem_erase_iff]
    · rw [h.quiet conn hnobody]
      simp only [PoolTask.enter, hframes, hvar]
      exact .base
  · rw [howned] at hc
    cases hc

/-- It gives the connection back, with no transaction open on it. -/
theorem giveBack (h : sys.Kept pool) (howned : (sys.task i).owned = [conn])
    (hvar : (sys.task i).guardedConnection = none) (hlevels : sys.levels conn = []) :
    ({ sys with idle := conn :: sys.idle }.setTask i { sys.task i with frames := [] }).Kept
      pool := by
  have hmem : conn ∈ (sys.task i).owned := howned ▸ List.mem_singleton_self conn
  have hnone : ({ sys.task i with frames := [] } : PoolTask).owned = [] := rfl
  refine h.change (i := i) (List.nodup_cons.2 ⟨h.not_idle hmem, h.distinct⟩) (fun k => ?_)
    (.inl ⟨rfl, hvar⟩) (fun _ _ => rfl) fun k hk _ => ?_
  · rw [hnone, howned]
    simp [or_comm]
  · rw [howned, List.mem_singleton] at hk
    rw [hk]
    exact hlevels

omit [DecidableEq τ] in
/-- The connection of a task with a block open. -/
theorem exists_held (h : sys.Kept pool) (hframes : (sys.task i).frames ≠ []) :
    ∃ conn, conn ∈ (sys.task i).owned ∧ (sys.task i).owned = [conn] ∧
      Holds conn (sys.task i).frames (sys.task i).guardedConnection (sys.levels conn).length := by
  rcases h.task i with ⟨hnone, -⟩ | ⟨c, -, -, -, hold⟩
  · exact absurd hnone hframes
  · have howned : (sys.task i).owned = [c] := hold.owned_eq (sys.task i).waiting
    exact ⟨c, howned ▸ List.mem_singleton_self c, howned, hold⟩

end PostgresPool.Kept

/-- **A step keeps every task to its connection.** -/
theorem PoolStep.kept {pool : List Nat} {sys sys' : PostgresPool ω τ} {l : PoolLabel ω τ}
    (h : sys.Kept pool) (hstep : PoolStep sys l sys') : sys'.Kept pool := by
  cases hstep with
  | @reuse i conn hcall hguarded =>
    refine h.stay rfl ?_ fun _ _ => rfl
    rcases h.task i with ⟨-, hnone⟩ | ⟨c, hc, hidle, -, hholds⟩
    · rw [hguarded] at hnone
      cases hnone
    · rcases hcall.2 with hnone | ⟨token, rest, hframes⟩
      · exact absurd hnone hholds.frames_ne
      · obtain ⟨hvar, -⟩ := hholds.guarded_eq hframes
        obtain rfl : conn = c := Option.some.inj (hguarded.symm.trans hvar)
        exact .inr ⟨conn, hc, hidle, rfl, by
          simpa only [PoolTask.enter, hguarded] using (hguarded ▸ hholds).reuse⟩
  | @ask i hcall hguarded =>
    refine h.stay rfl ?_ fun _ _ => rfl
    rcases hcall.2 with hnone | ⟨token, rest, hframes⟩
    · exact (h.task i).wait hnone true
    · -- in the body of a guard the context variable is set
      obtain ⟨c, -, -, hholds⟩ := h.exists_held (i := i) (by rw [hframes]; nofun)
      rw [(hholds.guarded_eq hframes).1] at hguarded
      cases hguarded
  | @askRaw i hnone hidle => exact h.stay rfl ((h.task i).wait hnone true) fun _ _ => rfl
  | @grant i conn hwait hconn =>
    obtain ⟨hframes, hvar⟩ := (h.task i).frames_of_waiting hwait
    exact h.take hframes hvar hconn
  | @giveUp i hwait =>
    exact h.stay rfl ((h.task i).wait ((h.task i).frames_of_waiting hwait).1 false) fun _ _ => rfl
  | @begin i conn s hwait hconn hnext =>
    have hmem := (h.task i).mem_owned hconn
    obtain ⟨-, -, -, -, hholds⟩ := (h.task i).holds hmem
    obtain rfl : _ = s := Option.some.inj hnext
    refine h.stay rfl (h.held hmem rfl ?_) (PostgresPool.Kept.own_levels hmem _)
    exact hholds.transaction
  | @write i conn w s hwait hconn hnext =>
    have hmem := (h.task i).mem_owned hconn
    obtain ⟨-, -, -, -, hholds⟩ := (h.task i).holds hmem
    have hkept := h.stay (t := sys.task i) (c := (sys.session i conn s).committed) rfl
      (h.held hmem hwait (by rw [Session.length_of_write hnext]; exact hholds))
      (PostgresPool.Kept.own_levels hmem s.levels)
    rw [Function.update_eq_self] at hkept
    exact hkept
  | @guard i conn rest hwait hframes =>
    obtain ⟨c, hmem, -, hholds⟩ := h.exists_held (i := i) (by rw [hframes]; nofun)
    obtain rfl : conn = c := hholds.conn_eq (w := false) (by simp [PoolTask.conn?, hframes])
    exact h.onward hmem rfl rfl hholds.guarded
  | @unguard i token rest hwait hframes =>
    obtain ⟨c, hmem, -, hholds⟩ := h.exists_held (i := i) (by rw [hframes]; nofun)
    obtain ⟨-, houter⟩ := hholds.guarded_eq hframes
    exact h.onward hmem (by simp [PoolTask.owned, hframes]) rfl houter
  | @close i conn rest keep s hwait hframes hnext =>
    obtain ⟨c, hmem, -, hholds⟩ := h.exists_held (i := i) (by rw [hframes]; nofun)
    obtain rfl : conn = c := hholds.conn_eq (w := false) (by simp [PoolTask.conn?, hframes])
    refine h.stay ?_ (h.held hmem hwait ?_) (PostgresPool.Kept.own_levels hmem _)
    · simp [PoolTask.owned, hframes]
    · rw [hframes] at hholds
      have hlength := Session.length_of_close hnext
      generalize hn : (sys.levels conn).length = n at hholds hlength
      cases hholds with
      | transaction houter =>
        obtain rfl := Nat.succ.inj hlength
        exact houter
  | @release i conn owned rest hwait hframes =>
    obtain ⟨c, hmem, howned, hholds⟩ := h.exists_held (i := i) (by rw [hframes]; nofun)
    obtain rfl : conn = c := hholds.conn_eq (w := false) (by simp [PoolTask.conn?, hframes])
    rw [hframes] at hholds
    generalize hv : (sys.task i).guardedConnection = v at hholds
    generalize hn : (sys.levels conn).length = n at hholds
    cases hholds with
    | base => exact h.giveBack howned hv (List.length_eq_zero_iff.1 hn)
    | reuse houter =>
      refine h.onward hmem ?_ hwait ?_
      · simp [PoolTask.owned, hframes]
      · rw [hv, hn]
        exact houter

theorem PostgresPool.Kept.run {pool : List Nat} (hpool : pool.Nodup) {ls : List (PoolLabel ω τ)}
    {sys : PostgresPool ω τ} (h : Run PoolStep (.start pool) ls sys) : sys.Kept pool :=
  h.invariant (I := fun s => s.Kept pool) (fun _ _ _ hkept hstep => hstep.kept hkept) (.new hpool)

/-! ## The pool never deadlocks -/

/-- No task waits with a connection, and none is shared or lost. -/
structure PoolSafe (pool : List Nat) (sys : PostgresPool ω τ) : Prop where
  /-- no task owns two connections -/
  one : ∀ i, (sys.task i).owned.length ≤ 1
  /-- a task that waits for a connection has no block open -/
  waiting : ∀ i, (sys.task i).waiting = true → (sys.task i).frames = []
  /-- what a task does is done on the connection it owns -/
  own : ∀ i conn, (sys.task i).conn? = some conn → conn ∈ (sys.task i).owned
  alone : ∀ i j conn, conn ∈ (sys.task i).owned → conn ∈ (sys.task j).owned → i = j
  /-- a connection is idle exactly when nobody owns it -/
  accounted : ∀ conn ∈ pool, conn ∈ sys.idle ↔ ∀ i, conn ∉ (sys.task i).owned

omit [DecidableEq τ] in
theorem PostgresPool.Kept.safe {pool : List Nat} {sys : PostgresPool ω τ} (h : sys.Kept pool) :
    PoolSafe pool sys where
  one i := by
    rcases h.task i with ⟨hnone, -⟩ | ⟨c, -, -, -, hholds⟩
    · simp [PoolTask.owned, hnone]
    · have howned : (sys.task i).owned = [c] := hholds.owned_eq (sys.task i).waiting
      simp [howned]
  waiting i hwait := ((h.task i).frames_of_waiting hwait).1
  own i conn hconn := (h.task i).mem_owned hconn
  alone := h.alone
  accounted conn hconn := by
    constructor
    · intro hidle i hmem
      exact h.not_idle hmem hidle
    · intro hnobody
      rcases h.accounted conn hconn with hidle | ⟨i, hi⟩
      · exact hidle
      · exact absurd hi (hnobody i)

/-- A block ends. -/
def PoolLabel.Leaves : PoolLabel ω τ → Prop
  | .unguard _ | .close _ _ | .release _ => True
  | _ => False

/-- A task can leave its innermost block. -/
theorem PostgresPool.Kept.exists_leave {pool : List Nat} {sys : PostgresPool ω τ}
    (h : sys.Kept pool) {j : τ} {f : Frame} {rest : List Frame}
    (hframes : (sys.task j).frames = f :: rest) :
    ∃ l sys', PoolStep sys l sys' ∧ l.Leaves ∧ (sys'.task j).frames = rest ∧
      ∀ k, k ≠ j → sys'.task k = sys.task k := by
  obtain ⟨conn, hmem, -, hholds⟩ := h.exists_held (i := j) (by rw [hframes]; nofun)
  have hwait := ((h.task j).holds hmem).2.2.2.1
  cases f with
  | connection c owned =>
    exact ⟨_, _, .release hwait hframes, trivial, by simp [PostgresPool.setTask],
      fun k hk => by simp [PostgresPool.setTask, Function.update_of_ne hk]⟩
  | guarded token =>
    exact ⟨_, _, .unguard hwait hframes, trivial, by simp [PostgresPool.setTask],
      fun k hk => by simp [PostgresPool.setTask, Function.update_of_ne hk]⟩
  | transaction c =>
    obtain rfl : c = conn := hholds.conn_eq (w := false) (by simp [PoolTask.conn?, hframes])
    have hlevels : sys.levels c ≠ [] := by
      intro hnone
      rw [hframes, hnone] at hholds
      cases hholds
    obtain ⟨s, hnext⟩ := Session.exists_close (s := ⟨sys.levels c, []⟩) hlevels true
    exact ⟨_, _, .close hwait hframes hnext, trivial, by simp [PostgresPool.setTask],
      fun k hk => by simp [PostgresPool.setTask, PostgresPool.session, Function.update_of_ne hk]⟩

/-- A task can leave all its blocks. -/
theorem PostgresPool.Kept.exists_leaveAll {pool : List Nat} {j : τ} : ∀ (fs : List Frame)
    {sys : PostgresPool ω τ}, sys.Kept pool → (sys.task j).frames = fs →
    ∃ ls sys', Run PoolStep sys ls sys' ∧ (∀ l ∈ ls, l.Leaves) ∧ (sys'.task j).frames = [] ∧
      ∀ k, k ≠ j → sys'.task k = sys.task k
  | [], sys, _, hframes => ⟨[], sys, .nil sys, by simp, hframes, fun _ _ => rfl⟩
  | f :: rest, sys, h, hframes => by
    obtain ⟨l, mid, hstep, hleaves, hrest, hothers⟩ := h.exists_leave hframes
    obtain ⟨ls, sys', hrun, hall, hend, hsame⟩ := exists_leaveAll rest (hstep.kept h) hrest
    refine ⟨l :: ls, sys', .cons hstep hrun, ?_, hend, fun k hk => ?_⟩
    · intro m hm
      rcases List.mem_cons.1 hm with rfl | hm
      · exact hleaves
      · exact hall m hm
    · rw [hsame k hk, hothers k hk]

/-- The task can be given a connection once others leave their blocks, without anybody entering
one. -/
def Served (sys : PostgresPool ω τ) (i : τ) : Prop :=
  ∃ ls conn sys', Run PoolStep sys (ls ++ [.grant i conn]) sys' ∧ (∀ l ∈ ls, l.Leaves) ∧
    (sys'.task i).owned = [conn]

theorem PostgresPool.Kept.served {pool : List Nat} {sys : PostgresPool ω τ} (h : sys.Kept pool)
    (hpool : pool ≠ []) {i : τ} (hwait : (sys.task i).waiting = true) : Served sys i := by
  obtain ⟨conn, hconn⟩ := List.exists_mem_of_ne_nil pool hpool
  -- the connection is idle, or its owner leaves all its blocks
  have hidle : ∃ ls mid, Run PoolStep sys ls mid ∧ (∀ l ∈ ls, l.Leaves) ∧ conn ∈ mid.idle ∧
      mid.task i = sys.task i := by
    rcases h.accounted conn hconn with hidle | ⟨j, hj⟩
    · exact ⟨[], sys, .nil sys, by simp, hidle, rfl⟩
    · have hne : i ≠ j := by
        rintro rfl
        rw [((h.task i).holds hj).2.2.2.1] at hwait
        cases hwait
      obtain ⟨ls, mid, hrun, hall, hend, hsame⟩ := h.exists_leaveAll _ (j := j) rfl
      have hmid : mid.Kept pool := hrun.invariant (I := fun s => s.Kept pool)
        (fun _ _ _ hkept hstep => hstep.kept hkept) h
      refine ⟨ls, mid, hrun, hall, ?_, hsame i hne⟩
      rcases hmid.accounted conn hconn with hidle | ⟨k, hk⟩
      · exact hidle
      · by_cases hkj : k = j
        · subst hkj
          simp [PoolTask.owned, hend] at hk
        · rw [hsame k hkj] at hk
          exact absurd (h.alone k j conn hk hj) hkj
  obtain ⟨ls, mid, hrun, hall, hidle, hsame⟩ := hidle
  have hframes := ((h.task i).frames_of_waiting hwait).1
  refine ⟨ls, conn, _, hrun.snoc (.grant (hsame ▸ hwait) hidle), hall, ?_⟩
  simp [PostgresPool.setTask, PoolTask.enter, PoolTask.owned, hsame, hframes]

/-- **In every run of any number of tasks over a pool, a task that waits for a connection owns
none, no connection is lost or shared, and everybody who waits can still be served.** -/
theorem poolSafe_run {pool : List Nat} (hpool : pool.Nodup) (hsome : pool ≠ [])
    {ls : List (PoolLabel ω τ)} {sys : PostgresPool ω τ} (h : Run PoolStep (.start pool) ls sys) :
    PoolSafe pool sys ∧ ∀ i, (sys.task i).waiting = true → Served sys i := by
  have hkept := PostgresPool.Kept.run hpool h
  exact ⟨hkept.safe, fun i hwait => hkept.served hsome hwait⟩

/-- A method that writes in a transaction of its own, and fails unless `keep`. -/
def writes (i : Bool) (w : String) (keep : Bool) : List (PoolLabel String Bool) :=
  [.acquire i, .begin i, .write i w, .close i keep, .release i]

/-- While one task records a delivery in its guard, and fails to record another, a second task waits
for the only connection; then the guard's own transaction commits. -/
def recordedInGuard : List (PoolLabel String Bool) :=
  [.acquireRaw true, .grant true 0, .begin true, .guard true, .acquire false] ++
    writes true "in_progress" true ++ writes true "delivered" false ++
      [.unguard true, .close true true]

theorem exists_recordedInGuard : ∃ sys : PostgresPool String Bool,
    Run PoolStep (.start [0]) recordedInGuard sys ∧ (sys.task false).waiting = true ∧
      sys.committedBy true = [["in_progress"]] :=
  ⟨_, (.cons (.askRaw rfl rfl) <| .cons (.grant rfl (by decide)) <| .cons (.begin rfl rfl rfl) <|
    .cons (.guard rfl rfl) <| .cons (.ask ⟨rfl, .inl rfl⟩ rfl) <|
    -- the method that is kept
    .cons (.reuse ⟨rfl, .inr ⟨_, _, rfl⟩⟩ rfl) <| .cons (.begin rfl rfl rfl) <|
    .cons (.write rfl rfl rfl) <| .cons (.close rfl rfl rfl) <| .cons (.release rfl rfl) <|
    -- the method that fails
    .cons (.reuse ⟨rfl, .inr ⟨_, _, rfl⟩⟩ rfl) <| .cons (.begin rfl rfl rfl) <|
    .cons (.write rfl rfl rfl) <| .cons (.close rfl rfl rfl) <| .cons (.release rfl rfl) <|
    .cons (.unguard rfl rfl) <| .single (.close rfl rfl rfl)), rfl, by decide⟩

theorem poolSafe_recorded : ∃ sys : PostgresPool String Bool,
    Run PoolStep (.start [0]) recordedInGuard sys ∧ PoolSafe [0] sys ∧ Served sys false := by
  obtain ⟨sys, hrun, hwait, -⟩ := exists_recordedInGuard
  obtain ⟨hsafe, hserved⟩ := poolSafe_run (by decide) (by decide) hrun
  exact ⟨sys, hrun, hsafe, hserved false hwait⟩

/-! ## What is committed -/

/-- What a step is for the transactions of a task. -/
def PoolLabel.moveOf (i : τ) : PoolLabel ω τ → Option (Move ω)
  | .begin j => if j = i then some .begin else none
  | .write j w => if j = i then some (.write w) else none
  | .close j keep => if j = i then some (.close keep) else none
  | _ => none

namespace PostgresPool

/-- The open transactions of a task. -/
def openLevels (sys : PostgresPool ω τ) (i : τ) : List (List ω) :=
  ((sys.task i).owned.head?.map sys.levels).getD []

/-- The task as if it had a database session of its own. -/
def sessionOf (sys : PostgresPool ω τ) (i : τ) : Session ω :=
  ⟨sys.openLevels i, sys.committedBy i⟩

omit [DecidableEq τ] in
theorem openLevels_of_mem {sys : PostgresPool ω τ} {i : τ} {conn : Nat}
    (howned : (sys.task i).owned = [conn]) : sys.openLevels i = sys.levels conn := by
  simp [openLevels, howned]

omit [DecidableEq τ] in
theorem openLevels_of_none {sys : PostgresPool ω τ} {i : τ} (howned : (sys.task i).owned = []) :
    sys.openLevels i = [] := by
  simp [openLevels, howned]

theorem setTask_self (sys : PostgresPool ω τ) (i : τ) : sys.setTask i (sys.task i) = sys := by
  simp [setTask]

/-- A step that touches neither what is open nor what is committed. -/
theorem sessionOf_setTask (sys : PostgresPool ω τ) (idle : List Nat) {k : τ} {t : PoolTask}
    (howned : (t.owned.head?.map sys.levels).getD [] = sys.openLevels k) (i : τ) :
    ({ sys with idle := idle }.setTask k t).sessionOf i = sys.sessionOf i := by
  by_cases hi : i = k
  · subst hi
    simpa [sessionOf, openLevels, setTask, committedBy] using howned
  · simp [sessionOf, openLevels, setTask, committedBy, Function.update_of_ne hi]

/-- A move on the connection that a task owns. -/
theorem sessionOf_session {pool : List Nat} {sys : PostgresPool ω τ} (h : sys.Kept pool) {k : τ}
    {t : PoolTask} {conn : Nat} {m : Move ω} {s : Session ω} (hmem : conn ∈ (sys.task k).owned)
    (howned : t.owned = (sys.task k).owned)
    (hnext : Session.next ⟨sys.levels conn, []⟩ m = some s) (i : τ) :
    (if k = i then Session.next (sys.sessionOf i) m else some (sys.sessionOf i)) =
      some (((sys.session k conn s).setTask k t).sessionOf i) := by
  have hone := ((h.task k).holds hmem).2.2.1
  by_cases hi : k = i
  · subst hi
    have hopen : sys.openLevels k = sys.levels conn := openLevels_of_mem hone
    rw [if_pos rfl]
    simp only [sessionOf, hopen, Session.next_after hnext]
    simp [openLevels, committedBy, setTask, session, howned, hone, List.filter_map,
      Function.comp_def]
  · have hne : i ≠ k := fun heq => hi heq.symm
    have hlevels : ((sys.task i).owned.head?.map
        (Function.update sys.levels conn s.levels)).getD [] = sys.openLevels i := by
      rcases hhead : (sys.task i).owned with - | ⟨c, rest⟩
      · simp [openLevels, hhead]
      · have hc : c ≠ conn := by
          rintro rfl
          exact hne (h.alone i k c (by simp [hhead]) hmem)
        simp [openLevels, hhead, Function.update_of_ne hc]
    rw [if_neg hi]
    simp only [sessionOf, openLevels, setTask, session, committedBy, Function.update_of_ne hne,
      hlevels]
    simp [List.filter_map, Function.comp_def, hi]

end PostgresPool

/-- **A step moves the session of the task that makes it, and no other.** -/
theorem PoolStep.sessionOf {pool : List Nat} {sys sys' : PostgresPool ω τ} {l : PoolLabel ω τ}
    (h : sys.Kept pool) (hstep : PoolStep sys l sys') (i : τ) :
    (l.moveOf i).elim (some (sys.sessionOf i)) (Session.next (sys.sessionOf i)) =
      some (sys'.sessionOf i) := by
  cases hstep with
  | reuse hcall hguarded =>
    refine congrArg some (PostgresPool.sessionOf_setTask sys sys.idle ?_ i).symm
    rfl
  | ask hcall hguarded =>
    refine congrArg some (PostgresPool.sessionOf_setTask sys sys.idle ?_ i).symm
    rfl
  | askRaw hnone hidle =>
    refine congrArg some (PostgresPool.sessionOf_setTask sys sys.idle ?_ i).symm
    rfl
  | giveUp hwait =>
    refine congrArg some (PostgresPool.sessionOf_setTask sys sys.idle ?_ i).symm
    rfl
  | guard hwait hframes =>
    refine congrArg some (PostgresPool.sessionOf_setTask sys sys.idle ?_ i).symm
    rfl
  | @grant k conn hwait hconn =>
    refine congrArg some (PostgresPool.sessionOf_setTask sys _ ?_ i).symm
    have hframes := ((h.task k).frames_of_waiting hwait).1
    have hquiet := h.quiet conn fun j hj => h.not_idle hj hconn
    simp [PostgresPool.openLevels, PoolTask.owned, PoolTask.enter, hframes, hquiet]
  | @unguard k token rest hwait hframes =>
    refine congrArg some (PostgresPool.sessionOf_setTask sys sys.idle ?_ i).symm
    simp [PostgresPool.openLevels, PoolTask.owned, hframes]
  | @release k conn owned rest hwait hframes =>
    refine congrArg some (PostgresPool.sessionOf_setTask sys _ ?_ i).symm
    obtain ⟨c, hmem, howned, hholds⟩ := h.exists_held (i := k) (by rw [hframes]; nofun)
    obtain rfl : conn = c := hholds.conn_eq (w := false) (by simp [PoolTask.conn?, hframes])
    rw [PostgresPool.openLevels_of_mem howned]
    rw [hframes] at hholds
    generalize (sys.task k).guardedConnection = v at hholds
    generalize hn : (sys.levels conn).length = n at hholds
    cases hholds with
    | base => simpa [PoolTask.owned] using (List.length_eq_zero_iff.1 hn).symm
    | reuse houter =>
      have hrest : ({ sys.task k with frames := rest } : PoolTask).owned = [conn] :=
        houter.owned_eq false
      simp [hrest]
  | @begin k conn s hwait hconn hnext =>
    have hmem := (h.task k).mem_owned hconn
    rw [← PostgresPool.sessionOf_session h (t := (sys.task k).enter (.transaction conn)) hmem rfl
      hnext i]
    by_cases hi : k = i <;> simp [PoolLabel.moveOf, hi]
  | @write k conn w s hwait hconn hnext =>
    have hmem := (h.task k).mem_owned hconn
    have hmove := PostgresPool.sessionOf_session h hmem rfl hnext i
    rw [show (sys.session k conn s).setTask k (sys.task k) = sys.session k conn s from
      (sys.session k conn s).setTask_self k] at hmove
    rw [← hmove]
    by_cases hi : k = i <;> simp [PoolLabel.moveOf, hi]
  | @close k conn rest keep s hwait hframes hnext =>
    have hconn : (sys.task k).conn? = some conn := by simp [PoolTask.conn?, hframes]
    have hmem := (h.task k).mem_owned hconn
    rw [← PostgresPool.sessionOf_session h hmem (by simp [PoolTask.owned, hframes]) hnext i]
    by_cases hi : k = i <;> simp [PoolLabel.moveOf, hi]

theorem sessionOf_run {pool : List Nat} (hpool : pool.Nodup) {ls : List (PoolLabel ω τ)}
    {sys : PostgresPool ω τ} (h : Run PoolStep (.start pool) ls sys) (i : τ) :
    (ls.filterMap (PoolLabel.moveOf i)).foldlM Session.next .new = some (sys.sessionOf i) := by
  induction h with
  | nil => rfl
  | snoc hrun hstep ih =>
    have hmove := hstep.sessionOf (.run hpool hrun) i
    rw [List.filterMap_append, List.foldlM_append, ih]
    revert hmove
    cases hl : PoolLabel.moveOf i _ <;> simp [hl]

/-- **Whatever the tasks do, and however they are interleaved: what a task has committed is what its
moves commit as nested transactions.  A transaction that is kept commits at once what its body
keeps, one that is not commits nothing, and nothing is committed of one that is open.** -/
theorem transactions_run {pool : List Nat} (hpool : pool.Nodup) {ls : List (PoolLabel ω τ)}
    {sys : PostgresPool ω τ} (h : Run PoolStep (.start pool) ls sys) (i : τ) :
    ∃ (script : Script ω) (rest : List (Move ω)),
      ls.filterMap (PoolLabel.moveOf i) = script.moves ++ rest ∧
        sys.committedBy i = script.batches ∧
        rest.foldlM Session.next .new = some ⟨sys.openLevels i, []⟩ ∧
        ((sys.task i).frames = [] → rest = []) := by
  have hrun := sessionOf_run hpool h i
  obtain ⟨script, rest, hmoves, hsettled, hrest, hnone⟩ := Session.exists_script_open _ hrun
  refine ⟨script, rest, hmoves, hsettled, hrest, fun hout => hnone ?_⟩
  exact PostgresPool.openLevels_of_none (by simp [PoolTask.owned, hout])

theorem transactions_recorded : ∃ (sys : PostgresPool String Bool) (script : Script String)
    (rest : List (Move String)), Run PoolStep (.start [0]) recordedInGuard sys ∧
      recordedInGuard.filterMap (PoolLabel.moveOf true) = script.moves ++ rest ∧
        sys.committedBy true = script.batches ∧ script.batches = [["in_progress"]] := by
  obtain ⟨sys, hrun, -, hbatches⟩ := exists_recordedInGuard
  obtain ⟨script, rest, hmoves, hcommitted, -⟩ := transactions_run (by decide) hrun true
  exact ⟨sys, script, rest, hrun, hmoves, hcommitted, hcommitted.symm.trans hbatches⟩

end Pool

end NocAgent.Cases
