import NocAgent.Lib.AsyncLock
import NocAgent.Lib.Blocks
import NocAgent.Lib.Script
import NocAgent.Cases.GraphMemory

/-!
# The lock of the in-memory store

* `TaskReentrantLock` — `_TaskReentrantLock`: an `asyncio.Lock`, the task that holds it and how
  deep.
* `LockedTasks`, `LockStep` — any number of tasks that enter and leave blocks under the lock, access
  the store inside them, pause, and are cancelled at any time.
* `Kept` — the lock is taken exactly by the task that is inside, as deep as it says, and whoever
  waits stands at an outermost block.
* `Move`, `LockStep.moves` — what a step does.
* `serializable_run` — every run is a run in which each outermost block happens at once.
* `everyTaskEnds` — there is no infinite run, and a run can only stop when every task is done.
* `firstComeFirstServed_run` — nobody overtakes a task that waits and is not cancelled.
* `methodCall`, `guardedBlock` — the methods of the store and `case_write_guard` as blocks;
  `methodCall_block`, `guardedBlock_block`: each does what its computation does.
* `storeCalls_run` — tasks that call the store call it one at a time.
-/

set_option autoImplicit false

namespace NocAgent.Cases

open Lts Blocks Effects Effects.Action Keyed Relation Coroutine

universe u v

/-! ## The lock -/

/-- A lock that its owner may take again. -/
structure TaskReentrantLock (τ : Type v) where
  lock : AsyncLock τ
  owner : Option τ
  depth : Int

namespace TaskReentrantLock

variable {τ : Type v} [DecidableEq τ]

omit [DecidableEq τ] in
def new : TaskReentrantLock τ := ⟨.new, none, 0⟩

/-- `__aenter__` up to where it suspends: whether the task is inside. -/
def aenter (g : TaskReentrantLock τ) (i : τ) : Bool × TaskReentrantLock τ :=
  if g.owner = some i then (true, { g with depth := g.depth + 1 })
  else if (g.lock.acquire i).1 then (true, ⟨(g.lock.acquire i).2, some i, g.depth + 1⟩)
  else (false, { g with lock := (g.lock.acquire i).2 })

/-- The rest of `__aenter__` in a task that waited and was woken. -/
def aenterWoken (g : TaskReentrantLock τ) (i : τ) : TaskReentrantLock τ :=
  ⟨g.lock.proceed i, some i, g.depth + 1⟩

omit [DecidableEq τ] in
/-- `__aexit__`; releasing a lock that is not taken raises. -/
def aexit (g : TaskReentrantLock τ) : Option (TaskReentrantLock τ) :=
  if g.depth - 1 = 0 then g.lock.release.map fun lock => ⟨lock, none, g.depth - 1⟩
  else some { g with depth := g.depth - 1 }

end TaskReentrantLock

/-! ## Tasks that share it -/

/-- The store, its lock, and the tasks that use it. -/
structure LockedTasks (σ : Type u) (τ : Type v) where
  store : σ
  guard : TaskReentrantLock τ
  task : τ → Coroutine σ

/-- A task goes on, what it waits for raises, or it is cancelled while it waits for the lock. -/
inductive LockLabel (τ : Type v) where
  | run (i : τ)
  | fail (i : τ)
  | cancel (i : τ)
  deriving DecidableEq

section Tasks

variable {σ : Type u} {τ : Type v} [DecidableEq τ]

inductive LockStep : LockedTasks σ τ → LockLabel τ → LockedTasks σ τ → Prop where
  | enter {sys : LockedTasks σ τ} {i : τ} {d : Nat} {inside : Code σ (d + 1)} {otherwise : Code σ d}
      {g : TaskReentrantLock τ} (hidle : sys.guard.lock.turnOf i = none)
      (htask : sys.task i = ⟨d, .enter inside otherwise⟩) (hin : sys.guard.aenter i = (true, g)) :
      LockStep sys (.run i) ⟨sys.store, g, Function.update sys.task i ⟨d + 1, inside⟩⟩
  | wait {sys : LockedTasks σ τ} {i : τ} {d : Nat} {inside : Code σ (d + 1)} {otherwise : Code σ d}
      {g : TaskReentrantLock τ} (hidle : sys.guard.lock.turnOf i = none)
      (htask : sys.task i = ⟨d, .enter inside otherwise⟩) (hout : sys.guard.aenter i = (false, g)) :
      LockStep sys (.run i) ⟨sys.store, g, sys.task⟩
  | woken {sys : LockedTasks σ τ} {i : τ} {d : Nat} {inside : Code σ (d + 1)} {otherwise : Code σ d}
      (hturn : sys.guard.lock.turnOf i = some .woken)
      (htask : sys.task i = ⟨d, .enter inside otherwise⟩) :
      LockStep sys (.run i)
        ⟨sys.store, sys.guard.aenterWoken i, Function.update sys.task i ⟨d + 1, inside⟩⟩
  | giveUp {sys : LockedTasks σ τ} {i : τ} {d : Nat} {inside : Code σ (d + 1)}
      {otherwise : Code σ d} {turn : Turn} (hturn : sys.guard.lock.turnOf i = some turn)
      (hcancelled : turn = .revoked ∨ turn = .cancelled)
      (htask : sys.task i = ⟨d, .enter inside otherwise⟩) :
      LockStep sys (.run i) ⟨sys.store, { sys.guard with lock := sys.guard.lock.giveUp i },
        Function.update sys.task i ⟨d, otherwise⟩⟩
  | leave {sys : LockedTasks σ τ} {i : τ} {d : Nat} {next : Code σ d} {g : TaskReentrantLock τ}
      (htask : sys.task i = ⟨d + 1, .leave next⟩) (hexit : sys.guard.aexit = some g) :
      LockStep sys (.run i) ⟨sys.store, g, Function.update sys.task i ⟨d, next⟩⟩
  | access {sys : LockedTasks σ τ} {i : τ} {d : Nat} {write : σ → σ} {next : σ → Code σ (d + 1)}
      (htask : sys.task i = ⟨d + 1, .access write next⟩) :
      LockStep sys (.run i)
        ⟨write sys.store, sys.guard, Function.update sys.task i ⟨d + 1, next sys.store⟩⟩
  | resume {sys : LockedTasks σ τ} {i : τ} {d : Nat} {next failed : Code σ d}
      (htask : sys.task i = ⟨d, .pause next failed⟩) :
      LockStep sys (.run i) ⟨sys.store, sys.guard, Function.update sys.task i ⟨d, next⟩⟩
  | fail {sys : LockedTasks σ τ} {i : τ} {d : Nat} {next failed : Code σ d}
      (htask : sys.task i = ⟨d, .pause next failed⟩) :
      LockStep sys (.fail i) ⟨sys.store, sys.guard, Function.update sys.task i ⟨d, failed⟩⟩
  | cancel {sys : LockedTasks σ τ} {i : τ} {turn : Turn}
      (hturn : sys.guard.lock.turnOf i = some turn) (hlive : turn = .asleep ∨ turn = .woken) :
      LockStep sys (.cancel i)
        ⟨sys.store, { sys.guard with lock := sys.guard.lock.cancel i }, sys.task⟩

omit [DecidableEq τ] in
/-- Tasks outside every block, over a new lock. -/
def LockedTasks.start (s : σ) (task : τ → Code σ 0) : LockedTasks σ τ :=
  ⟨s, .new, fun i => ⟨0, task i⟩⟩

/-! ## What the lock keeps -/

omit [DecidableEq τ] in
/-- The lock is locked for its owner, who alone is inside, as deep as it has entered. -/
structure LockedTasks.Kept (sys : LockedTasks σ τ) : Prop where
  orderly : sys.guard.lock.Orderly
  locked : sys.guard.lock.locked = sys.guard.owner.isSome
  outside : ∀ i, sys.guard.owner ≠ some i → (sys.task i).1 = 0
  inside : ∀ i, sys.guard.owner = some i → (sys.task i).1 ≠ 0 ∧ sys.guard.depth = (sys.task i).1
  idle : sys.guard.owner = none → sys.guard.depth = 0
  waiting : ∀ w ∈ sys.guard.lock.waiters, ∃ inside otherwise,
    sys.task w.1 = ⟨0, .enter inside otherwise⟩

/-- What a step does. -/
inductive LockedTasks.Move (sys : LockedTasks σ τ) : LockLabel τ → LockedTasks σ τ → Prop where
  | enter {i : τ} {inside : Code σ 1} {otherwise : Code σ 0} {g : TaskReentrantLock τ}
      (hfree : sys.guard.owner = none) (hquiet : ∀ w ∈ sys.guard.lock.waiters, w.2 = .cancelled)
      (hidle : sys.guard.lock.turnOf i = none) (htask : sys.task i = ⟨0, .enter inside otherwise⟩)
      (hguard : g = ⟨{ sys.guard.lock with locked := true }, some i, 1⟩) :
      Move sys (.run i) ⟨sys.store, g, Function.update sys.task i ⟨1, inside⟩⟩
  | woken {i : τ} {inside : Code σ 1} {otherwise : Code σ 0} {g : TaskReentrantLock τ}
      (hfree : sys.guard.owner = none) (hturn : (i, .woken) ∈ sys.guard.lock.waiters)
      (htask : sys.task i = ⟨0, .enter inside otherwise⟩)
      (hguard : g = ⟨sys.guard.lock.proceed i, some i, 1⟩) :
      Move sys (.run i) ⟨sys.store, g, Function.update sys.task i ⟨1, inside⟩⟩
  | inner {i : τ} {l : LockLabel τ} {s : σ} {t : Coroutine σ} {g : TaskReentrantLock τ}
      (hown : sys.guard.owner = some i) (hinside : Inside (sys.store, sys.task i) (s, t))
      (hdeep : t.1 ≠ 0) (hguard : g = ⟨sys.guard.lock, some i, t.1⟩) :
      Move sys l ⟨s, g, Function.update sys.task i t⟩
  | leave {i : τ} {next : Code σ 0} {g : TaskReentrantLock τ} (hown : sys.guard.owner = some i)
      (htask : sys.task i = ⟨1, .leave next⟩)
      (hguard : g = ⟨{ sys.guard.lock with locked := false }.wakeUpFirst, none, 0⟩) :
      Move sys (.run i) ⟨sys.store, g, Function.update sys.task i ⟨0, next⟩⟩
  | outer {i : τ} {l : LockLabel τ} {t : Coroutine σ} (hout : sys.guard.owner ≠ some i)
      (hidle : sys.guard.lock.turnOf i = none) (hstep : Outside (sys.task i) t) :
      Move sys l ⟨sys.store, sys.guard, Function.update sys.task i t⟩
  | wait {i : τ} {inside : Code σ 1} {otherwise : Code σ 0} {g : TaskReentrantLock τ}
      (hidle : sys.guard.lock.turnOf i = none) (htask : sys.task i = ⟨0, .enter inside otherwise⟩)
      (hguard : g = ⟨(sys.guard.lock.acquire i).2, sys.guard.owner, sys.guard.depth⟩)
      (hlock : (sys.guard.lock.acquire i).2 =
        { sys.guard.lock with waiters := sys.guard.lock.waiters ++ [(i, .asleep)] }) :
      Move sys (.run i) ⟨sys.store, g, sys.task⟩
  | giveUp {i : τ} {turn : Turn} {inside : Code σ 1} {otherwise : Code σ 0}
      (hout : sys.guard.owner ≠ some i) (hturn : (i, turn) ∈ sys.guard.lock.waiters)
      (hcancelled : turn = .revoked ∨ turn = .cancelled)
      (htask : sys.task i = ⟨0, .enter inside otherwise⟩) :
      Move sys (.run i) ⟨sys.store, { sys.guard with lock := sys.guard.lock.giveUp i },
        Function.update sys.task i ⟨0, otherwise⟩⟩
  | cancel {i : τ} {turn : Turn} (hturn : (i, turn) ∈ sys.guard.lock.waiters)
      (hlive : turn = .asleep ∨ turn = .woken) :
      Move sys (.cancel i) ⟨sys.store, { sys.guard with lock := sys.guard.lock.cancel i }, sys.task⟩

namespace LockedTasks.Kept

variable {sys sys' : LockedTasks σ τ} {i : τ} {d : Nat}

omit [DecidableEq τ] in
theorem owner_of_deep (h : sys.Kept) (hdeep : (sys.task i).1 ≠ 0) : sys.guard.owner = some i :=
  of_not_not fun hout => hdeep (h.outside i hout)

omit [DecidableEq τ] in
theorem owner_of_unlocked (h : sys.Kept) (hfree : sys.guard.lock.locked = false) :
    sys.guard.owner = none := by
  rw [h.locked] at hfree
  exact Option.not_isSome_iff_eq_none.1 (ne_true_of_eq_false hfree)

omit [DecidableEq τ] in
theorem not_owner_of_waiting (h : sys.Kept) {turn : Turn}
    (hturn : (i, turn) ∈ sys.guard.lock.waiters) : sys.guard.owner ≠ some i := by
  intro hown
  obtain ⟨inside, otherwise, htask⟩ := h.waiting _ hturn
  exact (h.inside i hown).1 (congrArg Sigma.fst htask)

/-- Who waits stands at an outermost block, whatever it is about to enter. -/
theorem depth_of_turn (h : sys.Kept) {turn : Turn} (hturn : sys.guard.lock.turnOf i = some turn)
    {inside : Code σ (d + 1)} {otherwise : Code σ d}
    (htask : sys.task i = ⟨d, .enter inside otherwise⟩) : d = 0 := by
  obtain ⟨inside', otherwise', hwait⟩ :=
    h.waiting _ ((AsyncLock.turnOf_eq_some h.orderly.once).1 hturn)
  exact congrArg Sigma.fst (htask.symm.trans hwait)

/-- Who is not about to enter a block does not wait. -/
theorem turnOf_of_not_enter (h : sys.Kept)
    (hnot : ∀ inside otherwise, sys.task i ≠ ⟨0, .enter inside otherwise⟩) :
    sys.guard.lock.turnOf i = none := by
  cases hturn : sys.guard.lock.turnOf i with
  | none => rfl
  | some turn =>
    obtain ⟨inside, otherwise, htask⟩ :=
      h.waiting _ ((AsyncLock.turnOf_eq_some h.orderly.once).1 hturn)
    exact absurd htask (hnot inside otherwise)

/-- A step of the task inside that stays there. -/
theorem inner (h : sys.Kept) {l : LockLabel τ} {s : σ} {t : Coroutine σ} {g : TaskReentrantLock τ}
    (hdeep : (sys.task i).1 ≠ 0) (hinside : Inside (sys.store, sys.task i) (s, t)) (ht : t.1 ≠ 0)
    (hlock : g.lock = sys.guard.lock) (howner : g.owner = sys.guard.owner)
    (hdepth : g.depth = t.1) :
    sys.Move l ⟨s, g, Function.update sys.task i t⟩ := by
  have hown := h.owner_of_deep hdeep
  refine .inner hown hinside ht ?_
  rw [← hlock, ← hown, ← howner, ← hdepth]

/-- A pause ends, one way or the other. -/
theorem paused (h : sys.Kept) {l : LockLabel τ} {next failed after : Code σ d}
    (htask : sys.task i = ⟨d, .pause next failed⟩) (hafter : after = next ∨ after = failed) :
    sys.Move l ⟨sys.store, sys.guard, Function.update sys.task i ⟨d, after⟩⟩ := by
  obtain _ | d := d
  · have hout : sys.guard.owner ≠ some i :=
      fun hown => (h.inside i hown).1 (congrArg Sigma.fst htask)
    refine .outer hout (h.turnOf_of_not_enter fun _ _ heq => ?_) ?_
    · cases htask.symm.trans heq
    · rw [htask]
      rcases hafter with rfl | rfl
      · exact .resume after failed
      · exact .fail next after
  · have hdeep : (sys.task i).1 ≠ 0 := by
      rw [htask]
      exact nofun
    refine h.inner hdeep ?_ nofun rfl rfl ?_
    · rw [htask]
      rcases hafter with rfl | rfl
      · exact .resume after failed
      · exact .fail next after
    · rw [(h.inside i (h.owner_of_deep hdeep)).2, htask]

end LockedTasks.Kept

open LockedTasks in
/-- **What a step does to tasks that keep to the lock.** -/
theorem LockStep.moves {sys sys' : LockedTasks σ τ} {l : LockLabel τ} (h : sys.Kept)
    (hstep : LockStep sys l sys') : sys.Move l sys' := by
  cases hstep with
  | @enter i d inside otherwise g hidle htask hin =>
    unfold TaskReentrantLock.aenter at hin
    split at hin
    · rename_i hown
      cases hin
      obtain ⟨hdeep, hdepth⟩ := h.inside i hown
      obtain _ | d := d
      · exact absurd (congrArg Sigma.fst htask) hdeep
      · refine h.inner hdeep (htask ▸ .enter inside otherwise) nofun rfl rfl ?_
        change sys.guard.depth + 1 = _
        rw [hdepth, htask]
        rfl
    · rename_i hout
      have hd : d = 0 := (congrArg Sigma.fst htask).symm.trans (h.outside i hout)
      subst hd
      split at hin
      · rename_i htaken
        cases hin
        obtain ⟨hfree, hquiet, hlock⟩ := AsyncLock.acquire_true htaken
        have hnone := h.owner_of_unlocked hfree
        exact .enter hnone hquiet hidle htask (by rw [hlock, h.idle hnone]; rfl)
      · cases hin
  | @wait i d inside otherwise g hidle htask hout =>
    unfold TaskReentrantLock.aenter at hout
    split at hout
    · cases hout
    · rename_i hnot
      have hd : d = 0 := (congrArg Sigma.fst htask).symm.trans (h.outside i hnot)
      subst hd
      split at hout
      · cases hout
      · rename_i hbusy
        cases hout
        exact .wait hidle htask rfl (AsyncLock.acquire_false (Bool.eq_false_of_not_eq_true hbusy))
  | @woken i d inside otherwise hturn htask =>
    obtain rfl := h.depth_of_turn hturn htask
    have hmem := (AsyncLock.turnOf_eq_some h.orderly.once).1 hturn
    have hnone := h.owner_of_unlocked (h.orderly.called _ hmem (.inl rfl)).1
    refine .woken hnone hmem htask ?_
    change (⟨_, _, _⟩ : TaskReentrantLock τ) = _
    rw [h.idle hnone]
    rfl
  | @giveUp i d inside otherwise turn hturn hcancelled htask =>
    obtain rfl := h.depth_of_turn hturn htask
    have hmem := (AsyncLock.turnOf_eq_some h.orderly.once).1 hturn
    exact .giveUp (h.not_owner_of_waiting hmem) hmem hcancelled htask
  | @leave i d next g htask hexit =>
    have hdeep : (sys.task i).1 ≠ 0 := by
      rw [htask]
      exact nofun
    have hown := h.owner_of_deep hdeep
    have hdepth : sys.guard.depth = d + 1 := by
      rw [(h.inside i hown).2, htask]
      rfl
    unfold TaskReentrantLock.aexit at hexit
    split at hexit
    · rename_i hlast
      have hd : d = 0 := by omega
      subst hd
      obtain ⟨lock, hrelease, rfl⟩ := Option.map_eq_some_iff.1 hexit
      refine .leave hown htask ?_
      rw [AsyncLock.release_some hrelease, hlast]
    · rename_i hmore
      cases hexit
      refine h.inner hdeep (htask ▸ .leave next) (fun hzero => hmore ?_) rfl rfl ?_
      · rw [hdepth, show d = 0 from hzero]
        rfl
      · change sys.guard.depth - 1 = d
        omega
  | @access i d write next htask =>
    have hdeep : (sys.task i).1 ≠ 0 := by
      rw [htask]
      exact nofun
    refine h.inner hdeep (htask ▸ .access write next) nofun rfl rfl ?_
    rw [(h.inside i (h.owner_of_deep hdeep)).2, htask]
  | resume htask => exact h.paused htask (.inl rfl)
  | fail htask => exact h.paused htask (.inr rfl)
  | @cancel i turn hturn hlive =>
    exact .cancel ((AsyncLock.turnOf_eq_some h.orderly.once).1 hturn) hlive

namespace LockedTasks

omit [DecidableEq τ] in
theorem Kept.start (s : σ) (task : τ → Code σ 0) : (start s task).Kept where
  orderly := .new
  locked := rfl
  outside _ _ := rfl
  inside _ h := nomatch h
  idle _ := rfl
  waiting := nofun

section Moves

variable {sys sys' : LockedTasks σ τ} {l : LockLabel τ}

/-- Only the task that moves is somewhere else, and nobody in line is that task. -/
theorem Kept.waiting_update (h : sys.Kept) {i : τ} {t : Coroutine σ} {ws : List (τ × Turn)}
    (hsub : ∀ w ∈ ws, w.1 ≠ i ∧ w.1 ∈ sys.guard.lock.waiters.map Prod.fst) :
    ∀ w ∈ ws, ∃ inside otherwise,
      Function.update sys.task i t w.1 = ⟨0, .enter inside otherwise⟩ := by
  intro w hw
  obtain ⟨hne, hmem⟩ := hsub w hw
  obtain ⟨v, hv, hname⟩ := List.mem_map.1 hmem
  rw [Function.update_of_ne hne, ← hname]
  exact h.waiting v hv

theorem Kept.outside_update (h : sys.Kept) {i : τ} {t : Coroutine σ} {owner : Option τ}
    (hold : ∀ j, j ≠ i → owner ≠ some j → sys.guard.owner ≠ some j)
    (hself : owner ≠ some i → t.1 = 0) :
    ∀ j, owner ≠ some j → (Function.update sys.task i t j).1 = 0 := by
  intro j hj
  by_cases hne : j = i
  · subst hne
    rw [Function.update_self]
    exact hself hj
  · rw [Function.update_of_ne hne]
    exact h.outside j (hold j hne hj)

/-- The task that moves is inside. -/
theorem inside_update (task : τ → Coroutine σ) {i : τ} {t : Coroutine σ} (hdeep : t.1 ≠ 0) :
    ∀ j, some i = some j → (Function.update task i t j).1 ≠ 0 ∧
      (t.1 : Int) = (Function.update task i t j).1 := by
  rintro j ⟨⟩
  rw [Function.update_self]
  exact ⟨hdeep, rfl⟩

/-- The task that moves is not the one inside. -/
theorem Kept.inside_other (h : sys.Kept) {i : τ} {t : Coroutine σ}
    (hout : sys.guard.owner ≠ some i) :
    ∀ j, sys.guard.owner = some j → (Function.update sys.task i t j).1 ≠ 0 ∧
      sys.guard.depth = (Function.update sys.task i t j).1 := by
  intro j hj
  have hne : j ≠ i := fun heq => hout (heq ▸ hj)
  rw [Function.update_of_ne hne]
  exact h.inside j hj

theorem Move.kept (h : sys.Kept) (hmove : sys.Move l sys') : sys'.Kept := by
  cases hmove with
  | @enter i inside otherwise g hfree hquiet hidle htask hguard =>
    subst hguard
    have horderly := h.orderly.taken hquiet
    refine ⟨horderly, rfl, ?_, inside_update sys.task nofun, nofun,
      h.waiting_update fun w hw => ⟨?_, ?_⟩⟩
    · exact h.outside_update (fun _ _ _ => hfree ▸ nofun) fun hne => absurd rfl hne
    · rintro rfl
      exact AsyncLock.turnOf_eq_none.1 hidle (List.mem_map_of_mem hw)
    · exact List.mem_map_of_mem hw
  | @woken i inside otherwise g hfree hturn htask hguard =>
    subst hguard
    refine ⟨h.orderly.proceed hturn, rfl, ?_, inside_update sys.task nofun, nofun,
      h.waiting_update fun w hw => ?_⟩
    · exact h.outside_update (fun _ _ _ => hfree ▸ nofun) fun hne => absurd rfl hne
    · obtain ⟨hw, hne⟩ := List.mem_filter.1 hw
      exact ⟨of_decide_eq_true hne, List.mem_map_of_mem hw⟩
  | @inner i l s t g hown hinside hdeep hguard =>
    subst hguard
    refine ⟨h.orderly, ?_, ?_, inside_update sys.task hdeep, nofun,
      h.waiting_update fun w hw => ⟨?_, ?_⟩⟩
    · rw [h.locked, hown]
    · exact h.outside_update (fun _ _ hj => hown ▸ hj) fun hne => absurd rfl hne
    · rintro rfl
      exact h.not_owner_of_waiting hw hown
    · exact List.mem_map_of_mem hw
  | @leave i next g hown htask hguard =>
    subst hguard
    have hlocked : sys.guard.lock.locked = true := by
      rw [h.locked, hown]
      rfl
    refine ⟨h.orderly.release (if_pos hlocked), ?_, ?_, nofun, fun _ => rfl,
      h.waiting_update fun w hw => ?_⟩
    · exact AsyncLock.locked_wakeUpFirst _
    · exact h.outside_update (fun j hne _ hj => hne (Option.some.inj (hj.symm.trans hown)))
        fun _ => rfl
    · have hmem := List.mem_map_of_mem (f := Prod.fst) hw
      rw [AsyncLock.names_wakeUpFirst] at hmem
      refine ⟨?_, hmem⟩
      rintro rfl
      obtain ⟨v, hv, hname⟩ := List.mem_map.1 hmem
      exact h.not_owner_of_waiting hv (hname ▸ hown)
  | @outer i l t hout hidle hstep =>
    refine ⟨h.orderly, h.locked, ?_, h.inside_other hout, h.idle,
      h.waiting_update fun w hw => ⟨?_, ?_⟩⟩
    · exact h.outside_update (fun _ _ hj => hj) fun _ => hstep.depth.2
    · rintro rfl
      exact AsyncLock.turnOf_eq_none.1 hidle (List.mem_map_of_mem hw)
    · exact List.mem_map_of_mem hw
  | @wait i inside otherwise g hidle htask hguard hlock =>
    subst hguard
    refine ⟨h.orderly.acquire hidle, ?_, h.outside, h.inside, h.idle, fun w hw => ?_⟩
    · rw [hlock]
      exact h.locked
    · rw [hlock] at hw
      rcases List.mem_append.1 hw with hw | hw
      · exact h.waiting w hw
      · rw [List.mem_singleton.1 hw]
        exact ⟨inside, otherwise, htask⟩
  | @giveUp i turn inside otherwise hout hturn hcancelled htask =>
    refine ⟨h.orderly.giveUp i, ?_, ?_, h.inside_other hout, h.idle,
      h.waiting_update fun w hw => ?_⟩
    · rw [← h.locked]
      exact AsyncLock.locked_giveUp _ i
    · exact h.outside_update (fun _ _ hj => hj) fun _ => rfl
    · have hmem := List.mem_map_of_mem (f := Prod.fst) hw
      rw [AsyncLock.names_giveUp] at hmem
      obtain ⟨hmem, hne⟩ := List.mem_filter.1 hmem
      exact ⟨of_decide_eq_true hne, hmem⟩
  | @cancel i turn hturn hlive =>
    refine ⟨h.orderly.cancel i, h.locked, h.outside, h.inside, h.idle, fun w hw => ?_⟩
    have hmem := List.mem_map_of_mem (f := Prod.fst) hw
    rw [AsyncLock.names_cancel] at hmem
    obtain ⟨v, hv, hname⟩ := List.mem_map.1 hmem
    exact hname ▸ h.waiting v hv

end Moves

theorem Kept.step {sys sys' : LockedTasks σ τ} {l : LockLabel τ} (h : sys.Kept)
    (hstep : LockStep sys l sys') : sys'.Kept := (hstep.moves h).kept h

theorem Kept.run {sys sys' : LockedTasks σ τ} {ls : List (LockLabel τ)} (h : sys.Kept)
    (hrun : Run LockStep sys ls sys') : sys'.Kept :=
  hrun.invariant (fun _ _ _ hs hl => hs.step hl) h

/-! ## One block after the other -/

section Serials

variable {sys sys' : LockedTasks σ τ} {l : LockLabel τ} {a : Serial σ τ}

theorem Move.serializes (h : Serializes sys.store sys.task sys.guard.owner a)
    (hmove : sys.Move l sys') :
    ∃ is b, Run SerialStep a is b ∧ Serializes sys'.store sys'.task sys'.guard.owner b := by
  cases hmove with
  | enter hfree _ _ htask hguard =>
    subst hguard
    rw [hfree] at h
    exact ⟨[], a, .nil a, h.enter htask⟩
  | woken hfree _ htask hguard =>
    subst hguard
    rw [hfree] at h
    exact ⟨[], a, .nil a, h.enter htask⟩
  | inner hown hinside hdeep hguard =>
    subst hguard
    rw [hown] at h
    exact ⟨[], a, .nil a, h.inner hinside hdeep⟩
  | @leave i next g hown htask hguard =>
    subst hguard
    rw [hown] at h
    have hinside : Inside (sys.store, sys.task i) (sys.store, ⟨0, next⟩) := htask ▸ .leave next
    obtain ⟨b, hstep, hb⟩ := h.leave hinside
    exact ⟨[i], b, .single hstep, hb⟩
  | @outer i l t hout _ hstep =>
    obtain ⟨b, hserial, hb⟩ := h.outer hout hstep
    exact ⟨[i], b, .single hserial, hb⟩
  | wait _ _ hguard _ =>
    subst hguard
    exact ⟨[], a, .nil a, h⟩
  | @giveUp i turn inside otherwise hout _ _ htask =>
    have hstep : Outside (sys.task i) ⟨0, otherwise⟩ := htask ▸ .giveUp inside otherwise
    obtain ⟨b, hserial, hb⟩ := h.outer hout hstep
    exact ⟨[i], b, .single hserial, hb⟩
  | cancel => exact ⟨[], a, .nil a, h⟩

end Serials

/-! ## Nobody waits for ever -/

section Ends

variable {sys sys' : LockedTasks σ τ} {l : LockLabel τ}

/-- What a task has left to do, and how far it is from the lock. -/
def rank (sys : LockedTasks σ τ) (i : τ) : Coroutine σ × Nat :=
  (sys.task i, sys.guard.lock.stage i)

theorem rank_update {i : τ}
    (hothers : ∀ j, j ≠ i → sys'.task j = sys.task j ∧
      sys'.guard.lock.stage j = sys.guard.lock.stage j) :
    sys'.rank = Function.update sys.rank i (sys'.rank i) := by
  funext j
  by_cases hne : j = i
  · rw [hne, Function.update_self]
  · obtain ⟨htask, hstage⟩ := hothers j hne
    rw [Function.update_of_ne hne]
    exact Prod.ext htask hstage

theorem lowers_of_sooner {i : τ} {t : Coroutine σ}
    (htask : sys'.task = Function.update sys.task i t) (hsooner : Sooner t (sys.task i))
    (hstage : ∀ j, j ≠ i → sys'.guard.lock.stage j = sys.guard.lock.stage j) :
    ∃ i x, Prod.Lex Sooner (· < ·) x (sys.rank i) ∧ sys'.rank = Function.update sys.rank i x := by
  refine ⟨i, sys'.rank i, ?_, rank_update fun j hne => ⟨?_, hstage j hne⟩⟩
  · refine Prod.Lex.left _ _ ?_
    rw [htask, Function.update_self]
    exact hsooner
  · rw [htask, Function.update_of_ne hne]

theorem lowers_of_stage {i : τ} (htask : sys'.task = sys.task)
    (hself : sys'.guard.lock.stage i < sys.guard.lock.stage i)
    (hstage : ∀ j, j ≠ i → sys'.guard.lock.stage j = sys.guard.lock.stage j) :
    ∃ i x, Prod.Lex Sooner (· < ·) x (sys.rank i) ∧ sys'.rank = Function.update sys.rank i x := by
  refine ⟨i, sys'.rank i, ?_, rank_update fun j hne => ⟨congrFun htask j, hstage j hne⟩⟩
  unfold rank
  rw [htask]
  exact Prod.Lex.right _ hself

/-- One task comes nearer to its end, and nobody is thrown back. -/
theorem Move.lowers (h : sys.Kept) (hmove : sys.Move l sys') :
    ∃ i x, Prod.Lex Sooner (· < ·) x (sys.rank i) ∧ sys'.rank = Function.update sys.rank i x := by
  cases hmove with
  | @enter i inside otherwise g _ _ _ htask hguard =>
    subst hguard
    exact lowers_of_sooner rfl (htask ▸ .entered inside otherwise) fun _ _ => rfl
  | @woken i inside otherwise g _ _ htask hguard =>
    subst hguard
    exact lowers_of_sooner rfl (htask ▸ .entered inside otherwise)
      fun _ hne => AsyncLock.stage_proceed hne
  | inner _ hinside _ hguard =>
    subst hguard
    exact lowers_of_sooner rfl hinside.sooner fun _ _ => rfl
  | @leave i next g _ htask hguard =>
    subst hguard
    exact lowers_of_sooner rfl (htask ▸ .left next) fun _ _ => AsyncLock.stage_wakeUpFirst _ _
  | outer _ _ hstep => exact lowers_of_sooner rfl hstep.sooner fun _ _ => rfl
  | @wait i inside otherwise g hidle _ hguard hlock =>
    subst hguard
    rw [hlock]
    exact lowers_of_stage rfl (AsyncLock.stage_append_lt hidle)
      fun _ hne => AsyncLock.stage_append hne _
  | @giveUp i turn inside otherwise _ _ _ htask =>
    exact lowers_of_sooner rfl (htask ▸ .gaveUp inside otherwise)
      fun _ hne => AsyncLock.stage_giveUp hne
  | @cancel i turn hturn hlive =>
    exact lowers_of_stage rfl
      (AsyncLock.stage_cancel_lt ((AsyncLock.turnOf_eq_some h.orderly.once).2 hturn) hlive)
      fun _ hne => AsyncLock.stage_cancel hne

/-- **Tasks that keep to the lock do not go on for ever.** -/
theorem kept_acc [Finite τ] (sys : LockedTasks σ τ) :
    Acc (fun t s : LockedTasks σ τ => s.Kept ∧ ∃ l, LockStep s l t) sys := by
  have hwf := wellFounded_update (τ := τ) (WellFounded.prod_lex (sooner_wellFounded (σ := σ))
    Nat.lt_wfRel.wf)
  refine Subrelation.accessible (fun {t s} hstep => ?_) (InvImage.accessible rank (hwf.apply _))
  obtain ⟨hkept, l, hl⟩ := hstep
  exact (hl.moves hkept).lowers hkept

/-- The task inside can go on. -/
theorem Kept.step_of_owner (h : sys.Kept) {i : τ} (hown : sys.guard.owner = some i) :
    ∃ l sys', LockStep sys l sys' := by
  obtain ⟨hdeep, hdepth⟩ := h.inside i hown
  have hidle : sys.guard.lock.turnOf i = none := by
    cases hturn : sys.guard.lock.turnOf i with
    | none => rfl
    | some turn =>
      exact absurd hown (h.not_owner_of_waiting ((AsyncLock.turnOf_eq_some h.orderly.once).1 hturn))
  rcases htask : sys.task i with ⟨d, code⟩
  rw [htask] at hdeep hdepth
  cases code with
  | done => exact absurd rfl hdeep
  | enter inside otherwise => exact ⟨_, _, .enter hidle htask (if_pos hown)⟩
  | leave next =>
    have hlocked : sys.guard.lock.locked = true := by
      rw [h.locked, hown]
      rfl
    by_cases hlast : sys.guard.depth - 1 = 0
    · obtain ⟨lock, hrelease⟩ : ∃ lock, sys.guard.lock.release = some lock := ⟨_, if_pos hlocked⟩
      have hexit : sys.guard.aexit = some ⟨lock, none, sys.guard.depth - 1⟩ := by
        rw [TaskReentrantLock.aexit, if_pos hlast, hrelease]
        rfl
      exact ⟨_, _, .leave htask hexit⟩
    · exact ⟨_, _, .leave htask (if_neg hlast)⟩
  | access write next => exact ⟨_, _, .access htask⟩
  | pause next failed => exact ⟨_, _, .resume htask⟩

/-- **A state without a step is one in which everything is done and the lock is as new.** -/
theorem Kept.done_of_stuck (h : sys.Kept) (hstuck : ∀ l sys', ¬ LockStep sys l sys') :
    (∀ i, sys.task i = ⟨0, .done⟩) ∧ sys.guard = .new := by
  have hnone : sys.guard.owner = none := by
    cases hown : sys.guard.owner with
    | none => rfl
    | some i =>
      obtain ⟨l, sys', hstep⟩ := h.step_of_owner hown
      exact absurd hstep (hstuck l sys')
  have hfree : sys.guard.lock.locked = false := by
    rw [h.locked, hnone]
    rfl
  have hline : sys.guard.lock.waiters = [] := by
    cases hline : sys.guard.lock.waiters with
    | nil => rfl
    | cons first rest =>
      -- The first in line has been called or cancelled, so it can run.
      have hmem : first ∈ sys.guard.lock.waiters := hline ▸ List.mem_cons_self
      have hturn : sys.guard.lock.turnOf first.1 = some first.2 :=
        (AsyncLock.turnOf_eq_some h.orderly.once).2 hmem
      have hawake := h.orderly.awake hfree first (by rw [hline]; rfl)
      obtain ⟨inside, otherwise, htask⟩ := h.waiting first hmem
      cases hcase : first.2 with
      | asleep => exact absurd hcase hawake
      | woken => exact absurd (.woken (hcase ▸ hturn) htask) (hstuck _ _)
      | revoked => exact absurd (.giveUp hturn (.inl hcase) htask) (hstuck _ _)
      | cancelled => exact absurd (.giveUp hturn (.inr hcase) htask) (hstuck _ _)
  have hidle : ∀ i, sys.guard.lock.turnOf i = none := by
    intro i
    rw [AsyncLock.turnOf_eq_none, hline]
    exact List.not_mem_nil
  constructor
  · intro i
    have hout := h.outside i (hnone ▸ nofun)
    rcases htask : sys.task i with ⟨d, code⟩
    rw [htask] at hout
    obtain rfl : d = 0 := hout
    cases code with
    | done => rfl
    | enter inside otherwise =>
      cases hin : sys.guard.aenter i with
      | mk taken g =>
        cases taken with
        | true => exact absurd (.enter (hidle i) htask hin) (hstuck _ _)
        | false => exact absurd (.wait (hidle i) htask hin) (hstuck _ _)
    | pause next failed => exact absurd (.resume htask) (hstuck _ _)
  · rcases hguard : sys.guard with ⟨⟨locked, waiters⟩, owner, depth⟩
    have hdepth := h.idle hnone
    rw [hguard] at hnone hfree hline hdepth
    cases hnone
    cases hfree
    cases hline
    cases hdepth
    rfl

end Ends

/-! ## Nobody is overtaken -/

section Orders

variable {sys sys' : LockedTasks σ τ} {l : LockLabel τ} {i j : τ}

/-- Whoever stands before another one stays there until it gets the lock. -/
theorem Move.before (h : sys.Kept) (hbefore : sys.guard.lock.Before i j)
    (hout : sys.guard.owner ≠ some j) (hcancel : l ≠ .cancel i) (hmove : sys.Move l sys') :
    (sys'.guard.lock.Before i j ∧ sys'.guard.owner ≠ some j) ∨ sys'.guard.owner = some i := by
  cases hmove with
  | enter _ hquiet => exact absurd hquiet hbefore.not_quiet
  | @woken k inside otherwise g hfree hturn htask hguard =>
    subst hguard
    obtain ⟨-, rest, hfirst⟩ := h.orderly.first_of_called hturn (.inl rfl)
    by_cases hne : k = i
    · exact .inr (congrArg some hne)
    · have hother := (hbefore.first hfirst).resolve_left hne
      exact .inl ⟨hbefore.without hne, fun heq => hother (Option.some.inj heq)⟩
  | inner hown _ _ hguard =>
    subst hguard
    exact .inl ⟨hbefore, hown ▸ hout⟩
  | leave _ _ hguard =>
    subst hguard
    exact .inl ⟨AsyncLock.Before.wakeUpFirst hbefore, nofun⟩
  | outer => exact .inl ⟨hbefore, hout⟩
  | wait _ _ hguard hlock =>
    subst hguard
    rw [hlock]
    exact .inl ⟨hbefore.append _, hout⟩
  | giveUp _ hturn hcancelled =>
    exact .inl ⟨hbefore.giveUp (hbefore.ne_of_cancelled h.orderly.once hturn hcancelled), hout⟩
  | cancel => exact .inl ⟨hbefore.cancel fun heq => hcancel (heq ▸ rfl), hout⟩

end Orders

end LockedTasks

section Runs

variable {s : σ} {task : τ → Code σ 0} {sys : LockedTasks σ τ} {ls : List (LockLabel τ)}

/-- **Every run of tasks under the lock is a run in which each outermost block happens at once**,
but for the block of the task that is inside at its end. -/
theorem serializable_run (hrun : Run LockStep (LockedTasks.start s task) ls sys) :
    ∃ is a, Run SerialStep ⟨s, fun i => ⟨0, task i⟩⟩ is a ∧
      Serializes sys.store sys.task sys.guard.owner a := by
  have hstep : ∀ (sys : LockedTasks σ τ) l sys' (a : Serial σ τ),
      sys.Kept ∧ Serializes sys.store sys.task sys.guard.owner a → LockStep sys l sys' →
      ∃ is b, Run SerialStep a is b ∧
        sys'.Kept ∧ Serializes sys'.store sys'.task sys'.guard.owner b := by
    intro sys l sys' a ⟨hkept, ha⟩ hl
    obtain ⟨is, b, hserial, hb⟩ := (hl.moves hkept).serializes ha
    exact ⟨is, b, hserial, hkept.step hl, hb⟩
  obtain ⟨is, a, hserial, -, ha⟩ := hrun.simulate hstep ⟨.start s task, .new s _ fun _ => rfl⟩
  exact ⟨is, a, hserial, ha⟩

/-- **Tasks under the lock all end**: they cannot go on for ever, and they only stop when every one
is done, nobody waits and the lock is as new. -/
theorem everyTaskEnds [Finite τ] (hrun : Run LockStep (LockedTasks.start s task) ls sys) :
    (¬ ∃ f : Nat → LockedTasks σ τ, f 0 = sys ∧ ∀ n, ∃ l, LockStep (f n) l (f (n + 1))) ∧
      ((∀ l sys', ¬ LockStep sys l sys') → (∀ i, sys.task i = ⟨0, .done⟩) ∧ sys.guard = .new) := by
  have hkept := (LockedTasks.Kept.start s task).run hrun
  refine ⟨?_, hkept.done_of_stuck⟩
  rintro ⟨f, rfl, hf⟩
  have hall : ∀ n, (f n).Kept := by
    intro n
    induction n with
    | zero => exact hkept
    | succ n ih =>
      obtain ⟨l, hl⟩ := hf n
      exact ih.step hl
  refine not_acc_iff_exists_descending_chain.2 ⟨f, rfl, fun n => ?_⟩ (LockedTasks.kept_acc (f 0))
  exact ⟨hall n, hf n⟩

/-- **First come, first served**: while `i` is in line and is not cancelled, `j`, which is not in
line before it, gets the lock only after `i` has had it. -/
theorem firstComeFirstServed_run {i j : τ} {sys' : LockedTasks σ τ} {ms : List (LockLabel τ)}
    (hrun : Run LockStep (LockedTasks.start s task) ls sys) (hbefore : sys.guard.lock.Before i j)
    (hout : sys.guard.owner ≠ some j) (hlater : Run LockStep sys ms sys')
    (hcancel : .cancel i ∉ ms) (hin : sys'.guard.owner = some j) :
    ∃ ms₁ ms₂ mid, ms = ms₁ ++ ms₂ ∧ Run LockStep sys ms₁ mid ∧ mid.guard.owner = some i ∧
      Run LockStep mid ms₂ sys' := by
  have hkept := (LockedTasks.Kept.start s task).run hrun
  suffices hsplit : (sys'.guard.lock.Before i j ∧ sys'.guard.owner ≠ some j) ∨
      ∃ ms₁ ms₂ mid, ms = ms₁ ++ ms₂ ∧ Run LockStep sys ms₁ mid ∧ mid.guard.owner = some i ∧
        Run LockStep mid ms₂ sys' from
    hsplit.resolve_left fun h => h.2 hin
  clear hin
  induction hlater with
  | nil => exact .inl ⟨hbefore, hout⟩
  | @snoc t u ms l hms hl ih =>
    have hnot : Run LockStep sys (ms ++ [l]) u := hms.snoc hl
    rcases ih fun hmem => hcancel (List.mem_append_left _ hmem) with
      ⟨hmid, hmid'⟩ | ⟨ms₁, ms₂, mid, rfl, hfirst, hown, hrest⟩
    · have hlabel : l ≠ .cancel i := by
        rintro rfl
        exact hcancel (List.mem_append_right _ List.mem_cons_self)
      rcases (hl.moves (hkept.run hms)).before (hkept.run hms) hmid hmid' hlabel with hnext | hown
      · exact .inl hnext
      · exact .inr ⟨ms ++ [l], [], u, (List.append_nil _).symm, hnot, hown, .nil u⟩
    · exact .inr ⟨ms₁, ms₂ ++ [l], mid, List.append_assoc .., hfirst, hown, hrest.snoc hl⟩

end Runs

end Tasks

/-! ## The methods of the store -/

section Methods

variable {σ ε α κ : Type} {d : Nat}

/-- A method is its computation under the lock.  `cancelled` follows when its task is cancelled
while it waits; inside a block of its own task it does not wait. -/
def methodCall (x : Action σ ε α) (next : Except ε α → Code σ d) (cancelled : Code σ d) :
    Code σ d :=
  .enter (.access (fun s => (x s).2) fun s => .leave (next (x s).1)) cancelled

/-- The calls of a computation, one after the other. -/
def scriptCalls (cancelled : Code σ d) :
    Script σ ε κ α → (Except ε α → Code σ d) → Code σ d
  | .done a, next => next (.ok a)
  | .stop e, next => next (.error e)
  | .call _ x f, next => methodCall x (fun r =>
      match r with
      | .ok b => scriptCalls cancelled (f b) next
      | .error e => next (.error e)) cancelled

/-- `async with case_write_guard(case_id)` around the calls of a computation. -/
def guardedBlock (caseId : String) (body : Script Store PyExc κ α)
    (next : Except PyExc α → Code Store d) (cancelled : Code Store d) : Code Store d :=
  .enter (.access id fun s =>
    if (s.cases.get? caseId).isSome = false then .leave (next (.error .keyError))
    else scriptCalls (.leave cancelled) body fun r => .leave (next r)) cancelled

/-- A step that is the only one is the first of every run that goes further. -/
theorem inside_of_only {x y z : σ × Coroutine σ} (hone : ∀ w, Inside x w → w = y) (hne : x ≠ z)
    (hrun : ReflTransGen Inside x z) : ReflTransGen Inside y z := by
  rcases hrun.cases_head with rfl | ⟨w, hfirst, hrest⟩
  · exact absurd rfl hne
  · rwa [hone w hfirst] at hrest

section Forced

variable {s s' : σ} {t : Coroutine σ}

theorem ne_of_deep {e : Nat} {code : Code σ e} (hleft : t.1 ≤ d) (hdeep : d < e) :
    ((s, ⟨e, code⟩) : σ × Coroutine σ) ≠ (s', t) := by
  rintro ⟨⟩
  exact absurd hleft (Nat.not_le.2 hdeep)

theorem enter_inside {inside : Code σ (d + 2)} {otherwise : Code σ (d + 1)} (hleft : t.1 ≤ d)
    (hrun : ReflTransGen Inside (s, ⟨d + 1, .enter inside otherwise⟩) (s', t)) :
    ReflTransGen Inside (s, ⟨d + 2, inside⟩) (s', t) := by
  refine inside_of_only (fun w hw => ?_) (ne_of_deep hleft (Nat.lt_succ_self d)) hrun
  cases hw
  rfl

theorem access_inside {write : σ → σ} {next : σ → Code σ (d + 1)} (hleft : t.1 ≤ d)
    (hrun : ReflTransGen Inside (s, ⟨d + 1, .access write next⟩) (s', t)) :
    ReflTransGen Inside (write s, ⟨d + 1, next s⟩) (s', t) := by
  refine inside_of_only (fun w hw => ?_) (ne_of_deep hleft (Nat.lt_succ_self d)) hrun
  cases hw
  rfl

theorem leave_inside {next : Code σ d} (hleft : t.1 ≤ d)
    (hrun : ReflTransGen Inside (s, ⟨d + 1, .leave next⟩) (s', t)) :
    ReflTransGen Inside (s, ⟨d, next⟩) (s', t) := by
  refine inside_of_only (fun w hw => ?_) (ne_of_deep hleft (Nat.lt_succ_self d)) hrun
  cases hw
  rfl

/-- A method inside a block of its own task. -/
theorem methodCall_inside {x : Action σ ε α} {next : Except ε α → Code σ (d + 1)}
    {cancelled : Code σ (d + 1)} (hleft : t.1 ≤ d)
    (hrun : ReflTransGen Inside (s, ⟨d + 1, methodCall x next cancelled⟩) (s', t)) :
    ReflTransGen Inside ((x s).2, ⟨d + 1, next (x s).1⟩) (s', t) :=
  have hleft' := Nat.le_succ_of_le hleft
  leave_inside hleft' (access_inside hleft' (enter_inside hleft hrun))

/-- **The calls of a computation inside a block do what the computation does.** -/
theorem scriptCalls_inside {cancelled : Code σ (d + 1)} (hleft : t.1 ≤ d) (p : Script σ ε κ α)
    {next : Except ε α → Code σ (d + 1)} :
    ∀ {s : σ}, ReflTransGen Inside (s, ⟨d + 1, scriptCalls cancelled p next⟩) (s', t) →
      ReflTransGen Inside ((p.run s).2, ⟨d + 1, next (p.run s).1⟩) (s', t) := by
  induction p with
  | done a => exact fun hrun => hrun
  | stop e => exact fun hrun => hrun
  | call tag x f ih =>
    intro s hrun
    rw [scriptCalls] at hrun
    have hcalled := methodCall_inside hleft hrun
    have hsplit : (Script.call tag x f).run s = (x >>= fun b => (f b).run) s := rfl
    rw [hsplit]
    rcases hx : x s with ⟨e | b, u⟩
    · rw [hx] at hcalled
      rw [bind_error hx]
      exact hcalled
    · rw [hx] at hcalled
      rw [bind_ok hx]
      exact ih b hcalled

/-- Outside every block nothing happens inside one. -/
theorem eq_of_inside {code after : Code σ 0}
    (hrun : ReflTransGen Inside (s, ⟨0, code⟩) (s', ⟨0, after⟩)) : s' = s ∧ after = code := by
  rcases hrun.cases_head with heq | ⟨w, hfirst, -⟩
  · cases heq
    exact ⟨rfl, rfl⟩
  · cases hfirst

end Forced

/-- A method as an outermost block. -/
theorem methodCall_block (x : Action σ ε α) (next : Except ε α → Code σ 0) {s s' : σ}
    {after : Code σ 0}
    (hrun : ReflTransGen Inside
      (s, ⟨1, .access (fun s => (x s).2) fun s => .leave (next (x s).1)⟩) (s', ⟨0, after⟩)) :
    s' = (x s).2 ∧ after = next (x s).1 :=
  eq_of_inside (leave_inside (Nat.le_refl 0) (access_inside (Nat.le_refl 0) hrun))

/-- A write guard as an outermost block. -/
theorem guardedBlock_block {caseId : String} {body : Script Store PyExc κ α}
    {next : Except PyExc α → Code Store 0} {cancelled : Code Store 0} {s s' : Store}
    {after : Code Store 0}
    (hrun : ReflTransGen Inside (s, ⟨1, .access id fun s =>
      if (s.cases.get? caseId).isSome = false then .leave (next (.error .keyError))
      else scriptCalls (.leave cancelled) body fun r => .leave (next r)⟩) (s', ⟨0, after⟩)) :
    s' = (caseWriteGuard caseId body.run s).2 ∧
      after = next (caseWriteGuard caseId body.run s).1 := by
  have hopened := access_inside (Nat.le_refl 0) hrun
  unfold caseWriteGuard
  rw [peek_bind_run, raiseIf_bind_run]
  split
  · rename_i hmissing
    rw [if_pos hmissing] at hopened
    exact eq_of_inside (leave_inside (Nat.le_refl 0) hopened)
  · rename_i hknown
    rw [if_neg hknown] at hopened
    have hcalled := scriptCalls_inside (Nat.le_refl 0) body hopened
    exact eq_of_inside (leave_inside (Nat.le_refl 0) hcalled)

end Methods

/-! ## Tasks that call the store -/

section Clients

/-- What a task still does with the store: it calls methods, goes through blocks under a write guard
and pauses; what it does next depends on what it got. -/
inductive StoreClient : Type 1 where
  | done
  | call {α : Type} (x : StoreM α) (next : Except PyExc α → StoreClient) (cancelled : StoreClient)
  | guarded {α : Type} (caseId : String) (body : Script Store PyExc Unit α)
      (next : Except PyExc α → StoreClient) (cancelled : StoreClient)
  | pause (next failed : StoreClient)

def StoreClient.code : StoreClient → Code Store 0
  | .done => .done
  | .call x next cancelled => methodCall x (fun r => (next r).code) cancelled.code
  | .guarded caseId body next cancelled =>
    guardedBlock caseId body (fun r => (next r).code) cancelled.code
  | .pause next failed => .pause next.code failed.code

variable {τ : Type v} [DecidableEq τ]

/-- The tasks with the store between their calls. -/
structure StoreClients (τ : Type v) where
  store : Store
  client : τ → StoreClient

/-- One call at a time, each as its computation. -/
inductive ClientStep : StoreClients τ → τ → StoreClients τ → Prop where
  | call {c : StoreClients τ} {i : τ} {α : Type} {x : StoreM α}
      {next : Except PyExc α → StoreClient} {cancelled : StoreClient}
      (hclient : c.client i = .call x next cancelled) :
      ClientStep c i ⟨(x c.store).2, Function.update c.client i (next (x c.store).1)⟩
  | guarded {c : StoreClients τ} {i : τ} {α : Type} {caseId : String}
      {body : Script Store PyExc Unit α} {next : Except PyExc α → StoreClient}
      {cancelled : StoreClient} (hclient : c.client i = .guarded caseId body next cancelled) :
      ClientStep c i ⟨(caseWriteGuard caseId body.run c.store).2,
        Function.update c.client i (next (caseWriteGuard caseId body.run c.store).1)⟩
  | cancelled {c : StoreClients τ} {i : τ} {cancelled : StoreClient}
      (hclient : (∃ (α : Type) (x : StoreM α) (next : Except PyExc α → StoreClient),
          c.client i = .call x next cancelled) ∨
        ∃ (α : Type) (caseId : String) (body : Script Store PyExc Unit α)
          (next : Except PyExc α → StoreClient), c.client i = .guarded caseId body next cancelled) :
      ClientStep c i { c with client := Function.update c.client i cancelled }
  | resume {c : StoreClients τ} {i : τ} {next failed : StoreClient}
      (hclient : c.client i = .pause next failed) :
      ClientStep c i { c with client := Function.update c.client i next }
  | fail {c : StoreClients τ} {i : τ} {next failed : StoreClient}
      (hclient : c.client i = .pause next failed) :
      ClientStep c i { c with client := Function.update c.client i failed }

omit [DecidableEq τ] in
def StoreClients.serial (c : StoreClients τ) : Serial Store τ :=
  ⟨c.store, fun i => ⟨0, (c.client i).code⟩⟩

theorem update_code (client : τ → StoreClient) (i : τ) (after : StoreClient) :
    Function.update (fun j => (⟨0, (client j).code⟩ : Coroutine Store)) i ⟨0, after.code⟩ =
      fun j => ⟨0, (Function.update client i after j).code⟩ := by
  funext j
  by_cases hne : j = i
  · subst hne
    rw [Function.update_self, Function.update_self]
  · rw [Function.update_of_ne hne, Function.update_of_ne hne]

/-- **A whole block of a task that calls the store is one call.** -/
theorem ClientStep.of_serial {c : StoreClients τ} {i : τ} {b : Serial Store τ}
    (h : SerialStep c.serial i b) : ∃ c', ClientStep c i c' ∧ b = c'.serial := by
  have hafter : ∀ (s : Store) (after : StoreClient),
      (⟨s, Function.update c.serial.task i ⟨0, after.code⟩⟩ : Serial Store τ) =
        StoreClients.serial ⟨s, Function.update c.client i after⟩ :=
    fun s after => congrArg (Serial.mk s) (update_code c.client i after)
  have htask : c.serial.task i = ⟨0, (c.client i).code⟩ := rfl
  cases hclient : c.client i with
  | done =>
    rw [hclient, StoreClient.code] at htask
    cases h with
    | block henter => cases henter.symm.trans htask
    | outer hout =>
      rw [htask] at hout
      cases hout
  | call x next cancelled =>
    rw [hclient, StoreClient.code, methodCall] at htask
    cases h with
    | block henter hinside =>
      cases henter.symm.trans htask
      obtain ⟨rfl, rfl⟩ := methodCall_block x (fun r => (next r).code) hinside
      exact ⟨_, .call hclient, hafter _ _⟩
    | outer hout =>
      rw [htask] at hout
      cases hout
      exact ⟨_, .cancelled (.inl ⟨_, x, next, hclient⟩), hafter _ _⟩
  | guarded caseId body next cancelled =>
    rw [hclient, StoreClient.code, guardedBlock] at htask
    cases h with
    | block henter hinside =>
      cases henter.symm.trans htask
      obtain ⟨rfl, rfl⟩ := guardedBlock_block hinside
      exact ⟨_, .guarded hclient, hafter _ _⟩
    | outer hout =>
      rw [htask] at hout
      cases hout
      exact ⟨_, .cancelled (.inr ⟨_, caseId, body, next, hclient⟩), hafter _ _⟩
  | pause next failed =>
    rw [hclient, StoreClient.code] at htask
    cases h with
    | block henter => cases henter.symm.trans htask
    | outer hout =>
      rw [htask] at hout
      cases hout
      · exact ⟨_, .resume hclient, hafter _ _⟩
      · exact ⟨_, .fail hclient, hafter _ _⟩

/-- **Any number of tasks that call the store, however they are interleaved and cancelled, leave the
store and go on as if they had called it one at a time**, each call being its whole computation;
only the call of the task that is inside may be under way. -/
theorem storeCalls_run {s : Store} {client : τ → StoreClient} {sys : LockedTasks Store τ}
    {ls : List (LockLabel τ)}
    (hrun : Run LockStep (LockedTasks.start s fun i => (client i).code) ls sys) :
    ∃ is c, Run ClientStep ⟨s, client⟩ is c ∧
      Serializes sys.store sys.task sys.guard.owner c.serial := by
  obtain ⟨is, a, hserial, ha⟩ := serializable_run hrun
  have hstep : ∀ (a : Serial Store τ) i b (c : StoreClients τ), a = c.serial → SerialStep a i b →
      ∃ js c', Run ClientStep c js c' ∧ b = c'.serial := by
    rintro _ i b c rfl hb
    obtain ⟨c', hc, heq⟩ := ClientStep.of_serial hb
    exact ⟨[i], c', .single hc, heq⟩
  obtain ⟨js, c, hclients, rfl⟩ := hserial.simulate hstep (t := ⟨s, client⟩) rfl
  exact ⟨js, c, hclients, ha⟩

end Clients

/-! ## Three tasks at once -/

def sharedCase : AtomicCaseProjection where
  caseId := "case_1"
  signalSignature := "sig_1"
  openedAt := "2026-01-01T00:00:00+00:00"
  updatedAt := "2026-01-01T00:00:00+00:00"

def contendedStore : Store where
  cases := Table.empty.put (.atomic sharedCase)

/-- One task writes a case that the other two want to read. -/
def contendedClients : Fin 3 → StoreClient
  | 0 => .call (upsertCase (.atomic sharedCase)) (fun _ => .done) .done
  | _ => .call (getCase "case_1") (fun _ => .done) .done

abbrev contendedStart : LockedTasks Store (Fin 3) :=
  .start contendedStore fun i => (contendedClients i).code

/-- The third task asks while the second one has been called and has not run yet. -/
abbrev contendedLabels : List (LockLabel (Fin 3)) :=
  [.run 0, .run 0, .run 2, .run 1, .run 1, .run 1, .run 2]

theorem contendedRun : ∃ sys sys', Run LockStep contendedStart [.run 0, .run 1] sys ∧
    sys.guard.lock.Before 1 2 ∧ sys.guard.owner ≠ some 2 ∧ Run LockStep sys contendedLabels sys' ∧
    sys'.guard.owner = some 2 := by
  refine ⟨_, _, .cons (.enter rfl rfl rfl) <| .cons (.wait rfl rfl rfl) <| .nil _, ?_, ?_,
    .cons (.access rfl) <| .cons (.leave rfl rfl) <| .cons (.wait rfl rfl rfl) <|
    .cons (.woken rfl rfl) <| .cons (.access rfl) <| .cons (.leave rfl rfl) <|
    .cons (.woken rfl rfl) <| .nil _, rfl⟩
  · exact ⟨[], .asleep, [], rfl, .inl rfl, nofun⟩
  · exact fun heq => absurd (Option.some.inj heq) (by decide)

theorem storeCalls_contended : ∃ sys, Run LockStep contendedStart [.run 0, .run 1] sys ∧
    ∃ is c, Run ClientStep ⟨contendedStore, contendedClients⟩ is c ∧
      Serializes sys.store sys.task sys.guard.owner c.serial := by
  obtain ⟨sys, -, hrun, -⟩ := contendedRun
  exact ⟨sys, hrun, storeCalls_run hrun⟩

theorem everyTaskEnds_contended : ∃ sys, Run LockStep contendedStart [.run 0, .run 1] sys ∧
    (¬ ∃ f : Nat → LockedTasks Store (Fin 3), f 0 = sys ∧ ∀ n, ∃ l, LockStep (f n) l (f (n + 1))) ∧
      ((∀ l sys', ¬ LockStep sys l sys') → (∀ i, sys.task i = ⟨0, .done⟩) ∧ sys.guard = .new) := by
  obtain ⟨sys, -, hrun, -⟩ := contendedRun
  exact ⟨sys, hrun, everyTaskEnds hrun⟩

theorem firstComeFirstServed_contended : ∃ (sys sys' mid : LockedTasks Store (Fin 3))
    (ms₁ ms₂ : List (LockLabel (Fin 3))), contendedLabels = ms₁ ++ ms₂ ∧
      Run LockStep sys ms₁ mid ∧ mid.guard.owner = some 1 ∧ Run LockStep mid ms₂ sys' ∧
      sys'.guard.owner = some 2 := by
  obtain ⟨sys, sys', hrun, hbefore, hout, hlater, hin⟩ := contendedRun
  obtain ⟨ms₁, ms₂, mid, heq, hfirst, hown, hrest⟩ :=
    firstComeFirstServed_run hrun hbefore hout hlater (by decide) hin
  exact ⟨sys, sys', mid, ms₁, ms₂, heq, hfirst, hown, hrest, hin⟩

end NocAgent.Cases
