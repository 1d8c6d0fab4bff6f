import NocAgent.Lib.Lts
import Mathlib.Logic.Function.Basic

/-!
# The run lock of the proactive loop

* `LockCaller.next` — `acquire_lock` and `release_lock`, cut at every access to the lock file.
* `lockStep` — any number of processes, all alive, whose locks are all young.
* `Usurps` — a call that could not read the lock file unlinks one that is there.
* `exclusive_run` — as long as no call does, at most one process holds the lock.
-/

set_option autoImplicit false

namespace NocAgent.Proactive

open Lts

/-- The JSON that a holder writes. -/
structure LockHolder where
  pid : Int
  startedAt : Int
  deriving DecidableEq

/-- The lock file is an inode under the path, and an inode has its text also when the path leads
elsewhere. -/
structure LockDir where
  path : Option Nat := none
  /-- `none`: nothing was written yet -/
  text : Nat → Option LockHolder := fun _ => none

/-- Where a process stands between two accesses to the lock file. -/
inductive LockCaller where
  | idle
  /-- before `os.open` with `O_EXCL` -/
  | opening
  /-- before the first `stat` -/
  | statting
  /-- before `read_text` -/
  | reading (before : Nat)
  /-- before the second `stat`; `none`: the holder could not be read -/
  | restatting (before : Option Nat)
  | unlinking
  /-- after `os.open`, before the holder is written -/
  | writing (ino : Nat)
  /-- `acquire_lock` has returned the path -/
  | holding
  /-- it has returned `None` -/
  | refused
  /-- `release_lock` was called, before its `unlink` -/
  | releasing
  deriving DecidableEq

/-- What a turn draws: the inode of a new file, `time.time()`, and whether `os.kill(pid, 0)`
returns. -/
structure LockDraws where
  ino : Nat := 0
  now : Int := 0
  alive : Bool := true

section Lock

variable (maxAge : Int)

/-- `pid > 0 and fresh and _pid_alive(pid)`. -/
def LockHolder.live (d : LockDraws) (holder : LockHolder) : Bool :=
  decide (0 < holder.pid) && decide (d.now - holder.startedAt < maxAge) && d.alive

/-- One turn of a process with the id `pid`. -/
def LockCaller.next (pid : Int) (d : LockDraws) (dir : LockDir) : LockCaller → LockCaller × LockDir
  | .idle => (.idle, dir)
  | .opening =>
    match dir.path with
    | some _ => (.statting, dir)
    | none => (.writing d.ino, { path := some d.ino, text := Function.update dir.text d.ino none })
  | .statting =>
    match dir.path with
    | none => (.restatting none, dir)
    | some ino => (.reading ino, dir)
  | .reading before =>
    -- an empty file is a `JSONDecodeError`, and then nothing is known about it
    match dir.path.bind dir.text with
    | none => (.restatting none, dir)
    | some holder => if holder.live maxAge d then (.refused, dir) else (.restatting (some before), dir)
  | .restatting before =>
    match dir.path with
    | none => (.opening, dir)
    | some after => if ∃ b ∈ before, after ≠ b then (.refused, dir) else (.unlinking, dir)
  | .unlinking => (.opening, { dir with path := none })
  | .writing ino =>
    (.holding, { dir with text := Function.update dir.text ino (some ⟨pid, d.now⟩) })
  | .holding => (.holding, dir)
  | .refused => (.refused, dir)
  | .releasing => (.idle, { dir with path := none })

/-! ## Any number of processes -/

/-- The lock file, and the processes that want it. -/
structure LockSystem where
  dir : LockDir := {}
  callers : Nat → LockCaller := fun _ => .idle

inductive LockLabel where
  | acquire (i : Nat)
  | turn (i : Nat) (d : LockDraws)
  | release (i : Nat)

def LockSystem.at (sys : LockSystem) (i : Nat) (c : LockCaller) : LockSystem :=
  { sys with callers := Function.update sys.callers i c }

/-- The process `i` has the id `i + 1`. -/
def LockSystem.after (sys : LockSystem) : LockLabel → LockSystem
  | .acquire i => sys.at i .opening
  | .turn i d =>
    let r := (sys.callers i).next maxAge (i + 1) d sys.dir
    { sys.at i r.1 with dir := r.2 }
  | .release i => sys.at i .releasing

/-- A process acquires what it does not hold and releases what it does; a new file has an inode
that no file has; every process is alive, and a lock that is held is young. -/
def LockLabel.Allowed (sys : LockSystem) : LockLabel → Prop
  | .acquire i => sys.callers i = .idle ∨ sys.callers i = .refused
  | .turn _ d => d.ino ∉ sys.dir.path ∧ (∀ j, sys.callers j ≠ .writing d.ino) ∧ d.alive = true ∧
      ((∃ j, sys.callers j = .holding) →
        ∀ holder ∈ sys.dir.path.bind sys.dir.text, d.now - holder.startedAt < maxAge)
  | .release i => sys.callers i = .holding

def lockStep (sys : LockSystem) (l : LockLabel) (t : LockSystem) : Prop :=
  l.Allowed maxAge sys ∧ t = sys.after maxAge l

/-- At most one process holds the lock. -/
def LockSystem.Exclusive (sys : LockSystem) : Prop :=
  ∀ i j, sys.callers i = .holding → sys.callers j = .holding → i = j

/-- A call is at its `unlink`, and there is a lock file. -/
def Usurps (sys : LockSystem) : LockLabel → Prop
  | .turn i _ => sys.callers i = .unlinking ∧ sys.dir.path.isSome
  | _ => False

/-! ## Who owns the lock file -/

/-- The process has created a lock file and not yet unlinked it. -/
def LockCaller.Owns : LockCaller → Prop
  | .writing _ | .holding | .releasing => True
  | _ => False

/-- The lock file is there and has one owner, or nobody owns one. -/
structure Owned (sys : LockSystem) : Prop where
  linked : ∀ i, (sys.callers i).Owns → sys.dir.path.isSome
  alone : ∀ i j, (sys.callers i).Owns → (sys.callers j).Owns → i = j

end Lock

/-- Outside its `unlink`s and its `os.open`, a call leaves the directory's entry as it is, and
owns what it owned. -/
theorem LockCaller.next_quiet {maxAge pid : Int} {d : LockDraws} {dir : LockDir} {c : LockCaller}
    (hunlinking : c ≠ .unlinking) (hreleasing : c ≠ .releasing)
    (hopening : c = .opening → dir.path.isSome) :
    (c.next maxAge pid d dir).2.path = dir.path ∧ ((c.next maxAge pid d dir).1.Owns ↔ c.Owns) := by
  cases c with
  | idle | holding | refused | writing => exact ⟨rfl, Iff.rfl⟩
  | unlinking => exact absurd rfl hunlinking
  | releasing => exact absurd rfl hreleasing
  | opening =>
    obtain ⟨ino, hino⟩ := Option.isSome_iff_exists.1 (hopening rfl)
    simp only [LockCaller.next, hino]
    exact ⟨trivial, Iff.rfl⟩
  | statting =>
    simp only [LockCaller.next]
    split <;> exact ⟨rfl, Iff.rfl⟩
  | reading before =>
    simp only [LockCaller.next]
    split
    · exact ⟨rfl, Iff.rfl⟩
    · split <;> exact ⟨rfl, Iff.rfl⟩
  | restatting before =>
    simp only [LockCaller.next]
    split
    · exact ⟨rfl, Iff.rfl⟩
    · split <;> exact ⟨rfl, Iff.rfl⟩

section Owners

variable {maxAge : Int} {sys t : LockSystem}

theorem callers_at (sys : LockSystem) (i j : Nat) (c : LockCaller) :
    (sys.at i c).callers j = if j = i then c else sys.callers j := Function.update_apply ..

/-- A process moves on; the directory's entry, and who owns it, stay. -/
theorem Owned.at (h : Owned sys) (i : Nat) {c : LockCaller} {dir : LockDir}
    (hpath : dir.path = sys.dir.path) (howns : c.Owns ↔ (sys.callers i).Owns) :
    Owned { sys.at i c with dir := dir } := by
  have hsame : ∀ j, ((sys.at i c).callers j).Owns → (sys.callers j).Owns := by
    intro j hj
    rw [callers_at] at hj
    split at hj
    · rename_i hji
      rw [hji]
      exact howns.1 hj
    · exact hj
  refine ⟨fun j hj => ?_, fun j k hj hk => h.alone j k (hsame j hj) (hsame k hk)⟩
  rw [hpath]
  exact h.linked j (hsame j hj)

/-- The one who may own the entry is the one who moves. -/
theorem owned_of_alone {i : Nat} {c : LockCaller} {dir : LockDir}
    (hothers : ∀ j, j ≠ i → ¬ (sys.callers j).Owns) (hc : c.Owns → dir.path.isSome) :
    Owned { sys.at i c with dir := dir } := by
  have honly : ∀ j, ((sys.at i c).callers j).Owns → j = i := by
    intro j hj
    rw [callers_at] at hj
    split at hj
    · assumption
    · rename_i hji
      exact absurd hj (hothers j hji)
  refine ⟨fun j hj => ?_, fun j k hj hk => (honly j hj).trans (honly k hk).symm⟩
  have hji := honly j hj
  subst hji
  simp only [callers_at, if_true] at hj
  exact hc hj

theorem Owned.step (h : Owned sys) {l : LockLabel} (husurps : ¬ Usurps sys l)
    (hstep : lockStep maxAge sys l t) : Owned t := by
  obtain ⟨hallowed, rfl⟩ := hstep
  cases l with
  | acquire i =>
    refine h.at i rfl ⟨fun hc => hc.elim, fun hi => ?_⟩
    rcases hallowed with hidle | hidle <;> rw [hidle] at hi <;> exact hi
  | release i =>
    refine h.at i rfl (iff_of_true trivial ?_)
    rw [show sys.callers i = .holding from hallowed]
    trivial
  | turn i d =>
    have hnobody : sys.dir.path = none → ∀ j, ¬ (sys.callers j).Owns := by
      intro hpath j hj
      have hsome := h.linked j hj
      rw [hpath] at hsome
      cases hsome
    simp only [LockSystem.after]
    by_cases hopening : sys.callers i = .opening ∧ sys.dir.path = none
    · -- the file is created while nobody owns one
      obtain ⟨hi, hpath⟩ := hopening
      simp only [hi, LockCaller.next, hpath]
      exact owned_of_alone (fun j _ => hnobody hpath j) fun _ => rfl
    by_cases hunlinking : sys.callers i = .unlinking
    · -- without a lock file there is nothing to unlink
      have hpath : sys.dir.path = none := by
        rw [← Option.not_isSome_iff_eq_none]
        exact fun hsome => husurps ⟨hunlinking, hsome⟩
      rw [hunlinking]
      exact owned_of_alone (fun j _ => hnobody hpath j) fun hc => hc.elim
    by_cases hreleasing : sys.callers i = .releasing
    · rw [hreleasing]
      refine owned_of_alone (fun j hj hother => hj ?_) fun hc => hc.elim
      exact h.alone j i hother (by rw [hreleasing]; trivial)
    · have hlinked : sys.callers i = .opening → sys.dir.path.isSome := by
        intro hi
        exact Option.isSome_iff_ne_none.2 fun hpath => hopening ⟨hi, hpath⟩
      obtain ⟨hpath, howns⟩ := LockCaller.next_quiet hunlinking hreleasing hlinked
      exact h.at i hpath howns

theorem owned_quiet (dir : LockDir) : Owned { dir := dir } :=
  ⟨fun _ hi => hi.elim, fun _ _ hi => hi.elim⟩

/-- **As long as nobody who could not read the lock file unlinks one that is there, at most one
process holds the lock.** -/
theorem exclusive_run {dir : LockDir} {ls : List LockLabel}
    (hrun : Run (Guarded (lockStep maxAge) fun sys l => ¬ Usurps sys l) { dir := dir } ls sys) :
    sys.Exclusive := by
  have h : Owned sys :=
    hrun.invariant (fun _ _ _ h hstep => h.step hstep.1 hstep.2) (owned_quiet dir)
  intro i j hi hj
  refine h.alone i j ?_ ?_
  · rw [hi]
    trivial
  · rw [hj]
    trivial

end Owners

/-! ## A lock file that nothing was written to yet -/

def DEFAULT_LOCK_MAX_AGE_SECONDS : Int := 2 * 60 * 60

/-- Process 0 has made the lock file; process 1 finds it empty, unlinks it and makes its own. -/
def emptyLock : List LockLabel :=
  [.acquire 0, .acquire 1, .turn 0 { ino := 1 }, .turn 1 { ino := 2 }, .turn 1 { ino := 2 },
    .turn 1 { ino := 2 }, .turn 1 { ino := 2 }, .turn 1 { ino := 2 }, .turn 1 { ino := 2 },
    .turn 0 { ino := 3 }, .turn 1 { ino := 3 }]

def emptyLockSystem : LockSystem :=
  emptyLock.foldl (LockSystem.after DEFAULT_LOCK_MAX_AGE_SECONDS) {}

/-- A move of process 0 or 1, where it may be made. -/
def LockLabel.Scheduled (sys : LockSystem) : LockLabel → Prop
  | .acquire i => i < 2 ∧ sys.callers i = .idle
  | .turn i d => i < 2 ∧ d.ino ∉ sys.dir.path ∧ sys.callers 0 ≠ .writing d.ino ∧
      sys.callers 1 ≠ .writing d.ino ∧ d.alive = true ∧
      ∀ holder ∈ sys.dir.path.bind sys.dir.text,
        d.now - holder.startedAt < DEFAULT_LOCK_MAX_AGE_SECONDS
  | .release _ => False

instance LockLabel.decidableScheduled (sys : LockSystem) (l : LockLabel) :
    Decidable (l.Scheduled sys) := by
  unfold LockLabel.Scheduled
  cases l <;> infer_instance

/-- The other processes stay idle. -/
theorem LockLabel.Scheduled.step {sys : LockSystem} {l : LockLabel} (h : l.Scheduled sys)
    (hidle : ∀ j, 2 ≤ j → sys.callers j = .idle) :
    (∀ j, 2 ≤ j → (sys.after DEFAULT_LOCK_MAX_AGE_SECONDS l).callers j = .idle) ∧
      lockStep DEFAULT_LOCK_MAX_AGE_SECONDS sys l (sys.after DEFAULT_LOCK_MAX_AGE_SECONDS l) := by
  cases l with
  | acquire i =>
    refine ⟨fun j hj => ?_, Or.inl h.2, rfl⟩
    exact (Function.update_of_ne (by have := h.1; omega) _ _).trans (hidle j hj)
  | turn i d =>
    obtain ⟨hi, hpath, hzero, hone, halive, hyoung⟩ := h
    refine ⟨fun j hj => ?_, ⟨hpath, fun j => ?_, halive, fun _ => hyoung⟩, rfl⟩
    · exact (Function.update_of_ne (by omega) _ _).trans (hidle j hj)
    · match j with
      | 0 => exact hzero
      | 1 => exact hone
      | j + 2 =>
        rw [hidle (j + 2) (by omega)]
        exact fun hwriting => by cases hwriting
  | release => exact h.elim

theorem run_emptyLockSystem :
    Run (lockStep DEFAULT_LOCK_MAX_AGE_SECONDS) {} emptyLock emptyLockSystem :=
  (Run.of_valid (p := LockLabel.Scheduled) (by decide +kernel)).carry
    (I := fun sys => ∀ j, 2 ≤ j → sys.callers j = .idle) (fun _ _ _ hidle h => h.2 ▸ h.1.step hidle)
    fun _ _ => rfl

/-- Both processes hold the lock. -/
theorem not_exclusive_emptyLock :
    Run (lockStep DEFAULT_LOCK_MAX_AGE_SECONDS) {} emptyLock emptyLockSystem ∧
      ¬ emptyLockSystem.Exclusive := by
  refine ⟨run_emptyLockSystem, fun h => ?_⟩
  have hboth : (0 : Nat) = 1 := h 0 1 (by decide +kernel) (by decide +kernel)
  cases hboth

/-- Process 0 takes the lock; process 1 reads who holds it. -/
def takenLock : List LockLabel :=
  [.acquire 0, .turn 0 { ino := 1 }, .turn 0 { ino := 2 }, .acquire 1, .turn 1 { ino := 2 },
    .turn 1 { ino := 2 }, .turn 1 { ino := 2 }]

def takenLockSystem : LockSystem :=
  takenLock.foldl (LockSystem.after DEFAULT_LOCK_MAX_AGE_SECONDS) {}

instance Usurps.decidable (sys : LockSystem) (l : LockLabel) : Decidable (Usurps sys l) := by
  unfold Usurps
  cases l <;> infer_instance

theorem run_takenLockSystem :
    Run (Guarded (lockStep DEFAULT_LOCK_MAX_AGE_SECONDS) fun sys l => ¬ Usurps sys l) {} takenLock
      takenLockSystem :=
  (Run.of_valid (p := fun sys l => l.Scheduled sys ∧ ¬ Usurps sys l) (by decide +kernel)).carry
    (I := fun sys => ∀ j, 2 ≤ j → sys.callers j = .idle)
    (fun _ _ _ hidle h => h.2 ▸ ⟨(h.1.1.step hidle).1, h.1.2, (h.1.1.step hidle).2⟩) fun _ _ => rfl

theorem exclusive_run_taken :
    takenLockSystem.callers 0 = .holding ∧ takenLockSystem.callers 1 = .refused ∧
      takenLockSystem.Exclusive :=
  ⟨by decide +kernel, by decide +kernel, exclusive_run run_takenLockSystem⟩

end NocAgent.Proactive
