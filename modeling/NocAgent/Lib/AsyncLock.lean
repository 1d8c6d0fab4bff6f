import Mathlib.Data.List.Nodup

/-!
# A fair lock for cooperative tasks

`asyncio.Lock`.  A task that finds it taken joins a line and sleeps; whoever releases the lock
wakes the first in line, which takes the lock when it runs.  A waiter can be cancelled before or
after its turn has come; when it runs it leaves the line, and wakes the next one if the lock is
free.

* `Orderly` — only the first in line is ever called, and only when the lock is free; then the first
  in line is not asleep.
* `Orderly.acquire`, `Orderly.release`, `Orderly.proceed`, `Orderly.giveUp`, `Orderly.cancel` —
  every operation keeps it.
* `Orderly.first_of_called` — who is called stands in front of everybody.
* `stage` — how far a task is from the lock; no operation throws another task back.
* `Before` — one task is in line and another one is not in line before it; every operation keeps it
  until the first one gets the lock or is cancelled.
-/

set_option autoImplicit false

universe u

variable {τ : Type u}

/-- What has become of a waiter: nothing yet, its turn has come, it was cancelled after its turn had
come, it was cancelled before. -/
inductive Turn where
  | asleep
  | woken
  | revoked
  | cancelled
  deriving DecidableEq, Repr

/-- Its turn has come. -/
def Turn.Called (turn : Turn) : Prop := turn = .woken ∨ turn = .revoked

/-- `task.cancel()` for a waiting task. -/
def Turn.cancel : Turn → Turn
  | .asleep => .cancelled
  | .woken => .revoked
  | .revoked => .revoked
  | .cancelled => .cancelled

/-- A lock with a queue of waiters. -/
structure AsyncLock (τ : Type u) where
  locked : Bool
  waiters : List (τ × Turn)

namespace AsyncLock

def new : AsyncLock τ := ⟨false, []⟩

/-- `acquire` up to where it suspends: whether the lock is taken. -/
def acquire (l : AsyncLock τ) (i : τ) : Bool × AsyncLock τ :=
  if l.locked = false ∧ ∀ w ∈ l.waiters, w.2 = .cancelled then (true, { l with locked := true })
  else (false, { l with waiters := l.waiters ++ [(i, .asleep)] })

/-- `_wake_up_first`. -/
def wakeUpFirst (l : AsyncLock τ) : AsyncLock τ :=
  match l.waiters with
  | (i, .asleep) :: rest => { l with waiters := (i, .woken) :: rest }
  | _ => l

/-- `release`; a lock that is not taken raises. -/
def release (l : AsyncLock τ) : Option (AsyncLock τ) :=
  if l.locked = true then some (wakeUpFirst { l with locked := false }) else none

variable [DecidableEq τ]

def without (l : AsyncLock τ) (i : τ) : AsyncLock τ :=
  { l with waiters := l.waiters.filter fun w => w.1 ≠ i }

/-- The rest of `acquire` in a task that was woken. -/
def proceed (l : AsyncLock τ) (i : τ) : AsyncLock τ := { l.without i with locked := true }

/-- The rest of `acquire` in a task that was cancelled. -/
def giveUp (l : AsyncLock τ) (i : τ) : AsyncLock τ :=
  if l.locked = true then l.without i else (l.without i).wakeUpFirst

def cancel (l : AsyncLock τ) (i : τ) : AsyncLock τ :=
  { l with waiters := l.waiters.map fun w => if w.1 = i then (i, w.2.cancel) else w }

/-- What has become of `i`, if it waits. -/
def turnOf (l : AsyncLock τ) (i : τ) : Option Turn :=
  (l.waiters.find? fun w => w.1 = i).map Prod.snd

/-! ## Who is in line -/

section Lines

omit [DecidableEq τ] in
theorem wakeUpFirst_cases (l : AsyncLock τ) :
    l.wakeUpFirst = l ∨ ∃ i rest, l.waiters = (i, .asleep) :: rest ∧
      l.wakeUpFirst = { l with waiters := (i, .woken) :: rest } := by
  unfold wakeUpFirst
  split
  · rename_i i rest heq
    exact .inr ⟨i, rest, heq, rfl⟩
  · exact .inl rfl

omit [DecidableEq τ] in
theorem acquire_true {l : AsyncLock τ} {i : τ} (h : (l.acquire i).1 = true) :
    l.locked = false ∧ (∀ w ∈ l.waiters, w.2 = .cancelled) ∧
      (l.acquire i).2 = { l with locked := true } := by
  unfold acquire at h ⊢
  split at h
  · rename_i hquiet
    rw [if_pos hquiet]
    exact ⟨hquiet.1, hquiet.2, rfl⟩
  · cases h

omit [DecidableEq τ] in
theorem acquire_false {l : AsyncLock τ} {i : τ} (h : (l.acquire i).1 = false) :
    (l.acquire i).2 = { l with waiters := l.waiters ++ [(i, .asleep)] } := by
  unfold acquire at h ⊢
  split at h
  · cases h
  · rename_i hbusy
    rw [if_neg hbusy]

omit [DecidableEq τ] in
theorem release_some {l l' : AsyncLock τ} (h : l.release = some l') :
    l' = { l with locked := false }.wakeUpFirst := by
  unfold release at h
  split at h
  · exact (Option.some.inj h).symm
  · cases h

@[simp] theorem locked_without (l : AsyncLock τ) (i : τ) : (l.without i).locked = l.locked := rfl

omit [DecidableEq τ] in
@[simp] theorem locked_wakeUpFirst (l : AsyncLock τ) : l.wakeUpFirst.locked = l.locked := by
  rcases l.wakeUpFirst_cases with h | ⟨i, rest, -, h⟩ <;> rw [h]

omit [DecidableEq τ] in
theorem names_wakeUpFirst (l : AsyncLock τ) :
    l.wakeUpFirst.waiters.map Prod.fst = l.waiters.map Prod.fst := by
  rcases l.wakeUpFirst_cases with h | ⟨i, rest, heq, h⟩
  · rw [h]
  · rw [h, heq]
    rfl

theorem names_cancel (l : AsyncLock τ) (i : τ) :
    (l.cancel i).waiters.map Prod.fst = l.waiters.map Prod.fst := by
  unfold cancel
  rw [List.map_map]
  refine List.map_congr_left fun w _ => ?_
  change (if w.1 = i then (i, w.2.cancel) else w).1 = w.1
  split
  · rename_i h
    exact h.symm
  · rfl

theorem turnOf_eq_none {l : AsyncLock τ} {i : τ} :
    l.turnOf i = none ↔ i ∉ l.waiters.map Prod.fst := by
  unfold turnOf
  rw [Option.map_eq_none_iff, List.find?_eq_none]
  constructor
  · intro h hi
    obtain ⟨w, hw, rfl⟩ := List.mem_map.1 hi
    exact h w hw (decide_eq_true rfl)
  · intro hi w hw heq
    exact hi (of_decide_eq_true heq ▸ List.mem_map_of_mem hw)

theorem turnOf_eq_some {l : AsyncLock τ} (honce : (l.waiters.map Prod.fst).Nodup) {i : τ}
    {turn : Turn} : l.turnOf i = some turn ↔ (i, turn) ∈ l.waiters := by
  have hfound : ∀ {other : Turn}, l.turnOf i = some other → (i, other) ∈ l.waiters := by
    intro other h
    obtain ⟨w, hw, rfl⟩ := Option.map_eq_some_iff.1 h
    have hname : w.1 = i := by simpa using List.find?_some hw
    exact hname ▸ List.mem_of_find?_eq_some hw
  refine ⟨hfound, fun h => ?_⟩
  cases hturn : l.turnOf i with
  | none => exact absurd (List.mem_map_of_mem h) (turnOf_eq_none.1 hturn)
  | some other =>
    have heq := List.inj_on_of_nodup_map honce (hfound hturn) h rfl
    rw [(Prod.mk.inj heq).2]

end Lines

/-! ## The line stays in order -/

/-- A task waits once, only the first in line is ever called, and when the lock is free the first in
line will run. -/
structure Orderly (l : AsyncLock τ) : Prop where
  once : (l.waiters.map Prod.fst).Nodup
  called : ∀ w ∈ l.waiters, w.2.Called → l.locked = false ∧ l.waiters.head? = some w
  awake : l.locked = false → ∀ w, l.waiters.head? = some w → w.2 ≠ .asleep

section Orders

variable {l : AsyncLock τ} {i : τ} {turn : Turn}

omit [DecidableEq τ] in
theorem Orderly.new : Orderly (new : AsyncLock τ) where
  once := List.nodup_nil
  called := nofun
  awake := nofun

omit [DecidableEq τ] in
/-- Who is called stands in front of everybody. -/
theorem Orderly.first_of_called (h : l.Orderly) (hmem : (i, turn) ∈ l.waiters)
    (hcalled : turn.Called) : l.locked = false ∧ ∃ rest, l.waiters = (i, turn) :: rest := by
  obtain ⟨hfree, hhead⟩ := h.called _ hmem hcalled
  exact ⟨hfree, List.head?_eq_some_iff.1 hhead⟩

omit [DecidableEq τ] in
/-- Behind the first in line nobody is called. -/
theorem Orderly.not_called_of_tail (h : l.Orderly) {first : τ × Turn} {rest : List (τ × Turn)}
    (heq : l.waiters = first :: rest) : ∀ w ∈ rest, ¬ w.2.Called := by
  intro w hw hcalled
  have hnodup := h.once
  rw [heq, List.map_cons, List.nodup_cons] at hnodup
  obtain ⟨-, hhead⟩ := h.called w (heq ▸ List.mem_cons_of_mem _ hw) hcalled
  rw [heq, List.head?_cons, Option.some.injEq] at hhead
  exact hnodup.1 (hhead ▸ List.mem_map_of_mem hw)

omit [DecidableEq τ] in
/-- A taken lock has called nobody. -/
theorem Orderly.not_called_of_locked (h : l.Orderly) (hlocked : l.locked = true) :
    ∀ w ∈ l.waiters, ¬ w.2.Called := by
  intro w hw hcalled
  rw [(h.called w hw hcalled).1] at hlocked
  cases hlocked

omit [DecidableEq τ] in
/-- Waking the first in line, when nobody else is called. -/
theorem Orderly.of_wakeUpFirst (honce : (l.waiters.map Prod.fst).Nodup)
    (hcalled : ∀ w ∈ l.waiters, w.2.Called → l.waiters.head? = some w) (hfree : l.locked = false) :
    l.wakeUpFirst.Orderly := by
  refine ⟨l.names_wakeUpFirst ▸ honce, ?_, ?_⟩
  · rcases l.wakeUpFirst_cases with h | ⟨i, rest, heq, h⟩
    · rw [h]
      exact fun w hw hc => ⟨hfree, hcalled w hw hc⟩
    · rw [h]
      refine fun w hw hc => ⟨hfree, ?_⟩
      rcases List.mem_cons.1 hw with rfl | hw
      · rfl
      · -- A second waiter that was called would have stood in front.
        have hhead := hcalled w (heq ▸ List.mem_cons_of_mem _ hw) hc
        rw [heq, List.head?_cons, Option.some.injEq] at hhead
        rw [← hhead] at hc
        rcases hc with hc | hc <;> cases hc
  · intro _ w hw
    unfold wakeUpFirst at hw
    split at hw
    · cases hw
      exact nofun
    · rename_i hnot
      obtain ⟨rest, heq⟩ := List.head?_eq_some_iff.1 hw
      intro hasleep
      exact hnot w.1 rest (heq.trans (by rw [← hasleep]))

omit [DecidableEq τ] in
theorem Orderly.release (h : l.Orderly) {l' : AsyncLock τ} (hl : l.release = some l') :
    l'.Orderly := by
  unfold AsyncLock.release at hl
  split at hl
  · rename_i hlocked
    cases hl
    exact .of_wakeUpFirst h.once
      (fun w hw hc => absurd hc (h.not_called_of_locked hlocked w hw)) rfl
  · cases hl

theorem names_without (l : AsyncLock τ) (i : τ) :
    (l.without i).waiters.map Prod.fst = (l.waiters.map Prod.fst).filter fun j => j ≠ i := by
  rw [List.filter_map]
  rfl

theorem names_giveUp (l : AsyncLock τ) (i : τ) :
    (l.giveUp i).waiters.map Prod.fst = (l.waiters.map Prod.fst).filter fun j => j ≠ i := by
  unfold AsyncLock.giveUp
  split
  · exact names_without l i
  · rw [names_wakeUpFirst, names_without]

theorem locked_giveUp (l : AsyncLock τ) (i : τ) : (l.giveUp i).locked = l.locked := by
  unfold AsyncLock.giveUp
  split
  · rfl
  · rw [locked_wakeUpFirst, locked_without]

theorem Orderly.once_without (h : l.Orderly) (i : τ) :
    ((l.without i).waiters.map Prod.fst).Nodup := by
  rw [names_without]
  exact h.once.filter _

omit [DecidableEq τ] in
/-- The lock is taken while everybody in line is cancelled. -/
theorem Orderly.taken (h : l.Orderly) (hquiet : ∀ w ∈ l.waiters, w.2 = .cancelled) :
    ({ l with locked := true } : AsyncLock τ).Orderly := by
  refine ⟨h.once, fun w hw hcalled => ?_, nofun⟩
  rw [hquiet w hw] at hcalled
  rcases hcalled with hc | hc <;> cases hc

theorem Orderly.acquire (h : l.Orderly) (hout : l.turnOf i = none) : (l.acquire i).2.Orderly := by
  unfold AsyncLock.acquire
  split
  · rename_i hquiet
    exact h.taken hquiet.2
  · rename_i hbusy
    refine ⟨?_, ?_, ?_⟩
    · rw [List.map_append]
      exact List.Nodup.append h.once (List.nodup_singleton i)
        (List.disjoint_singleton.2 (turnOf_eq_none.1 hout))
    · intro w hw hcalled
      rcases List.mem_append.1 hw with hw | hw
      · obtain ⟨hfree, hhead⟩ := h.called w hw hcalled
        exact ⟨hfree, List.head?_append_of_ne_nil _ (List.ne_nil_of_mem hw) ▸ hhead⟩
      · rw [List.mem_singleton.1 hw] at hcalled
        rcases hcalled with hc | hc <;> cases hc
    · intro hfree w hw
      cases heq : l.waiters with
      | nil =>
        -- With nobody in line the lock would have been taken at once.
        exact absurd ⟨hfree, heq ▸ nofun⟩ hbusy
      | cons first rest =>
        rw [heq, List.cons_append, List.head?_cons] at hw
        exact h.awake hfree w (by rw [heq, List.head?_cons, hw])

theorem Orderly.proceed (h : l.Orderly) (hturn : (i, .woken) ∈ l.waiters) :
    (l.proceed i).Orderly := by
  obtain ⟨-, rest, heq⟩ := h.first_of_called hturn (.inl rfl)
  refine ⟨h.once_without i, fun w hw hcalled => ?_, nofun⟩
  obtain ⟨hw, hne⟩ := List.mem_filter.1 hw
  rw [heq] at hw
  rcases List.mem_cons.1 hw with rfl | hw
  · exact absurd rfl (of_decide_eq_true hne)
  · exact absurd hcalled (h.not_called_of_tail heq w hw)

theorem Orderly.giveUp (h : l.Orderly) (i : τ) : (l.giveUp i).Orderly := by
  unfold AsyncLock.giveUp
  split
  · rename_i hlocked
    refine ⟨h.once_without i, fun w hw hcalled => ?_, fun hfree => ?_⟩
    · exact absurd hcalled (h.not_called_of_locked hlocked w (List.mem_of_mem_filter hw))
    · rw [locked_without, hlocked] at hfree
      cases hfree
  · rename_i hfree
    refine .of_wakeUpFirst (h.once_without i) (fun w hw hcalled => ?_) (by simpa using hfree)
    obtain ⟨hmem, hne⟩ := List.mem_filter.1 hw
    obtain ⟨-, hhead⟩ := h.called w hmem hcalled
    obtain ⟨rest, heq⟩ := List.head?_eq_some_iff.1 hhead
    change (l.waiters.filter fun w => w.1 ≠ i).head? = some w
    rw [heq, List.filter_cons_of_pos (by exact hne), List.head?_cons]

theorem Orderly.cancel (h : l.Orderly) (i : τ) : (l.cancel i).Orderly := by
  have hcancel : ∀ turn : Turn, turn.cancel.Called → turn.Called := by
    intro turn hc
    cases turn with
    | asleep => rcases hc with hc | hc <;> cases hc
    | woken => exact .inl rfl
    | revoked => exact .inr rfl
    | cancelled => exact hc
  refine ⟨l.names_cancel i ▸ h.once, fun w hw hcalled => ?_, fun hfree w hw => ?_⟩
  · obtain ⟨v, hv, rfl⟩ := List.mem_map.1 hw
    have hold : v.2.Called := by
      split at hcalled
      · exact hcancel _ hcalled
      · exact hcalled
    obtain ⟨hfree, hhead⟩ := h.called v hv hold
    refine ⟨hfree, ?_⟩
    change (l.waiters.map _).head? = _
    rw [List.head?_map, hhead]
    rfl
  · change (l.waiters.map _).head? = some w at hw
    rw [List.head?_map] at hw
    obtain ⟨v, hv, rfl⟩ := Option.map_eq_some_iff.1 hw
    have hawake := h.awake hfree v hv
    split
    · intro hasleep
      cases hturn : v.2 <;> rw [hturn] at hasleep hawake
      · exact hawake rfl
      all_goals cases hasleep
    · exact hawake

end Orders

/-! ## How far a task is from the lock -/

/-- 2 for a task that is not in line, 1 for one that is, 0 for one that was cancelled there. -/
def stage (l : AsyncLock τ) (i : τ) : Nat :=
  match l.turnOf i with
  | none => 2
  | some .asleep => 1
  | some .woken => 1
  | some .revoked => 0
  | some .cancelled => 0

section Stages

variable {l : AsyncLock τ} {i j : τ}

theorem stage_wakeUpFirst (l : AsyncLock τ) (j : τ) : l.wakeUpFirst.stage j = l.stage j := by
  rcases l.wakeUpFirst_cases with h | ⟨i, rest, heq, h⟩
  · rw [h]
  · rw [h]
    unfold stage turnOf
    rw [heq, List.find?_cons, List.find?_cons]
    by_cases hname : i = j <;> simp [hname]

theorem turnOf_without (hne : j ≠ i) : (l.without i).turnOf j = l.turnOf j := by
  unfold turnOf without
  rw [List.find?_filter]
  congr 2
  funext w
  by_cases hw : w.1 = j
  · rw [hw]
    simp [hne]
  · simp [hw]

theorem turnOf_append (hne : j ≠ i) (turn : Turn) :
    ({ l with waiters := l.waiters ++ [(i, turn)] } : AsyncLock τ).turnOf j = l.turnOf j := by
  unfold turnOf
  rw [List.find?_append, List.find?_cons_of_neg (by simpa using hne.symm), List.find?_nil,
    Option.or_none]

theorem turnOf_append_self (hidle : l.turnOf i = none) (turn : Turn) :
    ({ l with waiters := l.waiters ++ [(i, turn)] } : AsyncLock τ).turnOf i = some turn := by
  unfold turnOf at *
  rw [List.find?_append, Option.map_eq_none_iff.1 hidle, List.find?_cons_of_pos (by simp)]
  rfl

theorem turnOf_cancel (l : AsyncLock τ) (i j : τ) :
    (l.cancel i).turnOf j = if j = i then (l.turnOf j).map Turn.cancel else l.turnOf j := by
  have hnames : ((fun w : τ × Turn => decide (w.1 = j)) ∘
      fun w => if w.1 = i then (i, w.2.cancel) else w) = fun w => decide (w.1 = j) := by
    funext w
    change decide ((if w.1 = i then (i, w.2.cancel) else w).1 = j) = _
    split
    · rename_i h
      rw [h]
    · rfl
  unfold turnOf cancel
  rw [List.find?_map, hnames]
  cases hfound : l.waiters.find? fun w => decide (w.1 = j) with
  | none => simp
  | some w =>
    have hw : w.1 = j := by simpa using List.find?_some hfound
    subst hw
    by_cases hne : w.1 = i <;> simp [hne]

theorem stage_proceed (hne : j ≠ i) : (l.proceed i).stage j = l.stage j := by
  unfold stage
  rw [← turnOf_without (l := l) hne]
  rfl

theorem stage_giveUp (hne : j ≠ i) : (l.giveUp i).stage j = l.stage j := by
  have hwithout : (l.without i).stage j = l.stage j := by
    unfold stage
    rw [turnOf_without hne]
  unfold giveUp
  split
  · exact hwithout
  · rw [stage_wakeUpFirst, hwithout]

theorem stage_append (hne : j ≠ i) (turn : Turn) :
    ({ l with waiters := l.waiters ++ [(i, turn)] } : AsyncLock τ).stage j = l.stage j := by
  unfold stage
  rw [turnOf_append hne]

/-- Joining the line comes nearer to the lock. -/
theorem stage_append_lt (hidle : l.turnOf i = none) :
    ({ l with waiters := l.waiters ++ [(i, .asleep)] } : AsyncLock τ).stage i < l.stage i := by
  unfold stage
  rw [turnOf_append_self hidle, hidle]
  decide

theorem stage_cancel (hne : j ≠ i) : (l.cancel i).stage j = l.stage j := by
  unfold stage
  rw [turnOf_cancel, if_neg hne]

theorem stage_cancel_lt {turn : Turn} (hturn : l.turnOf i = some turn)
    (hlive : turn = .asleep ∨ turn = .woken) : (l.cancel i).stage i < l.stage i := by
  unfold stage
  rw [turnOf_cancel, if_pos rfl, hturn]
  rcases hlive with rfl | rfl <;> decide

end Stages

/-! ## Who comes first -/

omit [DecidableEq τ] in
/-- `i` is in line and not cancelled, and `j` is not in line before it. -/
def Before (l : AsyncLock τ) (i j : τ) : Prop :=
  ∃ front turn back, l.waiters = front ++ (i, turn) :: back ∧
    (turn = .asleep ∨ turn = .woken) ∧ ∀ w ∈ front, w.1 ≠ j

section Befores

variable {l : AsyncLock τ} {i j k : τ} {turn : Turn}

omit [DecidableEq τ] in
theorem Before.not_quiet (h : l.Before i j) : ¬ ∀ w ∈ l.waiters, w.2 = .cancelled := by
  obtain ⟨front, turn, back, heq, hlive, -⟩ := h
  intro hquiet
  have hcancelled : turn = .cancelled :=
    hquiet (i, turn) (heq ▸ List.mem_append_right _ List.mem_cons_self)
  rcases hlive with rfl | rfl <;> cases hcancelled

omit [DecidableEq τ] in
/-- A waiter that is cancelled is another one. -/
theorem Before.ne_of_cancelled (h : l.Before i j) (honce : (l.waiters.map Prod.fst).Nodup)
    (hmem : (k, turn) ∈ l.waiters) (hcancelled : turn = .revoked ∨ turn = .cancelled) : k ≠ i := by
  rintro rfl
  obtain ⟨front, turn', back, heq, hlive, -⟩ := h
  have hmem' : (k, turn') ∈ l.waiters := heq ▸ List.mem_append_right _ List.mem_cons_self
  obtain rfl : turn = turn' := (Prod.mk.inj (List.inj_on_of_nodup_map honce hmem hmem' rfl)).2
  rcases hlive with rfl | rfl <;> rcases hcancelled with hc | hc <;> cases hc

omit [DecidableEq τ] in
/-- The first in line is `i`, or another one than `j`. -/
theorem Before.first (h : l.Before i j) {rest : List (τ × Turn)}
    (heq : l.waiters = (k, turn) :: rest) : k = i ∨ k ≠ j := by
  obtain ⟨front, turn', back, hline, -, hfront⟩ := h
  rw [heq] at hline
  cases front with
  | nil => exact .inl (Prod.mk.inj (List.cons.inj hline).1).1
  | cons first front =>
    have hname := hfront first List.mem_cons_self
    rw [← (List.cons.inj hline).1] at hname
    exact .inr hname

omit [DecidableEq τ] in
theorem Before.wakeUpFirst (h : l.Before i j) : l.wakeUpFirst.Before i j := by
  rcases l.wakeUpFirst_cases with hsame | ⟨k, rest, heq, hwoken⟩
  · rwa [hsame]
  · obtain ⟨front, turn, back, hline, hlive, hfront⟩ := h
    rw [hwoken]
    rw [heq] at hline
    cases front with
    | nil =>
      obtain ⟨hfirst, hrest⟩ := List.cons.inj hline
      obtain ⟨rfl, -⟩ := Prod.mk.inj hfirst
      exact ⟨[], .woken, rest, rfl, .inr rfl, nofun⟩
    | cons first front =>
      obtain ⟨rfl, rfl⟩ := List.cons.inj hline
      refine ⟨(k, .woken) :: front, turn, back, rfl, hlive, fun w hw => ?_⟩
      rcases List.mem_cons.1 hw with rfl | hw
      · exact hfront (k, .asleep) List.mem_cons_self
      · exact hfront w (List.mem_cons_of_mem _ hw)

omit [DecidableEq τ] in
theorem Before.append (h : l.Before i j) (w : τ × Turn) :
    ({ l with waiters := l.waiters ++ [w] } : AsyncLock τ).Before i j := by
  obtain ⟨front, turn, back, heq, hlive, hfront⟩ := h
  refine ⟨front, turn, back ++ [w], ?_, hlive, hfront⟩
  change l.waiters ++ [w] = _
  rw [heq, List.append_assoc, List.cons_append]

theorem Before.without (h : l.Before i j) (hne : k ≠ i) : (l.without k).Before i j := by
  obtain ⟨front, turn, back, heq, hlive, hfront⟩ := h
  refine ⟨front.filter fun w => w.1 ≠ k, turn, back.filter fun w => w.1 ≠ k, ?_, hlive,
    fun w hw => hfront w (List.mem_of_mem_filter hw)⟩
  change l.waiters.filter _ = _
  rw [heq, List.filter_append, List.filter_cons_of_pos (by simpa using hne.symm)]

theorem Before.giveUp (h : l.Before i j) (hne : k ≠ i) : (l.giveUp k).Before i j := by
  unfold AsyncLock.giveUp
  split
  · exact h.without hne
  · exact (h.without hne).wakeUpFirst

theorem Before.cancel (h : l.Before i j) (hne : k ≠ i) : (l.cancel k).Before i j := by
  obtain ⟨front, turn, back, heq, hlive, hfront⟩ := h
  refine ⟨front.map fun w => if w.1 = k then (k, w.2.cancel) else w, turn,
    back.map fun w => if w.1 = k then (k, w.2.cancel) else w, ?_, hlive, fun w hw => ?_⟩
  · change l.waiters.map _ = _
    rw [heq, List.map_append, List.map_cons, if_neg hne.symm]
  · obtain ⟨v, hv, rfl⟩ := List.mem_map.1 hw
    split
    · rename_i hname
      exact hname ▸ hfront v hv
    · exact hfront v hv

end Befores

end AsyncLock
