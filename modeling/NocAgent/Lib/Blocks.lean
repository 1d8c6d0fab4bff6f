import NocAgent.Lib.Lts
import Mathlib.Logic.Function.Basic
import Mathlib.Logic.Hydra

/-!
# Tasks that touch a shared state inside blocks

* `Code σ d` — what a task has left to do; it is inside `d` nested blocks, and only inside one can
  it touch the state.
* `Inside` — one step of a task inside a block, when nobody comes between.
* `SerialStep` — the system in which a task goes through a whole outermost block at once.
* `Serializes` — how a system of interleaved tasks, at most one of them inside, is the serial system
  with one block under way; `Serializes.enter`, `Serializes.inner`, `Serializes.leave` and
  `Serializes.outer` keep it step by step.
* `wellFounded_update` — tasks that each have finitely many steps left have finitely many together.
-/

set_option autoImplicit false

open Lts Relation

universe u v

/-- What a task has left to do.  Entering a block may fail, and so may a pause. -/
inductive Code (σ : Type u) : Nat → Type u where
  | done : Code σ 0
  | enter {d : Nat} (inside : Code σ (d + 1)) (otherwise : Code σ d) : Code σ d
  | leave {d : Nat} (next : Code σ d) : Code σ (d + 1)
  | access {d : Nat} (write : σ → σ) (next : σ → Code σ (d + 1)) : Code σ (d + 1)
  | pause {d : Nat} (next failed : Code σ d) : Code σ d

/-- How deep a task is inside, and what it has left to do. -/
abbrev Coroutine (σ : Type u) := (d : Nat) × Code σ d

namespace Coroutine

variable {σ : Type u}

/-- One step of a task inside a block. -/
inductive Inside : σ × Coroutine σ → σ × Coroutine σ → Prop where
  | enter {s : σ} {d : Nat} (inside : Code σ (d + 2)) (otherwise : Code σ (d + 1)) :
      Inside (s, ⟨d + 1, .enter inside otherwise⟩) (s, ⟨d + 2, inside⟩)
  | leave {s : σ} {d : Nat} (next : Code σ d) :
      Inside (s, ⟨d + 1, .leave next⟩) (s, ⟨d, next⟩)
  | access {s : σ} {d : Nat} (write : σ → σ) (next : σ → Code σ (d + 1)) :
      Inside (s, ⟨d + 1, .access write next⟩) (write s, ⟨d + 1, next s⟩)
  | resume {s : σ} {d : Nat} (next failed : Code σ (d + 1)) :
      Inside (s, ⟨d + 1, .pause next failed⟩) (s, ⟨d + 1, next⟩)
  | fail {s : σ} {d : Nat} (next failed : Code σ (d + 1)) :
      Inside (s, ⟨d + 1, .pause next failed⟩) (s, ⟨d + 1, failed⟩)

/-- A task outside every block goes on without touching the state: it fails to enter one, or comes
out of a pause. -/
inductive Outside : Coroutine σ → Coroutine σ → Prop where
  | giveUp (inside : Code σ 1) (otherwise : Code σ 0) :
      Outside ⟨0, .enter inside otherwise⟩ ⟨0, otherwise⟩
  | resume (next failed : Code σ 0) : Outside ⟨0, .pause next failed⟩ ⟨0, next⟩
  | fail (next failed : Code σ 0) : Outside ⟨0, .pause next failed⟩ ⟨0, failed⟩

theorem Outside.depth {t t' : Coroutine σ} (h : Outside t t') : t.1 = 0 ∧ t'.1 = 0 := by
  cases h <;> exact ⟨rfl, rfl⟩

/-- What is left after a step. -/
inductive Sooner : Coroutine σ → Coroutine σ → Prop where
  | entered {d : Nat} (inside : Code σ (d + 1)) (otherwise : Code σ d) :
      Sooner ⟨d + 1, inside⟩ ⟨d, .enter inside otherwise⟩
  | gaveUp {d : Nat} (inside : Code σ (d + 1)) (otherwise : Code σ d) :
      Sooner ⟨d, otherwise⟩ ⟨d, .enter inside otherwise⟩
  | left {d : Nat} (next : Code σ d) : Sooner ⟨d, next⟩ ⟨d + 1, .leave next⟩
  | accessed {d : Nat} (write : σ → σ) (next : σ → Code σ (d + 1)) (s : σ) :
      Sooner ⟨d + 1, next s⟩ ⟨d + 1, .access write next⟩
  | resumed {d : Nat} (next failed : Code σ d) : Sooner ⟨d, next⟩ ⟨d, .pause next failed⟩
  | failed {d : Nat} (next failed : Code σ d) : Sooner ⟨d, failed⟩ ⟨d, .pause next failed⟩

theorem Inside.sooner {s s' : σ} {t t' : Coroutine σ} (h : Inside (s, t) (s', t')) :
    Sooner t' t := by
  cases h with
  | enter inside otherwise => exact .entered inside otherwise
  | leave next => exact .left next
  | access write next => exact .accessed write next s
  | resume next failed => exact .resumed next failed
  | fail next failed => exact .failed next failed

theorem Outside.sooner {t t' : Coroutine σ} (h : Outside t t') : Sooner t' t := by
  cases h with
  | giveUp inside otherwise => exact .gaveUp inside otherwise
  | resume next failed => exact .resumed next failed
  | fail next failed => exact .failed next failed

/-- **A task has finitely many steps.** -/
theorem sooner_wellFounded : WellFounded (Sooner (σ := σ)) := by
  refine ⟨fun ⟨d, code⟩ => ?_⟩
  induction code with
  | done => exact ⟨_, nofun⟩
  | enter inside otherwise hinside hotherwise =>
    refine ⟨_, fun t h => ?_⟩
    cases h
    · exact hinside
    · exact hotherwise
  | leave next hnext =>
    refine ⟨_, fun t h => ?_⟩
    cases h
    exact hnext
  | access write next hnext =>
    refine ⟨_, fun t h => ?_⟩
    cases h
    exact hnext _
  | pause next failed hnext hfailed =>
    refine ⟨_, fun t h => ?_⟩
    cases h
    · exact hnext
    · exact hfailed

end Coroutine

/-! ## One block after the other -/

namespace Blocks

open Coroutine

variable {σ : Type u} {τ : Type v}

/-- Tasks over a shared state. -/
structure Serial (σ : Type u) (τ : Type v) where
  state : σ
  task : τ → Coroutine σ

variable [DecidableEq τ]

/-- A task goes through a whole outermost block, or makes a step outside all of them. -/
inductive SerialStep : Serial σ τ → τ → Serial σ τ → Prop where
  | block {a : Serial σ τ} {i : τ} {inside : Code σ 1} {otherwise next : Code σ 0} {s : σ}
      (htask : a.task i = ⟨0, .enter inside otherwise⟩)
      (hinside : ReflTransGen Inside (a.state, ⟨1, inside⟩) (s, ⟨0, next⟩)) :
      SerialStep a i ⟨s, Function.update a.task i ⟨0, next⟩⟩
  | outer {a : Serial σ τ} {i : τ} {t : Coroutine σ} (hout : Outside (a.task i) t) :
      SerialStep a i { a with task := Function.update a.task i t }

/-- **Interleaved tasks, `owner` being inside, are the serial ones with its block under way.** -/
structure Serializes (s : σ) (task : τ → Coroutine σ) (owner : Option τ) (a : Serial σ τ) :
    Prop where
  outside : ∀ i, owner ≠ some i → (task i).1 = 0 ∧ a.task i = task i
  free : owner = none → a.state = s
  under : ∀ i, owner = some i → (task i).1 ≠ 0 ∧ ∃ inside otherwise,
    a.task i = ⟨0, .enter inside otherwise⟩ ∧
      ReflTransGen Inside (a.state, ⟨1, inside⟩) (s, task i)

namespace Serializes

variable {s s' : σ} {task : τ → Coroutine σ} {owner : Option τ} {a : Serial σ τ} {i : τ}

omit [DecidableEq τ] in
theorem new (s : σ) (task : τ → Coroutine σ) (hout : ∀ i, (task i).1 = 0) :
    Serializes s task none ⟨s, task⟩ where
  outside i _ := ⟨hout i, rfl⟩
  free _ := rfl
  under _ h := nomatch h

/-- A task enters an outermost block. -/
theorem enter (h : Serializes s task none a) {inside : Code σ 1} {otherwise : Code σ 0}
    (htask : task i = ⟨0, .enter inside otherwise⟩) :
    Serializes s (Function.update task i ⟨1, inside⟩) (some i) a where
  outside j hj := by
    have hne : j ≠ i := fun heq => hj (heq ▸ rfl)
    rw [Function.update_of_ne hne]
    exact h.outside j nofun
  free h := nomatch h
  under j hj := by
    cases hj
    rw [Function.update_self]
    refine ⟨nofun, inside, otherwise, (h.outside i nofun).2.trans htask, ?_⟩
    rw [h.free rfl]

/-- The task inside goes on and stays inside. -/
theorem inner (h : Serializes s task (some i) a) {t : Coroutine σ}
    (hstep : Inside (s, task i) (s', t)) (hin : t.1 ≠ 0) :
    Serializes s' (Function.update task i t) (some i) a where
  outside j hj := by
    have hne : j ≠ i := fun heq => hj (heq ▸ rfl)
    rw [Function.update_of_ne hne]
    exact h.outside j hj
  free h := nomatch h
  under j hj := by
    cases hj
    rw [Function.update_self]
    obtain ⟨-, inside, otherwise, htask, hrun⟩ := h.under i rfl
    exact ⟨hin, inside, otherwise, htask, hrun.tail hstep⟩

/-- The task inside leaves its outermost block: the serial system goes through it. -/
theorem leave (h : Serializes s task (some i) a) {next : Code σ 0}
    (hstep : Inside (s, task i) (s', ⟨0, next⟩)) :
    ∃ b, SerialStep a i b ∧ Serializes s' (Function.update task i ⟨0, next⟩) none b := by
  obtain ⟨-, inside, otherwise, htask, hrun⟩ := h.under i rfl
  refine ⟨_, .block htask (hrun.tail hstep), fun j _ => ?_, fun _ => rfl, nofun⟩
  by_cases hne : j = i
  · subst hne
    rw [Function.update_self]
    exact ⟨rfl, Function.update_self ..⟩
  · obtain ⟨hdepth, hsame⟩ := h.outside j fun heq => hne (Option.some.inj heq).symm
    rw [Function.update_of_ne hne]
    exact ⟨hdepth, (Function.update_of_ne hne _ _).trans hsame⟩

/-- A task outside goes on. -/
theorem outer (h : Serializes s task owner a) (hi : owner ≠ some i) {t : Coroutine σ}
    (hout : Outside (task i) t) :
    ∃ b, SerialStep a i b ∧ Serializes s (Function.update task i t) owner b := by
  have htask := (h.outside i hi).2
  refine ⟨_, .outer (htask ▸ hout), fun j hj => ?_, h.free, fun j hj => ?_⟩
  · by_cases hne : j = i
    · subst hne
      rw [Function.update_self]
      exact ⟨hout.depth.2, Function.update_self ..⟩
    · obtain ⟨hdepth, hsame⟩ := h.outside j hj
      rw [Function.update_of_ne hne]
      exact ⟨hdepth, (Function.update_of_ne hne _ _).trans hsame⟩
  · have hne : j ≠ i := fun heq => hi (heq ▸ hj)
    obtain ⟨hin, inside, otherwise, htask, hrun⟩ := h.under j hj
    rw [Function.update_of_ne hne]
    exact ⟨hin, inside, otherwise, (Function.update_of_ne hne _ _).trans htask, hrun⟩

end Serializes

/-! ## Finitely many steps -/

/-- **When each of finitely many coordinates can only go down, so can all of them together.** -/
theorem wellFounded_update {α : Type u} [Finite τ] {r : α → α → Prop} (h : WellFounded r) :
    WellFounded fun g f : τ → α => ∃ i x, r x (f i) ∧ g = Function.update f i x := by
  obtain ⟨_⟩ := nonempty_fintype τ
  have hmeasure := InvImage.wf (fun f : τ → α => Finset.univ.val.map f) h.cutExpand
  refine Subrelation.wf ?_ hmeasure
  rintro g f ⟨i, x, hr, rfl⟩
  have hsplit : (Finset.univ : Finset τ).val = i ::ₘ (Finset.univ.erase i).val := by
    rw [Finset.erase_val, Multiset.cons_erase (Finset.mem_univ_val i)]
  have hrest : (Finset.univ.erase i).val.map (Function.update f i x) =
      (Finset.univ.erase i).val.map f := by
    refine Multiset.map_congr rfl fun j hj => ?_
    exact Function.update_of_ne (Finset.ne_of_mem_erase hj) _ _
  change CutExpand r (Finset.univ.val.map _) (Finset.univ.val.map f)
  rw [hsplit, Multiset.map_cons, Multiset.map_cons, Function.update_self, hrest]
  exact cutExpand_single_add hr _

end Blocks
