import Mathlib.Logic.Function.Basic

/-!
# Guards

A guard under a key is held by one process or by none; a process holds at most one guard.

* `Guards.change` — a process goes from one guard, or none, to another, or none.
* `Held` — the guards record who is inside; `Held.change` keeps it as long as a process only takes
  what is free, and `Held.exclusive`: no two processes are inside one guard.
-/

set_option autoImplicit false

universe u v

variable {κ : Type u} {π : Type v}

/-- Who holds the guard under each key. -/
abbrev Guards (κ : Type u) (π : Type v) := κ → Option π

namespace Guards

/-- Process `p` leaves the guard `old` and holds the guard `new`. -/
def change [DecidableEq κ] (guards : Guards κ π) (p : π) (old new : Option κ) :
    Guards κ π := fun k =>
  if new = some k then some p else if old = some k then none else guards k

/-- Process `p` may hold it: nobody else does. -/
def Free (guards : Guards κ π) (p : π) (new : Option κ) : Prop :=
  ∀ k, new = some k → guards k = none ∨ guards k = some p

/-- The guards record exactly who is inside. -/
def Held (guards : Guards κ π) (inside : π → Option κ) : Prop :=
  ∀ p k, guards k = some p ↔ inside p = some k

section Rules

variable {guards : Guards κ π} {inside : π → Option κ}

theorem Held.none : Held (fun _ => none : Guards κ π) fun _ => none := by
  intro p k
  simp

theorem Held.exclusive (h : Held guards inside) {p q : π} {k : κ} (hp : inside p = some k)
    (hq : inside q = some k) : p = q := by
  have hguard := (h p k).2 hp
  rw [(h q k).2 hq] at hguard
  exact (Option.some.inj hguard).symm

/-- **A process that only takes what is free keeps the record.** -/
theorem Held.change [DecidableEq κ] [DecidableEq π] (h : Held guards inside) {p : π}
    {new : Option κ} (hfree : guards.Free p new) :
    Held (guards.change p (inside p) new) (Function.update inside p new) := by
  intro q k
  unfold Guards.change
  by_cases hq : q = p
  · subst hq
    rw [Function.update_self]
    split
    · rename_i hnew
      exact iff_of_true rfl hnew
    · rename_i hnew
      refine iff_of_false ?_ hnew
      split
      · simp
      · rename_i hold
        exact fun hguard => hold ((h q k).1 hguard)
  · rw [Function.update_of_ne hq]
    split
    · rename_i hnew
      refine iff_of_false (fun heq => hq (Option.some.inj heq).symm) fun hinside => ?_
      rcases hfree k hnew with hnone | hmine
      · rw [(h q k).2 hinside] at hnone
        cases hnone
      · rw [(h q k).2 hinside] at hmine
        exact hq (Option.some.inj hmine)
    · split
      · rename_i hold
        exact iff_of_false (by simp) fun hinside => hq (h.exclusive hinside hold)
      · exact h q k

end Rules

end Guards
