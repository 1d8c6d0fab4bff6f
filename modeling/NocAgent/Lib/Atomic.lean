import NocAgent.Lib.Action

/-!
# Computations whose failure leaves no trace

* `transaction x` — `x` as a database runs it: an exception takes back what was written.
* `transaction_returns` — it returns as `x` does.
* `AtomicAt x s` — if `x` raises from `s`, it ends in `s`.
* `atomicAt_iff_transaction` — this holds exactly when `x` does from `s` what its transaction does.
* `atomicAt_of_ok`, `atomicAt_error_iff`, `atomicAt_bind_iff`, `not_atomicAt_of_changed` — the
  rules to decide it.
-/

set_option autoImplicit false

namespace Effects.Action

variable {σ ε α β : Type}

/-- Run `x`, and take back what it wrote when it raises. -/
def transaction (x : Action σ ε α) : Action σ ε α := fun s =>
  match x s with
  | (.ok a, t) => (.ok a, t)
  | (.error e, _) => (.error e, s)

theorem transaction_returns {x : Action σ ε α} {s t : σ} {a : α} :
    transaction x s = (.ok a, t) ↔ x s = (.ok a, t) := by
  unfold transaction
  rcases x s with ⟨e | b, u⟩
  · exact iff_of_false nofun nofun
  · exact Iff.rfl

/-- From `s`, an exception leaves everything as it was. -/
def AtomicAt (x : Action σ ε α) (s : σ) : Prop := ∀ e t, x s = (.error e, t) → t = s

section Rules

variable {x : Action σ ε α} {s t : σ}

theorem atomicAt_of_ok {a : α} (h : x s = (.ok a, t)) : AtomicAt x s := by
  intro e u hx
  rw [h] at hx
  cases hx

theorem atomicAt_error_iff {e : ε} (h : x s = (.error e, t)) : AtomicAt x s ↔ t = s := by
  constructor
  · intro hx
    exact hx e t h
  · rintro rfl e' u hx
    rw [h] at hx
    cases hx
    rfl

/-- A first part that only looks. -/
theorem atomicAt_bind_iff {f : α → Action σ ε β} {a : α} (h : x s = (.ok a, s)) :
    AtomicAt (x >>= f) s ↔ AtomicAt (f a) s := by
  unfold AtomicAt
  rw [bind_ok h]

/-- **A computation leaves no trace of a failure exactly when it does what its transaction
does.** -/
theorem atomicAt_iff_transaction : AtomicAt x s ↔ x s = transaction x s := by
  unfold transaction
  rcases hx : x s with ⟨e | a, t⟩
  · rw [atomicAt_error_iff hx]
    constructor
    · rintro rfl
      rfl
    · intro h
      exact congrArg Prod.snd h
  · exact iff_of_true (atomicAt_of_ok hx) rfl

/-- It raises and a part of the state is another one. -/
theorem not_atomicAt_of_changed {τ : Type} (f : σ → τ) (hraises : (x s).1.isOk = false)
    (hchanged : f (x s).2 ≠ f s) : ¬ AtomicAt x s := by
  intro h
  rcases hx : x s with ⟨e | a, t⟩
  · rw [hx, h e t hx] at hchanged
    exact hchanged rfl
  · rw [hx] at hraises
    cases hraises

end Rules

end Effects.Action
