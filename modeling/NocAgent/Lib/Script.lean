import NocAgent.Lib.Action
import Mathlib.Logic.Function.Iterate

/-!
# A computation as the calls it makes

`Script σ ε τ α` is a computation on a shared state with its calls kept apart: others may come
between one call and the next.  Each call has a tag of type `τ`.

* `Script.run` — the computation when nobody comes between; `run_bind`.
* `Script.advance` — one call, and what is left; `advances`: calling one after the other does what
  `run` does.
-/

set_option autoImplicit false

namespace Effects

open Effects.Action

inductive Script (σ ε τ α : Type) : Type 1 where
  | done (a : α)
  | stop (e : ε)
  | call {β : Type} (tag : τ) (x : Action σ ε β) (k : β → Script σ ε τ α)

namespace Script

variable {σ ε τ α β γ : Type}

protected def bind : Script σ ε τ α → (α → Script σ ε τ β) → Script σ ε τ β
  | .done a, f => f a
  | .stop e, _ => .stop e
  | .call tag x k, f => .call tag x fun b => (k b).bind f

instance : Monad (Script σ ε τ) where
  pure := .done
  bind := .bind

/-- One call. -/
def ofAction (tag : τ) (x : Action σ ε α) : Script σ ε τ α := .call tag x .done

/-- Stop with an exception when `c` holds. -/
def stopIf (c : Prop) [Decidable c] (e : ε) : Script σ ε τ Unit := if c then .stop e else .done ()

/-- The value under `o`, or an exception. -/
def orStop (o : Option α) (e : ε) : Script σ ε τ α :=
  match o with
  | some a => .done a
  | none => .stop e

/-- A result that is known without a call. -/
def ofExcept : Except ε α → Script σ ε τ α
  | .ok a => .done a
  | .error e => .stop e

theorem bind_bind (p : Script σ ε τ α) (f : α → Script σ ε τ β) (g : β → Script σ ε τ γ) :
    p >>= f >>= g = p >>= fun a => f a >>= g := by
  induction p with
  | done a => rfl
  | stop e => rfl
  | call tag x k ih => exact congrArg (Script.call tag x) (funext ih)

/-! ## Without interruption -/

def run : Script σ ε τ α → Action σ ε α
  | .done a => pure a
  | .stop e => raise e
  | .call _ x k => x >>= fun b => (k b).run

@[simp] theorem run_pure (a : α) : (pure a : Script σ ε τ α).run = pure a := rfl

@[simp] theorem run_ofAction (tag : τ) (x : Action σ ε α) :
    (ofAction tag x : Script σ ε τ α).run = x := by
  funext s
  change (x >>= fun b => (pure b : Action σ ε α)) s = x s
  rcases h : x s with ⟨e | a, t⟩
  · rw [bind_error h]
  · rw [bind_ok h]
    rfl

@[simp] theorem run_stopIf (c : Prop) [Decidable c] (e : ε) :
    (stopIf c e : Script σ ε τ Unit).run = raiseIf c e := by
  unfold stopIf raiseIf
  split <;> rfl

@[simp] theorem run_orStop (o : Option α) (e : ε) :
    (orStop o e : Script σ ε τ α).run = orRaise o e := by
  cases o <;> rfl

@[simp] theorem run_ofExcept (r : Except ε α) :
    (ofExcept r : Script σ ε τ α).run = ofResult r := by
  cases r <;> rfl

@[simp] theorem run_bind (p : Script σ ε τ α) (f : α → Script σ ε τ β) :
    (p >>= f).run = p.run >>= fun a => (f a).run := by
  induction p with
  | done a => rfl
  | stop e => rfl
  | call tag x k ih =>
    funext s
    have hcall : (run (.call tag x k) >>= fun a => (f a).run) s =
        (x >>= fun b => (k b).run >>= fun a => (f a).run) s := bind_bind_run _ _ _ _
    rw [hcall]
    exact congrFun (congrArg (fun g => x >>= g) (funext ih)) s

/-! ## Call by call -/

/-- The next call, and what is left; an exception leaves nothing. -/
def advance (p : Script σ ε τ Unit) (s : σ) : Script σ ε τ Unit × σ :=
  match p with
  | .done _ | .stop _ => (.done (), s)
  | .call _ x k =>
    match x s with
    | (.ok b, t) => (k b, t)
    | (.error _, t) => (.done (), t)

/-- **Calling one after the other does what the computation does.** -/
theorem advances (p : Script σ ε τ Unit) (s : σ) :
    ∃ n, (fun a : Script σ ε τ Unit × σ => a.1.advance a.2)^[n] (p, s) =
      (.done (), (p.run s).2) := by
  induction p generalizing s with
  | done a => exact ⟨0, rfl⟩
  | stop e => exact ⟨1, rfl⟩
  | call tag x k ih =>
    rcases h : x s with ⟨e | b, t⟩
    · refine ⟨1, ?_⟩
      have hrun : run (.call tag x k) s = (.error e, t) := bind_error h
      have hstep : advance (.call tag x k) s = (.done (), t) := by
        unfold advance
        simp only [h]
      rw [hrun]
      exact hstep
    · obtain ⟨n, hn⟩ := ih b t
      refine ⟨n + 1, ?_⟩
      have hrun : run (.call tag x k) s = (k b).run t := bind_ok h
      have hstep : advance (.call tag x k) s = (k b, t) := by
        unfold advance
        simp only [h]
      rw [hrun, ← hn, Function.iterate_succ_apply]
      exact congrArg _ hstep

end Script

end Effects
