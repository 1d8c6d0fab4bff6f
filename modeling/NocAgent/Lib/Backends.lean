import NocAgent.Lib.Atomic

/-!
# Two implementations of one interface

A call replies with a value or raises; the two implementations keep their own states, and `R` says
which states have one content.  The second runs its calls in transactions.

* `SameEnd R` — the two both raise or both return one value, in states with one content.
* `SameEnd.returns`, `SameEnd.raises` — a call that was run on both sides.
* `answers`, `stateAfter` — what a list of calls is answered, and where it ends.
* `Fitting` — every call fits the state it meets.
* `answers_eq` — over a whole run, when a call that fits ends the same.
-/

set_option autoImplicit false

namespace Backends

open Effects Effects.Action

section Ends

variable {σ δ ε ε' α : Type} {R : σ → δ → Prop}

def SameEnd (R : σ → δ → Prop) : Except ε α × σ → Except ε' α × δ → Prop
  | (.ok a, s), (.ok b, d) => a = b ∧ R s d
  | (.error _, s), (.error _, d) => R s d
  | _, _ => False

variable {x : Action σ ε α} {y : Action δ ε' α} {s t : σ} {d u : δ}

theorem SameEnd.returns {a : α} (hx : x s = (.ok a, t)) (hy : y d = (.ok a, u)) (hr : R t u) :
    SameEnd R (x s) (transaction y d) := by
  rw [hx, transaction_returns.2 hy]
  exact ⟨rfl, hr⟩

/-- A call that raises before it writes, beside a transaction that does not return. -/
theorem SameEnd.raises {e : ε} (hx : x s = (.error e, s)) (hr : R s d)
    (hy : ∀ a u, y d ≠ (.ok a, u)) : SameEnd R (x s) (transaction y d) := by
  rw [hx]
  unfold transaction
  rcases h : y d with ⟨e' | a, u⟩
  · exact hr
  · exact absurd h (hy a u)

end Ends

section Runs

variable {σ δ ε ε' ι : Type} {Reply : ι → Type}

/-- What the calls are answered; `none` is an exception. -/
def answers (run : (call : ι) → Action σ ε (Reply call)) :
    List ι → σ → List ((call : ι) × Option (Reply call))
  | [], _ => []
  | call :: calls, s => ⟨call, (run call s).1.toOption⟩ :: answers run calls (run call s).2

def stateAfter (run : (call : ι) → Action σ ε (Reply call)) : List ι → σ → σ
  | [], s => s
  | call :: calls, s => stateAfter run calls (run call s).2

/-- Every call fits the state it meets. -/
def Fitting (fits : σ → ι → Prop) (run : (call : ι) → Action σ ε (Reply call)) :
    List ι → σ → Prop
  | [], _ => True
  | call :: calls, s => fits s call ∧ Fitting fits run calls (run call s).2

variable {R : σ → δ → Prop} {fits : σ → ι → Prop} {left : (call : ι) → Action σ ε (Reply call)}
  {right : (call : ι) → Action δ ε' (Reply call)}

/-- **Two implementations that end every fitting call alike answer every run of them alike.** -/
theorem answers_eq
    (hstep : ∀ s d call, R s d → fits s call → SameEnd R (left call s) (right call d)) :
    ∀ (calls : List ι) (s : σ) (d : δ), R s d → Fitting fits left calls s →
      answers left calls s = answers right calls d ∧
        R (stateAfter left calls s) (stateAfter right calls d)
  | [], _, _, hr, _ => ⟨rfl, hr⟩
  | call :: calls, s, d, hr, hfits => by
    have hend := hstep s d call hr hfits.1
    have hrest := answers_eq hstep calls (left call s).2 (right call d).2
    unfold answers stateAfter
    rcases hl : left call s with ⟨e | a, t⟩
    · rcases hd : right call d with ⟨e' | b, u⟩
      · rw [hl, hd] at hend hrest
        obtain ⟨hsame, hafter⟩ := hrest hend (hl ▸ hfits.2)
        exact ⟨congrArg (_ :: ·) hsame, hafter⟩
      · rw [hl, hd] at hend
        exact hend.elim
    · rcases hd : right call d with ⟨e' | b, u⟩
      · rw [hl, hd] at hend
        exact hend.elim
      · rw [hl, hd] at hend hrest
        obtain ⟨rfl, hend⟩ := hend
        obtain ⟨hsame, hafter⟩ := hrest hend (hl ▸ hfits.2)
        exact ⟨congrArg (_ :: ·) hsame, hafter⟩

end Runs

end Backends
