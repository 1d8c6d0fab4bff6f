import NocAgent.Lib.Action

/-!
# A computation cut into steps

A program counter `κ` says where a computation is and holds its local variables;
`next : κ → Action σ ε κ` is what it does before others get a turn.  An exception sends it to
`halt`.

* `Reaches` — what the steps of one computation reach when nobody comes between them.
* `Performs` — from this counter on, the steps do what an `Action` does.
* `Performs.bind`, `Performs.step`, `Reaches.go`, `Reaches.stop` — the rules to show it.
-/

set_option autoImplicit false

namespace Effects

open Effects.Action

variable {κ σ ε α β : Type}

/-- Where the computation goes on. -/
def goto (halt : κ) : Except ε κ → κ
  | .ok c => c
  | .error _ => halt

/-- A computation that goes on at `f a`, or at `halt`. -/
theorem goto_bind {P : κ → Prop} {halt : κ} {f : α → κ} (hhalt : P halt) (hf : ∀ a, P (f a))
    (x : Action σ ε α) (s : σ) : P (goto halt ((x >>= fun a => Pure.pure (f a)) s).1) := by
  rcases hr : x s with ⟨e | a, t⟩
  · rw [bind_error hr]
    exact hhalt
  · rw [bind_ok hr]
    exact hf a

/-- What the steps from a counter and a state reach. -/
inductive Reaches (next : κ → Action σ ε κ) (halt : κ) : κ → σ → κ → σ → Prop where
  | refl (c : κ) (s : σ) : Reaches next halt c s c s
  | head {c c' : κ} {s u : σ} : Reaches next halt (goto halt (next c s).1) (next c s).2 c' u →
      Reaches next halt c s c' u

section Rules

variable {next : κ → Action σ ε κ} {halt : κ}

theorem Reaches.trans {c c' c'' : κ} {s t u : σ} (h : Reaches next halt c s c' t)
    (h' : Reaches next halt c' t c'' u) : Reaches next halt c s c'' u := by
  induction h with
  | refl => exact h'
  | head _ ih => exact .head (ih h')

/-- A step that returns. -/
theorem Reaches.go {c m c' : κ} {s t u : σ} (h : next c s = (.ok m, t))
    (h' : Reaches next halt m t c' u) : Reaches next halt c s c' u := by
  refine .head ?_
  rw [h]
  exact h'

/-- A step that raises. -/
theorem Reaches.stop {c : κ} {s t : σ} {e : ε} (h : next c s = (.error e, t)) :
    Reaches next halt c s halt t := by
  refine .head ?_
  rw [h]
  exact .refl _ _

/-- From `c` on, the steps do `x` and go on at `k a`, where `a` is its value. -/
def Performs (next : κ → Action σ ε κ) (halt c : κ) (x : Action σ ε α) (k : α → κ) : Prop :=
  ∀ s, Reaches next halt c s (goto halt ((x s).1.map k)) (x s).2

theorem Performs.pure (a : α) (k : α → κ) : Performs next halt (k a) (pure a) k :=
  fun s => .refl _ s

/-- **Doing one part and then the other**, which may rely on what the first part returns. -/
theorem Performs.bind_of {c : κ} {x : Action σ ε α} {f : α → Action σ ε β} {k : α → κ} {k' : β → κ}
    {P : α → Prop} (hx : Performs next halt c x k) (hP : ∀ s a t, x s = (.ok a, t) → P a)
    (hf : ∀ a, P a → Performs next halt (k a) (f a) k') : Performs next halt c (x >>= f) k' := by
  intro s
  have h := hx s
  rcases hr : x s with ⟨e | a, t⟩
  · rw [bind_error hr]
    rwa [hr] at h
  · rw [bind_ok hr]
    rw [hr] at h
    exact h.trans (hf a (hP s a t hr) t)

theorem Performs.bind {c : κ} {x : Action σ ε α} {f : α → Action σ ε β} {k : α → κ} {k' : β → κ}
    (hx : Performs next halt c x k) (hf : ∀ a, Performs next halt (k a) (f a) k') :
    Performs next halt c (x >>= f) k' :=
  hx.bind_of (fun _ _ _ _ => trivial) fun a _ => hf a

/-- A computation that ends where an exception would send it. -/
theorem Performs.halts {c : κ} {x : Action σ ε α} (h : Performs next halt c x fun _ => halt)
    (s : σ) : Reaches next halt c s halt (x s).2 := by
  have hs := h s
  rcases hr : x s with ⟨e | a, t⟩
  all_goals
    rw [hr] at hs
    exact hs

/-- One step does it all. -/
theorem Performs.step {c : κ} {x : Action σ ε α} {k : α → κ}
    (h : ∀ s, next c s = (x >>= fun a => Pure.pure (k a)) s) : Performs next halt c x k := by
  intro s
  have hs := h s
  rcases hr : x s with ⟨e | a, t⟩
  · exact .stop (hs.trans (bind_error hr))
  · exact .go (hs.trans (bind_ok hr)) (.refl _ _)

end Rules

end Effects
