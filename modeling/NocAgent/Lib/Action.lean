import Mathlib.Logic.Basic

/-!
# Computations on a state that may raise

`Action σ ε α` reads and writes a state and ends with a value or an exception.  What it wrote
before it raised stays written.

* `bind_ok`, `bind_error`, `bind_inv` — running a sequence; `forEach_returns` — a loop.
* `bind_returns`, `raiseIf_bind_returns`, `orRaise_bind_returns` — what it takes to return.
* `Fixes f` — a part of the state is left alone, however the computation ends; `Fixes.bind` and
  `Fixes.forEach` carry it through sequences and loops.
* `Keeps I` — an invariant survives, however the computation ends; the same rules.
* `Triple P x Q E` — from `P`, the computation ends with a value and `Q`, or raises with `E`;
  `Triple.bind` and `Triple.rescue`.
-/

set_option autoImplicit false

namespace Effects

variable {σ ε α β τ : Type}

/-- A computation on a state that may raise. -/
def Action (σ ε α : Type) := σ → Except ε α × σ

namespace Action

instance : Monad (Action σ ε) where
  pure a := fun s => (.ok a, s)
  bind x f := fun s =>
    match x s with
    | (.ok a, t) => f a t
    | (.error e, t) => (.error e, t)

/-- Stop with an exception. -/
def raise (e : ε) : Action σ ε α := fun s => (.error e, s)

/-- Stop with an exception when `c` holds. -/
def raiseIf (c : Prop) [Decidable c] (e : ε) : Action σ ε Unit :=
  if c then raise e else pure ()

/-- Read a part of the state. -/
def peek (f : σ → α) : Action σ ε α := fun s => (.ok (f s), s)

/-- Replace the state. -/
def alter (f : σ → σ) : Action σ ε Unit := fun s => (.ok (), f s)

/-- The value under `o`, or an exception. -/
def orRaise (o : Option α) (e : ε) : Action σ ε α :=
  match o with
  | some a => pure a
  | none => raise e

/-- A result that is known without the state. -/
def ofResult (r : Except ε α) : Action σ ε α := fun s => (r, s)

/-- Go on after an exception. -/
def swallow (x : Action σ ε Unit) : Action σ ε Unit := fun s => (.ok (), (x s).2)

/-- `try: x`, with a handler for the exceptions that are caught. -/
def rescue (x : Action σ ε α) (h : ε → Option (Action σ ε α)) : Action σ ε α := fun s =>
  match x s with
  | (.ok a, t) => (.ok a, t)
  | (.error e, t) =>
    match h e with
    | some y => y t
    | none => (.error e, t)

@[simp] theorem pure_run (a : α) (s : σ) : (pure a : Action σ ε α) s = (.ok a, s) := rfl

@[simp] theorem raise_run (e : ε) (s : σ) : (raise e : Action σ ε α) s = (.error e, s) := rfl

@[simp] theorem peek_run (f : σ → α) (s : σ) : (peek f : Action σ ε α) s = (.ok (f s), s) := rfl

@[simp] theorem alter_run (f : σ → σ) (s : σ) : (alter f : Action σ ε Unit) s = (.ok (), f s) :=
  rfl

theorem bind_ok {x : Action σ ε α} {f : α → Action σ ε β} {s t : σ} {a : α}
    (h : x s = (.ok a, t)) : (x >>= f) s = f a t := by
  change (match x s with | (.ok a, t) => f a t | (.error e, t) => (.error e, t)) = _
  rw [h]

theorem bind_error {x : Action σ ε α} {f : α → Action σ ε β} {s t : σ} {e : ε}
    (h : x s = (.error e, t)) : (x >>= f) s = (.error e, t) := by
  change (match x s with | (.ok a, t) => f a t | (.error e, t) => (.error e, t)) = _
  rw [h]

@[simp] theorem pure_bind_run (a : α) (f : α → Action σ ε β) (s : σ) :
    ((pure a : Action σ ε α) >>= f) s = f a s := rfl

@[simp] theorem raise_bind_run (e : ε) (f : α → Action σ ε β) (s : σ) :
    ((raise e : Action σ ε α) >>= f) s = (.error e, s) := rfl

@[simp] theorem peek_bind_run (g : σ → α) (f : α → Action σ ε β) (s : σ) :
    ((peek g : Action σ ε α) >>= f) s = f (g s) s := rfl

@[simp] theorem alter_bind_run (g : σ → σ) (f : Unit → Action σ ε β) (s : σ) :
    ((alter g : Action σ ε Unit) >>= f) s = f () (g s) := rfl

theorem raiseIf_pos {c : Prop} [Decidable c] (h : c) (e : ε) :
    (raiseIf c e : Action σ ε Unit) = raise e := if_pos h

theorem raiseIf_neg {c : Prop} [Decidable c] (h : ¬ c) (e : ε) :
    (raiseIf c e : Action σ ε Unit) = pure () := if_neg h

@[simp] theorem raiseIf_bind_run (c : Prop) [Decidable c] (e : ε) (f : Unit → Action σ ε β)
    (s : σ) : ((raiseIf c e : Action σ ε Unit) >>= f) s = if c then (.error e, s) else f () s := by
  by_cases h : c
  · rw [raiseIf_pos h, raise_bind_run, if_pos h]
  · rw [raiseIf_neg h, pure_bind_run, if_neg h]

@[simp] theorem orRaise_bind_run (o : Option α) (e : ε) (f : α → Action σ ε β) (s : σ) :
    ((orRaise o e : Action σ ε α) >>= f) s =
      match o with
      | some a => f a s
      | none => (.error e, s) := by
  cases o <;> rfl

@[simp] theorem ofResult_bind_run (r : Except ε α) (f : α → Action σ ε β) (s : σ) :
    ((ofResult r : Action σ ε α) >>= f) s =
      match r with
      | .ok a => f a s
      | .error e => (.error e, s) := by
  cases r <;> rfl

@[simp] theorem bind_bind_run (x : Action σ ε α) (f : α → Action σ ε β) (g : β → Action σ ε τ)
    (s : σ) : (x >>= f >>= g) s = (x >>= fun a => f a >>= g) s := by
  rcases h : x s with ⟨e | a, t⟩
  · rw [bind_error (bind_error h), bind_error h]
  · rw [bind_ok h]
    rcases h' : f a t with ⟨e | b, u⟩
    · rw [bind_error h', bind_error ((bind_ok h).trans h')]
    · rw [bind_ok h', bind_ok ((bind_ok h).trans h')]

theorem bind_bind (x : Action σ ε α) (f : α → Action σ ε β) (g : β → Action σ ε τ) :
    x >>= f >>= g = x >>= fun a => f a >>= g :=
  funext fun s => bind_bind_run x f g s

theorem then_pure (x : Action σ ε Unit) : (x >>= fun _ => pure ()) = x := by
  funext s
  rcases h : x s with ⟨e | a, t⟩
  · exact bind_error h
  · exact bind_ok h

theorem pure_then (a : α) (f : α → Action σ ε β) : (pure a : Action σ ε α) >>= f = f a := rfl

/-- A second part that writes nothing. -/
theorem bind_state {f : α → Action σ ε β} (hf : ∀ a t, (f a t).2 = t) (x : Action σ ε α) (s : σ) :
    ((x >>= f) s).2 = (x s).2 := by
  rcases h : x s with ⟨e | a, t⟩
  · rw [bind_error h]
  · rw [bind_ok h]
    exact hf a t

theorem bind_pure_state (x : Action σ ε α) (f : α → β) (s : σ) :
    ((x >>= fun a => pure (f a)) s).2 = (x s).2 :=
  bind_state (fun _ _ => rfl) x s

/-- A sequence stops in its first part or goes on from where that part ended. -/
theorem bind_inv {x : Action σ ε α} {f : α → Action σ ε β} {s : σ} {r : Except ε β × σ}
    (h : (x >>= f) s = r) :
    (∃ e t, x s = (.error e, t) ∧ r = (.error e, t)) ∨ ∃ a t, x s = (.ok a, t) ∧ f a t = r := by
  rcases hx : x s with ⟨e | a, t⟩
  · exact Or.inl ⟨e, t, rfl, h.symm.trans (bind_error hx)⟩
  · exact Or.inr ⟨a, t, rfl, (bind_ok hx).symm.trans h⟩

/-! ## What it takes to return -/

theorem bind_returns {x : Action σ ε α} {f : α → Action σ ε β} {s u : σ} {b : β} :
    (x >>= f) s = (.ok b, u) ↔ ∃ a t, x s = (.ok a, t) ∧ f a t = (.ok b, u) := by
  constructor
  · intro h
    rcases bind_inv h with ⟨e, t, -, hr⟩ | h
    · cases hr
    · exact h
  · rintro ⟨a, t, hx, hf⟩
    rw [bind_ok hx, hf]

theorem pure_returns {s t : σ} {a b : α} :
    (pure a : Action σ ε α) s = (.ok b, t) ↔ b = a ∧ t = s := by
  constructor
  · intro h
    cases h
    exact ⟨rfl, rfl⟩
  · rintro ⟨rfl, rfl⟩
    rfl

theorem raiseIf_bind_returns {c : Prop} [Decidable c] {e : ε} {f : Unit → Action σ ε β} {s u : σ}
    {b : β} : ((raiseIf c e : Action σ ε Unit) >>= f) s = (.ok b, u) ↔
      ¬ c ∧ f () s = (.ok b, u) := by
  rw [raiseIf_bind_run]
  split
  · rename_i h
    exact iff_of_false nofun fun hc => hc.1 h
  · rename_i h
    exact (and_iff_right h).symm

theorem raiseIf_returns {c : Prop} [Decidable c] {e : ε} {s t : σ} {u : Unit} :
    (raiseIf c e : Action σ ε Unit) s = (.ok u, t) ↔ ¬ c ∧ t = s := by
  by_cases h : c
  · rw [raiseIf_pos h]
    exact iff_of_false nofun fun hc => hc.1 h
  · rw [raiseIf_neg h, pure_returns, and_iff_right h]
    exact and_iff_right rfl

theorem orRaise_bind_returns {o : Option α} {e : ε} {f : α → Action σ ε β} {s u : σ} {b : β} :
    ((orRaise o e : Action σ ε α) >>= f) s = (.ok b, u) ↔
      ∃ a, o = some a ∧ f a s = (.ok b, u) := by
  cases o with
  | none =>
    refine iff_of_false nofun ?_
    rintro ⟨a, ⟨⟩, -⟩
  | some a => simp

theorem orRaise_returns {o : Option α} {e : ε} {s t : σ} {a : α} :
    (orRaise o e : Action σ ε α) s = (.ok a, t) ↔ o = some a ∧ t = s := by
  cases o with
  | none =>
    refine iff_of_false nofun ?_
    rintro ⟨⟨⟩, -⟩
  | some b =>
    exact pure_returns.trans (and_congr_left' (eq_comm.trans Option.some_inj.symm))

/-- `for item in items: f(item)`, keeping the results. -/
def forEach (f : α → Action σ ε β) : List α → Action σ ε (List β)
  | [] => pure []
  | x :: xs => do
    let y ← f x
    let ys ← forEach f xs
    pure (y :: ys)

/-- **A loop returns when each of its rounds does**, from where `I` holds. -/
theorem forEach_returns {I : σ → Prop} {f : α → Action σ ε β} : ∀ {xs : List α},
    (∀ x ∈ xs, ∀ s, I s → ∃ y t, f x s = (.ok y, t) ∧ I t) →
      ∀ s, I s → ∃ ys t, forEach f xs s = (.ok ys, t) ∧ I t
  | [], _, s, hs => ⟨[], s, rfl, hs⟩
  | x :: xs, h, s, hs => by
    obtain ⟨y, t, hx, ht⟩ := h x List.mem_cons_self s hs
    obtain ⟨ys, u, hxs, hu⟩ := forEach_returns (fun z hz => h z (List.mem_cons_of_mem x hz)) t ht
    exact ⟨y :: ys, u, (bind_ok hx).trans ((bind_ok hxs).trans rfl), hu⟩

/-! ## What a computation leaves alone -/

/-- The part `f` of the state is the same before and after, however the computation ends. -/
def Fixes (f : σ → τ) (x : Action σ ε α) : Prop := ∀ s, f (x s).2 = f s

section Rules

variable {f : σ → τ}

theorem Fixes.pure (a : α) : Fixes f (pure a : Action σ ε α) := fun _ => rfl

theorem Fixes.raise (e : ε) : Fixes f (raise e : Action σ ε α) := fun _ => rfl

theorem Fixes.peek (g : σ → α) : Fixes f (peek g : Action σ ε α) := fun _ => rfl

theorem Fixes.alter {g : σ → σ} (h : ∀ s, f (g s) = f s) : Fixes f (alter g : Action σ ε Unit) := h

theorem Fixes.raiseIf (c : Prop) [Decidable c] (e : ε) :
    Fixes f (raiseIf c e : Action σ ε Unit) := by
  unfold Action.raiseIf
  split
  · exact Fixes.raise e
  · exact Fixes.pure ()

theorem Fixes.orRaise (o : Option α) (e : ε) : Fixes f (orRaise o e : Action σ ε α) := by
  cases o with
  | none => exact Fixes.raise e
  | some a => exact Fixes.pure a

/-- **A sequence leaves alone what its parts leave alone.** -/
theorem Fixes.bind {x : Action σ ε α} {k : α → Action σ ε β} (hx : Fixes f x)
    (hk : ∀ a, Fixes f (k a)) : Fixes f (x >>= k) := by
  intro s
  have h := hx s
  rcases hr : x s with ⟨e | a, t⟩
  · rw [bind_error hr]; rwa [hr] at h
  · rw [bind_ok hr]; rw [hr] at h
    exact (hk a t).trans h

/-- What comes last leaves the part alone. -/
theorem Fixes.after {k : α → Action σ ε β} (hk : ∀ a, Fixes f (k a)) (x : Action σ ε α) (s : σ) :
    f ((x >>= k) s).2 = f (x s).2 := by
  rcases h : x s with ⟨e | a, t⟩
  · rw [bind_error h]
  · rw [bind_ok h]
    exact hk a t

theorem Fixes.swallow {x : Action σ ε Unit} (hx : Fixes f x) : Fixes f (swallow x) := hx

theorem Fixes.forEach {k : α → Action σ ε β} (hk : ∀ a, Fixes f (k a)) :
    ∀ xs : List α, Fixes f (forEach k xs)
  | [] => Fixes.pure _
  | x :: xs => Fixes.bind (hk x) fun _ => Fixes.bind (Fixes.forEach hk xs) fun _ => Fixes.pure _

end Rules

/-! ## What a computation keeps -/

/-- An invariant that holds before holds after, however the computation ends. -/
def Keeps (I : σ → Prop) (x : Action σ ε α) : Prop := ∀ s, I s → I (x s).2

section Invariants

variable {I : σ → Prop}

theorem Keeps.pure (a : α) : Keeps I (pure a : Action σ ε α) := fun _ hs => hs

theorem Keeps.raise (e : ε) : Keeps I (raise e : Action σ ε α) := fun _ hs => hs

theorem Keeps.peek (g : σ → α) : Keeps I (peek g : Action σ ε α) := fun _ hs => hs

theorem Keeps.alter {g : σ → σ} (h : ∀ s, I s → I (g s)) : Keeps I (alter g : Action σ ε Unit) := h

theorem Keeps.raiseIf (c : Prop) [Decidable c] (e : ε) :
    Keeps I (raiseIf c e : Action σ ε Unit) := by
  unfold Action.raiseIf
  split
  · exact Keeps.raise e
  · exact Keeps.pure ()

theorem Keeps.orRaise (o : Option α) (e : ε) : Keeps I (orRaise o e : Action σ ε α) := by
  cases o with
  | none => exact Keeps.raise e
  | some a => exact Keeps.pure a

/-- **A sequence keeps what its parts keep.** -/
theorem Keeps.bind {x : Action σ ε α} {k : α → Action σ ε β} (hx : Keeps I x)
    (hk : ∀ a, Keeps I (k a)) : Keeps I (x >>= k) := by
  intro s hs
  have h := hx s hs
  rcases hr : x s with ⟨e | a, t⟩
  · rw [bind_error hr]; rwa [hr] at h
  · rw [bind_ok hr]; rw [hr] at h
    exact hk a t h

theorem Keeps.forEach {k : α → Action σ ε β} (hk : ∀ a, Keeps I (k a)) :
    ∀ xs : List α, Keeps I (forEach k xs)
  | [] => Keeps.pure _
  | x :: xs => Keeps.bind (hk x) fun _ => Keeps.bind (Keeps.forEach hk xs) fun _ => Keeps.pure _

/-- What the invariant reads is left alone. -/
theorem Fixes.keeps {f : σ → τ} {x : Action σ ε α} (hx : Fixes f x)
    (h : ∀ s t, f t = f s → I s → I t) : Keeps I x :=
  fun s hs => h s _ (hx s) hs

end Invariants

/-! ## What a computation ends with -/

/-- From `P`, it ends with a value and `Q`, or raises with `E`. -/
def Triple (P : σ → Prop) (x : Action σ ε α) (Q : α → σ → Prop) (E : ε → σ → Prop) : Prop :=
  ∀ s, P s →
    match x s with
    | (.ok a, t) => Q a t
    | (.error e, t) => E e t

section Triples

variable {P : σ → Prop} {Q : α → σ → Prop} {E : ε → σ → Prop}

theorem Triple.pure {a : α} (h : ∀ s, P s → Q a s) : Triple P (pure a : Action σ ε α) Q E := h

theorem Triple.raise {e : ε} (h : ∀ s, P s → E e s) : Triple P (raise e : Action σ ε α) Q E := h

theorem Triple.alter {g : σ → σ} {R : Unit → σ → Prop} (h : ∀ s, P s → R () (g s)) :
    Triple P (alter g : Action σ ε Unit) R E := h

theorem Triple.mono {P' : σ → Prop} {Q' : α → σ → Prop} {x : Action σ ε α} (hx : Triple P x Q E)
    (hP : ∀ s, P' s → P s) (hQ : ∀ a s, Q a s → Q' a s) : Triple P' x Q' E := by
  intro s hs
  have h := hx s (hP s hs)
  rcases hr : x s with ⟨e | a, t⟩
  · rwa [hr] at h
  · rw [hr] at h
    exact hQ a t h

/-- **A sequence.** -/
theorem Triple.bind {x : Action σ ε α} {k : α → Action σ ε β} {R : β → σ → Prop}
    (hx : Triple P x Q E) (hk : ∀ a, Triple (Q a) (k a) R E) : Triple P (x >>= k) R E := by
  intro s hs
  have h := hx s hs
  rcases hr : x s with ⟨e | a, t⟩
  · rw [bind_error hr]
    rwa [hr] at h
  · rw [bind_ok hr]
    rw [hr] at h
    exact hk a t h

/-- Reading a part of the state first. -/
theorem Triple.peek_bind {g : σ → τ} {k : τ → Action σ ε α}
    (h : ∀ a, Triple (fun s => P s ∧ g s = a) (k a) Q E) : Triple P (peek g >>= k) Q E :=
  fun s hs => h (g s) s ⟨hs, rfl⟩

/-- **A handler** takes over from where the exception left. -/
theorem Triple.rescue {x : Action σ ε α} {h : ε → Option (Action σ ε α)} {F : ε → σ → Prop}
    (hx : Triple P x Q F) (hcaught : ∀ e y, h e = some y → Triple (F e) y Q E)
    (hthrough : ∀ e, h e = none → ∀ s, F e s → E e s) : Triple P (rescue x h) Q E := by
  intro s hs
  have hend := hx s hs
  unfold Action.rescue
  rcases hr : x s with ⟨e | a, t⟩
  · rw [hr] at hend
    rcases hh : h e with _ | y
    · simp only [hh]
      exact hthrough e hh t hend
    · simp only [hh]
      exact hcaught e y hh t hend
  · rw [hr] at hend
    exact hend

end Triples

end Action

end Effects
