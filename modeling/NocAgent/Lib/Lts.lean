import Mathlib.Data.List.Basic

/-!
# Labelled transition systems

A system is a step relation `σ → ℓ → σ → Prop`.  `Run step s ls t` is a finite run from `s`
to `t` with labels `ls`, oldest first.

* `Run.invariant` — what one step preserves, a run preserves.
* `Run.history` — the same for a property that also reads the labels so far.
* `Run.carry` — a run of one system as a run of another.
* `Guarded` — the system whose steps all meet a condition on the state they start in.
* `Run.guarded_iff_upheld` — its runs are those whose states all have a property.
* `Run.guarded_iff_doing` — its runs are those whose steps all do something.
* `Run.of_valid`, `Run.of_foldlM` — running a system whose steps are computed.
* `Valid.view`, `tally` — a run seen through an abstract step, and counting its steps of a kind.
* `Run.simulate` — a relation kept step by step carries a run of one system to a run of
  another.
-/

set_option autoImplicit false

namespace Lts

universe u v w x

variable {σ : Type u} {ℓ : Type v} {step : σ → ℓ → σ → Prop}

/-- Finite runs; the newest step comes last. -/
inductive Run (step : σ → ℓ → σ → Prop) : σ → List ℓ → σ → Prop where
  | nil (s : σ) : Run step s [] s
  | snoc {s t u : σ} {ls : List ℓ} {l : ℓ} :
      Run step s ls t → step t l u → Run step s (ls ++ [l]) u

/-- **What one step preserves, a run preserves.** -/
theorem Run.invariant {I : σ → Prop} (hstep : ∀ s l t, I s → step s l t → I t)
    {s t : σ} {ls : List ℓ} (h : Run step s ls t) (hs : I s) : I t := by
  induction h with
  | nil => exact hs
  | snoc _ hl ih => exact hstep _ _ _ ih hl

/-- The same for a property of the labels seen so far and the state reached. -/
theorem Run.history {I : List ℓ → σ → Prop}
    (hstep : ∀ ls s l t, I ls s → step s l t → I (ls ++ [l]) t)
    {s t : σ} {ls : List ℓ} (h : Run step s ls t) (hs : I [] s) : I ls t := by
  induction h with
  | nil => exact hs
  | snoc _ hl ih => exact hstep _ _ _ _ ih hl

/-- Under an invariant of its own, a run is a run of every system that has its steps. -/
theorem Run.carry {r : σ → ℓ → σ → Prop} {I : σ → Prop}
    (hstep : ∀ s l t, I s → step s l t → I t ∧ r s l t) {s t : σ} {ls : List ℓ}
    (h : Run step s ls t) (hs : I s) : Run r s ls t := by
  induction h with
  | nil => exact .nil _
  | snoc hrun hl ih =>
    have hi := hrun.invariant (fun s l t hs hl => (hstep s l t hs hl).1) hs
    exact ih.snoc (hstep _ _ _ hi hl).2

theorem Run.append {s t u : σ} {ls ms : List ℓ} (h : Run step s ls t) (h' : Run step t ms u) :
    Run step s (ls ++ ms) u := by
  induction h' with
  | nil => simpa using h
  | snoc _ hl ih => rw [← List.append_assoc]; exact ih.snoc hl

theorem Run.single {s t : σ} {l : ℓ} (h : step s l t) : Run step s [l] t :=
  (Run.nil s).snoc h

theorem Run.cons {s t u : σ} {l : ℓ} {ls : List ℓ} (h : step s l t) (h' : Run step t ls u) :
    Run step s (l :: ls) u :=
  (Run.single h).append h'

/-- **A relation that each step of one system keeps, with steps of another, carries its runs over.** -/
theorem Run.simulate {τ : Type w} {m : Type x} {step' : τ → m → τ → Prop} {R : σ → τ → Prop}
    (hstep : ∀ s l s' t, R s t → step s l s' → ∃ ms t', Run step' t ms t' ∧ R s' t')
    {s s' : σ} {t : τ} {ls : List ℓ} (h : Run step s ls s') (hs : R s t) :
    ∃ ms t', Run step' t ms t' ∧ R s' t' := by
  induction h with
  | nil => exact ⟨[], t, .nil t, hs⟩
  | snoc _ hl ih =>
    obtain ⟨ms, t', hrun, hmid⟩ := ih
    obtain ⟨ns, t'', hrun', hend⟩ := hstep _ _ _ _ hmid hl
    exact ⟨ms ++ ns, t'', hrun.append hrun', hend⟩

/-- The steps that meet `guard` in the state they start in. -/
def Guarded (step : σ → ℓ → σ → Prop) (guard : σ → ℓ → Prop) : σ → ℓ → σ → Prop :=
  fun s l t => guard s l ∧ step s l t

theorem Run.of_guarded {guard : σ → ℓ → Prop} {s t : σ} {ls : List ℓ}
    (h : Run (Guarded step guard) s ls t) : Run step s ls t := by
  induction h with
  | nil => exact .nil _
  | snoc _ hl ih => exact ih.snoc hl.2

/-- A run whose labels meet the guard in every state is guarded. -/
theorem Run.guarded {guard : σ → ℓ → Prop} {s t : σ} {ls : List ℓ} (h : Run step s ls t)
    (hls : ∀ l ∈ ls, ∀ s, guard s l) : Run (Guarded step guard) s ls t := by
  induction h with
  | nil => exact .nil _
  | snoc _ hl ih =>
    refine (ih fun l hm => hls l (List.mem_append_left _ hm)).snoc ⟨?_, hl⟩
    exact hls _ (List.mem_append_right _ (List.mem_singleton_self _)) _

/-- The steps that end in a state with `P`. -/
def Upheld (step : σ → ℓ → σ → Prop) (P : σ → Prop) : σ → ℓ → σ → Prop :=
  fun s l t => step s l t ∧ P t

/-- **When a step upholds `P` exactly if it meets the guard, the runs whose steps all meet the
guard are the runs whose states all have `P`.**  `J` is what every run keeps anyway. -/
theorem Run.guarded_iff_upheld {J P : σ → Prop} {guard : σ → ℓ → Prop}
    (hJ : ∀ s l t, J s → step s l t → J t)
    (hP : ∀ s l t, J s → P s → step s l t → (P t ↔ guard s l))
    {s t : σ} {ls : List ℓ} (hJs : J s) (hPs : P s) :
    Run (Guarded step guard) s ls t ↔ Run (Upheld step P) s ls t := by
  refine ⟨fun h => h.carry (I := fun s => J s ∧ P s) (fun s l t hi hl => ?_) ⟨hJs, hPs⟩,
    fun h => h.carry (I := fun s => J s ∧ P s) (fun s l t hi hl => ?_) ⟨hJs, hPs⟩⟩
  · have hp := (hP s l t hi.1 hi.2 hl.2).2 hl.1
    exact ⟨⟨hJ s l t hi.1 hl.2, hp⟩, hl.2, hp⟩
  · exact ⟨⟨hJ s l t hi.1 hl.1, hl.2⟩, (hP s l t hi.1 hi.2 hl.1).1 hl.2, hl.1⟩

/-- The steps that do `Q`. -/
def Doing (step : σ → ℓ → σ → Prop) (Q : σ → ℓ → σ → Prop) : σ → ℓ → σ → Prop :=
  fun s l t => step s l t ∧ Q s l t

/-- **When a step does `Q` exactly if it meets the guard, the runs whose steps all meet the guard
are the runs whose steps all do `Q`.**  `J` is what every run keeps anyway. -/
theorem Run.guarded_iff_doing_under {J : σ → Prop} {Q : σ → ℓ → σ → Prop} {guard : σ → ℓ → Prop}
    (hJ : ∀ s l t, J s → step s l t → J t)
    (hQ : ∀ s l t, J s → step s l t → (Q s l t ↔ guard s l)) {s t : σ} {ls : List ℓ} (hs : J s) :
    Run (Guarded step guard) s ls t ↔ Run (Doing step Q) s ls t := by
  constructor
  · intro h
    refine h.carry (I := J) (fun s l t hi hl => ?_) hs
    exact ⟨hJ s l t hi hl.2, hl.2, (hQ s l t hi hl.2).2 hl.1⟩
  · intro h
    refine h.carry (I := J) (fun s l t hi hl => ?_) hs
    exact ⟨hJ s l t hi hl.1, (hQ s l t hi hl.1).1 hl.2, hl.1⟩

theorem Run.guarded_iff_doing {Q : σ → ℓ → σ → Prop} {guard : σ → ℓ → Prop}
    (hQ : ∀ s l t, step s l t → (Q s l t ↔ guard s l)) {s t : σ} {ls : List ℓ} :
    Run (Guarded step guard) s ls t ↔ Run (Doing step Q) s ls t :=
  Run.guarded_iff_doing_under (J := fun _ => True) (fun _ _ _ _ _ => trivial)
    (fun s l t _ hl => hQ s l t hl) trivial

/-- Every label is allowed where it is taken. -/
def Valid (ok : σ → ℓ → Prop) (next : σ → ℓ → σ) : σ → List ℓ → Prop
  | _, [] => True
  | s, l :: ls => ok s l ∧ Valid ok next (next s l) ls

instance decidableValid (ok : σ → ℓ → Prop) [∀ s l, Decidable (ok s l)] (next : σ → ℓ → σ) :
    ∀ (s : σ) (ls : List ℓ), Decidable (Valid ok next s ls)
  | _, [] => .isTrue trivial
  | s, l :: ls => @instDecidableAnd _ _ _ (decidableValid ok next (next s l) ls)

/-- What each label is where it is taken. -/
def reading {α : Type w} (f : σ → ℓ → α) (next : σ → ℓ → σ) : σ → List ℓ → List α
  | _, [] => []
  | s, l :: ls => f s l :: reading f next (next s l) ls

/-- **A view that every step moves as an abstract step does is moved by a run as the abstract
steps do.** -/
theorem Valid.view {α : Type w} {β : Type x} {ok : σ → ℓ → Prop} {next : σ → ℓ → σ}
    {I : σ → Prop} {v : σ → β} {f : σ → ℓ → α} {g : β → α → β}
    (hstep : ∀ s l, I s → ok s l → I (next s l) ∧ v (next s l) = g (v s) (f s l)) :
    ∀ {s : σ} {ls : List ℓ}, Valid ok next s ls → I s →
      v (ls.foldl next s) = (reading f next s ls).foldl g (v s)
  | _, [], _, _ => rfl
  | s, l :: ls, h, hs => by
    obtain ⟨hnext, hview⟩ := hstep s l hs h.1
    have hrest := Valid.view hstep h.2 hnext
    rw [hview] at hrest
    exact hrest

/-- How many labels meet `p` where they are taken. -/
def tally (p : σ → ℓ → Prop) [∀ s l, Decidable (p s l)] (next : σ → ℓ → σ) : σ → List ℓ → Nat
  | _, [] => 0
  | s, l :: ls => (if p s l then 1 else 0) + tally p next (next s l) ls

/-- A counter beside the state counts the steps it is moved in. -/
theorem foldl_tally (p : σ → ℓ → Prop) [∀ s l, Decidable (p s l)] (next : σ → ℓ → σ) :
    ∀ (ls : List ℓ) (s : σ) (n : Nat),
      ls.foldl (fun a l => (next a.1 l, a.2 + if p a.1 l then 1 else 0)) (s, n) =
        (ls.foldl next s, n + tally p next s ls)
  | [], _, _ => rfl
  | l :: ls, s, n => by
    rw [List.foldl_cons, foldl_tally p next ls, tally, Nat.add_assoc]
    rfl

/-- Running a system whose steps are computed. -/
theorem Run.of_valid {p : σ → ℓ → Prop} {next : σ → ℓ → σ} :
    ∀ {s : σ} {ls : List ℓ}, Valid p next s ls →
      Run (fun s l t => p s l ∧ t = next s l) s ls (ls.foldl next s)
  | s, [], _ => .nil s
  | _, _ :: _, h => Run.cons ⟨h.1, rfl⟩ (Run.of_valid h.2)

/-- The same where a step that is not allowed has no result. -/
theorem Run.of_foldlM {next : σ → ℓ → Option σ} :
    ∀ {s t : σ} {ls : List ℓ}, ls.foldlM next s = some t →
      Run (fun s l t => next s l = some t) s ls t
  | s, _, [], h => by
    cases h
    exact .nil s
  | s, t, l :: ls, h => by
    obtain ⟨u, hu, hrest⟩ := Option.bind_eq_some_iff.1 h
    exact Run.cons hu (Run.of_foldlM hrest)

end Lts
