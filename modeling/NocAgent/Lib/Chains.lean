import Mathlib.Logic.Function.Basic

/-!
# Chains of pointers

`next : κ → Option κ` points an element at another one, or at none.

* `Ends next x r` — following the pointers from `x` stops at `r`.
* `Ends.unique` — there is at most one such end.
* `total_update_iff` — pointing an end elsewhere keeps every chain finite exactly when the
  chain of its new target does not end in it.
-/

set_option autoImplicit false

namespace Chains

universe u

variable {κ : Type u} {next : κ → Option κ}

/-- Following the pointers from `x` stops at `r`. -/
inductive Ends (next : κ → Option κ) : κ → κ → Prop where
  | here {x : κ} (h : next x = none) : Ends next x x
  | step {x y r : κ} (h : next x = some y) (hrest : Ends next y r) : Ends next x r

theorem Ends.eq_of_end {x r : κ} (h : Ends next x r) (hx : next x = none) : r = x := by
  cases h with
  | here => rfl
  | step h => cases hx.symm.trans h

theorem Ends.isEnd {x r : κ} (h : Ends next x r) : next r = none := by
  induction h with
  | here h => exact h
  | step _ _ ih => exact ih

theorem Ends.tail {x y r : κ} (h : Ends next x r) (hx : next x = some y) : Ends next y r := by
  cases h with
  | here h => cases h.symm.trans hx
  | step h hrest =>
    cases hx.symm.trans h
    exact hrest

/-- A chain has one end. -/
theorem Ends.unique {x r r' : κ} (h : Ends next x r) (h' : Ends next x r') : r = r' := by
  induction h with
  | here h => exact (h'.eq_of_end h).symm
  | step h _ ih => exact ih (h'.tail h)

/-- A chain that stays among elements that point at one another never stops. -/
theorem not_ends_of_closed {S : κ → Prop} (hS : ∀ x, S x → ∃ y, next x = some y ∧ S y) {x r : κ}
    (hx : S x) : ¬ Ends next x r := by
  intro h
  induction h with
  | @here x hend =>
    obtain ⟨y, hy, -⟩ := hS x hx
    cases hend.symm.trans hy
  | @step x y r hnext _ ih =>
    obtain ⟨z, hz, hzS⟩ := hS x hx
    cases hnext.symm.trans hz
    exact ih hzS

/-- Every chain stops. -/
def Total (next : κ → Option κ) : Prop := ∀ x, ∃ r, Ends next x r

variable [DecidableEq κ] {c p : κ}

/-- A chain that does not end in `c` does not see where an end `c` points now. -/
theorem Ends.update (hc : next c = none) {x r : κ} (h : Ends next x r) (hr : r ≠ c) :
    Ends (Function.update next c (some p)) x r := by
  induction h with
  | @here x hx =>
    refine .here ?_
    rw [Function.update_of_ne hr]
    exact hx
  | @step x y r hx _ ih =>
    have hxc : x ≠ c := by
      rintro rfl
      cases hc.symm.trans hx
    refine .step (y := y) ?_ (ih hr)
    rw [Function.update_of_ne hxc]
    exact hx

/-- When the new target leads back to `c`, no chain that led to `c` stops. -/
theorem not_ends_of_cycle (hcycle : Ends next p c) {x r : κ}
    (hx : Ends next x c) : ¬ Ends (Function.update next c (some p)) x r := by
  refine not_ends_of_closed (S := fun x => Ends next x c) (fun x hx => ?_) hx
  by_cases hxc : x = c
  · subst hxc
    exact ⟨p, Function.update_self .., hcycle⟩
  · rw [Function.update_of_ne hxc]
    cases hx with
    | here => exact absurd rfl hxc
    | step h hrest => exact ⟨_, h, hrest⟩

/-- **Pointing an end elsewhere keeps every chain finite exactly when the chain of its new target
does not end in it.** -/
theorem total_update_iff (h : Total next) (hc : next c = none) :
    Total (Function.update next c (some p)) ↔ ¬ Ends next p c := by
  constructor
  · intro htotal hcycle
    obtain ⟨r, hr⟩ := htotal p
    exact not_ends_of_cycle hcycle hcycle hr
  · intro hcycle x
    obtain ⟨q, hq⟩ := h p
    have hqc : q ≠ c := by
      rintro rfl
      exact hcycle hq
    obtain ⟨r, hr⟩ := h x
    induction hr with
    | @here x hx =>
      by_cases hxc : x = c
      · subst hxc
        exact ⟨q, .step (Function.update_self ..) (hq.update hc hqc)⟩
      · exact ⟨x, (Ends.here hx).update hc hxc⟩
    | @step x y r hx _ ih =>
      obtain ⟨r', hr'⟩ := ih
      have hxc : x ≠ c := by
        rintro rfl
        cases hc.symm.trans hx
      refine ⟨r', .step (y := y) ?_ hr'⟩
      rw [Function.update_of_ne hxc]
      exact hx

end Chains
