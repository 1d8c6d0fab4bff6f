import Mathlib.Data.List.Basic

/-!
# Values that are read, changed elsewhere and written back

A writer reads a value, changes its copy and writes the whole copy back.  The log has every update
that was written, with how many updates its writer had seen.

* `Copy` — a copy that was taken when `seen` updates were written: it is the value as long as no
  other update has been written.
* `Sound` — the value is the start with every update applied in the order of the log, and every
  writer had seen all the updates before its own; `Sound.write`: a writer that has seen them all
  keeps it.
-/

set_option autoImplicit false

universe u v

/-- A value and the updates written to it, each with how many its writer had seen. -/
structure Versioned (ρ : Type u) (ω : Type v) where
  value : ρ
  log : List (ω × Nat)

namespace Versioned

variable {ρ : Type u} {ω : Type v} {V : Versioned ρ ω} {copy : ρ} {seen : Nat}

/-- Write a value back. -/
def write (V : Versioned ρ ω) (value : ρ) (update : ω) (seen : Nat) : Versioned ρ ω where
  value := value
  log := V.log ++ [(update, seen)]

/-- A copy taken when `seen` updates were written. -/
structure Copy (V : Versioned ρ ω) (copy : ρ) (seen : Nat) : Prop where
  le : seen ≤ V.log.length
  eq : seen = V.log.length → copy = V.value

theorem Copy.read (V : Versioned ρ ω) : V.Copy V.value V.log.length := ⟨Nat.le_refl _, fun _ => rfl⟩

/-- A copy is no longer the value once another writer has written. -/
theorem Copy.write (h : V.Copy copy seen) (value : ρ) (update : ω) (other : Nat) :
    (V.write value update other).Copy copy seen := by
  have hlength : (V.write value update other).log.length = V.log.length + 1 := by
    simp [Versioned.write]
  refine ⟨?_, fun heq => ?_⟩
  · have hle := h.le
    omega
  · have hle := h.le
    omega

/-- Nothing was written, or one update was. -/
def Follows (V W : Versioned ρ ω) : Prop :=
  W = V ∨ ∃ value update other, W = V.write value update other

theorem Copy.follows (h : V.Copy copy seen) {W : Versioned ρ ω} (hW : V.Follows W) :
    W.Copy copy seen := by
  rcases hW with rfl | ⟨value, update, other, rfl⟩
  · exact h
  · exact h.write value update other

/-- Every update was applied to the one before it. -/
structure Sound (apply : ρ → ω → ρ) (start : ρ) (V : Versioned ρ ω) : Prop where
  value : V.value = (V.log.map Prod.fst).foldl apply start
  seen : ∀ (i : Nat) (update : ω) (seen : Nat), V.log[i]? = some (update, seen) → seen = i

theorem Sound.start (apply : ρ → ω → ρ) (start : ρ) : Sound apply start ⟨start, []⟩ := by
  refine ⟨rfl, fun i update seen h => ?_⟩
  simp at h

/-- **A writer that has seen every update keeps the log sound.** -/
theorem Sound.write {apply : ρ → ω → ρ} {start : ρ} (hs : V.Sound apply start)
    (hcopy : V.Copy copy seen) (hcurrent : seen = V.log.length) (update : ω) :
    (V.write (apply copy update) update seen).Sound apply start := by
  refine ⟨?_, fun i other n h => ?_⟩
  · change apply copy update = ((V.log ++ [(update, seen)]).map Prod.fst).foldl apply start
    rw [hcopy.eq hcurrent, hs.value, List.map_append, List.foldl_append]
    rfl
  · change (V.log ++ [(update, seen)])[i]? = some (other, n) at h
    rcases Nat.lt_trichotomy i V.log.length with hi | hi | hi
    · rw [List.getElem?_append_left hi] at h
      exact hs.seen i other n h
    · rw [hi, List.getElem?_concat_length] at h
      cases h
      exact hcurrent.trans hi.symm
    · rw [List.getElem?_eq_none (by simp; omega)] at h
      cases h

end Versioned
