import Mathlib.Data.List.Basic

/-!
# What happened before

A history is a list, the newest entry last.

* `Past P` — some entry of the history meets `P`, which also reads the history before the entry.
* `Past.append`, `past_of_last` — it stays so, and it is so of what happens now.
-/

set_option autoImplicit false

namespace History

universe u

variable {α : Type u} {P Q : List α → α → Prop} {trace later : List α} {entry : α}

def Past (P : List α → α → Prop) (trace : List α) : Prop :=
  ∃ before entry after, trace = before ++ entry :: after ∧ P before entry

/-- What happened has happened later too. -/
theorem Past.append (h : Past P trace) (later : List α) : Past P (trace ++ later) := by
  obtain ⟨before, entry, after, rfl, hentry⟩ := h
  exact ⟨before, entry, after ++ later, by simp, hentry⟩

theorem past_of_last (h : P trace entry) : Past P (trace ++ [entry]) :=
  ⟨trace, entry, [], rfl, h⟩

theorem Past.imp (h : Past P trace) (hPQ : ∀ before entry, P before entry → Q before entry) :
    Past Q trace := by
  obtain ⟨before, entry, after, rfl, hentry⟩ := h
  exact ⟨before, entry, after, rfl, hPQ before entry hentry⟩

end History
