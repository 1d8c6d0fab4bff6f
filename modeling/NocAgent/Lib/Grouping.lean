import Mathlib.Data.Set.Insert
import Mathlib.Logic.Function.Basic

/-!
# Groups that list their members, members that name their group

The same relation is kept on both sides: a group has the set of its members, and a member has the
group it belongs to, if any.

* `Agrees` — both sides say the same; `Agrees.unique`: so a member is in one group only.
* `Agrees.attach`, `Agrees.detach` — what keeps the two sides in step: a member is only attached
  when it belongs to no other group, and taken out of a group it leaves on both sides.
-/

set_option autoImplicit false

universe u v

/-- Both sides of the relation. -/
@[ext] structure Grouping (γ : Type u) (κ : Type v) where
  members : γ → Set κ
  owner : κ → Option γ

namespace Grouping

variable {γ : Type u} {κ : Type v} {G : Grouping γ κ} {g h : γ} {c : κ}

/-- **A group lists exactly the members that name it.** -/
def Agrees (G : Grouping γ κ) : Prop := ∀ g c, c ∈ G.members g ↔ G.owner c = some g

/-- Nobody is in two groups. -/
theorem Agrees.unique (hG : G.Agrees) (hg : c ∈ G.members g) (hh : c ∈ G.members h) : g = h :=
  Option.some.inj (((hG g c).1 hg).symm.trans ((hG h c).1 hh))

variable [DecidableEq γ] [DecidableEq κ]

/-- Put a member into a group, on both sides. -/
def attach (G : Grouping γ κ) (g : γ) (c : κ) : Grouping γ κ where
  members := Function.update G.members g (insert c (G.members g))
  owner := Function.update G.owner c (some g)

/-- Take a member out of a group; it keeps its own side when that names another one. -/
def detach (G : Grouping γ κ) (g : γ) (c : κ) : Grouping γ κ where
  members := Function.update G.members g (G.members g \ {c})
  owner := Function.update G.owner c (if G.owner c = some g then none else G.owner c)

theorem mem_attach {d : κ} :
    d ∈ (G.attach g c).members h ↔ (h = g ∧ d = c) ∨ d ∈ G.members h := by
  unfold attach
  by_cases hh : h = g
  · subst hh
    simp
  · simp [hh]

theorem mem_detach {d : κ} :
    d ∈ (G.detach g c).members h ↔ d ∈ G.members h ∧ ¬ (h = g ∧ d = c) := by
  unfold detach
  by_cases hh : h = g
  · subst hh
    simp
  · simp [hh]

/-- **Attaching a member of no other group keeps the sides in step.** -/
theorem Agrees.attach (hG : G.Agrees) (hfree : ∀ h, G.owner c = some h → h = g) :
    (G.attach g c).Agrees := by
  intro h d
  rw [mem_attach]
  change _ ↔ Function.update G.owner c (some g) d = some h
  by_cases hd : d = c
  · subst hd
    rw [Function.update_self, hG h d]
    constructor
    · rintro (⟨rfl, -⟩ | howner)
      · rfl
      · rw [hfree h howner]
    · intro heq
      exact Or.inl ⟨(Option.some.inj heq).symm, rfl⟩
  · rw [Function.update_of_ne hd, hG h d]
    simp [hd]

/-- **Detaching keeps the sides in step.** -/
theorem Agrees.detach (hG : G.Agrees) : (G.detach g c).Agrees := by
  intro h d
  rw [mem_detach, hG h d]
  change _ ↔ Function.update G.owner c _ d = some h
  by_cases hd : d = c
  · subst hd
    rw [Function.update_self]
    by_cases howner : G.owner d = some g
    · rw [if_pos howner, howner]
      simp [eq_comm]
    · rw [if_neg howner]
      constructor
      · exact fun hh => hh.1
      · intro hh
        refine ⟨hh, fun heq => howner ?_⟩
        rw [hh, heq.1]
  · rw [Function.update_of_ne hd]
    simp [hd]

end Grouping
