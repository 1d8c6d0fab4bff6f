import Mathlib.Data.List.Basic

/-!
# The last of a list

* `latest before` — the item that a scan keeps when a later one replaces an earlier.
* `latest_eq_some_iff` — it is the item that comes before none, when only equal items tie.
* `latest_congr` — so the order of the list does not matter.
-/

set_option autoImplicit false

namespace Latest

universe u

variable {α : Type u}

/-- Keep the later item. -/
def later (before : α → α → Bool) (best : Option α) (item : α) : Option α :=
  match best with
  | none => some item
  | some b => if before b item then some item else some b

/-- The last of the items. -/
def latest (before : α → α → Bool) (items : List α) : Option α := items.foldl (later before) none

/-- A strict order of the items in which only equal ones tie. -/
structure Sorts (before : α → α → Bool) (items : List α) : Prop where
  irrefl : ∀ x, before x x = false
  trans : ∀ x y z, before x y = true → before y z = true → before x z = true
  total : ∀ x ∈ items, ∀ y ∈ items, before x y = false → before y x = false → x = y

variable {before : α → α → Bool}

theorem foldl_later (items : List α) : ∀ b : α, Sorts before (b :: items) → ∃ m,
    items.foldl (later before) (some b) = some m ∧ m ∈ b :: items ∧
      ∀ x ∈ b :: items, before m x = false := by
  induction items with
  | nil =>
    intro b hsorts
    refine ⟨b, rfl, List.mem_singleton_self b, fun x hx => ?_⟩
    rw [List.mem_singleton.1 hx]
    exact hsorts.irrefl b
  | cons item items ih =>
    intro b hsorts
    rw [List.foldl_cons, later]
    cases hbefore : before b item with
    | true =>
      rw [if_pos rfl]
      obtain ⟨m, hm, hmem, hlast⟩ := ih item ⟨hsorts.irrefl, hsorts.trans, fun x hx y hy =>
        hsorts.total x (List.mem_cons_of_mem b hx) y (List.mem_cons_of_mem b hy)⟩
      refine ⟨m, hm, List.mem_cons_of_mem b hmem, List.forall_mem_cons.2 ⟨?_, hlast⟩⟩
      by_contra hmb
      have hitem := hsorts.trans m b item (Bool.of_not_eq_false hmb) hbefore
      exact Bool.false_ne_true ((hlast item List.mem_cons_self).symm.trans hitem)
    | false =>
      rw [if_neg Bool.false_ne_true]
      have hsub : b :: items ⊆ b :: item :: items :=
        List.cons_subset_cons b (List.subset_cons_self item items)
      obtain ⟨m, hm, hmem, hlast⟩ := ih b ⟨hsorts.irrefl, hsorts.trans, fun x hx y hy =>
        hsorts.total x (hsub hx) y (hsub hy)⟩
      refine ⟨m, hm, hsub hmem, fun x hx => ?_⟩
      rcases List.mem_cons.1 hx with rfl | hx
      · exact hlast x List.mem_cons_self
      · rcases List.mem_cons.1 hx with rfl | hx
        · by_contra hmx
          have hmx := Bool.of_not_eq_false hmx
          -- the kept item is not after the one that was kept before
          cases hbm : before b m with
          | true => exact Bool.false_ne_true (hbefore.symm.trans (hsorts.trans b m x hbm hmx))
          | false =>
            have hsame := hsorts.total b List.mem_cons_self m (hsub hmem) hbm
              (hlast b List.mem_cons_self)
            rw [← hsame, hbefore] at hmx
            cases hmx
        · exact hlast x (List.mem_cons_of_mem b hx)

/-- **The last item is the one that comes before none.** -/
theorem latest_eq_some_iff {items : List α} (hsorts : Sorts before items) {m : α} :
    latest before items = some m ↔ m ∈ items ∧ ∀ x ∈ items, before m x = false := by
  cases items with
  | nil => exact iff_of_false nofun fun h => absurd h.1 List.not_mem_nil
  | cons b items =>
    obtain ⟨last, hlast, hmem, hnone⟩ := foldl_later items b hsorts
    have hlatest : latest before (b :: items) = some last := hlast
    rw [hlatest, Option.some_inj]
    constructor
    · rintro rfl
      exact ⟨hmem, hnone⟩
    · rintro ⟨hm, hmnone⟩
      exact hsorts.total last hmem m hm (hnone m hm) (hmnone last hmem)

/-- **The last item does not depend on the order of the list.** -/
theorem latest_congr {items others : List α} (hsorts : Sorts before items)
    (hsame : ∀ x, x ∈ items ↔ x ∈ others) : latest before items = latest before others := by
  have hothers : Sorts before others := ⟨hsorts.irrefl, hsorts.trans, fun x hx y hy =>
    hsorts.total x ((hsame x).2 hx) y ((hsame y).2 hy)⟩
  refine Option.ext fun m => ?_
  rw [latest_eq_some_iff hsorts, latest_eq_some_iff hothers, hsame m]
  exact and_congr_right' (forall_congr' fun x => by rw [hsame x])

end Latest
