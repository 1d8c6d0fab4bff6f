import Mathlib.Data.List.Nodup
import Mathlib.Logic.Function.Basic

/-!
# Keyed tables and indexes

Two finite maps over arbitrary types.

* `Table key` — rows in insertion order, each stored under its own key, at most one row per
  key.  The key discipline is a field, so a table whose row sits under a foreign key cannot
  be built.  Replacing a row keeps its position, a new row goes to the end.
* `Index` — a map that is only read and written by key, never listed.

Principal results: `Table.get?_put` and `Table.mem_rows_iff` (reading a table by key and
reading it as a list say the same), `Table.get?_erase`, `Table.get?_filter`, `Index.set_apply`,
`Index.pop_apply`.
-/

set_option autoImplicit false

namespace Keyed

universe u v

variable {κ : Type u} {ρ : Type v}

/-- Rows in insertion order, at most one for each key. -/
structure Table (key : ρ → κ) where
  rows : List ρ
  nodup : (rows.map key).Nodup

variable [DecidableEq κ] {key : ρ → κ}

/-- Replace the row with the key of `r`, or append `r`. -/
def putRow (key : ρ → κ) : List ρ → ρ → List ρ
  | [], r => [r]
  | x :: xs, r => if key x = key r then r :: xs else x :: putRow key xs r

theorem map_key_putRow (r : ρ) : ∀ xs : List ρ,
    (putRow key xs r).map key =
      if key r ∈ xs.map key then xs.map key else xs.map key ++ [key r]
  | [] => by simp [putRow]
  | x :: xs => by
    unfold putRow
    by_cases h : key x = key r
    · simp [h]
    · have h' : ¬ key r = key x := fun e => h e.symm
      simp only [h, if_false, List.map_cons, map_key_putRow r xs, List.mem_cons, h', false_or]
      split <;> simp

theorem mem_putRow {r y : ρ} : ∀ {xs : List ρ}, (xs.map key).Nodup →
    (y ∈ putRow key xs r ↔ y = r ∨ y ∈ xs ∧ key y ≠ key r)
  | [], _ => by simp [putRow]
  | x :: xs, hn => by
    rw [List.map_cons, List.nodup_cons] at hn
    unfold putRow
    by_cases h : key x = key r
    · simp only [h, if_true, List.mem_cons]
      constructor
      · rintro (rfl | hy)
        · exact Or.inl rfl
        · refine Or.inr ⟨Or.inr hy, fun e => hn.1 ?_⟩
          rw [h, ← e]; exact List.mem_map_of_mem hy
      · rintro (rfl | ⟨rfl | hy, hne⟩)
        · exact Or.inl rfl
        · exact absurd h hne
        · exact Or.inr hy
    · simp only [h, if_false, List.mem_cons, mem_putRow hn.2]
      constructor
      · rintro (rfl | rfl | hy)
        · exact Or.inr ⟨Or.inl rfl, h⟩
        · exact Or.inl rfl
        · exact Or.inr ⟨Or.inr hy.1, hy.2⟩
      · rintro (rfl | ⟨rfl | hy, hne⟩)
        · exact Or.inr (Or.inl rfl)
        · exact Or.inl rfl
        · exact Or.inr (Or.inr ⟨hy, hne⟩)

theorem putRow_new {r : ρ} : ∀ {xs : List ρ}, (∀ x ∈ xs, key x ≠ key r) →
    putRow key xs r = xs ++ [r]
  | [], _ => rfl
  | x :: xs, h => by
    unfold putRow
    rw [if_neg (h x List.mem_cons_self), putRow_new fun y hy => h y (List.mem_cons_of_mem x hy)]
    rfl

namespace Table

/-- The empty table. -/
def empty : Table key := ⟨[], List.nodup_nil⟩

/-- The row stored under `k`. -/
def get? (t : Table key) (k : κ) : Option ρ := t.rows.find? (fun r => key r = k)

/-- Store `r` under its own key. -/
def put (t : Table key) (r : ρ) : Table key where
  rows := putRow key t.rows r
  nodup := by
    rw [map_key_putRow]
    split
    · exact t.nodup
    · rename_i h
      rw [List.nodup_append]
      refine ⟨t.nodup, by simp, ?_⟩
      rintro a ha b hb rfl
      simp only [List.mem_singleton] at hb
      exact h (hb ▸ ha)

theorem key_of_get? {t : Table key} {k : κ} {r : ρ} (h : t.get? k = some r) : key r = k := by
  simpa using List.find?_some h

theorem mem_of_get? {t : Table key} {k : κ} {r : ρ} (h : t.get? k = some r) : r ∈ t.rows :=
  List.mem_of_find?_eq_some h

theorem get?_key {t : Table key} {k : κ} {r : ρ} (h : t.get? k = some r) :
    t.get? (key r) = some r := by
  rw [key_of_get? h]; exact h

/-- **Listing a table and reading it by key agree.** -/
theorem mem_rows_iff {t : Table key} {r : ρ} : r ∈ t.rows ↔ t.get? (key r) = some r := by
  refine ⟨fun h => ?_, mem_of_get?⟩
  cases hf : t.get? (key r) with
  | none =>
    have := List.find?_eq_none.1 hf r h
    simp at this
  | some y =>
    have hk : key y = key r := key_of_get? hf
    exact congrArg some (List.inj_on_of_nodup_map t.nodup (mem_of_get? hf) h hk)

theorem get?_eq_none_iff {t : Table key} {k : κ} :
    t.get? k = none ↔ ∀ r ∈ t.rows, key r ≠ k := by
  simp [get?]

/-- A row under a new key goes to the end. -/
theorem rows_put_new {t : Table key} {r : ρ} (h : t.get? (key r) = none) :
    (t.put r).rows = t.rows ++ [r] :=
  putRow_new (get?_eq_none_iff.1 h)

@[simp] theorem get?_empty (k : κ) : (empty : Table key).get? k = none := rfl

omit [DecidableEq κ] in
@[simp] theorem rows_empty : (empty : Table key).rows = [] := rfl

theorem mem_put {t : Table key} {r y : ρ} :
    y ∈ (t.put r).rows ↔ y = r ∨ y ∈ t.rows ∧ key y ≠ key r :=
  mem_putRow t.nodup

/-- **A write is seen under its own key and nowhere else.** -/
theorem get?_put (t : Table key) (r : ρ) (k : κ) :
    (t.put r).get? k = if key r = k then some r else t.get? k := by
  by_cases h : key r = k
  · rw [if_pos h, ← h]
    exact mem_rows_iff.1 (mem_put.2 (Or.inl rfl))
  · rw [if_neg h]
    cases hg : t.get? k with
    | none =>
      rw [get?_eq_none_iff] at hg ⊢
      intro y hy
      rcases mem_put.1 hy with rfl | hy
      · exact h
      · exact hg y hy.1
    | some y =>
      have hk := key_of_get? hg
      have hm : y ∈ (t.put r).rows :=
        mem_put.2 (Or.inr ⟨mem_of_get? hg, fun e => h (e.symm.trans hk)⟩)
      rw [← hk]; exact mem_rows_iff.1 hm

@[simp] theorem get?_put_self (t : Table key) (r : ρ) : (t.put r).get? (key r) = some r := by
  rw [get?_put, if_pos rfl]

theorem get?_put_of_ne (t : Table key) {r : ρ} {k : κ} (h : key r ≠ k) :
    (t.put r).get? k = t.get? k := by
  rw [get?_put, if_neg h]

/-- **Writing a row that is there changes nothing.** -/
theorem put_self {t : Table key} {r : ρ} (h : r ∈ t.rows) : t.put r = t := by
  have hrows : ∀ xs : List ρ, (xs.map key).Nodup → r ∈ xs → putRow key xs r = xs := by
    intro xs
    induction xs with
    | nil => exact fun _ hr => absurd hr List.not_mem_nil
    | cons x xs ih =>
      intro hn hr
      rw [List.map_cons, List.nodup_cons] at hn
      rw [putRow]
      rcases List.mem_cons.1 hr with rfl | hr
      · rw [if_pos rfl]
      · have hne : key x ≠ key r := fun e => hn.1 (e ▸ List.mem_map_of_mem hr)
        rw [if_neg hne, ih hn.2 hr]
  obtain ⟨rows, hn⟩ := t
  unfold put
  congr
  exact hrows rows hn h

/-- Drop the row of `k`, if there is one. -/
def erase (t : Table key) (k : κ) : Table key where
  rows := t.rows.filter fun r => key r ≠ k
  nodup := t.nodup.sublist (List.filter_sublist.map key)

theorem mem_erase {t : Table key} {k : κ} {r : ρ} :
    r ∈ (t.erase k).rows ↔ r ∈ t.rows ∧ key r ≠ k := by
  simp [erase]

/-- **Dropping a row is seen under its key and nowhere else.** -/
theorem get?_erase (t : Table key) (k k' : κ) :
    (t.erase k).get? k' = if k = k' then none else t.get? k' := by
  have hread : ∀ r, (t.erase k).get? k' = some r ↔ t.get? k' = some r ∧ k' ≠ k := by
    intro r
    constructor
    · intro h
      have hkey := key_of_get? h
      obtain ⟨hmem, hne⟩ := mem_erase.1 (mem_of_get? h)
      rw [hkey] at hne
      rw [← hkey] at h ⊢
      exact ⟨mem_rows_iff.1 hmem, hkey ▸ hne⟩
    · rintro ⟨h, hne⟩
      have hkey := key_of_get? h
      rw [← hkey] at hne ⊢
      exact mem_rows_iff.1 (mem_erase.2 ⟨mem_of_get? h, hne⟩)
  refine Option.ext fun r => ?_
  rw [hread r]
  by_cases hk : k = k'
  · simp [hk]
  · have hk' : k' ≠ k := fun heq => hk heq.symm
    simp [hk, hk']

/-- The rows that `p` holds of. -/
def filter (t : Table key) (p : ρ → Bool) : Table key where
  rows := t.rows.filter p
  nodup := t.nodup.sublist (List.filter_sublist.map key)

/-- **A filtered table shows the row of a key if `p` holds of it.** -/
theorem get?_filter (t : Table key) (p : ρ → Bool) (k : κ) :
    (t.filter p).get? k = (t.get? k).filter p := by
  refine Option.ext fun r => ?_
  have hread : (t.filter p).get? k = some r ↔ t.get? k = some r ∧ p r = true := by
    constructor
    · intro h
      obtain ⟨hmem, hp⟩ := List.mem_filter.1 (mem_of_get? h)
      rw [← key_of_get? h]
      exact ⟨mem_rows_iff.1 hmem, hp⟩
    · rintro ⟨h, hp⟩
      rw [← key_of_get? h]
      exact mem_rows_iff.1 (List.mem_filter.2 ⟨mem_of_get? h, hp⟩)
  rw [hread, Option.filter_eq_some_iff]

end Table

/-- A map that is read and written by key only. -/
abbrev Index (κ : Type u) (ν : Type v) := κ → Option ν

namespace Index

variable {ν : Type v}

/-- The index with no entry. -/
def empty : Index κ ν := fun _ => none

/-- Point `k` at `v`. -/
def set (ix : Index κ ν) (k : κ) (v : ν) : Index κ ν := Function.update ix k (some v)

/-- Drop the entry of `k`, if there is one. -/
def pop (ix : Index κ ν) (k : κ) : Index κ ν := Function.update ix k none

theorem set_apply (ix : Index κ ν) (k k' : κ) (v : ν) :
    ix.set k v k' = if k' = k then some v else ix k' := by
  simp [set, Function.update_apply]

theorem pop_apply (ix : Index κ ν) (k k' : κ) :
    ix.pop k k' = if k' = k then none else ix k' := by
  simp [pop, Function.update_apply]

@[simp] theorem set_self (ix : Index κ ν) (k : κ) (v : ν) : ix.set k v k = some v := by
  simp [set_apply]

@[simp] theorem pop_self (ix : Index κ ν) (k : κ) : ix.pop k k = none := by
  simp [pop_apply]

end Index

end Keyed
